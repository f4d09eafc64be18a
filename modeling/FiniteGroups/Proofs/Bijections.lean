import FiniteGroups.Perm.Basic
import Mathlib.Algebra.Group.End
import Mathlib.Data.Fintype.EquivFin
import Mathlib.Order.Interval.Finset.Nat

/-!
# Permutations as bijections

A list of images is the same thing as a bijection of the points `1, …, n`. `Perm.Moves` says that a
permutation moves the points as a bijection does. Every permutation moves them as exactly one
bijection (`Perm.exists_moves`, `Perm.Moves.unique`), every bijection is that of one permutation
(`Perm.exists_of_equiv`, `Perm.Moves.ext`), and products and inverses of permutations are those of
the bijections.
-/

namespace FiniteGroups

/-- The points `1, …, n`. -/
abbrev Point (n : Nat) : Type :=
  {i : Nat // i ∈ Finset.Icc 1 n}

/-- The points in increasing order. -/
def pointList (n : Nat) : List (Point n) :=
  (List.range' 1 n).attachWith _ fun _ hi => by
    rw [List.mem_range'_1] at hi
    rw [Finset.mem_Icc]
    omega

theorem map_val_pointList (n : Nat) : (pointList n).map Subtype.val = List.range' 1 n :=
  List.attachWith_map_subtype_val ..

theorem length_pointList (n : Nat) : (pointList n).length = n := by
  rw [← List.length_map Subtype.val, map_val_pointList, List.length_range']

theorem getElem_pointList {n k : Nat} (hk : k < (pointList n).length) :
    (pointList n)[k].1 = k + 1 := by
  simp only [pointList, List.getElem_attachWith, List.getElem_range']
  omega

theorem mem_pointList {n : Nat} (i : Point n) : i ∈ pointList n := by
  have hi := Finset.mem_Icc.1 i.2
  rw [pointList, List.mem_attachWith, List.mem_range'_1]
  omega

theorem nodup_pointList (n : Nat) : (pointList n).Nodup := by
  refine List.Nodup.of_map Subtype.val ?_
  rw [map_val_pointList]
  exact List.nodup_range'

namespace Perm

variable {n : Nat} {p q : Perm} {σ τ : Equiv.Perm (Point n)}

/-- The permutation sends each point to where the bijection does. -/
def Moves (p : Perm) (σ : Equiv.Perm (Point n)) : Prop :=
  p.degree = n ∧ ∀ i, p.image i.1 = (σ i).1

theorem mem_points_of_degree (h : p.degree = n) {i : Nat} :
    i ∈ p.points ↔ i ∈ Finset.Icc 1 n := by
  rw [mem_points, Finset.mem_Icc, h]

/-- Permutations of the same points that have the same images are equal. -/
theorem ext_image (hp : p.degree = n) (hq : q.degree = n)
    (h : ∀ i : Point n, p.image i.1 = q.image i.1) : p = q := by
  have hsize : p.images.size = q.images.size := hp.trans hq.symm
  refine Perm.ext (Array.ext hsize fun i hi hi' => ?_)
  have hmem : i + 1 ∈ Finset.Icc 1 n := by
    rw [Finset.mem_Icc, ← hp]
    exact ⟨by omega, hi⟩
  have himage := h ⟨i + 1, hmem⟩
  rwa [p.image_eq (by simpa using hi), q.image_eq (by simpa using hi')] at himage

/-! ## One bijection for each permutation -/

/-- The images of a permutation are a bijection, as they are distinct points. -/
theorem exists_moves (h : p.degree = n) : ∃ σ : Equiv.Perm (Point n), p.Moves σ := by
  have hmem : ∀ i : Point n, p.image i.1 ∈ Finset.Icc 1 n := fun i =>
    (mem_points_of_degree h).1 (p.image_mem_points ((mem_points_of_degree h).2 i.2))
  have hinj : Function.Injective fun i : Point n => (⟨p.image i.1, hmem i⟩ : Point n) := by
    intro i j hij
    refine Subtype.ext (p.image_injective ?_ ?_ (congrArg Subtype.val hij))
    · exact (mem_points_of_degree h).2 i.2
    · exact (mem_points_of_degree h).2 j.2
  exact ⟨Equiv.ofBijective _ (Finite.injective_iff_bijective.1 hinj), h, fun _ => rfl⟩

theorem Moves.unique (hσ : p.Moves σ) (hτ : p.Moves τ) : σ = τ := by
  refine Equiv.ext fun i => Subtype.ext ?_
  rw [← hσ.2, ← hτ.2]

theorem Moves.ext (hp : p.Moves σ) (hq : q.Moves σ) : p = q :=
  ext_image hp.1 hq.1 fun i => (hp.2 i).trans (hq.2 i).symm

theorem Moves.eq_iff (hp : p.Moves σ) (hq : q.Moves τ) : p = q ↔ σ = τ := by
  constructor
  · rintro rfl
    exact hp.unique hq
  · rintro rfl
    exact hp.ext hq

/-- The images under a bijection are those of a permutation. -/
theorem exists_of_equiv (hn : 0 < n) (σ : Equiv.Perm (Point n)) : ∃ p : Perm, p.Moves σ := by
  let images := (pointList n).map fun i => (σ i).1
  have hlength : images.length = n := by simp only [images, List.length_map, length_pointList]
  refine ⟨⟨images.toArray, ?_, ?_, ?_⟩, hlength, fun i => ?_⟩
  · rwa [List.size_toArray, hlength]
  · intro j hj
    obtain ⟨i, -, rfl⟩ := List.mem_map.1 (List.mem_toArray.1 hj)
    rw [List.size_toArray, hlength]
    exact Finset.mem_Icc.1 (σ i).2
  · exact (nodup_pointList n).map (Subtype.val_injective.comp σ.injective)
  · have hi := Finset.mem_Icc.1 i.2
    rw [image_eq _ (by rw [List.size_toArray, hlength]; omega)]
    simp only [List.getElem_toArray, images, List.getElem_map]
    congr 2
    exact Subtype.ext ((getElem_pointList _).trans (by omega))

/-- The images of a permutation are those of the points in turn. -/
theorem Moves.images_eq (hp : p.Moves σ) :
    p.images.toList = (pointList n).map fun i => (σ i).1 := by
  have hsize : p.images.size = n := hp.1
  refine List.ext_getElem (by simp [length_pointList, hsize]) fun k hk hk' => ?_
  rw [List.getElem_map, ← hp.2, getElem_pointList, image_eq _ (by simpa using hk)]
  rfl

/-- The image of a point is the entry at its place. -/
theorem Moves.apply_eq (hp : p.Moves σ) (i : Point n) : p.apply i.1 = .ok (σ i).1 := by
  have hi := Finset.mem_Icc.1 i.2
  have hsize : p.images.size = n := hp.1
  have hlt : i.1 - 1 < p.images.toList.length := by
    rw [Array.length_toList]
    omega
  have hplace : Position.resolve p.images.toList.length ((i.1 : Int) - 1) = some (i.1 - 1) := by
    rw [← Int.ofNat_one, ← Int.ofNat_sub hi.1, Position.resolve_natCast, if_pos hlt]
  rw [apply, Position.entry, hplace]
  simp only [hlt, dite_true, Except.ok.injEq]
  rw [← hp.2, p.image_eq (by omega)]
  rfl

/-! ## Products and inverses -/

theorem moves_one (n : Nat) : (one n).Moves (1 : Equiv.Perm (Point (n + 1))) := by
  refine ⟨by simp [one, degree], fun i => ?_⟩
  have hi := Finset.mem_Icc.1 i.2
  rw [image_eq _ (by simp only [one, Array.size_range']; omega)]
  simp only [one, Array.getElem_range', Equiv.Perm.coe_one, id_eq]
  omega

theorem Moves.unit (hp : p.Moves σ) : p.unit.Moves (1 : Equiv.Perm (Point n)) := by
  have hpos : 0 < p.degree := p.degree_pos
  obtain ⟨k, hk⟩ := Nat.exists_eq_succ_of_ne_zero hpos.ne'
  obtain rfl : n = k + 1 := hp.1.symm.trans hk
  rw [Perm.unit, hk]
  exact moves_one k

/-- The identity moves no point. -/
theorem exists_identity (hn : 0 < n) :
    ∃ p, identity n = .ok p ∧ p.Moves (1 : Equiv.Perm (Point n)) := by
  obtain ⟨k, rfl⟩ := Nat.exists_eq_succ_of_ne_zero hn.ne'
  refine ⟨one k, ?_, moves_one k⟩
  rw [identity, if_neg (by omega)]
  congr 2

/-- What is given as an identity moves no point. -/
theorem exists_moves_of_identity {m : Int} {e : Perm} (h : identity m = .ok e) :
    ∃ n, e.Moves (1 : Equiv.Perm (Point n)) := by
  by_cases hm : m < 1
  · rw [identity, if_pos hm] at h
    cases h
  · rw [identity, if_neg hm] at h
    cases h
    exact ⟨_, moves_one _⟩

/-- Only permutations of the same points are multiplied. -/
theorem degree_eq_of_mul {r : Perm} (h : p.mul q = .ok r) : q.degree = p.degree := by
  by_contra hne
  rw [Perm.mul, dif_neg hne] at h
  cases h

/-- Of a product the right factor moves a point first. -/
theorem Moves.comp (hp : p.Moves σ) (hq : q.Moves τ) (h : q.degree = p.degree) :
    (p.comp q h).Moves (σ * τ) := by
  refine ⟨(p.degree_comp q h).trans hp.1, fun i => ?_⟩
  have hi := Finset.mem_Icc.1 i.2
  have hlt : i.1 - 1 < q.images.size := by
    have hdegree : q.images.size = n := hq.1
    omega
  rw [image_eq _ (by simpa [Perm.comp] using hlt), Equiv.Perm.mul_apply, ← hp.2, ← hq.2,
    q.image_eq hlt]
  simp [Perm.comp]

theorem Moves.mul (hp : p.Moves σ) (hq : q.Moves τ) :
    ∃ r, p.mul q = .ok r ∧ r.Moves (σ * τ) := by
  have h : q.degree = p.degree := hq.1.trans hp.1.symm
  exact ⟨p.comp q h, dif_pos h, hp.comp hq h⟩

theorem Moves.inverse (hp : p.Moves σ) : p.inverse.Moves σ⁻¹ := by
  refine ⟨p.degree_inverse.trans hp.1, fun i => ?_⟩
  have hmem : i.1 ∈ p.points := (mem_points_of_degree hp.1).2 i.2
  have hi := Finset.mem_Icc.1 i.2
  have hdegree : p.images.size = n := hp.1
  have himage : p.inverse.image i.1 = p.preimage i.1 := by
    rw [image_eq _ (by simp [Perm.inverse, points, degree]; omega)]
    simp only [Perm.inverse, Array.getElem_map, List.getElem_toArray, points, List.getElem_range']
    congr 1
    omega
  have hpre := (mem_points_of_degree hp.1).1 (p.preimage_mem hmem)
  have hsend : σ ⟨p.preimage i.1, hpre⟩ = i :=
    Subtype.ext ((hp.2 _).symm.trans (p.image_preimage hmem))
  have hback : σ⁻¹ i = ⟨p.preimage i.1, hpre⟩ := Equiv.Perm.inv_eq_iff_eq.2 hsend.symm
  rw [himage, hback]

/-- Each factor is multiplied on the left. -/
theorem Moves.iterate (hp : p.Moves σ) (hq : q.Moves τ) (h : q.degree = p.degree) (k : Nat) :
    (p.iterate k q h).Moves (σ ^ k * τ) := by
  induction k generalizing q τ with
  | zero => rwa [Perm.iterate, pow_zero, one_mul]
  | succ k ih =>
    have hnext := ih (hp.comp hq h) (p.degree_comp q h)
    rwa [← mul_assoc, ← pow_succ] at hnext

theorem Moves.pow (hp : p.Moves σ) (k : Nat) : (p.pow k).Moves (σ ^ k) := by
  have h := hp.iterate hp.unit p.degree_unit k
  rwa [mul_one] at h

theorem Moves.zpow (hp : p.Moves σ) (k : Int) : (p.zpow k).Moves (σ ^ k) := by
  obtain ⟨k, rfl | rfl⟩ := k.eq_nat_or_neg
  · rw [Perm.zpow, if_neg (by omega), Int.natAbs_natCast, zpow_natCast]
    exact hp.pow k
  · rw [zpow_neg, zpow_natCast, ← inv_pow, Perm.zpow, Int.natAbs_neg, Int.natAbs_natCast]
    split
    · exact hp.inverse.pow k
    · next hk =>
      obtain rfl : k = 0 := by omega
      rw [pow_zero]
      exact hp.pow 0

/-- The question whether a permutation is the identity is answered point by point. -/
theorem Moves.isIdentity_iff (hp : p.Moves σ) : p.isIdentity = true ↔ σ = 1 := by
  rw [isIdentity, List.all_eq_true]
  constructor
  · intro h
    refine Equiv.ext fun i => Subtype.ext ?_
    rw [← hp.2]
    exact beq_iff_eq.1 (h i.1 ((mem_points_of_degree hp.1).2 i.2))
  · rintro rfl i hi
    exact beq_iff_eq.2 (hp.2 ⟨i, (mem_points_of_degree hp.1).1 hi⟩)

end Perm

end FiniteGroups
