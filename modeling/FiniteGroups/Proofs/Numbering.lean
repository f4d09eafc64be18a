import FiniteGroups.Proofs.Maps
import FiniteGroups.Proofs.PermGroups

/-!
# Numbered elements

The elements of a group are numbered from `1` in the order in which they are listed, which makes
the points `1, …, n` the elements of the group that is realized (`Realizes.exists_numbering`). So
are the items that a group acts on. An element moves the points as it moves what is numbered
(`pointAction`), and multiplying by different elements moves them differently (`leftRegular`). When
the images are collected one by one, and numbers are looked up in an assignment, the permutation
that comes out is this one (`Numbers.exists_readPerm`, `Numbers.get?_zipIdx`,
`Numbers.get?_map_zipIdx`).
-/

namespace FiniteGroups

open FiniteGroup

variable {M : Type} {R : Value → M → Prop} {n : Nat}

/-- The elements are numbered in the order of the list. -/
def Numbers (R : Value → M → Prop) (els : List Value) (e : Point n ≃ M) : Prop :=
  List.Forall₂ (fun a i => R a (e i)) els (pointList n)

/-- Different values that stand for all of `M` number it. -/
theorem Faithful.exists_numbering (hR : Faithful R) {xs : List Value} (hxs : Standing R xs)
    (hne : xs.Pairwise fun a b => (a == b) = false) (hall : ∀ x, ∃ a ∈ xs, R a x) :
    ∃ e : Point xs.length ≃ M, Numbers R xs e := by
  have hplace (i : Point xs.length) : i.1 - 1 < xs.length := by
    have hi := Finset.mem_Icc.1 i.2
    omega
  choose f hf using fun i => hxs _ (List.getElem_mem (hplace i))
  have hbijective : Function.Bijective f := by
    constructor
    · intro i j hij
      have hi := Finset.mem_Icc.1 i.2
      have hj := Finset.mem_Icc.1 j.2
      have heq : xs[i.1 - 1] = xs[j.1 - 1] := hR.eq_of_pairwise hne (List.getElem_mem (hplace i))
        (List.getElem_mem (hplace j)) (hij ▸ hf i) (hf j)
      have hnodup : xs.Nodup := Roster.toList_ofList hne ▸ (Roster.ofList xs).nodup_toList
      have hplaces := hnodup.getElem_inj_iff.1 heq
      exact Subtype.ext (by omega)
    · intro x
      obtain ⟨a, ha, hx⟩ := hall x
      obtain ⟨k, hk, rfl⟩ := List.getElem_of_mem ha
      have hpoint : k + 1 ∈ Finset.Icc 1 xs.length := Finset.mem_Icc.2 ⟨by omega, hk⟩
      exact ⟨⟨k + 1, hpoint⟩, hR.unique (hf ⟨k + 1, hpoint⟩) hx⟩
  refine ⟨Equiv.ofBijective f hbijective, List.forall₂_iff_get.2 ⟨?_, fun k hk hk' => ?_⟩⟩
  · rw [length_pointList]
  · have hpoint := getElem_pointList hk'
    have hstands := hf (pointList xs.length)[k]
    simp only [hpoint, Nat.add_sub_cancel] at hstands
    exact hstands

theorem FiniteGroup.Realizes.exists_numbering [Group M] {G : FiniteGroup} (hG : G.Realizes R) :
    ∃ e : Point G.order ≃ M, Numbers R G.els e :=
  hG.faithful.exists_numbering hG.standing hG.pairwise_els hG.surjective

namespace Numbers

variable {els : List Value} {e : Point n ≃ M} (h : Numbers R els e)
include h

/-- An element at a place stands for what has the next number. -/
theorem exists_point {k : Nat} (hk : k < els.length) :
    ∃ i : Point n, i.1 = k + 1 ∧ R els[k] (e i) := by
  obtain ⟨hlength, hget⟩ := List.forall₂_iff_get.1 h
  exact ⟨_, getElem_pointList (hlength ▸ hk), hget k hk (hlength ▸ hk)⟩

/-- What has a number is what an element stands for, at the place before. -/
theorem exists_place (i : Point n) :
    ∃ k, ∃ hk : k < els.length, i.1 = k + 1 ∧ R els[k] (e i) := by
  obtain ⟨hlength, hget⟩ := List.forall₂_iff_get.1 h
  obtain ⟨k, hk, rfl⟩ := List.getElem_of_mem (mem_pointList i)
  exact ⟨k, hlength ▸ hk, getElem_pointList hk, hget k (hlength ▸ hk) hk⟩

/-- Each element with its number. -/
theorem zipIdx (s : Nat) :
    List.Forall₂ (fun q i => R q.1 (e i) ∧ q.2 + 1 = i.1 + s) (els.zipIdx s) (pointList n) := by
  obtain ⟨hlength, hget⟩ := List.forall₂_iff_get.1 h
  refine List.forall₂_iff_get.2 ⟨by rw [List.length_zipIdx, hlength], fun k hk hk' => ?_⟩
  have hpoint := getElem_pointList hk'
  have hk : k < els.length := by rwa [List.length_zipIdx] at hk
  simp only [List.get_eq_getElem, List.getElem_zipIdx, hpoint]
  exact ⟨hget k hk hk', by omega⟩

omit h in
/-- What stands for an element is looked up under its number. -/
theorem get?_ofList {β : Type} {pairs : List (Value × β)} (val : Nat → β) (hR : Faithful R)
    (hpairs : List.Forall₂ (fun q i => R q.1 (e i) ∧ q.2 = val i.1) pairs (pointList n))
    {a : Value} {x : M} (ha : R a x) :
    (Assignment.ofList pairs).get? a = some (val (e.symm x).1) := by
  have hkeys : pairs.Pairwise fun p q => (p.1 == q.1) = false := by
    refine pairwise_of_forall₂ hpairs.flip (fun i j p q hp hq hij => ?_) (nodup_pointList n)
    rw [← Bool.not_eq_true, hR hp.1 hq.1, e.injective.eq_iff]
    exact hij
  obtain ⟨q, hq, hqx, hval⟩ := exists_of_forall₂ hpairs (mem_pointList (e.symm x))
  rw [e.apply_symm_apply] at hqx
  refine Assignment.get?_eq_some_iff.2 ⟨q.1, ?_, (hR hqx ha).2 rfl⟩
  rw [Assignment.toList_ofList hkeys, ← hval]
  exact hq

theorem get?_zipIdx (hR : Faithful R) {a : Value} {x : M} (ha : R a x) :
    (Assignment.ofList (els.zipIdx 1)).get? a = some (e.symm x).1 :=
  get?_ofList id hR ((h.zipIdx 1).imp fun _ _ hq => ⟨hq.1, Nat.succ_inj.1 hq.2⟩) ha

theorem get?_map_zipIdx (hR : Faithful R) {a : Value} {x : M} (ha : R a x) :
    (Assignment.ofList (els.zipIdx.map fun q => (q.1, Value.ofNat (q.2 + 1)))).get? a
      = some (Value.ofNat (e.symm x).1) := by
  refine get?_ofList Value.ofNat hR ?_ ha
  rw [List.forall₂_map_left_iff]
  exact (h.zipIdx 0).imp fun _ _ hq => ⟨hq.1, congrArg Value.ofNat hq.2⟩

/-- The keys of the members stand for the same, in the same order. -/
theorem exists_keys (hR : Faithful R)
    (hkeyed : ∀ ⦃a x⦄, R a x → ∃ k, a.keyed = .ok k ∧ R k x) :
    ∃ keys, els.mapM Value.keyed = .ok keys ∧
      List.Forall₂ (fun a k => ∃ x, R a x ∧ R k x) els keys ∧ Numbers R keys e := by
  obtain ⟨keys, hkeys, hall⟩ := exists_mapM (P := fun a k => ∃ x, R a x ∧ R k x) els
      fun a ha => by
    obtain ⟨i, -, hi⟩ := exists_of_forall₂ h.flip ha
    obtain ⟨k, hk, hki⟩ := hkeyed hi
    exact ⟨k, hk, e i, hi, hki⟩
  refine ⟨keys, hkeys, hall, (forall₂_comp hall.flip h).imp ?_⟩
  rintro k i ⟨a, ⟨x, hx, hkx⟩, hi⟩
  rwa [← hR.unique hx hi]

/-- The numbers of the images, in the order of the list, are the images of the points. -/
theorem mapM_eq {f : Value → Except Fault Value} (σ : Equiv.Perm (Point n))
    (hf : ∀ a i, R a (e i) → f a = .ok (Value.ofNat (σ i).1)) :
    els.mapM f = .ok (Value.imageList σ) := by
  rw [mapM_eq_ok_iff, Value.imageList, List.forall₂_map_right_iff]
  exact h.imp hf

/-- If the images are numbered, they are read as the permutation. -/
theorem exists_readPerm (hn : 0 < n) {f : Value → Except Fault Value} (σ : Equiv.Perm (Point n))
    (hf : ∀ a i, R a (e i) → f a = .ok (Value.ofNat (σ i).1)) :
    ∃ p, (els.mapM f >>= Value.readPerm) = .ok p ∧ p.Moves σ := by
  obtain ⟨p, hp, hmoves⟩ := Value.readPerm_spec hn σ
  exact ⟨p, by rw [h.mapM_eq σ hf, ok_bind, hp], hmoves⟩

end Numbers

/-! ## Elements that act on what is numbered -/

section

variable [Group M]

/-- An element moves the numbers as it moves what is numbered. -/
def pointAction {X : Type} [MulAction M X] (e : Point n ≃ X) : M →* Equiv.Perm (Point n) :=
  e.symm.permCongrHom.toMonoidHom.comp (MulAction.toPermHom M X)

/-- The same elements move no number and move nothing. -/
theorem ker_pointAction {X : Type} [MulAction M X] (e : Point n ≃ X) :
    (pointAction (M := M) e).ker = (MulAction.toPermHom M X).ker := by
  ext x
  rw [MonoidHom.mem_ker, MonoidHom.mem_ker, pointAction, MonoidHom.comp_apply]
  exact map_eq_one_iff e.symm.permCongrHom e.symm.permCongrHom.injective

/-- An element moves the numbers of the elements as it multiplies these. -/
def leftRegular (e : Point n ≃ M) : M →* Equiv.Perm (Point n) :=
  e.symm.permCongrHom.toMonoidHom.comp (MulAction.toPermHom M M)

theorem leftRegular_apply (e : Point n ≃ M) (x : M) (i : Point n) :
    leftRegular e x i = e.symm (x * e i) :=
  rfl

theorem leftRegular_injective (e : Point n ≃ M) : Function.Injective (leftRegular e) := by
  intro x y hxy
  have happly := DFunLike.congr_fun hxy (e.symm 1)
  simpa only [leftRegular_apply, e.apply_symm_apply, mul_one, e.symm.injective.eq_iff] using happly

/-- Only the identity leaves an element where it is. -/
theorem leftRegular_apply_ne (e : Point n ≃ M) {x : M} (hx : x ≠ 1) (i : Point n) :
    leftRegular e x i ≠ i := by
  rw [leftRegular_apply, Ne, e.symm_apply_eq, mul_eq_right]
  exact hx

end

end FiniteGroups
