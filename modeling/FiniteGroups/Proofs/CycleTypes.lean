import FiniteGroups.Proofs.Cycles
import Mathlib.GroupTheory.Perm.Cycle.Type

/-!
# Cycle types and conjugation

The cycle type of a permutation lists how long its cycles are. The cycles are the orbits of the
bijection, so the list names the parts of the partition that the bijection makes of the number of
points (`Perm.Moves.coe_cycleType`); as it is sorted, it says nothing else
(`Perm.Moves.cycleType_eq_iff_partition`). Bijections with the same partition are those that are
conjugate, and what conjugates them is a permutation (`Perm.cycleType_eq_iff`).
-/

namespace FiniteGroups

variable {n : Nat} {p q : Perm} {σ τ : Equiv.Perm (Point n)}

/-! ## Cycles of more than one point -/

/-- A cycle of more than one point moves all of its points. -/
theorem card_support_formPerm {c : List (Point n)} (hc : c.Nodup) (h : 2 ≤ c.length) :
    c.formPerm.support.card = c.length := by
  rw [List.support_formPerm_of_nodup _ hc fun i hi => by simp [hi] at h,
    List.toFinset_card_of_nodup hc]

/-- Cycles of one point move nothing. -/
theorem prod_formPerm_filter {cs : List (List (Point n))} (hne : ∀ c ∈ cs, c ≠ []) :
    ((cs.filter (2 ≤ ·.length)).map List.formPerm).prod = (cs.map List.formPerm).prod := by
  induction cs with
  | nil => rfl
  | cons c cs ih =>
    have ih := ih fun d hd => hne d (List.mem_cons_of_mem c hd)
    match c, hne c List.mem_cons_self with
    | [i], _ => simpa using ih
    | i :: j :: c, _ =>
      rw [List.filter_cons_of_pos (by simp), List.map_cons, List.prod_cons, ih, List.map_cons,
        List.prod_cons]

namespace Perm

/-! ## The lengths of the orbits -/

theorem ne_nil_of_mem_orbits {c : List (Point n)} (hc : c ∈ orbits σ) : c ≠ [] := by
  obtain ⟨i, -, rfl⟩ := mem_orbits.1 hc
  exact List.ne_nil_of_mem (mem_orbit.2 (Equiv.Perm.SameCycle.refl σ i))

/-- The orbits share no point, so neither do the cycles that they are. -/
theorem pairwise_disjoint_formPerm (σ : Equiv.Perm (Point n)) :
    (((orbits σ).filter (2 ≤ ·.length)).map List.formPerm).Pairwise Equiv.Perm.Disjoint := by
  obtain ⟨hnodup, hdisjoint⟩ := List.nodup_flatten.1 (nodup_orbits σ)
  refine List.pairwise_map.2 ((hdisjoint.filter _).imp_of_mem fun {c d} hc hd h => ?_)
  obtain ⟨hc, hlong⟩ := List.mem_filter.1 hc
  obtain ⟨hd, hlong'⟩ := List.mem_filter.1 hd
  exact (List.formPerm_disjoint_iff (hnodup c hc) (hnodup d hd) (of_decide_eq_true hlong)
    (of_decide_eq_true hlong')).2 h

/-- The lengths of the orbits of more than one point are the cycle type of the bijection. -/
theorem filter_lengths_orbits (σ : Equiv.Perm (Point n)) :
    (((orbits σ).map List.length : List Nat) : Multiset Nat).filter (2 ≤ ·) = σ.cycleType := by
  have hnodup := (List.nodup_flatten.1 (nodup_orbits σ)).1
  have hprod := prod_formPerm_filter fun c (hc : c ∈ orbits σ) => ne_nil_of_mem_orbits hc
  rw [prod_orbits] at hprod
  rw [Equiv.Perm.cycleType_eq _ hprod ?_ (pairwise_disjoint_formPerm σ), Multiset.filter_coe,
    List.filter_map, List.map_map]
  · refine congrArg _ (List.map_congr_left fun c hc => ?_)
    obtain ⟨hc, hlong⟩ := List.mem_filter.1 hc
    exact (card_support_formPerm (hnodup c hc) (of_decide_eq_true hlong)).symm
  · intro f hf
    obtain ⟨c, hc, rfl⟩ := List.mem_map.1 hf
    obtain ⟨hc, hlong⟩ := List.mem_filter.1 hc
    exact List.isCycle_formPerm (hnodup c hc) (of_decide_eq_true hlong)

/-- Every point is in one orbit. -/
theorem sum_lengths_orbits (σ : Equiv.Perm (Point n)) :
    ((orbits σ).map List.length).sum = Fintype.card (Point n) := by
  rw [← List.length_flatten, ← List.toFinset_card_of_nodup (nodup_orbits σ), ← Finset.card_univ]
  exact congrArg _ (Finset.eq_univ_of_forall fun i =>
    List.mem_toFinset.2 (mem_flatten_orbits σ i))

/-- The lengths of the orbits are the parts of the partition that the bijection makes. -/
theorem lengths_orbits (σ : Equiv.Perm (Point n)) :
    (((orbits σ).map List.length : List Nat) : Multiset Nat) = σ.partition.parts := by
  set lengths : Multiset Nat := (((orbits σ).map List.length : List Nat) : Multiset Nat)
    with hlengths
  have hlong : lengths.filter (2 ≤ ·) = σ.cycleType := filter_lengths_orbits σ
  -- an orbit that is not long has one point
  obtain ⟨k, hk⟩ : ∃ k, lengths.filter (¬ 2 ≤ ·) = Multiset.replicate k 1 := by
    refine ⟨_, Multiset.eq_replicate_card.2 fun l hl => ?_⟩
    obtain ⟨hl, hshort⟩ := Multiset.mem_filter.1 hl
    obtain ⟨c, hc, rfl⟩ := List.mem_map.1 (Multiset.mem_coe.1 hl)
    have hpos := List.length_pos_of_ne_nil (ne_nil_of_mem_orbits hc)
    omega
  have hsplit := Multiset.filter_add_not (2 ≤ ·) lengths
  rw [hlong, hk] at hsplit
  have hsum := congrArg Multiset.sum hsplit
  rw [Multiset.sum_add, Equiv.Perm.sum_cycleType, Multiset.sum_replicate, hlengths,
    Multiset.sum_coe, sum_lengths_orbits, smul_eq_mul, mul_one] at hsum
  rw [← hsplit, Equiv.Perm.parts_partition, ← hsum, Nat.add_sub_cancel_left]

/-! ## Cycle types of permutations -/

theorem Moves.coe_cycleType (hp : p.Moves σ) :
    (p.cycleType : Multiset Nat) = σ.partition.parts := by
  have hlengths : p.cycles.map List.length = (orbits σ).map List.length := by
    rw [hp.cycles_eq, List.map_map]
    exact List.map_congr_left fun c _ => List.length_map _
  rw [← lengths_orbits, ← hlengths]
  exact Multiset.coe_eq_coe.2 (List.mergeSort_perm _ _)

/-- The cycle type is sorted, so only the parts of the partition count. -/
theorem Moves.cycleType_eq_iff_partition (hp : p.Moves σ) (hq : q.Moves τ) :
    p.cycleType = q.cycleType ↔ σ.partition = τ.partition := by
  rw [Nat.Partition.ext_iff, ← hp.coe_cycleType, ← hq.coe_cycleType, Multiset.coe_eq_coe]
  constructor
  · intro h
    rw [h]
  · intro h
    exact h.eq_of_sortedLE List.sortedLE_mergeSort List.sortedLE_mergeSort

/-- Permutations of the same points have the same cycle type exactly if one of these points turns
one into the other by conjugation. -/
theorem cycleType_eq_iff (h : q.degree = p.degree) :
    p.cycleType = q.cycleType ↔
      ∃ r s : Perm, r.degree = p.degree ∧ r.mul p = .ok s ∧ s.mul r.inverse = .ok q := by
  obtain ⟨σ, hp⟩ := exists_moves (p := p) rfl
  obtain ⟨τ, hq⟩ := exists_moves h
  rw [hp.cycleType_eq_iff_partition hq, ← Equiv.Perm.partition_eq_of_isConj, isConj_iff]
  constructor
  · rintro ⟨ρ, hconj⟩
    have hpos : 0 < p.degree := p.degree_pos
    obtain ⟨r, hr⟩ := exists_of_equiv hpos ρ
    obtain ⟨s, hs, hsmoves⟩ := hr.mul hp
    obtain ⟨q', hq', hmoves⟩ := hsmoves.mul hr.inverse
    rw [hconj] at hmoves
    exact ⟨r, s, hr.1, hs, hmoves.ext hq ▸ hq'⟩
  · rintro ⟨r, s, hdegree, hs, hrun⟩
    obtain ⟨ρ, hr⟩ := exists_moves hdegree
    obtain ⟨s', hs', hsmoves⟩ := hr.mul hp
    obtain rfl := Except.ok.inj (hs.symm.trans hs')
    obtain ⟨q', hq', hmoves⟩ := hsmoves.mul hr.inverse
    obtain rfl := Except.ok.inj (hrun.symm.trans hq')
    exact ⟨ρ, hmoves.unique hq⟩

/-- Two transpositions of three points have the same cycle type, as the rotation of the points turns
one into the other. -/
theorem cycleType_eq_transpositions :
    ∃ p q : Perm, p.images = #[2, 1, 3] ∧ q.images = #[1, 3, 2] ∧ q.degree = p.degree ∧
      p.cycleType = q.cycleType := by
  refine ⟨⟨#[2, 1, 3], by decide, by decide, by decide⟩,
    ⟨#[1, 3, 2], by decide, by decide, by decide⟩, rfl, rfl, rfl, ?_⟩
  refine (cycleType_eq_iff ?_).2 ⟨⟨#[2, 3, 1], by decide, by decide, by decide⟩,
    ⟨#[3, 2, 1], by decide, by decide, by decide⟩, rfl, ?_, ?_⟩
  · rfl
  · decide +kernel
  · decide +kernel

end Perm

end FiniteGroups
