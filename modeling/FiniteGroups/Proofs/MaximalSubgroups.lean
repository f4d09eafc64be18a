import FiniteGroups.Proofs.Joins
import FiniteGroups.Subgroup.Lattice
import Mathlib.Order.Atoms

/-!
# Maximal subgroups

Which subgroups of a list are maximal is found by comparing orders and elements. If the list holds
all subgroups, the maximal ones are the coatoms among them (`Carries.mem_maximalOf_iff`). What
they have in common is found by taking away what is not an element of each of them
(`Carries.extent_shared`).
-/

set_option linter.unusedSectionVars false

namespace FiniteGroups

namespace FiniteGroup

/-- `H` is smaller than `K` and has elements of `K` only. -/
def liesBelow (H K : FiniteGroup) : Bool :=
  decide (H.order < K.order) && H.elements.subset K.elements

/-- The groups of fewer than `n` elements that do not lie below another one of these. -/
def maximalOf (n : Nat) (subs : List FiniteGroup) : List FiniteGroup :=
  let proper := subs.filter fun H => decide (H.order < n)
  proper.filter fun H => !proper.any H.liesBelow

theorem mem_of_mem_maximalOf {n : Nat} {subs : List FiniteGroup} {H : FiniteGroup}
    (hH : H ∈ maximalOf n subs) : H ∈ subs :=
  (List.filter_sublist.trans List.filter_sublist).subset hH

/-- The elements of `H` that all other groups have as well. -/
def shared (H : FiniteGroup) (rest : List FiniteGroup) : List Value :=
  H.elements.toList.filter fun a => rest.all fun K => K.elements.contains a

/-! ## What is computed -/

theorem below_candidate (H K : FiniteGroup) :
    H.candidate.below K.candidate = .ok (H.liesBelow K) := by
  show (if H.order < K.order then return H.elements.subset K.elements else return false :
    Except Fault Bool) = _
  by_cases hlt : H.order < K.order <;> simp [liesBelow, hlt]

theorem maximalAmong_candidates (n : Nat) (subs : List FiniteGroup) :
    Candidate.maximalAmong n (subs.map candidate) = .ok ((maximalOf n subs).map candidate) := by
  have hproper : (subs.map candidate).filterM (fun H => do return (← H.size) < n) =
      .ok ((subs.filter fun H => decide (H.order < n)).map candidate) :=
    filterM_map_eq fun H _ => rfl
  rw [Candidate.maximalAmong, hproper, ok_bind]
  refine filterM_map_eq fun H _ => ?_
  rw [anyM_map_eq fun K _ => below_candidate H K]
  rfl

theorem common_candidates (H : FiniteGroup) (rest : List FiniteGroup) :
    Candidate.common H.candidate (rest.map candidate) = .ok (H.shared rest) := by
  show (rest.map candidate).foldlM _ H.elements.toList = _
  rw [shared]
  generalize H.elements.toList = items
  induction rest generalizing items with
  | nil => simp
  | cons K rest ih =>
    rw [List.map_cons, List.foldlM_cons]
    show (rest.map candidate).foldlM _ (items.filter K.elements.contains) = _
    rw [ih, List.filter_filter]
    simp [Bool.and_comm]

/-! ## What it means -/

variable {M : Type} [Group M] {R : Value → M → Prop} {G : FiniteGroup}

namespace Carries

variable (hG : G.Carries R)
include hG

theorem liesBelow_iff {H H' : FiniteGroup} {K K' : Subgroup M} (hH : Consists R H K)
    (hH' : Consists R H' K') : H.liesBelow H' = true ↔ K < K' := by
  have := hG.finite
  rw [liesBelow, Bool.and_eq_true, decide_eq_true_iff, hH.subset_iff hG.faithful hH',
    hH.order_eq hG.faithful, hH'.order_eq hG.faithful]
  constructor
  · rintro ⟨hlt, hle⟩
    refine lt_of_le_of_ne hle ?_
    rintro rfl
    exact lt_irrefl _ hlt
  · intro hlt
    exact ⟨Set.ncard_lt_ncard hlt, hlt.le⟩

/-- The maximal ones among all subgroups are those with nothing between them and the group. -/
theorem mem_maximalOf_iff {subs : List FiniteGroup}
    (hcons : ∀ H ∈ subs, ∃ K : Subgroup M, Consists R H K)
    (hall : ∀ K : Subgroup M, ∃ H ∈ subs, Consists R H K) {H : FiniteGroup} (hH : H ∈ subs)
    {K : Subgroup M} (hHK : Consists R H K) : H ∈ maximalOf G.order subs ↔ IsCoatom K := by
  have hproper : ∀ {H} {K : Subgroup M}, Consists R H K →
      (decide (H.order < G.order) = true ↔ K ≠ ⊤) := fun hHK => by
    rw [decide_eq_true_iff, hG.order_lt_iff hHK]
  rw [maximalOf, List.mem_filter, List.mem_filter, and_iff_right hH, hproper hHK,
    Bool.not_eq_true', List.any_eq_false]
  refine and_congr_right fun _ => ?_
  constructor
  · intro hnone L hlt
    by_contra hne
    obtain ⟨H', hH', hHL⟩ := hall L
    exact hnone H' (List.mem_filter.2 ⟨hH', (hproper hHL).2 hne⟩) ((hG.liesBelow_iff hHK hHL).2 hlt)
  · intro htop H' hH' hbelow
    obtain ⟨hmem, hlt⟩ := List.mem_filter.1 hH'
    obtain ⟨L, hHL⟩ := hcons H' hmem
    exact (hproper hHL).1 hlt (htop L ((hG.liesBelow_iff hHK hHL).1 hbelow))

/-- Among all subgroups the maximal ones are listed, each of them once. -/
theorem collects_maximalOf {subs : List FiniteGroup}
    (hall : Collects R subs (Set.univ : Set (Subgroup M))) :
    Collects R (maximalOf G.order subs) {K : Subgroup M | IsCoatom K} := by
  have hmem : ∀ {H : FiniteGroup}, H ∈ subs → ∀ {K : Subgroup M}, Consists R H K →
      (H ∈ maximalOf G.order subs ↔ IsCoatom K) := fun hH _ hHK =>
    hG.mem_maximalOf_iff (fun H hH => (hall.consists H hH).imp fun K hK => hK.2)
      (fun K => hall.complete K (Set.mem_univ K)) hH hHK
  refine ⟨fun H hH => ?_, fun K hK => ?_, (hall.apart.filter _).filter _⟩
  · have hsub := mem_of_mem_maximalOf hH
    obtain ⟨K, -, hHK⟩ := hall.consists H hsub
    exact ⟨K, (hmem hsub hHK).1 hH, hHK⟩
  · obtain ⟨H, hH, hHK⟩ := hall.complete K (Set.mem_univ K)
    exact ⟨H, (hmem hH hHK).2 hK, hHK⟩

/-- What is shared stands for what is in all of the subgroups. -/
theorem extent_shared {H : FiniteGroup} {K : Subgroup M} (hHK : Consists R H K)
    {rest : List FiniteGroup} (hrest : ∀ H ∈ rest, ∃ L : Subgroup M, Consists R H L) :
    extent R (H.shared rest) =
      {x ∈ (K : Set M) | ∀ H ∈ rest, ∀ L : Subgroup M, Consists R H L → x ∈ L} := by
  rw [shared, ← hHK.extent_eq]
  refine extent_filter fun a _ x hx => ?_
  rw [List.all_eq_true]
  refine forall₂_congr fun H hH => ?_
  obtain ⟨L, hHL⟩ := hrest H hH
  rw [hG.faithful.contains_iff hHL.standing hx, hHL.extent_eq]
  exact ⟨fun hxL L' hHL' => hHL.unique hHL' ▸ hxL, fun h => h L hHL⟩

end Carries

end FiniteGroup

end FiniteGroups
