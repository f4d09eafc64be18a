import FiniteGroups.Proofs.Joins
import FiniteGroups.Proofs.Numbers
import FiniteGroups.Proofs.Residues
import FiniteGroups.Proofs.Subsets

/-!
# All subgroups

Of a valid group both exact searches find all subgroups, each of them once
(`Carries.allJoins_spec`, `Realizes.allClosed_spec`). What is left to do is the end of a search,
which is the same for both : the orders are checked against the order of the group, and the list
is sorted by them.

`ValidGroup.Lists` says what the result is, and `ValidGroup.lists_allSubgroups` that both searches
give it, as long as the group has no more elements than the limit allows.
-/

set_option linter.unusedSectionVars false

namespace FiniteGroups

namespace FiniteGroup

theorem sorted_mergeSort_order (found : List FiniteGroup) :
    (found.mergeSort fun H K => H.order ≤ K.order).Pairwise fun H K => H.order ≤ K.order := by
  have htotal : Std.Total fun H K : FiniteGroup => H.order ≤ K.order :=
    ⟨fun H K => Nat.le_total H.order K.order⟩
  have htrans : IsTrans FiniteGroup fun H K => H.order ≤ K.order := ⟨fun _ _ _ => Nat.le_trans⟩
  exact List.pairwise_mergeSort' _ found

/-- What the order is not above is no reason to refuse a search. -/
theorem refuseAbove_eq {limit : Value} {n : Nat}
    (h : limit.before (Value.ofNat n) = .ok false) (fault : Nat → Int → Fault) :
    refuseAbove limit n fault = .ok () := by
  rw [refuseAbove.eq_def]
  split
  · rfl
  · rw [h]
    rfl

/-- A missing limit is no number and cannot be compared with one. -/
theorem ne_none_of_before {limit : Value} {n : Nat}
    (h : limit.before (Value.ofNat n) = .ok false) : limit ≠ .none := by
  rintro rfl
  rw [Value.before.eq_def] at h
  cases h

/-- The search by joins is not refused. -/
theorem before_maxSearch {n : Nat} (hn : n ≤ 200) :
    maxSearch.before (Value.ofNat n) = .ok false := by
  rw [maxSearch, Value.ofNat, before_int, decide_eq_false (by omega)]

/-- What is listed in the end is what was found by joining. -/
theorem exists_joins_of_allSubgroups {G : FiniteGroup} {limit : Value} {subs : List FiniteGroup}
    (h : (G.candidate.allSubgroups .cyclic limit).outcome = .ok subs) :
    ∃ joins, G.allJoins.outcome = .ok joins ∧ subs.Perm joins := by
  simp only [Candidate.allSubgroups, Candidate.joinSubgroups, candidate, Candidate.group,
    Report.outcome_bind, outcome_liftM, ok_bind] at h
  obtain ⟨joins, hjoins, h⟩ := bind_eq_ok.1 h
  obtain ⟨-, -, hjoins⟩ := bind_eq_ok.1 hjoins
  refine ⟨joins, hjoins, ?_⟩
  split at h
  · cases h
  · split at h
    · obtain rfl := Except.ok.inj h
      exact List.mergeSort_perm joins _
    · cases h

section

variable {M : Type} [Group M] {R : Value → M → Prop} {G : FiniteGroup}

namespace Carries

variable (hG : G.Carries R)
include hG

/-- The order of a subgroup is positive and divides the order of the group. -/
theorem order_dvd {H : FiniteGroup} {K : Subgroup M} (h : Consists R H K) :
    0 < H.order ∧ H.order ∣ G.order := by
  have := hG.finite
  have horder : H.order = Nat.card K := by
    rw [h.order_eq hG.faithful, ← Nat.card_coe_set_eq]
    rfl
  rw [horder, hG.order_eq]
  exact ⟨Nat.card_pos, Subgroup.card_subgroup_dvd_card K⟩

/-- At the end of a search nothing is wrong with the orders. -/
theorem orders_eq {found : List FiniteGroup} {P : Set (Subgroup M)} (h : Collects R found P) :
    found.any (fun H => H.order == 0) = false ∧
      found.all (fun H => G.order % H.order == 0) = true := by
  have horder : ∀ H ∈ found, 0 < H.order ∧ H.order ∣ G.order := by
    intro H hH
    obtain ⟨K, -, hHK⟩ := h.consists H hH
    exact hG.order_dvd hHK
  constructor
  · rw [List.any_eq_false]
    intro H hH
    rw [beq_iff_eq]
    exact (horder H hH).1.ne'
  · rw [List.all_eq_true]
    intro H hH
    rw [beq_iff_eq]
    exact Nat.mod_eq_zero_of_dvd (horder H hH).2

/-- What a search finds is put in order. -/
theorem allSubgroups_eq {limit : Value}
    (hlimit : limit.before (Value.ofNat G.order) = .ok false) {found : List FiniteGroup}
    {P : Set (Subgroup M)} (h : Collects R found P) {method : SearchMethod}
    (hsearch : method = .cyclic ∧ G.allJoins.outcome = .ok found ∨
      method = .brute ∧ G.allClosed.outcome = .ok found) :
    (G.candidate.allSubgroups method limit).outcome =
      .ok (found.mergeSort fun H K => H.order ≤ K.order) := by
  obtain ⟨hany, hall⟩ := hG.orders_eq h
  have hne := ne_none_of_before hlimit
  have hrefuse := refuseAbove_eq hlimit
  obtain ⟨rfl, hfound⟩ | ⟨rfl, hfound⟩ := hsearch
  · simp only [Candidate.allSubgroups, Candidate.joinSubgroups, candidate, Candidate.group,
      Report.outcome_bind, outcome_liftM, ok_bind, hfound, hrefuse, hany, hall]
    rfl
  · simp only [Candidate.allSubgroups, Candidate.bruteSubgroups, candidate, Candidate.group,
      Report.outcome_bind, outcome_liftM, ok_bind, hfound, hrefuse, hany, hall]
    rfl

/-- The search by joins through a group that is small enough lists all subgroups. -/
theorem allSubgroups_spec (horder : G.order ≤ 200) :
    ∃ subs, (G.candidate.allSubgroups .cyclic .none).outcome = .ok subs ∧
      Collects R subs (Set.univ : Set (Subgroup M)) := by
  obtain ⟨joins, hjoins, hcollects⟩ := hG.allJoins_spec
  exact ⟨_, hG.allSubgroups_eq (before_maxSearch horder) hcollects (.inl ⟨rfl, hjoins⟩),
    hcollects.perm (List.mergeSort_perm joins _)⟩

/-- Whatever the limit, what is listed is all subgroups. -/
theorem collects_of_allSubgroups {limit : Value} {subs : List FiniteGroup}
    (h : (G.candidate.allSubgroups .cyclic limit).outcome = .ok subs) :
    Collects R subs (Set.univ : Set (Subgroup M)) := by
  obtain ⟨joins, hjoins, hperm⟩ := exists_joins_of_allSubgroups h
  obtain ⟨found, hfound, hcollects⟩ := hG.allJoins_spec
  obtain rfl := Except.ok.inj (hjoins.symm.trans hfound)
  exact hcollects.perm hperm

end Carries

namespace Realizes

variable (hG : G.Realizes R)
include hG

theorem order_dvd {H : FiniteGroup} {K : Subgroup M} (h : Consists R H K) :
    0 < H.order ∧ H.order ∣ G.order :=
  hG.carries.order_dvd h

theorem allSubgroups_eq {limit : Value}
    (hlimit : limit.before (Value.ofNat G.order) = .ok false) {found : List FiniteGroup}
    {P : Set (Subgroup M)} (h : Collects R found P) {method : SearchMethod}
    (hsearch : method = .cyclic ∧ G.allJoins.outcome = .ok found ∨
      method = .brute ∧ G.allClosed.outcome = .ok found) :
    (G.candidate.allSubgroups method limit).outcome =
      .ok (found.mergeSort fun H K => H.order ≤ K.order) :=
  hG.carries.allSubgroups_eq hlimit h hsearch

theorem allSubgroups_spec (horder : G.order ≤ 200) :
    ∃ subs, (G.candidate.allSubgroups .cyclic .none).outcome = .ok subs ∧
      Collects R subs (Set.univ : Set (Subgroup M)) :=
  hG.carries.allSubgroups_spec horder

end Realizes

end

end FiniteGroup

namespace ValidGroup

open FiniteGroup

variable (G : ValidGroup)

/-- The list contains the subgroups of `G`, each of them once, in the order of their sizes. -/
structure Lists (found : List FiniteGroup) : Prop where
  sorted : found.Pairwise fun H K => H.order ≤ K.order
  consists : ∀ H ∈ found, ∃ K : Subgroup G.Element, Consists G.Stands H K
  existsUnique : ∀ K : Subgroup G.Element,
    ∃! i : Fin found.length, Consists G.Stands found[i] K

variable {G}

/-- Two lists of all subgroups have the same sets of elements. -/
theorem Lists.exists_sameSet {found found' : List FiniteGroup} (h : G.Lists found)
    (h' : G.Lists found') {H : FiniteGroup} (hH : H ∈ found) :
    ∃ H' ∈ found', H.elements.sameSet H'.elements = true := by
  obtain ⟨K, hHK⟩ := h.consists H hH
  obtain ⟨i, hi, -⟩ := h'.existsUnique K
  exact ⟨found'[i], List.getElem_mem i.2, (hHK.sameSet_iff faithful hi).2 rfl⟩

/-- What a search finds is listed in order. -/
theorem exists_allSubgroups {limit : Value}
    (hlimit : limit.before (Value.ofNat G.order) = .ok false) {found : List FiniteGroup}
    (h : Collects G.Stands found Set.univ) {method : SearchMethod}
    (hsearch : method = .cyclic ∧ G.allJoins.outcome = .ok found ∨
      method = .brute ∧ G.allClosed.outcome = .ok found) :
    ∃ sorted, (G.toFiniteGroup.candidate.allSubgroups method limit).outcome = .ok sorted ∧
      G.Lists sorted := by
  have hperm := h.perm (List.mergeSort_perm found fun H K => H.order ≤ K.order)
  refine ⟨_, G.realizes.allSubgroups_eq hlimit h hsearch, sorted_mergeSort_order found,
    fun H hH => ?_, fun K => hperm.existsUnique faithful (Set.mem_univ K)⟩
  obtain ⟨K, -, hHK⟩ := hperm.consists H hH
  exact ⟨K, hHK⟩

/-- Both searches through a valid group list its subgroups, and so the same sets. -/
theorem lists_allSubgroups (G : ValidGroup) (limit : Value)
    (hlimit : limit.before (Value.ofNat G.order) = .ok false) :
    ∃ cyclic brute,
      (G.toFiniteGroup.candidate.allSubgroups .cyclic limit).outcome = .ok cyclic ∧
      (G.toFiniteGroup.candidate.allSubgroups .brute limit).outcome = .ok brute ∧
      G.Lists cyclic ∧ G.Lists brute ∧
      (∀ H ∈ cyclic, ∃ K ∈ brute, H.elements.sameSet K.elements = true) ∧
      (∀ K ∈ brute, ∃ H ∈ cyclic, K.elements.sameSet H.elements = true) := by
  obtain ⟨joins, hjoins, hcollects⟩ := G.realizes.allJoins_spec
  obtain ⟨closed, hclosed, hcollects'⟩ := G.realizes.allClosed_spec
  obtain ⟨cyclic, hcyclic, hlists⟩ := exists_allSubgroups hlimit hcollects (.inl ⟨rfl, hjoins⟩)
  obtain ⟨brute, hbrute, hlists'⟩ := exists_allSubgroups hlimit hcollects' (.inr ⟨rfl, hclosed⟩)
  exact ⟨cyclic, brute, hcyclic, hbrute, hlists, hlists', fun _ => hlists.exists_sameSet hlists',
    fun _ => hlists'.exists_sameSet hlists⟩

/-- The residues modulo six are few enough for a search below six. -/
theorem lists_allSubgroups_residues :
    (Value.int 6).before (Value.ofNat (residues 6).order) = .ok false ∧
    ∃ cyclic brute,
      ((residues 6).candidate.allSubgroups .cyclic (.int 6)).outcome = .ok cyclic ∧
      ((residues 6).candidate.allSubgroups .brute (.int 6)).outcome = .ok brute ∧
      (validResidues (n := 6) (by decide) (by decide)).Lists cyclic ∧
      (validResidues (n := 6) (by decide) (by decide)).Lists brute := by
  have hlimit : (Value.int 6).before (Value.ofNat (residues 6).order) = .ok false := by
    rw [order, els_residues (by decide), List.length_map, List.length_range, Value.before.eq_def]
    rfl
  obtain ⟨cyclic, brute, hcyclic, hbrute, h, h', -, -⟩ :=
    lists_allSubgroups (validResidues (n := 6) (by decide) (by decide)) (.int 6) hlimit
  exact ⟨hlimit, cyclic, brute, hcyclic, hbrute, h, h'⟩

end ValidGroup

end FiniteGroups
