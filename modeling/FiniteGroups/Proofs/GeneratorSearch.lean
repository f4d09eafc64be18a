import FiniteGroups.Proofs.SubgroupSearches

/-!
# The search by generators

The search closes all choices of at most `k` elements other than the identity. It finds the
subgroups that have at most `k` generators, each of them once (`Realizes.allSpans_spec`), and
misses all others.

How many generators a subgroup needs is bounded by its order. As long as some elements do not
generate a subgroup, another one can be added to them, and what they generate becomes at least
twice as large. So a subgroup of less than `2 ^ (k + 1)` elements has at most `k` generators
(`Generable.of_card_lt`), and in a group that is as small the search misses nothing.
-/

set_option linter.unusedSectionVars false

namespace FiniteGroups

open FiniteGroup

variable {M : Type} [Group M]

/-! ## The number of generators -/

/-- The subgroup has at most `n` generators. -/
def Generable (n : Nat) (K : Subgroup M) : Prop :=
  ∃ S : Finset M, S.card ≤ n ∧ Subgroup.closure (S : Set M) = K

/-- A larger subgroup is at least twice as large. -/
theorem two_mul_card_le_of_lt [Finite M] {J K : Subgroup M} (h : J < K) :
    2 * Nat.card J ≤ Nat.card K := by
  obtain ⟨c, hc⟩ := Subgroup.card_dvd_of_le h.le
  have hpos := Nat.card_pos (α := K)
  have hone : c ≠ 1 := by
    rintro rfl
    exact h.ne (Subgroup.eq_of_le_of_card_ge h.le (by omega))
  have htwo : 2 ≤ c := by
    rcases c with _ | _ | c
    · omega
    · contradiction
    · omega
  rw [hc, mul_comm]
  exact Nat.mul_le_mul_left _ htwo

/-- A subgroup without `n` generators has as many elements that generate a smaller subgroup, in
which each of them doubles the order. -/
theorem exists_of_not_generable [Finite M] {n : Nat} {K : Subgroup M} (h : ¬Generable n K) :
    ∃ S : Finset M, S.card ≤ n ∧ Subgroup.closure (S : Set M) < K ∧
      2 ^ n ≤ Nat.card (Subgroup.closure (S : Set M)) := by
  classical
  induction n with
  | zero =>
    refine ⟨∅, le_rfl, lt_of_le_of_ne (by simp) fun heq => h ⟨∅, le_rfl, heq⟩, ?_⟩
    exact Nat.card_pos
  | succ n ih =>
    obtain ⟨S, hS, hlt, hcard⟩ := ih fun ⟨S, hS, heq⟩ => h ⟨S, hS.trans n.le_succ, heq⟩
    obtain ⟨x, hxK, hx⟩ := SetLike.exists_of_lt hlt
    have hS' : (insert x S).card ≤ n + 1 := (Finset.card_insert_le x S).trans (by omega)
    have hle : Subgroup.closure ((insert x S : Finset M) : Set M) ≤ K := by
      rw [Finset.coe_insert, Subgroup.closure_le, Set.insert_subset_iff]
      exact ⟨hxK, (Subgroup.subset_closure).trans hlt.le⟩
    have hgrows : Subgroup.closure (S : Set M) <
        Subgroup.closure ((insert x S : Finset M) : Set M) := by
      refine lt_of_le_not_ge (Subgroup.closure_mono (by simp)) fun hge => hx (hge ?_)
      exact Subgroup.subset_closure (by simp)
    have hdouble := two_mul_card_le_of_lt hgrows
    exact ⟨_, hS', lt_of_le_of_ne hle fun heq => h ⟨_, hS', heq⟩, by omega⟩

/-- A subgroup has fewer generators than its order has binary digits. -/
theorem Generable.of_card_lt [Finite M] {n : Nat} {K : Subgroup M} (h : Nat.card K < 2 ^ (n + 1)) :
    Generable n K := by
  by_contra hnot
  obtain ⟨S, -, hlt, hcard⟩ := exists_of_not_generable hnot
  have hdouble := two_mul_card_le_of_lt hlt
  omega

/-! ## The search -/

namespace FiniteGroup.Realizes

variable {R : Value → M → Prop} {G : FiniteGroup} (hG : G.Realizes R)
include hG

/-- What some elements generate is found, if it was not found before. -/
theorem addSpan_spec {gens : List Value} (hgens : ∀ g ∈ gens, G.Invertible R g)
    {found : Array FiniteGroup} {P : Set (Subgroup M)} (h : Collects R found.toList P) :
    ∃ next, (G.addSpan found gens).outcome = .ok next ∧
      Collects R next.toList (insert (Subgroup.closure (extent R gens)) P) := by
  obtain ⟨closure, els, hclosure, hels, hstand, hextent⟩ := hG.exists_closure hgens
  have hnew := h.holds_iff hG.faithful hstand hextent
  by_cases hmem : Subgroup.closure (extent R gens) ∈ P
  · refine ⟨found, by simp [addSpan, hclosure, hels, hnew.2 hmem], ?_⟩
    rwa [Set.insert_eq_of_mem hmem]
  · have hconsists := hG.consists_subgroupOf hstand (.list 0 gens) .none
    rw [hextent] at hconsists
    refine ⟨found.push (G.subgroupOf els (.list 0 gens) .none), ?_, ?_⟩
    · simp [addSpan, hclosure, hels, Bool.eq_false_iff.2 (mt hnew.1 hmem), spannedBy,
        hG.carries.requireIdentity_eq hstand]
    · rw [Array.toList_push]
      exact h.concat hG.faithful hconsists hmem

/-- What each of some choices generates is found. -/
theorem addSpans_spec {choices : List (List Value)}
    (hchoices : ∀ s ∈ choices, ∀ g ∈ s, G.Invertible R g) {found : Array FiniteGroup}
    {P : Set (Subgroup M)} (h : Collects R found.toList P) :
    ∃ next, (Report.fold G.addSpan found choices).outcome = .ok next ∧ Collects R next.toList
      (P ∪ {K | ∃ s ∈ choices, Subgroup.closure (extent R s) = K}) := by
  rw [Report.outcome_fold]
  refine exists_foldlM (fun met (found : Array FiniteGroup) => Collects R found.toList
    (P ∪ {K | ∃ s ∈ met, Subgroup.closure (extent R s) = K})) ?_ (by simpa using h)
  rintro met s rest found rfl hfound
  obtain ⟨next, hnext, hcollects⟩ := hG.addSpan_spec (hchoices s (by simp)) hfound
  refine ⟨next, hnext, ?_⟩
  convert hcollects using 1
  ext K
  simp [or_and_right, exists_or, or_left_comm, or_comm, eq_comm]

/-- The choices of at most `n` elements generate the subgroups with at most `n` generators. -/
theorem generable_iff {n : Nat} {K : Subgroup M} :
    Generable n K ↔ ∃ s, G.Chosen s ∧ s.length ≤ n ∧ Subgroup.closure (extent R s) = K := by
  have hlength : ∀ {s}, G.Chosen s → (extent R s).ncard = s.length := fun {s} hs =>
    hG.faithful.ncard_extent_of_pairwise
      (hG.standing.mono fun a ha => hG.mem_of_chosen hs a (List.mem_cons_of_mem _ ha))
      (List.pairwise_cons.1 (hG.pairwise_of_chosen hs)).2
  have := hG.finite
  constructor
  · rintro ⟨S, hS, rfl⟩
    obtain ⟨s, hs, hextent⟩ := hG.exists_chosen_extent (S : Set M)
    refine ⟨s, hs, ?_, by rw [hextent, Subgroup.closure_sdiff_one]⟩
    calc s.length = ((S : Set M) \ {1}).ncard := by rw [← hlength hs, hextent]
      _ ≤ (S : Set M).ncard := Set.ncard_le_ncard Set.sdiff_subset
      _ ≤ n := by rwa [Set.ncard_coe_finset]
  · rintro ⟨s, hs, hn, rfl⟩
    have hfinite := Set.toFinite (extent R s)
    refine ⟨hfinite.toFinset, ?_, by rw [Set.Finite.coe_toFinset]⟩
    rwa [← Set.ncard_eq_toFinset_card _ hfinite, hlength hs]

/-- The search by generators finds the subgroups with few generators, each of them once. -/
theorem allSpans_spec (n : Nat) : ∃ found,
    (G.allSpans (G.els.filter fun g => !(g == G.identity)) (List.range (n + 1))).outcome =
      .ok found ∧ Collects R found {K | Generable n K} := by
  have hchosen : ∀ {s}, s ∈ (List.range (n + 1)).flatMap
      (combinations (G.els.filter fun g => !(g == G.identity))) ↔ G.Chosen s ∧ s.length ≤ n := by
    intro s
    simp only [List.mem_flatMap, List.mem_range, mem_combinations]
    constructor
    · rintro ⟨r, hr, hs, rfl⟩
      exact ⟨hs, by omega⟩
    · rintro ⟨hs, hn⟩
      exact ⟨s.length, by omega, hs, rfl⟩
  obtain ⟨found, hfound, hcollects⟩ := hG.addSpans_spec
    (fun s hs g hg => hG.invertible_of_mem
      (hG.mem_of_chosen (hchosen.1 hs).1 g (List.mem_cons_of_mem _ hg))) .nil
  refine ⟨found.toList, ?_, ?_⟩
  · simp only [Report.outcome_fold, foldlM_flatMap] at hfound
    simp only [allSpans, Report.outcome_bind, Report.outcome_fold, Report.outcome_say,
      Report.outcome_pure, hfound, ok_bind]
  · convert hcollects using 1
    ext K
    simp only [Set.mem_ofPred_eq, Set.empty_union, hG.generable_iff, hchosen, and_assoc]

end FiniteGroup.Realizes

/-! ## Valid groups -/

namespace ValidGroup

variable (G : ValidGroup)

/-- The list contains the subgroups with at most `n` generators, each of them once. -/
structure ListsGenerable (n : Nat) (found : List FiniteGroup) : Prop where
  consists : ∀ H ∈ found, ∃ K : Subgroup G.Element, Generable n K ∧ Consists G.Stands H K
  existsUnique : ∀ K : Subgroup G.Element, Generable n K →
    ∃! i, Consists G.Stands (found.get i) K

/-- The two lists have the same sets of elements. -/
def SameSets (found found' : List FiniteGroup) : Prop :=
  (∀ H ∈ found, ∃ K ∈ found', H.elements.sameSet K.elements = true) ∧
    ∀ K ∈ found', ∃ H ∈ found, K.elements.sameSet H.elements = true

variable {G}

/-- The search by generators lists the subgroups with at most `n` generators. If the order of the
group is small enough these are all subgroups. -/
theorem listsGenerable_genSubgroups (G : ValidGroup) {k limit : Value} {n : Nat}
    (hk : k.index = .ok (n : Int)) (hlimit : limit.before (Value.ofNat G.order) = .ok false) :
    ∃ found, (G.candidate.genSubgroups k limit).outcome = .ok found ∧
      G.ListsGenerable n found ∧
      (G.order < 2 ^ (n + 1) → ∃ all,
        (G.candidate.allSubgroups .cyclic limit).outcome = .ok all ∧ SameSets found all) := by
  have hG := G.realizes
  have := hG.finite
  obtain ⟨found, hfound, hcollects⟩ := hG.allSpans_spec n
  have hlists : G.ListsGenerable n found :=
    ⟨hcollects.consists, fun K hK => hcollects.existsUnique faithful hK⟩
  refine ⟨found, ?_, hlists, fun hsmall => ?_⟩
  · simp only [Candidate.genSubgroups, candidate, Candidate.group, Report.outcome_bind,
      outcome_liftM, ok_bind, refuseAbove_eq hlimit, hG.others_eq]
    split
    · cases hk
    · rw [hk, ok_bind]
      exact hfound
  · obtain ⟨joins, hjoins, hcollects'⟩ := hG.allJoins_spec
    obtain ⟨all, hall, hlistsAll⟩ := exists_allSubgroups hlimit hcollects' (.inl ⟨rfl, hjoins⟩)
    refine ⟨all, hall, fun H hH => ?_, fun H hH => ?_⟩
    · obtain ⟨K, -, hHK⟩ := hlists.consists H hH
      obtain ⟨i, hi, -⟩ := hlistsAll.existsUnique K
      exact ⟨all[i], List.getElem_mem i.2, (hHK.sameSet_iff faithful hi).2 rfl⟩
    · obtain ⟨K, hHK⟩ := hlistsAll.consists H hH
      have hcard : Nat.card K < 2 ^ (n + 1) := by
        rw [hG.order_eq] at hsmall
        exact (Subgroup.card_le_card_group K).trans_lt hsmall
      obtain ⟨i, hi, -⟩ := hlists.existsUnique K (.of_card_lt hcard)
      exact ⟨found.get i, List.get_mem found i, (hHK.sameSet_iff faithful hi).2 rfl⟩

/-- Of the residues modulo six all subgroups have at most two generators. -/
theorem listsGenerable_genSubgroups_residues :
    (Value.int 2).index = .ok ((2 : Nat) : Int) ∧
    (Value.int 6).before
      (Value.ofNat (validResidues (n := 6) (by decide) (by decide)).order) = .ok false ∧
    ∃ found all,
      ((validResidues (n := 6) (by decide) (by decide)).candidate.genSubgroups (.int 2)
        (.int 6)).outcome = .ok found ∧
      (validResidues (n := 6) (by decide) (by decide)).ListsGenerable 2 found ∧
      ((validResidues (n := 6) (by decide) (by decide)).candidate.allSubgroups .cyclic
        (.int 6)).outcome = .ok all ∧ SameSets found all := by
  have hk : (Value.int 2).index = .ok ((2 : Nat) : Int) := rfl
  have hlimit : (Value.int 6).before
      (Value.ofNat (validResidues (n := 6) (by decide) (by decide)).order) = .ok false := by
    rw [order_validResidues, Value.before.eq_def]
    rfl
  obtain ⟨found, hfound, hlists, hall⟩ :=
    listsGenerable_genSubgroups (validResidues (n := 6) (by decide) (by decide)) hk hlimit
  obtain ⟨all, hall, hsame⟩ := hall (by rw [order_validResidues]; decide)
  exact ⟨hk, hlimit, found, all, hfound, hlists, hall, hsame⟩

end ValidGroup

end FiniteGroups
