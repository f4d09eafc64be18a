import FiniteGroups.Proofs.Collection
import Mathlib.Algebra.Group.Subgroup.Finite
import Mathlib.Data.SetLike.Fintype

/-!
# The search by joins

The search starts from the cyclic subgroups and the group itself. A round joins the cyclic
subgroups to the subgroups that the last round found, except to the whole group, and keeps what is
new. `Frontier` is what holds between two rounds: a subgroup that is not on the boundary has all
its joins with cyclic subgroups among those found. Since a round that goes on finds a subgroup
and there are finitely many, the search ends; then what was found is closed under joins with
cyclic subgroups, and every subgroup is such a join of joins (`eq_univ_of_joins`). So
`Carries.allJoins_spec` says that all subgroups are found, each of them once.
-/

set_option linter.unusedSectionVars false

namespace FiniteGroups

namespace FiniteGroup

variable {M : Type} [Group M] {R : Value → M → Prop} {G : FiniteGroup}

/-- A set of subgroups that contains the cyclic ones and their joins with its members contains
all subgroups. -/
theorem eq_univ_of_joins [Finite M] {P : Set (Subgroup M)}
    (hcyclic : ∀ x : M, Subgroup.zpowers x ∈ P)
    (hjoin : ∀ K ∈ P, ∀ x : M, K ⊔ Subgroup.zpowers x ∈ P) : P = Set.univ := by
  refine Set.eq_univ_of_forall fun K => ?_
  -- a largest member of `P` below `K` is `K` itself
  have hfinite : {J | J ∈ P ∧ J ≤ K}.Finite := Set.toFinite _
  obtain ⟨J, ⟨hJP, hJK⟩, hmax⟩ :=
    hfinite.exists_maximal ⟨Subgroup.zpowers 1, hcyclic 1, by simp⟩
  suffices hKJ : K ≤ J by rwa [le_antisymm hKJ hJK]
  intro x hx
  have hle : J ⊔ Subgroup.zpowers x ≤ J :=
    hmax ⟨hjoin J hJP x, sup_le hJK (Subgroup.zpowers_le.2 hx)⟩ le_sup_left
  exact Subgroup.zpowers_le.1 (le_sup_right.trans hle)

/-! ## One round -/

/-- The state within a round that began with the subgroups in `P₀` : all subgroups found are those
in `P`, and those found in this round are kept for the next one, except for the whole group. -/
structure Joining (R : Value → M → Prop) (P₀ P : Set (Subgroup M)) (joins : Joins) : Prop where
  collects : Collects R joins.found.toList P
  fresh : Collects R joins.fresh.toList ((P \ P₀) \ {⊤})
  spanned : ∀ H ∈ joins.fresh.toList, ∃ K, Spanned R H K
  subset : P₀ ⊆ P

namespace Joining

variable {P₀ P : Set (Subgroup M)} {joins : Joins} {J : FiniteGroup} {K : Subgroup M}

theorem collects_push (h : Joining R P₀ P joins) (hR : Faithful R) (hJ : Spanned R J K)
    (hnew : K ∉ P) : Collects R (joins.found.push J).toList (insert K P) := by
  rw [Array.toList_push]
  exact h.collects.concat hR hJ.consists hnew

/-- A proper subgroup that is new is kept for the next round. -/
theorem push (h : Joining R P₀ P joins) (hR : Faithful R) (hJ : Spanned R J K) (hnew : K ∉ P)
    (hne : K ≠ ⊤) : Joining R P₀ (insert K P) ⟨joins.found.push J, joins.fresh.push J⟩ where
  collects := h.collects_push hR hJ hnew
  fresh := by
    rw [Set.insert_sdiff_of_notMem _ fun h₀ => hnew (h.subset h₀),
      Set.insert_sdiff_of_notMem _ (Set.notMem_singleton_iff.2 hne), Array.toList_push]
    exact h.fresh.concat hR hJ.consists fun hmem => hnew hmem.1.1
  spanned H hH := by
    rw [Array.toList_push, List.mem_append, List.mem_singleton] at hH
    rcases hH with hH | rfl
    · exact h.spanned H hH
    · exact ⟨K, hJ⟩
  subset := h.subset.trans (Set.subset_insert K P)

/-- The whole group is found, but not kept. -/
theorem push_top (h : Joining R P₀ P joins) (hR : Faithful R) (hJ : Spanned R J K) (hnew : K ∉ P)
    (htop : K = ⊤) : Joining R P₀ (insert K P) ⟨joins.found.push J, joins.fresh⟩ where
  collects := h.collects_push hR hJ hnew
  fresh := by
    rw [Set.insert_sdiff_of_notMem _ fun h₀ => hnew (h.subset h₀),
      Set.insert_sdiff_of_mem _ (Set.mem_singleton_iff.2 htop)]
    exact h.fresh
  spanned := h.spanned
  subset := h.subset.trans (Set.subset_insert K P)

end Joining

namespace Carries

variable (hG : G.Carries R)
include hG

theorem order_lt_iff {H : FiniteGroup} {K : Subgroup M} (h : Consists R H K) :
    H.order < G.order ↔ K ≠ ⊤ := by
  have := hG.finite
  rw [h.order_eq hG.faithful, hG.order_eq]
  constructor
  · rintro hlt rfl
    rw [Subgroup.coe_top, Set.ncard_univ] at hlt
    exact lt_irrefl _ hlt
  · intro hne
    exact Set.ncard_lt_card fun htop => hne (SetLike.coe_injective htop)

/-- The generators of two subgroups span their join. -/
theorem exists_join {H C : FiniteGroup} {K L : Subgroup M} (hH : Spanned R H K)
    (hC : Spanned R C L) : ∃ found els J,
      (spanned (H.gens.listed ++ C.gens.listed) G.mul none .none unlimited).outcome = .ok found ∧
      Value.distinct found = .ok els ∧ Standing R els.toList ∧
      extent R els.toList = (K ⊔ L : Subgroup M) ∧
      G.spannedBy (H.gens.listed ++ C.gens.listed) els = .ok J ∧ Spanned R J (K ⊔ L) := by
  refine hG.exists_spanned (hH.standing_gens.append hC.standing_gens) (by simp [hH.gens_ne]) ?_
  rw [extent_append, Subgroup.closure_union, hH.closure_gens, hC.closure_gens]

/-- A join that was found before is not added. -/
theorem addJoin_of_mem {H C : FiniteGroup} {K L : Subgroup M} (hH : Spanned R H K)
    (hC : Spanned R C L) {P : Set (Subgroup M)} {joins : Joins}
    (h : Collects R joins.found.toList P) (hmem : K ⊔ L ∈ P) :
    (G.addJoin H joins C).outcome = .ok joins := by
  rw [addJoin]
  have hsubset := hC.consists.subset_iff hG.faithful hH.consists
  by_cases hle : L ≤ K
  · rw [if_pos (hsubset.2 hle)]
    rfl
  rw [if_neg (mt hsubset.1 hle)]
  obtain ⟨found, els, -, hfound, hels, hstand, hextent, -⟩ := hG.exists_join hH hC
  simp [hfound, hels, (h.holds_iff hG.faithful hstand hextent).2 hmem]

/-- The join of two subgroups is found, if it was not found before. -/
theorem addJoin_spec {H C : FiniteGroup} {K L : Subgroup M} (hH : Spanned R H K)
    (hC : Spanned R C L) {P₀ P : Set (Subgroup M)} {joins : Joins}
    (h : Joining R P₀ P joins) (hK : K ∈ P) :
    ∃ next, (G.addJoin H joins C).outcome = .ok next ∧
      Joining R P₀ (insert (K ⊔ L) P) next := by
  by_cases hold : K ⊔ L ∈ P
  · rw [Set.insert_eq_of_mem hold]
    exact ⟨joins, hG.addJoin_of_mem hH hC h.collects hold, h⟩
  have hle : ¬L ≤ K := fun hle => hold (by rwa [sup_eq_left.2 hle])
  rw [addJoin, if_neg (mt (hC.consists.subset_iff hG.faithful hH.consists).1 hle)]
  obtain ⟨found, els, J, hfound, hels, hstand, hextent, hJ, hspanned⟩ := hG.exists_join hH hC
  have hnew : holds joins.found els = false := by
    rwa [← Bool.not_eq_true, h.collects.holds_iff hG.faithful hstand hextent]
  have horder := hG.order_lt_iff hspanned.consists
  by_cases htop : K ⊔ L = ⊤
  · refine ⟨_, ?_, h.push_top hG.faithful hspanned hold htop⟩
    simp [hfound, hels, hnew, hJ, horder, htop]
  · refine ⟨_, ?_, h.push hG.faithful hspanned hold htop⟩
    simp [hfound, hels, hnew, hJ, horder, htop]

/-- All cyclic subgroups are joined to one subgroup. -/
theorem addJoins_spec {H : FiniteGroup} {K : Subgroup M} (hH : Spanned R H K)
    {cyclic : List FiniteGroup} {C : Set (Subgroup M)} (hC : Collects R cyclic C)
    (hgens : ∀ H ∈ cyclic, ∃ L, Spanned R H L) {P₀ P : Set (Subgroup M)} {joins : Joins}
    (h : Joining R P₀ P joins) (hK : K ∈ P) :
    ∃ next, (Report.fold (G.addJoin H) joins cyclic).outcome = .ok next ∧
      Joining R P₀ (P ∪ (K ⊔ ·) '' C) next := by
  rw [Report.outcome_fold, ← hC.subgroups_eq]
  refine exists_foldlM (fun met joins => Joining R P₀ (P ∪ (K ⊔ ·) '' subgroups R met) joins) ?_ ?_
  · rintro met D rest joins hcyclic hjoins
    obtain ⟨L, hD⟩ := hgens D (by rw [← hcyclic]; simp)
    obtain ⟨next, hnext, hadded⟩ := hG.addJoin_spec hH hD hjoins (Or.inl hK)
    refine ⟨next, hnext, ?_⟩
    rwa [subgroups_append, hD.consists.subgroups_singleton, Set.image_union, Set.image_singleton,
      ← Set.union_assoc, Set.union_singleton]
  · simpa using h

/-- A round joins all cyclic subgroups to all subgroups of the boundary. -/
theorem joinRound_spec {boundary cyclic : List FiniteGroup} {B C P : Set (Subgroup M)}
    (hB : Collects R boundary B) (hBgens : ∀ H ∈ boundary, ∃ K, Spanned R H K) (hBP : B ⊆ P)
    (hC : Collects R cyclic C) (hCgens : ∀ H ∈ cyclic, ∃ L, Spanned R H L)
    {found : Array FiniteGroup} (hfound : Collects R found.toList P) :
    ∃ joins, (G.joinRound cyclic boundary found).outcome = .ok joins ∧
      Joining R P (P ∪ Set.image2 (· ⊔ ·) B C) joins := by
  rw [joinRound, Report.outcome_fold, ← hB.subgroups_eq]
  refine exists_foldlM (fun met joins =>
    Joining R P (P ∪ Set.image2 (· ⊔ ·) (subgroups R met) C) joins) ?_ ?_
  · rintro met H rest joins hboundary hjoins
    have hmem : H ∈ boundary := by
      rw [← hboundary]
      simp
    obtain ⟨K, hH⟩ := hBgens H hmem
    have hK : K ∈ P := hBP (hB.mem hmem hH.consists)
    obtain ⟨next, hnext, hadded⟩ := hG.addJoins_spec hH hC hCgens hjoins (Or.inl hK)
    refine ⟨next, hnext, ?_⟩
    rwa [subgroups_append, hH.consists.subgroups_singleton, Set.image2_union_left,
      Set.image2_singleton_left, ← Set.union_assoc]
  · refine ⟨?_, ?_, by simp, by simp⟩
    · simpa using hfound
    · simpa using Collects.nil

end Carries

/-! ## All rounds -/

/-- The state between two rounds: all subgroups found are those in `P`, and those on the boundary
are the ones in `B`. -/
structure Frontier (R : Value → M → Prop) (boundary : List FiniteGroup)
    (found : Array FiniteGroup) (B P : Set (Subgroup M)) : Prop where
  collects : Collects R found.toList P
  collects_boundary : Collects R boundary B
  spanned : ∀ H ∈ boundary, ∃ K, Spanned R H K
  subset : B ⊆ P
  cyclic : ∀ x : M, Subgroup.zpowers x ∈ P
  top : ⊤ ∈ P
  /-- What is not on the boundary has its joins with cyclic subgroups among what was found. -/
  joined : ∀ K ∈ P, K ∉ B → ∀ x : M, K ⊔ Subgroup.zpowers x ∈ P

namespace Frontier

variable {boundary : List FiniteGroup} {found : Array FiniteGroup} {B P : Set (Subgroup M)}

/-- A round joins cyclic subgroups to the boundary, and what is new becomes the next boundary. -/
theorem round (h : Frontier R boundary found B P) {joins : Joins}
    (hjoins : Joining R P
      (P ∪ Set.image2 (· ⊔ ·) B (Set.range (Subgroup.zpowers (G := M)))) joins) :
    Frontier R joins.fresh.toList joins.found
      (((P ∪ Set.image2 (· ⊔ ·) B (Set.range (Subgroup.zpowers (G := M)))) \ P) \ {⊤})
      (P ∪ Set.image2 (· ⊔ ·) B (Set.range (Subgroup.zpowers (G := M)))) where
  collects := hjoins.collects
  collects_boundary := hjoins.fresh
  spanned := hjoins.spanned
  subset _ hK := hK.1.1
  cyclic x := Or.inl (h.cyclic x)
  top := Or.inl h.top
  joined K hK hnew x := by
    by_cases htop : K = ⊤
    · rw [htop, top_sup_eq]
      exact Or.inl h.top
    -- what is neither new nor the whole group was there before the round
    have hKP : K ∈ P := by
      by_contra hKP
      exact hnew ⟨⟨hK, hKP⟩, htop⟩
    by_cases hKB : K ∈ B
    · exact Or.inr ⟨K, hKB, _, ⟨x, rfl⟩, rfl⟩
    · exact Or.inl (h.joined K hKP hKB x)

/-- Without a boundary all subgroups were found. -/
theorem eq_univ [Finite M] (h : Frontier R [] found B P) : P = Set.univ := by
  have hB : B = ∅ := by
    rw [← h.collects_boundary.subgroups_eq, subgroups_nil]
  refine eq_univ_of_joins h.cyclic fun K hK x => h.joined K hK ?_ x
  simp [hB]

end Frontier

namespace Carries

variable (hG : G.Carries R)
include hG

/-- From any state the rounds come to an end, and then all subgroups were found. -/
theorem joinRounds_spec {cyclic : List FiniteGroup}
    (hC : Collects R cyclic (Set.range (Subgroup.zpowers (G := M))))
    (hCgens : ∀ H ∈ cyclic, ∃ L, Spanned R H L) (text : String) {boundary : List FiniteGroup}
    {found : Array FiniteGroup} {B P : Set (Subgroup M)} (h : Frontier R boundary found B P) :
    ∃ report last, G.joinRounds cyclic text boundary found = some ⟨report, .ok last⟩ ∧
      Collects R last.toList Set.univ := by
  have := hG.finite
  have hend : ∀ text {found : Array FiniteGroup} {B P : Set (Subgroup M)},
      Frontier R [] found B P → ∃ report last,
        G.joinRounds cyclic text [] found = some ⟨report, .ok last⟩ ∧
          Collects R last.toList Set.univ := by
    intro text found B P h
    rw [joinRounds, if_pos List.isEmpty_nil]
    exact ⟨_, found, rfl, h.eq_univ ▸ h.collects⟩
  -- a round that goes on finds a subgroup, and there are finitely many
  induction hn : Nat.card (Subgroup M) - P.ncard using Nat.strong_induction_on
    generalizing boundary found B P text with
  | _ n ih =>
    by_cases hempty : boundary = []
    · subst hempty
      exact hend text h
    obtain ⟨joins, hrun, hjoins⟩ :=
      hG.joinRound_spec h.collects_boundary h.spanned h.subset hC hCgens h.collects
    rw [joinRounds, if_neg (by simpa using hempty)]
    simp only [hrun]
    have hnext := h.round hjoins
    by_cases hfresh : joins.fresh.toList = []
    · rw [hfresh] at hnext ⊢
      exact hend _ hnext
    · obtain ⟨H, hH⟩ := List.exists_mem_of_ne_nil _ hfresh
      obtain ⟨K, hK, -⟩ := hnext.collects_boundary.consists H hH
      have hlt : P.ncard < _ := Set.ncard_lt_ncard (hjoins.subset.ssubset_of_not_subset
        fun hsub => hK.1.2 (hsub hK.1.1))
      have hle := Set.ncard_le_card (P ∪ Set.image2 (· ⊔ ·) B
        (Set.range (Subgroup.zpowers (G := M))))
      exact ih _ (by omega) _ hnext rfl

/-- Before the first round the whole group is added, unless it is cyclic. -/
theorem exists_start {cyclic : List FiniteGroup} {C : Set (Subgroup M)} (hC : Collects R cyclic C) :
    ∃ start : Array FiniteGroup,
      (if holds cyclic.toArray G.elements then pure cyclic.toArray
        else return cyclic.toArray.push (← G.subgroup G.els G.gens .none) :
          Except Fault (Array FiniteGroup)) = .ok start ∧
      Collects R start.toList (insert ⊤ C) := by
  have hall : extent R G.elements.toList = (⊤ : Subgroup M) := by
    rw [hG.extent_eq, Subgroup.coe_top]
  have hholds : holds cyclic.toArray G.elements = true ↔ ⊤ ∈ C :=
    Collects.holds_iff hG.faithful hC hG.standing hall
  by_cases htop : ⊤ ∈ C
  · refine ⟨cyclic.toArray, by rw [if_pos (hholds.2 htop)]; rfl, ?_⟩
    rwa [Set.insert_eq_of_mem htop]
  · obtain ⟨r, hr, hstand, hextent⟩ := hG.subgroup_spec hG.standing_els G.gens .none
    have hconsists := hG.consists_subgroupOf hstand G.gens .none
    rw [hextent, hG.els_eq, hall] at hconsists
    refine ⟨cyclic.toArray.push (G.subgroupOf r G.gens .none), ?_, ?_⟩
    · rw [if_neg (mt hholds.1 htop), hr]
      rfl
    · rw [Array.toList_push]
      exact hC.concat hG.faithful hconsists htop

/-- The first boundary consists of the proper cyclic subgroups. -/
theorem frontier_start {cyclic : List FiniteGroup} {start : Array FiniteGroup}
    (hC : Collects R cyclic (Set.range (Subgroup.zpowers (G := M))))
    (hCgens : ∀ H ∈ cyclic, ∃ L, Spanned R H L)
    (hstart : Collects R start.toList (insert ⊤ (Set.range (Subgroup.zpowers (G := M))))) :
    Frontier R (cyclic.filter fun H => H.order < G.order) start
      (Set.range (Subgroup.zpowers (G := M)) ∩ {⊤}ᶜ)
      (insert ⊤ (Set.range (Subgroup.zpowers (G := M)))) where
  collects := hstart
  collects_boundary := hC.filter _ fun H _ K hHK => by simpa using hG.order_lt_iff hHK
  spanned H hH := hCgens H (List.mem_filter.1 hH).1
  subset K hK := Or.inr hK.1
  cyclic x := Or.inr ⟨x, rfl⟩
  top := Or.inl rfl
  joined K hK hnew x := by
    by_cases htop : K = ⊤
    · rw [htop, top_sup_eq]
      exact Or.inl rfl
    · exact absurd ⟨hK.resolve_left htop, htop⟩ hnew

/-- The search by joins finds all subgroups, each of them once. -/
theorem allJoins_spec : ∃ found, G.allJoins.outcome = .ok found ∧
    Collects R found (Set.univ : Set (Subgroup M)) := by
  obtain ⟨cyclic, hcyclic, hC, hCgens⟩ := hG.cyclicSubgroups_spec
  obtain ⟨start, hstart, hcollects⟩ := hG.exists_start hC
  obtain ⟨report, found, hrun, hfound⟩ :=
    hG.joinRounds_spec hC hCgens "" (hG.frontier_start hC hCgens hcollects)
  refine ⟨found.toList, ?_, hfound⟩
  simp only [allJoins, Report.outcome_bind, outcome_liftM, hcyclic, ok_bind, hstart, hrun,
    Report.ended, Option.getD_some, Report.outcome_say, Report.outcome_pure]

end Carries

theorem Realizes.allJoins_spec (hG : G.Realizes R) : ∃ found, G.allJoins.outcome = .ok found ∧
    Collects R found (Set.univ : Set (Subgroup M)) :=
  hG.carries.allJoins_spec

end FiniteGroup

end FiniteGroups
