import FiniteGroups.Proofs.Joins

/-!
# The search in a cyclic group

If every subgroup is cyclic, the subgroups that are found are the ones that single elements
generate, and no join is new (`Realizes.allJoins_of_cyclic`). Each of them was spanned by an
element as it is listed in the group (`exists_generator`).
-/

set_option linter.unusedSectionVars false

namespace FiniteGroups

namespace FiniteGroup

variable {M : Type} [Group M] {R : Value → M → Prop} {G : FiniteGroup}

/-- A cyclic subgroup as it is listed consists of what one element spans. -/
def SpannedByElement (G H : FiniteGroup) : Prop :=
  ∃ g ∈ G.els, ∃ powers els, (spanned [g] G.mul none .none unlimited).outcome = .ok powers ∧
    Value.distinct powers = .ok els ∧ H.elements = els.promote G.identity

theorem exists_generator {cyclic : List FiniteGroup} (h : G.cyclicSubgroups = .ok cyclic) :
    ∀ H ∈ cyclic, G.SpannedByElement H := by
  obtain ⟨found, hfound, hreturn⟩ := bind_eq_ok.1 h
  obtain rfl := Except.ok.inj hreturn
  refine of_foldlM_eq_ok (fun found : Array FiniteGroup => ∀ H ∈ found.toList,
    G.SpannedByElement H) ?_ (by simp) hfound
  intro g hg found next hall hnext
  obtain ⟨powers, hpowers, hnext⟩ := bind_eq_ok.1 hnext
  obtain ⟨els, hels, hnext⟩ := bind_eq_ok.1 hnext
  split at hnext
  · obtain rfl := Except.ok.inj hnext
    exact hall
  · obtain ⟨K, hK, hnext⟩ := bind_eq_ok.1 hnext
    obtain rfl := Except.ok.inj hnext
    obtain ⟨-, -, hK⟩ := bind_eq_ok.1 hK
    obtain rfl := Except.ok.inj hK
    intro H hH
    rw [Array.toList_push, List.mem_append, List.mem_singleton] at hH
    obtain hH | rfl := hH
    · exact hall H hH
    · exact ⟨g, hg, powers, els, hpowers, hels, rfl⟩

namespace Realizes

variable (hG : G.Realizes R)
include hG

/-- If all subgroups were found, a round finds nothing. -/
theorem joinRound_of_univ {cyclic boundary : List FiniteGroup}
    (hC : ∀ H ∈ cyclic, ∃ K : Subgroup M, Spanned R H K)
    (hB : ∀ H ∈ boundary, ∃ K : Subgroup M, Spanned R H K) {found : Array FiniteGroup}
    (h : Collects R found.toList (Set.univ : Set (Subgroup M))) :
    (G.joinRound cyclic boundary found).outcome = .ok ⟨found, #[]⟩ := by
  rw [joinRound, Report.outcome_fold]
  refine foldlM_eq_self fun H hH => ?_
  rw [Report.outcome_fold]
  refine foldlM_eq_self fun C hC' => ?_
  obtain ⟨K, hHK⟩ := hB H hH
  obtain ⟨L, hCL⟩ := hC C hC'
  exact hG.carries.addJoin_of_mem hHK hCL h (Set.mem_univ _)

/-- If all subgroups were found, the rounds end. -/
theorem joinRounds_of_univ {cyclic boundary : List FiniteGroup}
    (hC : ∀ H ∈ cyclic, ∃ K : Subgroup M, Spanned R H K)
    (hB : ∀ H ∈ boundary, ∃ K : Subgroup M, Spanned R H K) {found : Array FiniteGroup}
    (h : Collects R found.toList (Set.univ : Set (Subgroup M))) (text : String) :
    ∃ report, G.joinRounds cyclic text boundary found = some ⟨report, .ok found⟩ := by
  have hend : ∀ text, G.joinRounds cyclic text [] found = some ⟨text, .ok found⟩ := fun text => by
    rw [joinRounds, if_pos List.isEmpty_nil]
  by_cases hempty : boundary = []
  · exact ⟨text, by rw [hempty, hend]⟩
  · rw [joinRounds, if_neg (by simpa using hempty)]
    simp only [hG.joinRound_of_univ hC hB h]
    exact ⟨_, hend _⟩

/-- In a group of which every subgroup is cyclic, no other ones are looked for. -/
theorem allJoins_of_cyclic (hcyclic : ∀ K : Subgroup M, ∃ x, Subgroup.zpowers x = K) :
    ∃ cyclic, G.cyclicSubgroups = .ok cyclic ∧ G.allJoins.outcome = .ok cyclic := by
  obtain ⟨cyclic, hsubs, hcollects, hgens⟩ := hG.carries.cyclicSubgroups_spec
  rw [Set.range_eq_univ.2 hcyclic] at hcollects
  have hholds : holds cyclic.toArray G.elements = true :=
    (Collects.holds_iff hG.faithful (K := ⊤) hcollects hG.consists.standing
      (by rw [hG.consists.extent_eq, Subgroup.coe_top])).2 (Set.mem_univ _)
  have hboundary : ∀ H ∈ cyclic.filter fun H => H.order < G.order,
      ∃ K : Subgroup M, Spanned R H K := fun H hH => hgens H (List.mem_filter.1 hH).1
  have hfound : Collects R cyclic.toArray.toList (Set.univ : Set (Subgroup M)) := hcollects
  obtain ⟨report, hrun⟩ := hG.joinRounds_of_univ hgens hboundary hfound ""
  have hstart : (if holds cyclic.toArray G.elements then pure cyclic.toArray
      else return cyclic.toArray.push (← G.subgroup G.els G.gens .none) :
        Except Fault (Array FiniteGroup)) = .ok cyclic.toArray := by
    rw [if_pos hholds]
    rfl
  refine ⟨cyclic, hsubs, ?_⟩
  simp only [allJoins, Report.outcome_bind, outcome_liftM, hsubs, ok_bind, hstart, hrun,
    Report.ended, Option.getD_some, Report.outcome_say, Report.outcome_pure]

end Realizes

end FiniteGroup

end FiniteGroups
