import FiniteGroups.Proofs.AllSubgroups
import FiniteGroups.Proofs.Frattini
import FiniteGroups.Proofs.Within

/-!
# What the searches make

The searches for subgroups make groups of the sets that they find and check none of them. The
search through all sets makes groups of elements as they are listed in `G`
(`ValidGroup.exists_bruteSubgroups`), the other searches of what generators span, which may be
written in another way, so that `G` must invert whatever is equal to an element
(`ValidGroup.exists_genSubgroups`, `ValidGroup.exists_cyclicSubgroups`,
`ValidGroup.exists_joinSubgroups`).
-/

set_option linter.unusedSectionVars false

namespace FiniteGroups

open FiniteGroup

/-- The limit of a search allows `n` elements. -/
def Permits (limit : Value) (n : Nat) : Prop :=
  limit = .none ∨ limit.before (Value.ofNat n) = .ok false

theorem Permits.refuseAbove_eq {limit : Value} {n : Nat} (h : Permits limit n)
    (fault : Nat → Int → Fault) : refuseAbove limit n fault = .ok () := by
  obtain rfl | h := h
  · rfl
  · exact FiniteGroup.refuseAbove_eq h fault

namespace FiniteGroup

variable {G : FiniteGroup}

/-! ## Groups that are found were made within the group -/

theorem isWithin_of_spannedBy {found gens : List Value} {els : Roster Value} {H : FiniteGroup}
    (hels : Value.distinct found = .ok els) (h : G.spannedBy gens els = .ok H) :
    G.IsWithin H := by
  obtain ⟨-, -, h⟩ := bind_eq_ok.1 h
  exact ⟨found, els, _, _, hels, .inl rfl, (Except.ok.inj h).symm⟩

/-- What all groups found have in common they have when another such group is found. -/
theorem forall_mem_push {P : FiniteGroup → Prop} {found : Array FiniteGroup} {H : FiniteGroup}
    (h : ∀ K ∈ found.toList, P K) (hH : P H) : ∀ K ∈ (found.push H).toList, P K := by
  intro K hK
  rw [Array.toList_push, List.mem_append, List.mem_singleton] at hK
  obtain hK | rfl := hK
  · exact h K hK
  · exact hH

/-- What all groups found have in common they have at the end of a search through choices, if no
choice fails and none adds a group without it. -/
theorem exists_foldlM_choices {P : FiniteGroup → Prop}
    (f : Array FiniteGroup → List Value → Report (Array FiniteGroup))
    (choices : Nat → List (List Value))
    (h : ∀ r, ∀ s ∈ choices r, ∀ found : Array FiniteGroup, (∀ H ∈ found.toList, P H) →
      ∃ next, (f found s).outcome = .ok next ∧ ∀ H ∈ next.toList, P H) (sizes : List Nat) :
    ∃ found : Array FiniteGroup,
      sizes.foldlM (fun found r => (Report.fold f found (choices r)).outcome) #[] = .ok found ∧
        ∀ H ∈ found.toList, P H := by
  refine exists_foldlM (fun _ (found : Array FiniteGroup) => ∀ H ∈ found.toList, P H)
    (fun _ r _ found _ hfound => ?_) (by simp)
  rw [Report.outcome_fold]
  refine exists_foldlM (fun _ (found : Array FiniteGroup) => ∀ H ∈ found.toList, P H)
    (fun met s rest found hchoices hfound => h r s ?_ found hfound) hfound
  rw [← hchoices]
  exact List.mem_append_right _ List.mem_cons_self

/-- All groups of a list were made within `G`. -/
def AllWithin (G : FiniteGroup) (found : List FiniteGroup) : Prop :=
  ∀ H ∈ found, G.IsWithin H

theorem allWithin_addCyclic {found next : Array FiniteGroup} {g : Value}
    (h : G.AllWithin found.toList) (hnext : G.addCyclic found g = .ok next) :
    G.AllWithin next.toList := by
  obtain ⟨powers, -, hnext⟩ := bind_eq_ok.1 hnext
  obtain ⟨els, hels, hnext⟩ := bind_eq_ok.1 hnext
  split at hnext
  · obtain rfl := Except.ok.inj hnext
    exact h
  · obtain ⟨H, hH, hnext⟩ := bind_eq_ok.1 hnext
    obtain rfl := Except.ok.inj hnext
    exact forall_mem_push h (isWithin_of_spannedBy hels hH)

theorem allWithin_cyclicSubgroups {cyclic : List FiniteGroup}
    (h : G.cyclicSubgroups = .ok cyclic) : G.AllWithin cyclic := by
  obtain ⟨found, hfound, hreturn⟩ := bind_eq_ok.1 h
  obtain rfl := Except.ok.inj hreturn
  exact of_foldlM_eq_ok (fun found : Array FiniteGroup => G.AllWithin found.toList)
    (fun _ _ _ _ => allWithin_addCyclic) (by simp [AllWithin]) hfound

/-- All groups that were found, and those of them that are to be enlarged. -/
def JoinsWithin (G : FiniteGroup) (joins : Joins) : Prop :=
  G.AllWithin joins.found.toList ∧ G.AllWithin joins.fresh.toList

theorem joinsWithin_addJoin {H C : FiniteGroup} {joins next : Joins} (h : G.JoinsWithin joins)
    (hnext : (G.addJoin H joins C).outcome = .ok next) : G.JoinsWithin next := by
  rw [addJoin] at hnext
  split at hnext
  · obtain rfl := Except.ok.inj hnext
    exact h
  · simp only [Report.outcome_bind, outcome_liftM] at hnext
    obtain ⟨found, -, hnext⟩ := bind_eq_ok.1 hnext
    obtain ⟨els, hels, hnext⟩ := bind_eq_ok.1 hnext
    split at hnext
    · obtain rfl := Except.ok.inj hnext
      exact h
    · simp only [Report.outcome_bind, outcome_liftM, Report.outcome_say, ok_bind] at hnext
      obtain ⟨K, hK, hnext⟩ := bind_eq_ok.1 hnext
      obtain rfl := Except.ok.inj hnext
      have hwithin := isWithin_of_spannedBy hels hK
      refine ⟨forall_mem_push h.1 hwithin, ?_⟩
      dsimp only
      split
      · exact forall_mem_push h.2 hwithin
      · exact h.2

theorem joinsWithin_joinRound {cyclic boundary : List FiniteGroup} {found : Array FiniteGroup}
    {joins : Joins} (h : G.AllWithin found.toList)
    (hjoins : (G.joinRound cyclic boundary found).outcome = .ok joins) : G.JoinsWithin joins := by
  rw [joinRound, Report.outcome_fold] at hjoins
  refine of_foldlM_eq_ok G.JoinsWithin (fun H _ joins next hwithin hnext => ?_)
    ⟨h, by simp [AllWithin]⟩ hjoins
  rw [Report.outcome_fold] at hnext
  exact of_foldlM_eq_ok G.JoinsWithin (fun _ _ _ _ => joinsWithin_addJoin) hwithin hnext

/-- If the rounds come to an end, nothing but groups within `G` was found. -/
theorem allWithin_joinRounds {cyclic boundary : List FiniteGroup} {text : String}
    {found : Array FiniteGroup} {report : Report (Array FiniteGroup)}
    (h : G.joinRounds cyclic text boundary found = some report) (hfound : G.AllWithin found.toList)
    {last : Array FiniteGroup} (hlast : report.outcome = .ok last) : G.AllWithin last.toList := by
  refine joinRounds.partial_correctness G cyclic (fun _ _ found report => G.AllWithin found.toList →
    ∀ last, report.outcome = .ok last → G.AllWithin last.toList) ?_ text boundary found report h
    hfound last hlast
  intro rounds ih text boundary found report hrun hfound last hlast
  split at hrun
  · obtain rfl := Option.some.inj hrun
    obtain rfl := Except.ok.inj hlast
    exact hfound
  · dsimp only at hrun
    split at hrun
    · obtain rfl := Option.some.inj hrun
      cases hlast
    · next joins hjoins =>
      exact ih _ _ _ _ hrun (joinsWithin_joinRound hfound hjoins).1 last hlast

theorem allWithin_allJoins {found : List FiniteGroup} (h : G.allJoins.outcome = .ok found) :
    G.AllWithin found := by
  simp only [allJoins, Report.outcome_bind, outcome_liftM, Report.outcome_say,
    Report.outcome_pure] at h
  obtain ⟨cyclic, hcyclic, h⟩ := bind_eq_ok.1 h
  obtain ⟨start, hstart, h⟩ := bind_eq_ok.1 h
  obtain ⟨last, hlast, h⟩ := bind_eq_ok.1 h
  obtain rfl := Except.ok.inj h
  have hwithin := allWithin_cyclicSubgroups hcyclic
  have hstart' : G.AllWithin start.toList := by
    split at hstart
    · obtain rfl := Except.ok.inj hstart
      exact hwithin
    · obtain ⟨H, hH, hstart⟩ := bind_eq_ok.1 hstart
      obtain rfl := Except.ok.inj hstart
      exact forall_mem_push hwithin ⟨_, makesOf_of_subgroup (.inl rfl) hH⟩
  cases hrun : G.joinRounds cyclic "" (cyclic.filter fun H => H.order < G.order) start with
  | none =>
    rw [hrun] at hlast
    cases hlast
  | some report =>
    rw [hrun] at hlast
    exact allWithin_joinRounds hrun hstart' hlast

/-! ## Groups that generators span -/

/-- The search by generators finds what the generators span, if it is new. -/
theorem addSpan_of_span {gens : List Value} {H : FiniteGroup} (h : G.span gens = .ok H)
    (found : Array FiniteGroup) : (G.addSpan found gens).outcome = .ok found ∨
      (G.addSpan found gens).outcome = .ok (found.push H) := by
  simp only [span, generated, subgroup, Report.outcome_bind, outcome_liftM] at h
  obtain ⟨-, -, h⟩ := bind_eq_ok.1 h
  obtain ⟨els, hels, h⟩ := bind_eq_ok.1 h
  obtain ⟨r, hr, h⟩ := bind_eq_ok.1 h
  obtain ⟨_, hidentity, h⟩ := bind_eq_ok.1 h
  obtain rfl := Except.ok.inj h
  simp only [addSpan, Report.outcome_bind, outcome_liftM, hels, hr, ok_bind]
  split
  · exact .inl rfl
  · exact .inr (by simp [spannedBy, hidentity])

/-- If some elements always span a group with a property, the search by generators finds groups
with this property. -/
theorem exists_allSpans {P : FiniteGroup → Prop} {els : List Value}
    (h : ∀ gens, (∀ g ∈ gens, g ∈ els) → ∃ H, G.span gens = .ok H ∧ P H) (sizes : List Nat) :
    ∃ found, (G.allSpans els sizes).outcome = .ok found ∧ ∀ H ∈ found, P H := by
  obtain ⟨found, hfound, hall⟩ := exists_foldlM_choices (P := P) G.addSpan (combinations els)
    (fun r gens hgens found hfound => by
      obtain ⟨H, hH, hP⟩ := h gens fun g hg => (mem_combinations.1 hgens).1.subset hg
      obtain hnext | hnext := addSpan_of_span hH found
      · exact ⟨found, hnext, hfound⟩
      · exact ⟨_, hnext, forall_mem_push hfound hP⟩) sizes
  refine ⟨found.toList, ?_, hall⟩
  simp only [allSpans, Report.outcome_bind, Report.outcome_fold, Report.outcome_say,
    Report.outcome_pure] at hfound ⊢
  simp only [hfound, ok_bind]

end FiniteGroup

/-! ## Valid groups -/

namespace ValidGroup

variable {G : ValidGroup}

/-- Values that are elements of `G` as they are listed become a subgroup if they stand for one. -/
theorem isSubgroup_of_makesOf {H : FiniteGroup} {xs : List Value} (hH : G.MakesOf xs H)
    (hxs : ∀ a ∈ xs, a ∈ G.els) {N : Subgroup G.Element} (hN : extent G.Stands xs = N) :
    G.IsSubgroup H := by
  have hG := G.realizes
  refine isSubgroup_of_consists ⟨xs, hH⟩ (N := N) ?_ ?_
  · rw [← hN]
    exact hG.consists_of_makesOf hH (hG.standing.mono hxs)
  · exact hG.invertible_of_makesOf hH fun a ha k hk => hG.invertible_of_keyed (hxs a ha) hk

/-- What consists of a subgroup is a subgroup if `G` inverts whatever is equal to an element. -/
theorem isSubgroup_of_inverts (hinv : G.Inverts) {H : FiniteGroup} (hH : G.IsWithin H)
    {N : Subgroup G.Element} (hN : Consists G.Stands H N) : G.IsSubgroup H :=
  isSubgroup_of_consists hH hN fun a ha => by
    obtain ⟨x, hx⟩ := hN.standing_els a ha
    exact hinv hx

/-- Any elements span a subgroup if `G` inverts whatever is equal to an element. -/
theorem exists_span (hinv : G.Inverts) {gens : List Value} (hgens : Standing G.Stands gens) :
    ∃ H, G.span gens = .ok H ∧ G.IsSubgroup H := by
  obtain ⟨H, hH, hconsists⟩ := G.realizes.span_spec_all fun g hg => by
    obtain ⟨x, hx⟩ := hgens g hg
    exact hinv hx
  exact ⟨H, hH, isSubgroup_of_inverts hinv (isWithin_of_span hH) hconsists⟩

/-- A set that is tried is added only if it is a subgroup. -/
theorem exists_tryCandidate {els : List Value} (hels : ∀ a ∈ els, a ∈ G.els)
    {found : Array FiniteGroup} (hfound : ∀ H ∈ found.toList, G.IsSubgroup H) :
    ∃ next, (G.tryCandidate found els).outcome = .ok next ∧
      ∀ H ∈ next.toList, G.IsSubgroup H := by
  obtain ⟨answer, hanswer, hclosed⟩ := G.realizes.isClosed_spec hels
  cases answer with
  | false => exact ⟨found, by simp [tryCandidate, hanswer], hfound⟩
  | true =>
    obtain ⟨N, hN⟩ := hclosed.1 rfl
    obtain ⟨r, hr, -, -⟩ := G.realizes.subgroup_spec (G.realizes.standing.mono hels) .none .none
    have hsubgroup := isSubgroup_of_makesOf (makesOf_of_subgroup (.inl rfl) hr) hels hN.symm
    exact ⟨found.push (G.subgroupOf r .none .none), by simp [tryCandidate, hanswer, hr],
      forall_mem_push hfound hsubgroup⟩

/-- The search through all sets of elements makes subgroups. -/
theorem exists_allClosed : ∃ found, G.allClosed.outcome = .ok found ∧
    ∀ H ∈ found, G.IsSubgroup H := by
  have hG := G.realizes
  obtain ⟨found, hfound, hall⟩ := exists_foldlM_choices (P := G.IsSubgroup)
    (fun found els => G.tryCandidate found (G.identity :: els))
    (fun m => combinations (G.els.filter fun g => !(g == G.identity)) (m - 1))
    (fun m s hs found hfound =>
      exists_tryCandidate (hG.mem_of_chosen (mem_combinations.1 hs).1) hfound) (divisors G.order)
  refine ⟨found.toList, ?_, hall⟩
  simp only [allClosed, Report.outcome_bind, outcome_liftM, hG.others_eq, ok_bind,
    Report.outcome_fold, Report.outcome_say, Report.outcome_pure] at hfound ⊢
  simp only [hfound, ok_bind]

theorem exists_bruteSubgroups {limit : Value} (hlimit : Permits limit G.order) :
    ∃ found, (G.candidate.bruteSubgroups limit).outcome = .ok found ∧
      ∀ H ∈ found, G.IsSubgroup H := by
  obtain ⟨found, hfound, hall⟩ := exists_allClosed (G := G)
  refine ⟨found, ?_, hall⟩
  simp only [Candidate.bruteSubgroups, candidate, Candidate.group, Report.outcome_bind,
    outcome_liftM, ok_bind, hlimit.refuseAbove_eq, hfound]

/-- The number of generators must be a number, unless none is given. -/
theorem exists_genSubgroups (hinv : G.Inverts) {k limit : Value}
    (hk : k = .none ∨ ∃ i, k.index = .ok i) (hlimit : Permits limit G.order) :
    ∃ found, (G.candidate.genSubgroups k limit).outcome = .ok found ∧
      ∀ H ∈ found, G.IsSubgroup H := by
  have hspans : ∀ number : Except Fault Int, (∃ i, number = .ok i) → ∃ found,
      (do
        let i ← number
        (G.allSpans (G.els.filter fun g => !(g == G.identity))
          (List.range (i + 1).toNat)).outcome) = .ok found ∧ ∀ H ∈ found, G.IsSubgroup H := by
    rintro _ ⟨i, rfl⟩
    exact exists_allSpans (fun gens hgens => exists_span hinv fun g hg =>
      G.realizes.standing g (List.mem_filter.1 (hgens g hg)).1) _
  simp only [Candidate.genSubgroups, candidate, Candidate.group, Report.outcome_bind,
    outcome_liftM, ok_bind, hlimit.refuseAbove_eq, G.realizes.others_eq]
  refine hspans _ ?_
  obtain rfl | ⟨i, hi⟩ := hk
  · exact ⟨_, rfl⟩
  · split
    · exact ⟨_, rfl⟩
    · exact ⟨i, hi⟩

theorem exists_cyclicSubgroups (hinv : G.Inverts) :
    ∃ found, G.candidate.cyclicSubgroups = .ok found ∧ ∀ H ∈ found, G.IsSubgroup H := by
  obtain ⟨found, hfound, hcollects, -⟩ := G.realizes.carries.cyclicSubgroups_spec
  refine ⟨found, ?_, fun H hH => ?_⟩
  · have hne : G.els.isEmpty = false :=
      List.isEmpty_eq_false_iff.2 (List.ne_nil_of_mem G.realizes.identity_mem)
    show (if G.els.isEmpty then return [] else G.toFiniteGroup.cyclicSubgroups) = .ok found
    rw [hne, hfound]
    rfl
  · obtain ⟨N, -, hN⟩ := hcollects.consists H hH
    exact isSubgroup_of_inverts hinv (allWithin_cyclicSubgroups hfound H hH) hN

theorem exists_joinSubgroups (hinv : G.Inverts) {limit : Value} (hlimit : Permits limit G.order) :
    ∃ found, (G.candidate.joinSubgroups limit).outcome = .ok found ∧
      ∀ H ∈ found, G.IsSubgroup H := by
  obtain ⟨found, hfound, hcollects⟩ := G.realizes.allJoins_spec
  refine ⟨found, ?_, fun H hH => ?_⟩
  · simp only [Candidate.joinSubgroups, candidate, Candidate.group, Report.outcome_bind,
      outcome_liftM, ok_bind, hlimit.refuseAbove_eq, hfound]
  · obtain ⟨N, -, hN⟩ := hcollects.consists H hH
    exact isSubgroup_of_inverts hinv (allWithin_allJoins hfound H hH) hN

end ValidGroup

end FiniteGroups
