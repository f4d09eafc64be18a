import Mathlib
import FiniteGroups.Proofs.Violations

/-!
# Verdicts and the number of triples that are listed

A check of the axioms is told how many triples that do not associate it may list for each first
factor, and it stops when it has listed ten times as many. The verdict is whether nothing has been
listed at all. It is therefore the same at all limits at which a triple may be listed; at the limit
zero no triple is, and the verdict says nothing about the associative law
(`exists_verify_zero_ne_one`).

`JudgedAlike` says what the limit changes and what it does not. Elements that cannot be written may
come up at one limit and not at another, so that there need not be a verdict at both; a good verdict
is given at all limits.
-/

namespace FiniteGroups

namespace FiniteGroup

variable {G : FiniteGroup}

/-! ## What is done at all limits -/

/-- What is looked at before the triples are : what violates the other axioms, and the table. -/
def precheck (G : FiniteGroup) : Except Fault (List String × Table) := do
  let identity ← G.identityViolations
  let inverse ← G.inverseViolations
  let t ← G.table
  let closure ← G.closureViolations t
  return (identity ++ inverse ++ closure, t)

/-- The verdict when the triples have been looked at, which is only done in a closed table. -/
def judge (G : FiniteGroup) (most : Value) (found : List String) (t : Table) :
    Except Fault Verdict := do
  if t.entries.all (0 ≤ ·) then return ⟨← G.addTriples t most (List.range G.order) found⟩
  else return ⟨found⟩

theorem verify_eq_judge {most : Value} (hne : G.order ≠ 0) :
    G.verify most = G.precheck >>= fun p => G.judge most p.1 p.2 := by
  rw [verify, if_neg hne]
  simp only [precheck, judge, bind_assoc, pure_bind]

theorem precheck_eq_nil_iff {t : Table} : G.precheck = .ok ([], t) ↔
    G.identityViolations = .ok [] ∧ G.inverseViolations = .ok [] ∧ G.table = .ok t ∧
      G.closureViolations t = .ok [] := by
  constructor
  · intro h
    obtain ⟨identity, hidentity, h⟩ := bind_eq_ok.1 h
    obtain ⟨inverse, hinverse, h⟩ := bind_eq_ok.1 h
    obtain ⟨t', ht, h⟩ := bind_eq_ok.1 h
    obtain ⟨closure, hclosure, h⟩ := bind_eq_ok.1 h
    obtain ⟨hnil, rfl⟩ := Prod.mk.inj (Except.ok.inj h)
    obtain ⟨hlaws, rfl⟩ := List.append_eq_nil_iff.1 hnil
    obtain ⟨rfl, rfl⟩ := List.append_eq_nil_iff.1 hlaws
    exact ⟨hidentity, hinverse, ht, hclosure⟩
  · rintro ⟨hidentity, hinverse, ht, hclosure⟩
    rw [precheck, hidentity, hinverse, ht]
    simp only [ok_bind, hclosure]
    rfl

/-- If nothing has been found, the table is closed. -/
theorem all_nonneg_of_precheck {t : Table} (h : G.precheck = .ok ([], t)) :
    t.entries.all (0 ≤ ·) = true :=
  all_nonneg_iff.2 (closureViolations_eq_nil_iff.1 (precheck_eq_nil_iff.1 h).2.2.2)

/-! ## Good verdicts -/

section

variable {most : Value} {m : Int} {v : Verdict}

/-- A verdict is good if no other axiom is violated and no triples are listed. -/
theorem ok_iff_of_judge (hmost : most.index = .ok m) (hm : 0 ≤ m) {found : List String} {t : Table}
    (hpre : G.precheck = .ok (found, t)) (hv : G.judge most found t = .ok v) :
    v.ok = true ↔ found = [] ∧ ∀ i < G.order, upTo m (badPairs t i) = [] := by
  simp only [← List.mem_range (m := _)]
  rw [judge] at hv
  split at hv
  case isTrue =>
    obtain ⟨all, hall, hv⟩ := bind_eq_ok.1 hv
    obtain rfl := Except.ok.inj hv
    rw [← eq_nil_iff_of_addTriples hmost hm hall]
    exact List.isEmpty_iff
  case isFalse hneg =>
    obtain rfl := Except.ok.inj hv
    -- an entry that is no place has been listed
    have hne : found ≠ [] := by
      rintro rfl
      exact hneg (all_nonneg_of_precheck hpre)
    exact iff_of_false (fun hok => hne (List.isEmpty_iff.1 hok)) fun h => hne h.1

theorem ok_iff_of_verify (hmost : most.index = .ok m) (hm : 0 ≤ m) (hv : G.verify most = .ok v) :
    v.ok = true ↔ G.els ≠ [] ∧ ∃ t, G.precheck = .ok ([], t) ∧
      ∀ i < G.order, upTo m (badPairs t i) = [] := by
  by_cases hne : G.order = 0
  · rw [verify, if_pos hne] at hv
    obtain rfl := Except.ok.inj hv
    exact iff_of_false Bool.false_ne_true fun h => h.1 (List.eq_nil_of_length_eq_zero hne)
  · rw [verify_eq_judge hne] at hv
    obtain ⟨⟨found, t⟩, hpre, hv⟩ := bind_eq_ok.1 hv
    have hels : G.els ≠ [] := fun h => hne (by rw [order, h, List.length_nil])
    rw [ok_iff_of_judge hmost hm hpre hv, hpre]
    constructor
    · rintro ⟨rfl, hnone⟩
      exact ⟨hels, t, rfl, hnone⟩
    · rintro ⟨-, t', h, hnone⟩
      obtain ⟨rfl, rfl⟩ := Prod.mk.inj (Except.ok.inj h)
      exact ⟨rfl, hnone⟩

/-- Where a triple may be listed, none is listed exactly if all associate. -/
theorem ok_iff_of_pos (hmost : most.index = .ok m) (hm : 1 ≤ m) (hv : G.verify most = .ok v) :
    v.ok = true ↔ G.els ≠ [] ∧ ∃ t, G.precheck = .ok ([], t) ∧
      ∀ i < G.order, badPairs t i = [] := by
  simp only [ok_iff_of_verify hmost (by omega) hv, upTo_eq_nil_iff (show 0 < m by omega)]

/-- No triples are listed at the limit zero. -/
theorem ok_iff_of_zero (hmost : most.index = .ok 0) (hv : G.verify most = .ok v) :
    v.ok = true ↔ G.els ≠ [] ∧ ∃ t, G.precheck = .ok ([], t) := by
  have hnone (xs : List (Nat × Nat)) : upTo 0 xs = [] := rfl
  simp only [ok_iff_of_verify hmost le_rfl hv, hnone, implies_true, and_true]

/-- Where all triples associate, it does not matter how many may be listed. -/
theorem addTriples_congr {most' : Value} {m' : Int} (hmost : most.index = .ok m)
    (hmost' : most'.index = .ok m') (hm : 0 ≤ m) (hm' : 0 ≤ m') {t : Table} {firsts : List Nat}
    (h : ∀ i ∈ firsts, badPairs t i = []) :
    G.addTriples t most firsts [] = G.addTriples t most' firsts [] := by
  induction firsts with
  | nil => rfl
  | cons i firsts ih =>
    have hnone (n : Int) : upTo n (badPairs t i) = [] := by
      rw [h i (by simp), upTo]
      split <;> simp
    have hshort (n : Int) (hn : 0 ≤ n) : ¬10 * n < (([] : List String).length : Int) := by
      rw [List.length_nil]
      omega
    rw [addTriples, addTriples, hmost, hmost']
    simp only [pure_eq_ok, ok_bind, hnone, List.mapM_nil, List.append_nil, hshort m hm,
      hshort m' hm', if_false, ih fun j hj => h j (List.mem_cons_of_mem i hj)]

/-- Nothing is found at any limit if nothing is found at one at which a triple may be listed. -/
theorem verify_eq_of_ok {most' : Value} {m' : Int} (hmost : most.index = .ok m)
    (hmost' : most'.index = .ok m') (hm : 1 ≤ m) (hm' : 0 ≤ m') (hv : G.verify most = .ok v)
    (hok : v.ok = true) : G.verify most' = .ok ⟨[]⟩ := by
  obtain ⟨hels, t, hpre, hbad⟩ := (ok_iff_of_pos hmost hm hv).1 hok
  have hne : G.order ≠ 0 := fun h => hels (List.eq_nil_of_length_eq_zero h)
  have hjudge : G.judge most' [] t = G.judge most [] t := by
    rw [judge, judge, addTriples_congr hmost' hmost hm' (by omega)
      fun i hi => hbad i (List.mem_range.1 hi)]
  have hnil : v = ⟨[]⟩ := congrArg Verdict.mk (List.isEmpty_iff.1 hok)
  rw [verify_eq_judge hne, hpre, ok_bind] at hv ⊢
  rw [hjudge, hv, hnil]

end

/-! ## No verdict -/

theorem table_eq_of_precheck {found : List String} {t : Table} (h : G.precheck = .ok (found, t)) :
    G.table = .ok t := by
  obtain ⟨_, -, h⟩ := bind_eq_ok.1 h
  obtain ⟨_, -, h⟩ := bind_eq_ok.1 h
  obtain ⟨t', ht, h⟩ := bind_eq_ok.1 h
  obtain ⟨_, -, h⟩ := bind_eq_ok.1 h
  obtain ⟨-, rfl⟩ := Prod.mk.inj (Except.ok.inj h)
  exact ht

namespace Indexed

variable (hG : G.Indexed) {most : Value} {m : Int} (hmost : most.index = .ok m)
include hG hmost

/-- Only writing what violates the associative law can fail when the triples are looked at. -/
theorem failsInWriting_judge {found : List String} {t : Table}
    (hpre : G.precheck = .ok (found, t)) : G.FailsInWriting (G.judge most found t) := by
  have htab := hG.tabulates (table_eq_of_precheck hpre)
  rw [judge]
  split
  · exact (Checkable.failsInWriting_addTriples htab hmost (fun i hi => List.mem_range.1 hi) _).bind
      fun all _ => .ok _
  · exact .ok _

/-- If there is no verdict at one limit, there is none at any, unless a value cannot be written. -/
theorem verify_eq_error {most' : Value} {e : Fault} (he : G.verify most = .error e) :
    G.verify most' = .error e ∨ G.Unwritten e := by
  by_cases hne : G.order = 0
  · rw [verify, if_pos hne] at he
    cases he
  · rw [verify_eq_judge hne] at he ⊢
    cases hpre : G.precheck with
    | error e' =>
      rw [hpre] at he
      exact .inl he
    | ok p =>
      rw [hpre] at he
      exact .inr (hG.failsInWriting_judge hmost hpre e he)

end Indexed

/-! ## What a good verdict says -/

namespace Indexed

variable (hG : G.Indexed) (hnone : Value.none ∉ G.els) {most : Value} {v : Verdict}
include hG hnone

theorem ok_iff_laws {m : Int} (hmost : most.index = .ok m) (hm : 1 ≤ m)
    (hv : G.verify most = .ok v) : v.ok = true ↔ G.Laws := by
  refine ⟨hG.laws_of_verify hmost hm hv, fun hlaws => ?_⟩
  have hne : G.order ≠ 0 := fun h => hlaws.els_ne (List.eq_nil_of_length_eq_zero h)
  rw [verify_eq_judge hne] at hv
  obtain ⟨p, hpre, -⟩ := bind_eq_ok.1 hv
  rw [← verify_eq_judge hne, hlaws.verify_eq hG hnone (table_eq_of_precheck hpre) hmost] at hv
  exact Except.ok.inj hv ▸ rfl

/-- If no other axiom is violated, the others hold, and conversely. -/
theorem precheck_eq_nil_iff_closed {t : Table} (ht : G.table = .ok t) (hne : G.els ≠ []) :
    G.precheck = .ok ([], t) ↔ G.Closed := by
  have htab := hG.tabulates ht
  rw [precheck_eq_nil_iff, identityViolations_eq_nil_iff, inverseViolations_eq_nil_iff,
    closureViolations_eq_nil_iff, htab.nonneg_iff]
  constructor
  · rintro ⟨⟨hcontains, hunit⟩, hinverse, -, hmul⟩
    exact ⟨hne, hcontains, hunit, hmul, fun a ha => by
      obtain ⟨b, hb, -, hlaws⟩ := hinverse a ha
      exact ⟨b, hb, hlaws⟩⟩
  · intro h
    refine ⟨⟨h.contains_identity, h.identity_mul⟩, fun a ha => ?_, ht, h.mul_mem⟩
    obtain ⟨b, hb, hcontains, hproducts⟩ := h.inverse_mul a ha
    refine ⟨b, hb, ?_, hcontains, hproducts⟩
    rintro rfl
    exact hnone (hG.none_mem hcontains)

theorem ok_iff_closed (hmost : most.index = .ok 0) (hv : G.verify most = .ok v) :
    v.ok = true ↔ G.Closed := by
  rw [ok_iff_of_zero hmost hv]
  constructor
  · rintro ⟨hels, t, hpre⟩
    exact (hG.precheck_eq_nil_iff_closed hnone (table_eq_of_precheck hpre) hels).1 hpre
  · intro hclosed
    have hne : G.order ≠ 0 := fun h => hclosed.els_ne (List.eq_nil_of_length_eq_zero h)
    rw [verify_eq_judge hne] at hv
    obtain ⟨p, hpre, -⟩ := bind_eq_ok.1 hv
    exact ⟨hclosed.els_ne, p.2, (hG.precheck_eq_nil_iff_closed hnone (table_eq_of_precheck hpre)
      hclosed.els_ne).2 hclosed⟩

end Indexed

/-! ## The limit and the verdict -/

/-- What the verdict has to do with the number of triples that may be listed. -/
structure JudgedAlike (G : FiniteGroup) : Prop where
  /-- Verdicts are the same wherever a triple may be listed. -/
  ok_eq : ∀ ⦃most most' m m' v v'⦄, most.index = .ok m → most'.index = .ok m' → 1 ≤ m → 1 ≤ m' →
    G.verify most = .ok v → G.verify most' = .ok v' → v.ok = v'.ok
  /-- A good one is given at all limits. -/
  verify_eq : ∀ ⦃most most' m m' v⦄, most.index = .ok m → most'.index = .ok m' → 1 ≤ m → 0 ≤ m' →
    G.verify most = .ok v → v.ok = true → G.verify most' = .ok ⟨[]⟩
  /-- There is a verdict at all limits or at none, unless a value cannot be written. -/
  error_eq : G.Indexed → ∀ ⦃most most' m e⦄, most.index = .ok m → G.verify most = .error e →
    G.verify most' = .error e ∨ G.Unwritten e
  /-- There is one if everything has an answer and what is mentioned can be written. -/
  exists_verify : G.Checkable → (∀ a, G.IsMentioned a → ∃ s, a.plain = .ok s) →
    ∀ ⦃most m⦄, most.index = .ok m → ∃ v, G.verify most = .ok v
  /-- Where a triple may be listed, it says whether the axioms hold. -/
  ok_iff_laws : G.Indexed → Value.none ∉ G.els → ∀ ⦃most m v⦄, most.index = .ok m → 1 ≤ m →
    G.verify most = .ok v → (v.ok = true ↔ G.Laws)
  /-- Where none may be, it says whether the other axioms hold. -/
  ok_iff_closed : G.Indexed → Value.none ∉ G.els → ∀ ⦃most v⦄, most.index = .ok 0 →
    G.verify most = .ok v → (v.ok = true ↔ G.Closed)

/-- The number of triples that may be listed does not matter unless it is zero. -/
theorem judgedAlike (G : FiniteGroup) : G.JudgedAlike where
  ok_eq most most' m m' v v' hmost hmost' hm hm' hv hv' :=
    Bool.eq_iff_iff.2 ((ok_iff_of_pos hmost hm hv).trans (ok_iff_of_pos hmost' hm' hv').symm)
  verify_eq _ _ _ _ _ := verify_eq_of_ok
  error_eq hG _ _ _ _ hmost := hG.verify_eq_error hmost
  exists_verify hG hplain most m hmost := by
    cases hv : G.verify most with
    | ok v => exact ⟨v, rfl⟩
    | error e =>
      obtain ⟨a, ha, hwrite⟩ := hG.failsInWriting_verify hmost e hv
      obtain ⟨s, hs⟩ := hplain a ha
      exact nomatch hs.symm.trans hwrite
  ok_iff_laws hG hnone _ _ _ := hG.ok_iff_laws hnone
  ok_iff_closed hG hnone _ _ := hG.ok_iff_closed hnone

/-! ## A limit at which nothing is listed -/

/-- Numbers of which each one is its own inverse, and which do not associate. -/
def offTable : Table :=
  ⟨3, #[0, 1, 2, 1, 0, 0, 2, 0, 0], rfl⟩

/-- What the check of the axioms is asked about. -/
def offGroup : FiniteGroup :=
  ofRoster (.ofList [.int 0, .int 1, .int 2]) (Value.lookupIn offTable) (.int 0) .none .none .none

theorem tripleViolation_offGroup :
    offGroup.tripleViolation 1 (1, 2) = .ok "Associativity fails for triple: 1, 1, 2" ∧
      offGroup.tripleViolation 2 (1, 1) = .ok "Associativity fails for triple: 2, 1, 1" := by
  have hone : offGroup.element 1 = .ok (.int 1) := by cbv
  have htwo : offGroup.element 2 = .ok (.int 2) := by cbv
  have hwrite : (Value.int 1).plain = .ok "1" := rfl
  have hwrite' : (Value.int 2).plain = .ok "2" := rfl
  constructor <;> simp [tripleViolation, hone, htwo, hwrite, hwrite', toString]

/-- One triple is listed for each first factor but zero, with which all triples associate. -/
theorem addTriples_offGroup : offGroup.addTriples offTable (.int 1) [0, 1, 2] [] = .ok [
    "Associativity fails for triple: 1, 1, 2", "Associativity fails for triple: 2, 1, 1"] := by
  have hinside {i : Nat} (hi : i < 3) := not_outside (t := offTable) (by decide) hi
  have hmost : (Value.int 1).index = .ok 1 := rfl
  have hzero : upTo 1 (badPairs offTable 0) = [] := by cbv
  have hone : upTo 1 (badPairs offTable 1) = [(1, 2)] := by cbv
  have htwo : upTo 1 (badPairs offTable 2) = [(1, 1)] := by cbv
  obtain ⟨hone', htwo'⟩ := tripleViolation_offGroup
  simp only [addTriples, if_neg (hinside (show 0 < 3 by decide)),
    if_neg (hinside (show 1 < 3 by decide)), if_neg (hinside (show 2 < 3 by decide)), hmost, hzero,
    hone, htwo, hone', htwo', List.mapM_cons, List.mapM_nil, ok_bind, pure_eq_ok]
  rfl

/-- At the limit zero nothing is found, and at the limit one something is. -/
theorem exists_verify_zero_ne_one : ofTable offTable = .ok offGroup ∧
    offGroup.verify (.int 0) = .ok ⟨[]⟩ ∧ offGroup.verify (.int 1) = .ok ⟨[
      "Associativity fails for triple: 1, 1, 2", "Associativity fails for triple: 2, 1, 1"]⟩ := by
  have horder : offGroup.order = 3 := by cbv
  have hpre : offGroup.precheck = .ok ([], offTable) := by cbv
  refine ⟨rfl, by cbv, ?_⟩
  rw [verify_eq_judge (by omega), hpre, ok_bind, judge, if_pos (all_nonneg_of_precheck hpre),
    horder, show List.range 3 = [0, 1, 2] from rfl, addTriples_offGroup]
  rfl

end FiniteGroup

end FiniteGroups
