import FiniteGroups.Proofs.Frattini
import FiniteGroups.Proofs.Invariants
import FiniteGroups.Proofs.Normality

/-!
# Normal subgroups and simple groups

The normal subgroups are those of all subgroups whose conjugates are found to be the subgroup
itself, and a group is called simple if two of them are found. What is found are the unions of
conjugacy classes, and a group of more than one element is simple exactly if each class apart from
that of the identity generates it (`isSimpleGroup_iff_normalClosure`).

`ValidGroup.exists_normalSubgroups` says it for valid groups. A class is a set of products, so for
the second part these must be inverted as they are written. In `exists_simple_error` they are not :
the group of two elements is simple, but its class apart from that of the identity generates
nothing at all.
-/

set_option linter.unusedSectionVars false

namespace FiniteGroups

open FiniteGroup

variable {M : Type} [Group M]

/-! ## What a class of conjugates generates -/

/-- The conjugates of an element generate its normal closure. -/
theorem closure_class (x : M) :
    Subgroup.closure {z | ConjClasses.mk z = ConjClasses.mk x} = Subgroup.normalClosure {x} := by
  refine congrArg Subgroup.closure (Set.ext fun z => ?_)
  rw [Set.mem_ofPred_eq, ConjClasses.mk_eq_mk_iff_isConj, Group.mem_conjugatesOfSet_iff,
    isConj_comm]
  simp

/-- A group is simple if it is the normal closure of each element that is not the identity. -/
theorem isSimpleGroup_iff_normalClosure [Nontrivial M] :
    IsSimpleGroup M ↔ ∀ x : M, x ≠ 1 → Subgroup.normalClosure {x} = ⊤ := by
  constructor
  · intro h x hx
    refine (h.eq_bot_or_eq_top_of_normal _ Subgroup.normalClosure_normal).resolve_left ?_
    intro hbot
    have hmem : x ∈ Subgroup.normalClosure {x} := Subgroup.subset_normalClosure rfl
    rw [hbot, Subgroup.mem_bot] at hmem
    exact hx hmem
  · refine fun h => ⟨fun N hN => ?_⟩
    by_cases hbot : N = ⊥
    · exact .inl hbot
    · obtain ⟨x, hxN, hx⟩ := N.bot_or_exists_ne_one.resolve_left hbot
      have hle : Subgroup.normalClosure {x} ≤ N :=
        Subgroup.normalClosure_le_normal (Set.singleton_subset_iff.2 hxN)
      exact .inr (top_le_iff.1 (h x hx ▸ hle))

/-! ## Valid groups -/

namespace ValidGroup

variable (G : ValidGroup)

/-- The conjugates of an element, as they are written in its class, are inverted. -/
def InvertsConjugates (a : Value) : Prop :=
  ∀ found, G.candidate.conjugacyClass a = .ok found →
    ∀ b ∈ found.toList, G.Invertible G.Stands b

/-- The conjugates of an element span the whole group. -/
def ConjugatesGenerate (a : Value) : Prop :=
  ∃ found, G.candidate.conjugacyClass a = .ok found ∧ G.Generates found.toList

/-- The list contains the unions of the classes among the subgroups, each of them once. -/
structure ListsNormal (classes : List ConjugacyClass) (normal : List FiniteGroup) : Prop where
  isUnionOf : ∀ H ∈ normal, ∃ N : Subgroup G.Element,
    Consists G.Stands H N ∧ N.Normal ∧ H.IsUnionOf classes
  existsUnique : ∀ ⦃H : FiniteGroup⦄ ⦃N : Subgroup G.Element⦄, Consists G.Stands H N →
    H.IsUnionOf classes →
    ∃! i, (normal.get i).elements.sameSet H.elements = true

/-- The answer whether the group is simple tells what its classes generate. -/
structure TellsSimple (answer : Bool) : Prop where
  true_iff : (∀ g ∈ G.els, g.equal G.identity = .ok false → G.InvertsConjugates g) →
    (answer = true ↔
      ∀ g ∈ G.els, g.equal G.identity = .ok false → G.ConjugatesGenerate g)
  /-- In a simple group this is so however an element is written. -/
  generate : answer = true → ∀ ⦃a x⦄, G.Stands a x → a.equal G.identity = .ok false →
    G.InvertsConjugates a → G.ConjugatesGenerate a

variable {G}

/-- Conjugates that are inverted span the normal closure. -/
theorem conjugatesGenerate_iff {a : Value} {x : G.Element} (ha : G.Stands a x)
    (hinv : G.InvertsConjugates a) :
    G.ConjugatesGenerate a ↔ Subgroup.normalClosure {x} = ⊤ := by
  obtain ⟨found, hfound, hblock⟩ := G.realizes.conjugacyClass_spec ha
  rw [← closure_class, ← hblock.extent_eq, ← generates_iff_closure (hinv found hfound)]
  constructor
  · rintro ⟨found', hfound', h⟩
    obtain rfl := Except.ok.inj (hfound.symm.trans hfound')
    exact h
  · exact fun h => ⟨found, hfound, h⟩

/-- A list of the normal subgroups is one of the unions of classes. -/
theorem listsNormal_of_collects {classes : List ConjugacyClass} {cs : List (ConjClasses G.Element)}
    (hmem : ∀ c, c ∈ cs) (hall : List.Forall₂ (StandsForClass G.Stands) classes cs)
    {normal : List FiniteGroup}
    (h : Collects G.Stands normal {N : Subgroup G.Element | N.Normal}) :
    G.ListsNormal classes normal := by
  constructor
  · intro H hH
    obtain ⟨N, hN, hHN⟩ := h.consists H hH
    exact ⟨N, hHN, hN, (isUnionOf_iff faithful hHN hall hmem).2 hN⟩
  · intro H N hHN hunion
    obtain ⟨i, hi, hunique⟩ :=
      h.existsUnique faithful ((isUnionOf_iff faithful hHN hall hmem).1 hunion)
    refine ⟨i, (hi.sameSet_iff faithful hHN).2 rfl, fun j hj => hunique j ?_⟩
    obtain ⟨L, -, hL⟩ := h.consists normal[j] (List.getElem_mem j.2)
    obtain rfl := SetLike.coe_injective ((hL.sameSet_iff faithful hHN).1 hj)
    exact hL

/-- Whether a group of more than one element is simple is told by its classes. -/
theorem tellsSimple_of_iff (hone : 1 < G.order) {answer : Bool}
    (hanswer : answer = true ↔ IsSimpleGroup G.Element) : G.TellsSimple answer := by
  have hG := G.realizes
  have := hG.finite
  have : Nontrivial G.Element := by
    rw [← Finite.one_lt_card_iff_nontrivial, ← hG.order_eq]
    exact hone
  constructor
  · intro hinv
    rw [hanswer, isSimpleGroup_iff_normalClosure]
    exact (hG.forall_ne_identity_iff fun g x hg hx hne =>
      conjugatesGenerate_iff hx (hinv g hg hne)).symm
  · intro htrue a x ha hne hinv
    exact (conjugatesGenerate_iff ha hinv).2 (isSimpleGroup_iff_normalClosure.1 (hanswer.1 htrue) x
      ((hG.equal_eq_false_iff ha hG.one).1 hne))

/-- The normal subgroups of a valid group that is small enough for the search are the subgroups
that are unions of conjugacy classes. If it has more than one element, it is found to be simple
exactly if each class apart from that of the identity generates it. -/
theorem exists_normalSubgroups (G : ValidGroup) (hone : 1 < G.order) (horder : G.order ≤ 200) :
    ∃ (subs normal : List FiniteGroup) (classes : List ConjugacyClass) (answer : Bool),
      (G.candidate.allSubgroups .cyclic .none).outcome = .ok subs ∧
      G.candidate.normalAmong (subs.map FiniteGroup.candidate) =
        .ok (normal.map FiniteGroup.candidate) ∧
      G.conjugacyClasses = .ok classes ∧ G.ListsNormal classes normal ∧
      (G.candidate.isSimple do
        return (← G.candidate.allSubgroups .cyclic .none).map FiniteGroup.candidate).outcome =
          .ok answer ∧
      G.TellsSimple answer := by
  have hG := G.realizes
  obtain ⟨subs, hsubs, hcollects⟩ := hG.allSubgroups_spec horder
  obtain ⟨normal, hnormal, hcollects'⟩ := hG.normalAmong_spec hcollects
  obtain ⟨classes, hclasses, -, cs, -, hmem, hall⟩ := hG.conjugacyClasses_spec
  obtain ⟨answer, hanswer, hiff⟩ := hG.isSimple_spec horder
  rw [Set.univ_inter] at hcollects'
  exact ⟨subs, normal, classes, answer, hsubs, hnormal, hclasses,
    listsNormal_of_collects hmem hall hcollects', hanswer, tellsSimple_of_iff hone hiff⟩

/-- Where all values that are equal to elements are inverted, conjugates are. -/
theorem invertsConjugates_of_inverts (hinv : G.Inverts) {a : Value} {x : G.Element}
    (ha : G.Stands a x) : G.InvertsConjugates a := by
  obtain ⟨found, hfound, hblock⟩ := G.realizes.conjugacyClass_spec ha
  intro found' hfound' b hb
  obtain rfl := Except.ok.inj (hfound.symm.trans hfound')
  obtain ⟨y, hy⟩ := hblock.standing b hb
  exact hinv hy

/-- The residues modulo five have normal subgroups, and whether they are simple is told by their
classes. -/
theorem exists_normalSubgroups_residues :
    let G := validResidues (n := 5) (by decide) (by decide)
    1 < G.order ∧ G.order ≤ 200 ∧ (∀ ⦃a x⦄, G.Stands a x → G.InvertsConjugates a) ∧
    ∃ (subs normal : List FiniteGroup) (classes : List ConjugacyClass) (answer : Bool),
      (G.candidate.allSubgroups .cyclic .none).outcome = .ok subs ∧
      G.candidate.normalAmong (subs.map FiniteGroup.candidate) =
        .ok (normal.map FiniteGroup.candidate) ∧
      G.conjugacyClasses = .ok classes ∧ G.ListsNormal classes normal ∧
      (G.candidate.isSimple do
        return (← G.candidate.allSubgroups .cyclic .none).map FiniteGroup.candidate).outcome =
          .ok answer ∧
      G.TellsSimple answer := by
  intro G
  have horder : G.order = 5 := order_validResidues
  have hone : 1 < G.order := by omega
  have hsmall : G.order ≤ 200 := by omega
  exact ⟨hone, hsmall, fun _ _ ha => invertsConjugates_of_inverts inverts_residues ha,
    exists_normalSubgroups G hone hsmall⟩

end ValidGroup

/-! ## Classes that are not inverted -/

theorem FiniteGroup.exists_of_mem_conjugacyClass {G : FiniteGroup} {a : Value}
    {found : Roster Value} (hfound : G.candidate.conjugacyClass a = .ok found) {b : Value}
    (hb : b ∈ found.toList) : ∃ g ∈ G.els, (do (← G.conjugate a g).keyed) = .ok b := by
  obtain ⟨-, -, hfound⟩ := bind_eq_ok.1 hfound
  obtain ⟨els, hels, hfound⟩ := bind_eq_ok.1 hfound
  obtain rfl := Except.ok.inj hels
  obtain ⟨images, himages, hreturn⟩ := bind_eq_ok.1 hfound
  obtain rfl := Except.ok.inj hreturn
  exact exists_of_mem_mapM himages (Roster.mem_of_mem_ofList hb)

section

variable {n : Nat} {c : Int} (hpos : 0 < n) (hn : n < 10) (hc : (n : Int) ∣ c + 1)
include hpos hn hc

/-- If the modulus is a floating-point number, so are the conjugates. -/
theorem conjugate_machineResidues {a g : Value} {x : Multiplicative (ZMod n)}
    (ha : WritesResidue n a x) (hg : g ∈ (machineResidues n c).els) :
    ∃ z, (do (← (machineResidues n c).conjugate a g).keyed) = .ok (.real z) := by
  have hG := realizes_machineResidues hpos hn hc
  obtain ⟨y, hy⟩ := hG.standing g hg
  obtain ⟨i, hi, hiy, -⟩ := hG.inverse_eq hg hy
  obtain ⟨b, hb, hbyx⟩ := hG.mul_eq hy ha
  obtain ⟨d, hd, ⟨_, -, hwrites, -⟩, hreal⟩ := add_writesResidue hpos hn .real hbyx hiy
  have hconj : (machineResidues n c).conjugate a g = .ok d := by
    rw [conjugate, conjugateBy, hb, ok_bind, hi, ok_bind]
    exact hd
  obtain ⟨z, rfl⟩ := hreal rfl
  exact ⟨z, by rw [hconj, ok_bind, hwrites.keyed_eq]⟩

/-- A class of conjugates spans nothing. -/
theorem span_class_machineResidues (hlarge : Decimal.Real.ofInt c = .error .overflow) {a : Value}
    {x : Multiplicative (ZMod n)} (ha : WritesResidue n a x) :
    ∃ found, (machineResidues n c).candidate.conjugacyClass a = .ok found ∧
      (machineResidues n c).span found.toList = .error .overflow := by
  have hG := realizes_machineResidues hpos hn hc
  obtain ⟨found, hfound, hblock⟩ := hG.conjugacyClass_spec ha
  refine ⟨found, hfound, span_real hpos hn hc hlarge hblock.standing ?_⟩
  obtain ⟨b, hb, -⟩ := hblock.extent_eq.superset (show ConjClasses.mk x = _ from rfl)
  obtain ⟨g, hg, hgb⟩ := exists_of_mem_conjugacyClass hfound hb
  obtain ⟨z, hz⟩ := conjugate_machineResidues hpos hn hc ha hg
  obtain rfl := Except.ok.inj (hz.symm.trans hgb)
  exact ⟨z, hb⟩

end

/-- A valid group that is simple, with an element whose conjugates span nothing. -/
theorem exists_simple_error :
    let G := validMachineResidues (n := 2) (by decide) (by decide)
    1 < G.order ∧ G.order ≤ 200 ∧
    (G.candidate.isSimple do
      return (← G.candidate.allSubgroups .cyclic .none).map candidate).outcome = .ok true ∧
    .int 1 ∈ G.els ∧ (Value.int 1).equal G.identity = .ok false ∧
    ∃ found, G.candidate.conjugacyClass (.int 1) = .ok found ∧
      (G.toFiniteGroup.generated found.toList).outcome = .error .overflow := by
  intro G
  have hc := dvd_largeFactor 2
  have hG := realizes_machineResidues (n := 2) (by decide) (by decide) hc
  have hone : WritesResidue 2 (.int 1) (Multiplicative.ofAdd 1) := ⟨1, by decide, .int, rfl⟩
  have hcard : Nat.card (Multiplicative (ZMod 2)) = 2 := by
    rw [Nat.card_congr Multiplicative.toAdd, Nat.card_zmod]
  have horder : G.order = 2 := hG.order_eq.trans hcard
  have hsmall : G.order ≤ 200 := by omega
  obtain ⟨answer, hanswer, hiff⟩ := hG.isSimple_spec hsmall
  have hsimple : IsSimpleGroup (Multiplicative (ZMod 2)) := by
    have : Fact (Nat.Prime 2) := ⟨Nat.prime_two⟩
    exact isSimpleGroup_of_prime_card hcard
  rw [hiff.2 hsimple] at hanswer
  refine ⟨by omega, hsmall, hanswer, (mem_residues (by decide)).2 ⟨1, by decide, rfl⟩,
    (hG.equal_eq_false_iff hone hG.one).2 (by decide),
    span_class_machineResidues (by decide) (by decide) hc (ofInt_largeFactor (by decide)) hone⟩

end FiniteGroups
