import FiniteGroups.Proofs.Orbits
import FiniteGroups.Proofs.RealResidues
import FiniteGroups.Proofs.Regular

/-!
# Actions of valid groups

A `ValidAction` is an action of a valid group on different items that satisfies the laws, gives
items for items, and respects the equality of elements and of items. It realizes an action in the
sense of group theory on the items that are listed (`ValidAction.realizes`).

The orbits of a valid action are a partition of the items, their number is the average number of
fixed points, and the action is found to be transitive exactly if there is one orbit
(`ValidAction.exists_orbits`). It does not suffice that the listed items are given listed items and
the laws hold: an action that tells equal items apart satisfies them and has no orbits
(`exists_orbits_error`).
-/

set_option linter.unusedSectionVars false

namespace FiniteGroups

open FiniteGroup MulAction

/-- An action of a valid group that satisfies the laws, leads from items to items and respects
equality. -/
structure ValidAction (G : ValidGroup) extends GroupAction where
  group_eq : group = G.toFiniteGroup
  items_ne : items ≠ []
  distinct : items.Pairwise fun a b => (a == b) = false
  /-- The values that are used as items. -/
  Domain : Value → Prop
  domain_of_mem : ∀ ⦃a⦄, a ∈ items → Domain a
  keyed_eq : ∀ ⦃a⦄, Domain a → ∃ k, a.keyed = .ok k ∧ Domain k
  equal_eq : ∀ ⦃a b⦄, Domain a → Domain b → a.equal b = .ok (a == b)
  act_mem : ∀ ⦃g a⦄, g ∈ G.els → a ∈ items →
    ∃ b, act g a = .ok b ∧ Domain b ∧ ∃ c ∈ items, (b == c) = true
  act_congr : ∀ ⦃g g' a a' b⦄, G.Domain g → G.Domain g' → Domain a → Domain a' →
    (g == g') = true → (a == a') = true → act g a = .ok b →
    ∃ b', act g' a' = .ok b' ∧ Domain b' ∧ (b == b') = true
  isAction_eq : toGroupAction.isAction = .ok true

namespace GroupAction

variable {A : GroupAction}

/-- What there is to say about the orbits of an action. -/
structure Partitions (A : GroupAction) (blocks : List (Roster Value)) : Prop where
  /-- Every item is in one block. -/
  existsUnique : ∀ a ∈ A.items, ∃! i : Fin blocks.length, blocks[i].contains a = true
  /-- The members of the blocks are items. -/
  exists_item : ∀ B ∈ blocks, ∀ a ∈ B.toList, ∃ b ∈ A.items, (a == b) = true
  /-- A block is the orbit of an item that it contains. -/
  exists_orbit : ∀ B ∈ blocks, ∃ a ∈ A.items, B.contains a = true ∧
    ∃ found, A.orbit a = .ok found ∧ B.sameSet found = true
  /-- The orbit of an item is a block. -/
  exists_block : ∀ a ∈ A.items, ∃ found, A.orbit a = .ok found ∧
    ∃ B ∈ blocks, B.sameSet found = true

/-- Orbits that were taken out of the items are a partition. -/
theorem Realizes.partitions {M X : Type} [Group M] [MulAction M X] {R : Value → M → Prop}
    {S : Value → X → Prop} (hA : A.Realizes R S) {blocks : List (Roster Value)}
    {cs : List (orbitRel.Quotient M X)} (hnodup : cs.Nodup) (hmem : ∀ c, c ∈ cs)
    (hall : List.Forall₂ (StandsForBlock S Quotient.mk'') blocks cs) : A.Partitions blocks := by
  have hS := hA.faithful
  -- a block that stands for the orbit of `x` is the orbit of what stands for `x`
  have hsame : ∀ {a x B found}, S a x → StandsForBlock S Quotient.mk'' B
      (Quotient.mk'' x : orbitRel.Quotient M X) → A.orbit a = .ok found →
      B.sameSet found = true := by
    intro a x B found ha hB hfound
    obtain ⟨found', hfound', hstand, hextent⟩ := hA.orbit_spec ha
    obtain rfl := Except.ok.inj (hfound.symm.trans hfound')
    rw [hS.sameSet_iff hB.standing hstand, hB.extent_eq, hextent, orbit_eq_setOf]
  refine ⟨fun a ha => ?_, fun B hB a ha => ?_, fun B hB => ?_, fun a ha => ?_⟩
  · obtain ⟨x, hx⟩ := hA.standing a ha
    exact existsUnique_block hall hnodup (hmem (Quotient.mk'' x)) fun B c hB =>
      hB.contains_iff hS hx
  · obtain ⟨c, -, hc⟩ := exists_of_forall₂ hall.flip hB
    obtain ⟨x, hx⟩ := hc.standing a ha
    obtain ⟨b, hb, hbx⟩ := hA.surjective x
    exact ⟨b, hb, (hS hx hbx).2 rfl⟩
  · obtain ⟨c, -, hc⟩ := exists_of_forall₂ hall.flip hB
    obtain ⟨x, rfl⟩ := Quotient.mk''_surjective c
    obtain ⟨a, ha, hx⟩ := hA.surjective x
    obtain ⟨found, hfound, -⟩ := hA.orbit_spec hx
    exact ⟨a, ha, (hc.contains_iff hS hx).2 rfl, found, hfound, hsame hx hc hfound⟩
  · obtain ⟨x, hx⟩ := hA.standing a ha
    obtain ⟨found, hfound, -⟩ := hA.orbit_spec hx
    obtain ⟨B, hB, hBx⟩ := exists_of_forall₂ hall (hmem (Quotient.mk'' x))
    exact ⟨found, hfound, B, hB, hsame hx hBx hfound⟩

end GroupAction

namespace ValidAction

variable {G : ValidGroup} (A : ValidAction G)

/-- An item of the list. -/
@[ext] structure Item where
  val : Value
  mem : val ∈ A.items

/-- The value `a` is equal to the item `x`. -/
def Stands (a : Value) (x : A.Item) : Prop :=
  A.Domain a ∧ (a == x.1) = true

variable {A}

theorem stands_self (x : A.Item) : A.Stands x.1 x :=
  ⟨A.domain_of_mem x.2, BEq.rfl⟩

theorem faithful : Faithful A.Stands := by
  have hlist := Roster.toList_ofList A.distinct
  rintro a b x y ⟨-, hx⟩ ⟨-, hy⟩
  constructor
  · intro hab
    have hxy := BEq.trans (BEq.symm hx) (BEq.trans hab hy)
    exact Item.ext (Roster.eq_of_beq (hlist.symm ▸ x.2) (hlist.symm ▸ y.2) hxy)
  · rintro rfl
    exact BEq.trans hx (BEq.symm hy)

theorem exists_result (g : G.Element) (x : A.Item) :
    ∃ y : A.Item, ∃ b, A.act g.1 x.1 = .ok b ∧ A.Stands b y := by
  obtain ⟨b, hb, hdom, c, hc, hbc⟩ := A.act_mem g.2 x.2
  exact ⟨⟨c, hc⟩, b, hb, hdom, hbc⟩

/-- The item that an element makes of an item. -/
noncomputable def result (g : G.Element) (x : A.Item) : A.Item :=
  (exists_result g x).choose

/-- What is made of values that stand for an element and an item stands for the result. -/
theorem exists_act {a b : Value} {g : G.Element} {x : A.Item} (ha : G.Stands a g)
    (hb : A.Stands b x) : ∃ c, A.act a b = .ok c ∧ A.Stands c (result g x) := by
  obtain ⟨c, hc, hcx⟩ := (exists_result g x).choose_spec
  obtain ⟨c', hc', hdom, hcc'⟩ := A.act_congr (G.domain_of_mem g.2) ha.1 (A.domain_of_mem x.2)
    hb.1 (BEq.symm ha.2) (BEq.symm hb.2) hc
  exact ⟨c', hc', hdom, BEq.trans (BEq.symm hcc') hcx.2⟩

/-- A result that is found equal to a value stands for what the value stands for. -/
theorem result_eq {a b c d : Value} {g : G.Element} {x y : A.Item} (ha : G.Stands a g)
    (hb : A.Stands b x) (hc : A.act a b = .ok c) (hd : A.Stands d y)
    (h : c.equal d = .ok true) : result g x = y := by
  obtain ⟨c', hc', hcx⟩ := exists_act ha hb
  obtain rfl := Except.ok.inj (hc.symm.trans hc')
  rw [A.equal_eq hcx.1 hd.1] at h
  exact (faithful hcx hd).1 (Except.ok.inj h)

noncomputable instance : MulAction G.Element A.Item where
  smul := result
  one_smul x := by
    obtain ⟨b, hb, hequal⟩ := (GroupAction.isAction_iff.1 A.isAction_eq).act_one x.2
    rw [A.group_eq] at hb
    exact result_eq ValidGroup.unit_stands (stands_self x) hb (stands_self x) hequal
  mul_smul g h x := by
    have hlaws := (GroupAction.isAction_iff.1 A.isAction_eq).act_mul
    rw [A.group_eq] at hlaws
    obtain ⟨gh, hgh, hall⟩ := hlaws g.1 g.2 h.1 h.2
    obtain ⟨u, v, w, hu, hv, hw, hequal⟩ := hall x.2
    have hmul := G.realizes.mul_of_eq (ValidGroup.stands_self g) (ValidGroup.stands_self h) hgh
    obtain ⟨v', hv', hvx⟩ := exists_act (ValidGroup.stands_self h) (stands_self x)
    obtain rfl := Except.ok.inj (hv.symm.trans hv')
    obtain ⟨w', hw', hwx⟩ := exists_act (ValidGroup.stands_self g) hvx
    obtain rfl := Except.ok.inj (hw.symm.trans hw')
    exact result_eq hmul (stands_self x) hu hwx hequal

/-- A valid action is an action of the group of the elements on the items. -/
theorem realizes : A.toGroupAction.Realizes G.Stands A.Stands where
  group := A.group_eq ▸ G.realizes
  faithful := faithful
  act_eq _ _ _ _ := exists_act
  keyed_eq a x ha := by
    obtain ⟨k, hk, hdom⟩ := A.keyed_eq ha.1
    exact ⟨k, hk, hdom, BEq.trans (Value.beq_of_keyed hk) ha.2⟩
  equal_eq _ _ _ _ ha hb := A.equal_eq ha.1 hb.1
  items_ne := A.items_ne
  distinct := A.distinct
  standing a ha := ⟨⟨a, ha⟩, stands_self ⟨a, ha⟩⟩
  surjective x := ⟨x.1, x.2, stands_self x⟩

end ValidAction

/-! ## The action of a group on itself -/

/-- A valid group acts on its elements. -/
def ValidGroup.leftAction (G : ValidGroup) (members : Roster Value) : ValidAction G where
  toGroupAction := FiniteGroups.leftAction G.toFiniteGroup members
  group_eq := rfl
  items_ne := List.ne_nil_of_length_pos G.realizes.order_pos
  distinct := G.realizes.pairwise_els
  Domain := G.Domain
  domain_of_mem := G.domain_of_mem
  keyed_eq := G.keyed_eq
  equal_eq := G.equal_eq
  act_mem g a hg ha := by
    obtain ⟨z, c, hc, hdom, hcz⟩ := ValidGroup.exists_mul ⟨g, hg⟩ ⟨a, ha⟩
    refine ⟨c, ?_, hdom, z.1, z.2, hcz⟩
    show G.op.meaning.call₂ g a = .ok c
    rw [G.intact.call_op]
    exact hc
  act_congr := by
    show ∀ ⦃g g' a a' b⦄, _ → _ → _ → _ → _ → _ → G.op.meaning.call₂ g a = .ok b →
      ∃ b', G.op.meaning.call₂ g' a' = .ok b' ∧ _
    rw [G.intact.call_op]
    exact G.mul_congr
  isAction_eq := (G.realizes.leftAction members).isAction_eq

/-- A group that acts on itself has one orbit. -/
theorem card_orbits_self (M : Type) [Group M] : Nat.card (orbitRel.Quotient M M) = 1 :=
  Nat.card_eq_one_iff_unique.2
    ⟨(pretransitive_iff_subsingleton_quotient _ _).1 inferInstance, ⟨Quotient.mk'' 1⟩⟩

/-- The action of a valid group on itself has one orbit. -/
theorem ValidGroup.isTransitive_leftMul (G : ValidGroup) : ∃ A : ValidAction G,
    GroupAction.leftMul G.toFiniteGroup.candidate = .ok A.toGroupAction ∧
      A.isTransitive = .ok true ∧ A.burnside = .ok 1 := by
  obtain ⟨members, hmembers⟩ := G.realizes.exists_leftMul
  have hA := G.realizes.leftAction members
  have hone := card_orbits_self G.Element
  refine ⟨G.leftAction members, hmembers, ?_, ?_⟩
  · exact hA.isTransitive_eq.trans (by rw [hone]; rfl)
  · exact hA.burnside_eq.trans (by rw [hone])

/-! ## Orbits -/

/-- The orbits of a valid action are a partition of the items, and there are as many of them as
items are left where they are on the average. -/
theorem ValidAction.exists_orbits {G : ValidGroup} (A : ValidAction G) :
    ∃ blocks, A.orbits = .ok blocks ∧ A.toGroupAction.Partitions blocks ∧
      A.burnside = .ok blocks.length ∧ A.isTransitive = .ok (blocks.length == 1) := by
  have hA := A.realizes
  obtain ⟨blocks, hblocks, cs, hnodup, hmem, hall⟩ := hA.orbits_spec
  have hlength : blocks.length = Nat.card (orbitRel.Quotient G.Element A.Item) :=
    hall.length_eq.trans (length_eq_card hnodup hmem)
  exact ⟨blocks, hblocks, hA.partitions hnodup hmem hall, hlength ▸ hA.burnside_eq,
    hlength ▸ hA.isTransitive_eq⟩

/-- The residues modulo six act on themselves. -/
theorem exists_orbits_residues :
    ∃ A : ValidAction (validResidues (n := 6) (by decide) (by decide)),
      GroupAction.leftMul (residues 6).candidate = .ok A.toGroupAction ∧
      ∃ blocks, A.orbits = .ok blocks ∧ A.toGroupAction.Partitions blocks ∧
        A.burnside = .ok blocks.length ∧ A.isTransitive = .ok (blocks.length == 1) := by
  let G := validResidues (n := 6) (by decide) (by decide)
  obtain ⟨members, hmembers⟩ := G.realizes.exists_leftMul
  exact ⟨G.leftAction members, hmembers, (G.leftAction members).exists_orbits⟩

/-! ## An action that tells equal items apart -/

/-- The residues modulo two, of which one is written as a floating-point number. -/
def twoResidues : FiniteGroup :=
  ofRoster (.ofList [.int 0, .real 1]) (.op .addMod [.int 2]) (.int 0) .none .none .none

theorem writesResidue_one : WritesResidue 2 (.real 1) (Multiplicative.ofAdd 1) := by
  have hone : asReal 1 = 1 := by decide +kernel
  exact ⟨1, by decide, hone ▸ .real, by simp⟩

theorem toList_twoResidues : (Roster.ofList [Value.int 0, .real 1]).toList = [.int 0, .real 1] := by
  have hne : (Value.int 0 == .real 1) = false := by decide +kernel
  exact Roster.toList_ofList (by simp [hne])

theorem els_twoResidues : twoResidues.els = [.int 0, .real 1] := by
  have hne : (Value.int 0 == .real 1) = false := by decide +kernel
  have hzero : (Roster.ofList [Value.int 0, .real 1]).contains (.int 0) = true :=
    Roster.contains_ofList.2 ⟨.int 0, by simp, BEq.rfl⟩
  show (Roster.promote _ _).toList = _
  rw [Roster.toList_promote hzero, toList_twoResidues]
  simp [hne]

theorem realizes_twoResidues : twoResidues.Realizes (WritesResidue 2) := by
  have hzero : WritesResidue 2 (.int 0) 1 := writesResidue_zero (by decide)
  refine .of_search (multiplies_writesResidue (by decide) (by decide) (.int (n := 2)))
    (fun _ _ _ _ => equal_writesResidue) ?_ ?_ hzero ?_ (Or.inl rfl)
  · rw [toList_twoResidues]
    exact (standing_singleton writesResidue_one).cons hzero
  · rw [toList_twoResidues]
    refine Set.eq_univ_of_forall fun x => ?_
    have hcases : ∀ x : Multiplicative (ZMod 2), x = 1 ∨ x = Multiplicative.ofAdd 1 := by decide
    obtain rfl | rfl := hcases x
    · exact ⟨.int 0, by simp, hzero⟩
    · exact ⟨.real 1, by simp, writesResidue_one⟩
  · rintro x ⟨k, -, hk, -⟩
    cases hk

/-- The two residues as a valid group. -/
def validTwoResidues : ValidGroup :=
  .ofRealizes realizes_twoResidues

/-- Two numbers that are one apart, and what both are as a floating-point number. -/
def lower : Value := .int 9007199254740992

def upper : Value := .int 9007199254740993

def rounded : Value := .real 9007199254740992

theorem beq_rounded : (lower == rounded) = true ∧ (rounded == lower) = true ∧
    (upper == rounded) = false ∧ (rounded == upper) = false ∧ (lower == upper) = false := by
  decide +kernel

/-- The two residues, added to the two numbers. -/
def sumAction : GroupAction where
  place := 0
  group := twoResidues
  listing := 0
  items := [lower, upper]
  members := .ofList [lower, upper]
  rule := .op .add []
  act := (Value.op .add []).meaning.call₂

theorem ofItems_sumAction : GroupAction.ofItems twoResidues.candidate (.list 0 [lower, upper])
    (.op .add []) = .ok sumAction :=
  rfl

theorem distinct_sumAction : sumAction.items.Pairwise fun a b => (a == b) = false := by
  show [lower, upper].Pairwise _
  simp [beq_rounded.2.2.2.2]

theorem act_sumAction (g a : Value) : sumAction.act g a = g.add a := by
  show (Value.op .add []).meaning.call [g, a] = _
  rw [Value.meaning, Value.meaningWith.eq_def]
  rfl

theorem mem_values {a : Value} (h : a ∈ [lower, upper, rounded]) :
    a = lower ∨ a = upper ∨ a = rounded := by
  simpa using h

theorem mem_values_of_item {a : Value} (h : a ∈ sumAction.items) : a ∈ [lower, upper, rounded] :=
  List.mem_append_left [rounded] h

theorem isSimple_of_mem {a : Value} (h : a ∈ [lower, upper, rounded]) : a.isSimple = true := by
  obtain rfl | rfl | rfl := mem_values h <;> rfl

/-- As an integer the identity leaves numbers where they are. -/
theorem act_zero {a : Value} (h : a ∈ [lower, upper, rounded]) :
    sumAction.act (.int 0) a = .ok a := by
  rw [act_sumAction]
  obtain rfl | rfl | rfl := mem_values h <;> rfl

/-- What is added as a floating-point number gives the rounded number. -/
theorem act_real {g a : Value} (hg : g = .real 0 ∨ g = .real 1)
    (h : a ∈ [lower, upper, rounded]) : sumAction.act g a = .ok rounded := by
  rw [act_sumAction]
  obtain rfl | rfl := hg <;> obtain rfl | rfl | rfl := mem_values h <;> rfl

theorem equal_self {a : Value} (h : a ∈ [lower, upper, rounded]) : a.equal a = .ok true := by
  rw [Value.equal_of_isSimple (isSimple_of_mem h) (isSimple_of_mem h), BEq.rfl]

theorem mul_twoResidues : twoResidues.mul (.int 0) (.int 0) = .ok (.int 0) ∧
    twoResidues.mul (.real 1) (.int 0) = .ok (.real 1) ∧
    twoResidues.mul (.int 0) (.real 1) = .ok (.real 1) ∧
    twoResidues.mul (.real 1) (.real 1) = .ok (.real 0) := by
  show (Value.op .addMod [.int 2]).meaning.call₂ _ _ = _ ∧
    (Value.op .addMod [.int 2]).meaning.call₂ _ _ = _ ∧
    (Value.op .addMod [.int 2]).meaning.call₂ _ _ = _ ∧
    (Value.op .addMod [.int 2]).meaning.call₂ _ _ = _
  simp only [call_addMod]
  exact ⟨rfl, rfl, rfl, rfl⟩

/-- A product acts as its factors do, if the second one is the identity or all are floating-point
numbers. -/
theorem exists_result_sumAction {g h : Value} (hg : g ∈ twoResidues.els)
    (hh : h ∈ twoResidues.els) : ∃ gh, twoResidues.mul g h = .ok gh ∧
      ∀ a ∈ sumAction.items, ∃ v w, sumAction.act gh a = .ok v ∧ sumAction.act h a = .ok w ∧
        sumAction.act g w = .ok v ∧ v ∈ [lower, upper, rounded] := by
  obtain ⟨h00, h10, h01, h11⟩ := mul_twoResidues
  have hitems : ∀ {a}, a ∈ sumAction.items → a ∈ [lower, upper, rounded] := mem_values_of_item
  have hrounded : rounded ∈ [lower, upper, rounded] := by simp
  rw [els_twoResidues] at hg hh
  obtain rfl | rfl : g = .int 0 ∨ g = .real 1 := by simpa using hg
  · obtain rfl | rfl : h = .int 0 ∨ h = .real 1 := by simpa using hh
    · exact ⟨_, h00, fun a ha => ⟨a, a, act_zero (hitems ha), act_zero (hitems ha),
        act_zero (hitems ha), hitems ha⟩⟩
    · exact ⟨_, h01, fun a ha => ⟨_, _, act_real (.inr rfl) (hitems ha),
        act_real (.inr rfl) (hitems ha), act_zero hrounded, hrounded⟩⟩
  · obtain rfl | rfl : h = .int 0 ∨ h = .real 1 := by simpa using hh
    · exact ⟨_, h10, fun a ha => ⟨_, a, act_real (.inr rfl) (hitems ha), act_zero (hitems ha),
        act_real (.inr rfl) (hitems ha), hrounded⟩⟩
    · exact ⟨_, h11, fun a ha => ⟨_, _, act_real (.inl rfl) (hitems ha),
        act_real (.inr rfl) (hitems ha), act_real (.inr rfl) hrounded, hrounded⟩⟩

theorem isAction_sumAction : sumAction.isAction = .ok true := by
  refine GroupAction.isAction_iff.2 ⟨fun a ha => ?_, fun g hg h hh => ?_⟩
  · exact ⟨a, act_zero (mem_values_of_item ha), equal_self (mem_values_of_item ha)⟩
  · obtain ⟨gh, hgh, hall⟩ := exists_result_sumAction hg hh
    refine ⟨gh, hgh, fun a ha => ?_⟩
    obtain ⟨v, w, hv, hw, hgw, hmem⟩ := hall a ha
    exact ⟨v, w, v, hv, hw, hgw, equal_self hmem⟩

theorem act_mem_sumAction {g a : Value} (hg : g ∈ twoResidues.els) (ha : a ∈ sumAction.items) :
    ∃ b, sumAction.act g a = .ok b ∧ ∃ c ∈ sumAction.items, (b == c) = true := by
  have hvalue := mem_values_of_item ha
  rw [els_twoResidues] at hg
  obtain rfl | rfl : g = .int 0 ∨ g = .real 1 := by simpa using hg
  · exact ⟨a, act_zero hvalue, a, ha, BEq.rfl⟩
  · exact ⟨rounded, act_real (.inr rfl) hvalue, lower, by simp [sumAction], beq_rounded.2.1⟩

/-- The orbit of an item consists of the item and the rounded number. -/
theorem orbit_sumAction {a : Value} (h : a ∈ sumAction.items) :
    sumAction.orbit a = .ok (.ofList [a, rounded]) := by
  have hvalue := mem_values_of_item h
  have hkeyed : a.keyed = .ok a := by
    obtain rfl | rfl | rfl := mem_values hvalue <;> rfl
  have hrounded : rounded.keyed = .ok rounded := rfl
  show (do
    return Roster.ofList (← twoResidues.els.mapM fun g => do (← sumAction.act g a).keyed)) = _
  rw [els_twoResidues]
  simp [act_zero hvalue, act_real (.inr rfl) hvalue, hkeyed, hrounded]

/-- The orbit of the lower number does not contain the upper one, whose orbit contains the rounded
number, which is the lower one again. -/
theorem orbits_sumAction : sumAction.orbits = .error .missingKey := by
  obtain ⟨hround, -, hupper, -, hne⟩ := beq_rounded
  have hitems : (Roster.ofList [lower, upper]).toList = [lower, upper] :=
    Roster.toList_ofList (by simp [hne])
  have hfirst : (Roster.ofList [lower, rounded]).toList = [lower] := by
    rw [Roster.ofList, List.foldl_cons, List.foldl_cons, List.foldl_nil, Roster.toList_insert,
      if_pos (Roster.contains_insert.2 (.inr hround)), Roster.toList_insert,
      Roster.contains_empty]
    rfl
  have hsecond : (Roster.ofList [upper, rounded]).toList = [upper, rounded] :=
    Roster.toList_ofList (by simp [hupper])
  have horbit : ∀ a ∈ [lower, upper], sumAction.orbit a = .ok (.ofList [a, rounded]) :=
    fun a ha => orbit_sumAction ha
  have hrest : sumAction.orbitsFrom 1 [upper] = .error .missingKey := by
    rw [GroupAction.orbitsFrom, horbit upper (by simp), ok_bind, hsecond]
    simp [removeItem]
  have hall : sumAction.orbitsFrom 2 [lower, upper] = .error .missingKey := by
    rw [GroupAction.orbitsFrom, horbit lower (by simp), ok_bind, hfirst]
    simp [removeItem, hrest]
  have hsize : (Roster.ofList [lower, upper]).size = 2 := by
    rw [← Roster.length_toList, hitems]
    rfl
  have hdistinct : Value.distinct [lower, upper] = .ok (Roster.ofList [lower, upper]) := rfl
  show (do
    let items ← Value.distinct [lower, upper]
    sumAction.orbitsFrom items.size items.toList) = _
  rw [hdistinct, ok_bind, hsize, hitems, hall]

/-- Both items are left where they are by the identity, and one of them by the other element. -/
theorem burnside_sumAction : sumAction.burnside = .error .failedCheck := by
  obtain ⟨-, hlower, -, hupper, -⟩ := beq_rounded
  have hzero : sumAction.fixedPoints (.int 0) = .ok [lower, upper] := by
    refine filterM_eq_filter (p := fun _ => true) fun a ha => ?_
    have ha := mem_values_of_item ha
    rw [GroupAction.fixes, act_zero ha, ok_bind, equal_self ha]
  have hone : sumAction.fixedPoints (.real 1) = .ok [lower] := by
    have hfilter : [lower, upper].filter (rounded == ·) = [lower] := by simp [hlower, hupper]
    rw [← hfilter]
    refine filterM_eq_filter fun a ha => ?_
    have ha := mem_values_of_item ha
    rw [GroupAction.fixes, act_real (.inr rfl) ha, ok_bind,
      Value.equal_of_isSimple (isSimple_of_mem (by simp)) (isSimple_of_mem ha)]
  have hcounts : sumAction.fixedCounts = .ok (.ofList [(.int 0, 2), (.real 1, 1)]) := by
    show (do
      let counts ← twoResidues.els.mapM fun g => do
        let n := (← sumAction.fixedPoints g).length
        return (← g.keyed, n)
      return Assignment.ofList counts) = _
    have hkeyed : (Value.int 0).keyed = .ok (.int 0) ∧ (Value.real 1).keyed = .ok (.real 1) :=
      ⟨rfl, rfl⟩
    rw [els_twoResidues]
    simp [hzero, hone, hkeyed]
  have hvalues : (Assignment.ofList [(Value.int 0, 2), (.real 1, 1)]).values.toList = [2, 1] := by
    have hne : (Value.int 0 == .real 1) = false := by decide +kernel
    rw [← Assignment.map_snd_toList, Assignment.toList_ofList (by simp [hne])]
    rfl
  have horder : twoResidues.order = 2 := by
    rw [order, els_twoResidues]
    rfl
  rw [GroupAction.burnside, hcounts, ok_bind, hvalues]
  show (if twoResidues.order = 0 then _ else if _ % twoResidues.order = 0 then _ else _) = _
  rw [horder]
  rfl

/-- An action of a valid group that satisfies the laws and leads from items to items, without
orbits. -/
theorem exists_orbits_error :
    let G := validTwoResidues
    ∃ A, GroupAction.ofItems G.toFiniteGroup.candidate
        (.list 0 [.int 9007199254740992, .int 9007199254740993]) (.op .add []) = .ok A ∧
      A.items.Pairwise (fun a b => (a == b) = false) ∧
      (∀ g ∈ G.els, ∀ a ∈ A.items, ∃ b, A.act g a = .ok b ∧ ∃ c ∈ A.items, (b == c) = true) ∧
      A.isAction = .ok true ∧ A.orbits = .error .missingKey ∧
      A.burnside = .error .failedCheck := by
  intro G
  exact ⟨sumAction, ofItems_sumAction, distinct_sumAction, fun g hg a ha => act_mem_sumAction hg ha,
    isAction_sumAction, orbits_sumAction, burnside_sumAction⟩

end FiniteGroups
