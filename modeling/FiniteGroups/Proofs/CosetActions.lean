import FiniteGroups.Proofs.Actions
import FiniteGroups.Proofs.Conjugates
import FiniteGroups.Proofs.Quotients

/-!
# The action on the cosets of a subgroup

An element moves a coset to the one through the product with its representative, which is looked
up among the cosets that are listed. It does not depend on the representative which one is found,
so that the group acts as it does on the cosets in the sense of group theory
(`Realizes.exists_onCosets`). The action is transitive, the coset of the identity is left where it
is by the elements of the subgroup, and the elements that move no coset are the largest normal
subgroup inside it (`ValidGroup.IsCosetAction`).

Every transitive action is such an action, on the cosets of the elements that leave one item where
it is (`GroupAction.Identifies`). This depends on the action to respect equality : an action that
tells equal items apart is transitive, and is no action on cosets (`exists_not_identifies`).
-/

set_option linter.unusedSectionVars false

namespace FiniteGroups

open FiniteGroup MulAction

variable {M X : Type} [Group M] {R : Value → M → Prop} {N : Subgroup M}

/-! ## The action -/

/-- The group `G` acting on the cosets of `H`. -/
def cosetAction (G H : FiniteGroup) (cosets : List Value) (members : Roster Value) :
    GroupAction where
  place := 0
  group := G
  listing := 0
  items := cosets
  members := members
  rule := .rule 0 .cosets (G.value :: H.value :: cosets)
  act := (Value.rule 0 .cosets (G.value :: H.value :: cosets)).meaning.call₂

theorem act_cosetAction {G H : FiniteGroup} {cosets : List Value} {members : Roster Value}
    {parent subgroup rep : Value} {xs : List Value} {state : Coset.State} (g : Value) :
    (cosetAction G H cosets members).act g (.coset .left 0 parent subgroup rep xs state) = (do
      let mul ← G.value.meaning.op
      let c ← cosetOf .left G.value.meaning G.value H.value (← mul g rep)
      match ((Roster.ofList cosets).find? (← c.keyed)).bind (Roster.ofList cosets).get? with
      | some c => return c
      | none => throw .missingKey) := by
  show (Value.rule 0 .cosets (G.value :: H.value :: cosets)).meaning.call [g, _] = _
  rw [Value.meaning, Value.meaningWith.eq_def]
  rfl

namespace FiniteGroup.Realizes

variable {G H : FiniteGroup} (hG : G.Realizes R) (hH : Consists R H N) {cosets : List Value}
include hG hH

/-- The coset through the product is found among the cosets, and it is the one that is listed. -/
theorem act_cosetAction_spec (members : Roster Value)
    (hstand : Standing (StandsForCoset R N) cosets)
    (hextent : extent (StandsForCoset R N) cosets = Set.univ) {a c : Value} {x : M} {q : M ⧸ N}
    (ha : R a x) (hc : StandsForCoset R N c q) :
    ∃ d ∈ cosets, (cosetAction G H cosets members).act a c = .ok d ∧
      StandsForCoset R N d (x • q) := by
  have hR := faithful_coset (N := N) hG.faithful
  obtain ⟨hstate, hrep, hxs, hcextent⟩ := hc
  rename_i parent subgroup rep xs state y
  obtain ⟨b, hb, hbxy⟩ := hG.mul_eq ha hrep
  obtain ⟨found, hfound, hstands⟩ := hG.cosetOf_spec hH hbxy
  obtain ⟨k, hk, hkx⟩ := hstands.keyed_eq
  -- the list has a coset that is equal to the key
  obtain ⟨i, hi, hfind, hmem⟩ : ∃ i, ∃ hi : i < (Roster.ofList cosets).toList.length,
      (Roster.ofList cosets).find? k = some i ∧
        StandsForCoset R N (Roster.ofList cosets).toList[i] ((x * y : M) : M ⧸ N) := by
    have hall : ((x * y : M) : M ⧸ N) ∈ extent (StandsForCoset R N) (Roster.ofList cosets).toList :=
      (hR.extent_ofList hstand).trans hextent ▸ Set.mem_univ _
    obtain ⟨d, hd, hdx⟩ := hall
    obtain ⟨i, hi, rfl⟩ := List.getElem_of_mem hd
    exact ⟨i, hi, Roster.find?_eq_some_iff.2 ⟨hi, (hR hdx hkx).2 rfl⟩, hdx⟩
  refine ⟨_, Roster.mem_of_mem_ofList (List.getElem_mem hi), ?_, hmem⟩
  rw [act_cosetAction, hG.intact.op_eq, ok_bind, hb, ok_bind, hfound, ok_bind, hk, ok_bind, hfind,
    Option.bind_some, Roster.get?_eq_getElem?, List.getElem?_eq_getElem hi]
  rfl

/-- The action on the cosets is made, leads from cosets that are listed to such cosets, and is
that of the group on the cosets of the subgroup. -/
theorem exists_onCosets : ∃ A, GroupAction.onCosets G.candidate H.candidate = .ok A ∧
    A.Realizes R (StandsForCoset R N) ∧ A.group = G ∧
    ∀ g ∈ G.els, ∀ c ∈ A.items, ∃ d ∈ A.items, A.act g c = .ok d := by
  have hR := faithful_coset (N := N) hG.faithful
  obtain ⟨cosets, hcosets, hstand, hextent, -⟩ := hG.leftCosets_spec hH
  have hne : cosets ≠ [] := by
    obtain ⟨c, hc, -⟩ := hextent.superset (Set.mem_univ ((1 : M) : M ⧸ N))
    exact List.ne_nil_of_mem hc
  obtain ⟨members, hmembers⟩ : ∃ members, Value.distinct cosets = .ok members := by
    obtain ⟨members, hmembers, -⟩ := hR.exists_distinct (fun c q hc => hc.keyed_eq) hstand
    exact ⟨members, hmembers⟩
  have hact {a c : Value} {x : M} {q : M ⧸ N} (ha : R a x) (hc : StandsForCoset R N c q) :=
    hG.act_cosetAction_spec hH members hstand hextent ha hc
  refine ⟨cosetAction G H cosets members, ?_, ?_, rfl, fun g hg c hc => ?_⟩
  · rw [GroupAction.onCosets, hcosets, ok_bind]
    simp [GroupAction.make, Candidate.required, candidate, hne, hmembers, cosetAction]
  · exact {
      group := hG
      faithful := hR
      act_eq := fun a c x q ha hc => by
        obtain ⟨d, -, hd, hdq⟩ := hact ha hc
        exact ⟨d, hd, hdq⟩
      keyed_eq := fun c q hc => hc.keyed_eq
      equal_eq := fun c d q r hc hd => hc.equal_eq hd
      items_ne := hne
      distinct := Candidate.pairwise_cosets hcosets
      standing := hstand
      surjective := fun q => hextent.superset (Set.mem_univ q) }
  · obtain ⟨x, hx⟩ := hG.standing g hg
    obtain ⟨q, hq⟩ := hstand c hc
    obtain ⟨d, hd, hgc, -⟩ := hact hx hq
    exact ⟨d, hd, hgc⟩

end FiniteGroup.Realizes

/-! ## What holds of the action on cosets -/

namespace ValidGroup

variable (G : ValidGroup)

/-- `K` is the largest normal subgroup of `G` inside `H`. -/
structure IsCore (H K : FiniteGroup) : Prop where
  exists_consists : ∃ T : Subgroup G.Element, Consists G.Stands K T
  subset : K.elements.subset H.elements = true
  isNormal_eq : G.candidate.isNormal K.candidate = .ok true
  /-- Its elements are those of all conjugates of `H`. -/
  exists_conjugates : ∃ conjugates,
    G.els.mapM (G.candidate.conjugateSubgroup H.candidate) = .ok conjugates ∧
      ∀ a x, G.Stands a x → (K.contains a = .ok true ↔ ∀ C ∈ conjugates, C.contains a = .ok true)
  largest : ∀ ⦃L : FiniteGroup⦄ ⦃T : Subgroup G.Element⦄, Consists G.Stands L T →
    G.candidate.isNormal L.candidate = .ok true → L.elements.subset H.elements = true →
    L.elements.subset K.elements = true

/-- What there is to say about the action `A` on the cosets of `H`. -/
structure IsCosetAction (H : FiniteGroup) (A : GroupAction) : Prop where
  /-- What an element makes of a coset is one of the cosets. -/
  act_mem : ∀ g ∈ G.els, ∀ c ∈ A.items, ∃ d ∈ A.items, A.act g c = .ok d
  isAction_eq : A.isAction = .ok true
  isTransitive_eq : A.isTransitive = .ok true
  distinct : A.items.Pairwise fun c d => c.equal d = .ok false
  length_items : A.items.length = G.order / H.order
  /-- The coset of the identity is left where it is by the elements of the subgroup. -/
  stabilizer : ∃ c K, G.candidate.coset .left H.candidate G.identity = .ok c ∧
    A.stabilizer c = .ok K ∧ K.elements.sameSet H.elements = true
  /-- The elements that move no coset are the largest normal subgroup inside the subgroup. -/
  permRep : ∃ f K, A.permRep = .ok f ∧ f.isHom = .ok true ∧ f.kernel = .ok K ∧ G.IsCore H K

variable {G} {H : FiniteGroup} {N : Subgroup G.Element}

theorem isCore_of_consists (hH : Consists G.Stands H N) {K : FiniteGroup}
    (hK : Consists G.Stands K N.normalCore) : G.IsCore H K where
  exists_consists := ⟨_, hK⟩
  subset := (hK.subset_iff faithful hH).2 N.normalCore_le
  isNormal_eq := (eq_ok_true_iff (G.realizes.isNormal_spec hK)).2 N.normalCore_normal
  exists_conjugates := by
    obtain ⟨conjugates, hconjugates, hall⟩ := G.realizes.exists_conjugates hH
    refine ⟨conjugates, hconjugates, fun a x ha => ?_⟩
    rw [G.realizes.contains_iff hK ha, SetLike.mem_coe, Subgroup.normalCore_eq_iInf_map_conj,
      Subgroup.mem_iInf]
    constructor
    · intro hx C hC
      obtain ⟨g, -, y, -, -, hconsists⟩ := exists_of_forall₂ hall hC
      exact (G.realizes.contains_iff hconsists ha).2 (hx y)
    · intro hx y
      obtain ⟨g, hg, hgy⟩ := G.realizes.surjective y
      obtain ⟨C, hC, z, hgz, -, hconsists⟩ := exists_of_forall₂ hall.flip hg
      rw [faithful.unique hgy hgz]
      exact (G.realizes.contains_iff hconsists ha).1 (hx C hC)
  largest L T hL hnormal hsub := by
    have hT : T.Normal := (eq_ok_true_iff (G.realizes.isNormal_spec hL)).1 hnormal
    rw [hL.subset_iff faithful hK]
    exact Subgroup.normal_le_normalCore.2 ((hL.subset_iff faithful hH).1 hsub)

theorem isCosetAction_of_realizes (hH : Consists G.Stands H N) {A : GroupAction}
    (hA : A.Realizes G.Stands (StandsForCoset G.Stands N))
    (hact : ∀ g ∈ G.els, ∀ c ∈ A.items, ∃ d ∈ A.items, A.act g c = .ok d) :
    G.IsCosetAction H A where
  act_mem := hact
  isAction_eq := hA.isAction_eq
  isTransitive_eq := hA.isTransitive_iff.2 inferInstance
  distinct := by
    refine hA.distinct.imp_of_mem fun {c d} hc hd hne => ?_
    obtain ⟨q, hq⟩ := hA.standing c hc
    obtain ⟨r, hr⟩ := hA.standing d hd
    rw [hA.equal_eq hq hr, hne]
  length_items := by
    have := G.realizes.finite
    rw [hA.length_items, G.realizes.order_eq, hH.order_eq faithful, ← Nat.card_coe_set_eq,
      Subgroup.card_eq_card_quotient_mul_card_subgroup N]
    exact (Nat.mul_div_cancel _ Nat.card_pos).symm
  stabilizer := by
    obtain ⟨members, hcoset, hstands⟩ := G.realizes.cosetOf_spec hH G.realizes.one
    obtain ⟨K, hK, hconsists⟩ := hA.stabilizer_spec hstands
    rw [stabilizer_quotient] at hconsists
    exact ⟨_, K, hcoset, hK, (hconsists.sameSet_iff faithful hH).2 rfl⟩
  permRep := by
    obtain ⟨f, K, hf, hhom, hK, hconsists⟩ := hA.exists_permRep_kernel
    rw [← Subgroup.normalCore_eq_ker] at hconsists
    exact ⟨f, K, hf, hhom, hK, isCore_of_consists hH hconsists⟩

end ValidGroup

/-! ## Transitive actions -/

namespace GroupAction

/-- An element moves the item `a` to what is equal to `y`, and its coset is equal to `c`. -/
def Pairs (A : GroupAction) (a : Value) (K : FiniteGroup) (y c : Value) : Prop :=
  ∃ g ∈ A.group.els, ∃ u d, A.act g a = .ok u ∧ u.equal y = .ok true ∧
    A.group.candidate.coset .left K.candidate g = .ok d ∧ d.equal c = .ok true

/-- To send what an element makes of the item `a` to the coset of the element is to identify the
items of `A` with those of `B`, so that elements act alike on both. -/
structure Identifies (A : GroupAction) (a : Value) (K : FiniteGroup) (B : GroupAction) :
    Prop where
  /-- What an element makes of the item is sent to its coset. -/
  exists_pair : ∀ g ∈ A.group.els, ∃ u d, A.act g a = .ok u ∧
    A.group.candidate.coset .left K.candidate g = .ok d ∧
    ∃ y ∈ A.items, ∃ c ∈ B.items, u.equal y = .ok true ∧ d.equal c = .ok true
  existsUnique_coset : ∀ y ∈ A.items, ∃! c, c ∈ B.items ∧ A.Pairs a K y c
  existsUnique_item : ∀ c ∈ B.items, ∃! y, y ∈ A.items ∧ A.Pairs a K y c
  commutes : ∀ h ∈ A.group.els, ∀ y ∈ A.items, ∀ c ∈ B.items, A.Pairs a K y c →
    ∃ z d, A.act h y = .ok z ∧ B.act h c = .ok d ∧ A.Pairs a K z d

namespace Realizes

variable [MulAction M X] {S : Value → X → Prop} {A B : GroupAction} (hA : A.Realizes R S)
include hA

section

variable {a : Value} {x : X} (hx : S a x) {K : FiniteGroup}
  (hK : Consists R K (MulAction.stabilizer M x))
  (hB : B.Realizes R (StandsForCoset R (MulAction.stabilizer M x)))
include hx hK hB

/-- An item and a coset belong together exactly if the elements of the coset lead to the item. -/
theorem pairs_iff {y c : Value} {z : X} {q : M ⧸ MulAction.stabilizer M x} (hy : S y z)
    (hc : StandsForCoset R (MulAction.stabilizer M x) c q) :
    A.Pairs a K y c ↔ ofQuotientStabilizer M x q = z := by
  constructor
  · rintro ⟨g, hg, u, d, hu, huy, hd, hdc⟩
    obtain ⟨w, hw⟩ := hA.group.standing g hg
    obtain ⟨u', hu', hux⟩ := hA.act_eq hw hx
    obtain rfl := Except.ok.inj (hu.symm.trans hu')
    obtain ⟨members, hcoset, hstands⟩ := hA.group.cosetOf_spec hK hw
    obtain rfl := Except.ok.inj (hd.symm.trans hcoset)
    rw [← (hB.equal_iff hstands hc).1 hdc, ofQuotientStabilizer_mk]
    exact (hA.equal_iff hux hy).1 huy
  · intro hqz
    obtain ⟨w, rfl⟩ := QuotientGroup.mk_surjective q
    rw [ofQuotientStabilizer_mk] at hqz
    obtain ⟨g, hg, hw⟩ := hA.group.surjective w
    obtain ⟨u, hu, hux⟩ := hA.act_eq hw hx
    obtain ⟨members, hcoset, hstands⟩ := hA.group.cosetOf_spec hK hw
    exact ⟨g, hg, u, _, hu, (hA.equal_iff hux hy).2 hqz, hcoset, (hB.equal_iff hstands hc).2 rfl⟩

/-- A transitive action is the action on the cosets of the stabilizer of an item. -/
theorem identifies [IsPretransitive M X] : A.Identifies a K B := by
  have hpairs {y c : Value} {z : X} {q : M ⧸ MulAction.stabilizer M x} (hy : S y z)
      (hc : StandsForCoset R (MulAction.stabilizer M x) c q) := hA.pairs_iff hx hK hB hy hc
  refine ⟨fun g hg => ?_, fun y hy => ?_, fun c hc => ?_, fun h hh y hy c hc hyc => ?_⟩
  · obtain ⟨w, hw⟩ := hA.group.standing g hg
    obtain ⟨u, hu, hux⟩ := hA.act_eq hw hx
    obtain ⟨members, hcoset, hstands⟩ := hA.group.cosetOf_spec hK hw
    obtain ⟨y, hy, hyx⟩ := hA.surjective (w • x)
    obtain ⟨c, hc, hcq⟩ := hB.surjective w
    exact ⟨u, _, hu, hcoset, y, hy, c, hc, (hA.equal_iff hux hyx).2 rfl,
      (hB.equal_iff hstands hcq).2 rfl⟩
  · obtain ⟨z, hz⟩ := hA.standing y hy
    obtain ⟨w, hw⟩ := exists_smul_eq M x z
    obtain ⟨c, hc, hcq⟩ := hB.surjective w
    refine ⟨c, ⟨hc, (hpairs hz hcq).2 hw⟩, fun d ⟨hd, hyd⟩ => ?_⟩
    obtain ⟨r, hr⟩ := hB.standing d hd
    -- different cosets lead to different items
    have hrw : r = w := injective_ofQuotientStabilizer M x (((hpairs hz hr).1 hyd).trans hw.symm)
    exact hB.eq_of_stands hd hc (hrw ▸ hr) hcq
  · obtain ⟨q, hq⟩ := hB.standing c hc
    obtain ⟨y, hy, hyq⟩ := hA.surjective (ofQuotientStabilizer M x q)
    refine ⟨y, ⟨hy, (hpairs hyq hq).2 rfl⟩, fun y' ⟨hy', hyc⟩ => ?_⟩
    obtain ⟨z, hz⟩ := hA.standing y' hy'
    exact hA.eq_of_stands hy' hy ((hpairs hz hq).1 hyc ▸ hz) hyq
  · obtain ⟨w, hw⟩ := hA.group.standing h hh
    obtain ⟨z, hz⟩ := hA.standing y hy
    obtain ⟨q, hq⟩ := hB.standing c hc
    obtain ⟨u, hu, huz⟩ := hA.act_eq hw hz
    obtain ⟨d, hd, hdq⟩ := hB.act_eq hw hq
    refine ⟨u, d, hu, hd, (hpairs huz hdq).2 ?_⟩
    rw [ofQuotientStabilizer_smul, (hpairs hz hq).1 hyc]

end

end Realizes

end GroupAction

/-! ## Valid groups -/

/-- A group acts transitively on the cosets of a subgroup, and every transitive action is one on
the cosets of a stabilizer. -/
theorem ValidGroup.exists_cosetActions (G : ValidGroup) :
    (∀ (H : FiniteGroup) (N : Subgroup G.Element), Consists G.Stands H N →
      ∃ A, GroupAction.onCosets G.candidate H.candidate = .ok A ∧ G.IsCosetAction H A) ∧
    ∀ A : ValidAction G, A.isTransitive = .ok true → ∀ a ∈ A.items, ∃ K B,
      A.stabilizer a = .ok K ∧ GroupAction.onCosets G.candidate K.candidate = .ok B ∧
        A.toGroupAction.Identifies a K B := by
  refine ⟨fun H N hH => ?_, fun A htransitive a ha => ?_⟩
  · obtain ⟨A, hmake, hA, -, hact⟩ := G.realizes.exists_onCosets hH
    exact ⟨A, hmake, isCosetAction_of_realizes hH hA hact⟩
  · have hA := A.realizes
    have hpretransitive := hA.isTransitive_iff.1 htransitive
    have hx := ValidAction.stands_self ⟨a, ha⟩
    obtain ⟨K, hK, hconsists⟩ := hA.stabilizer_spec hx
    obtain ⟨B, hmake, hB, -⟩ := G.realizes.exists_onCosets hconsists
    exact ⟨K, B, hK, hmake, hA.identifies hx hconsists hB⟩

/-- The residues modulo six act on the cosets of the multiples of three, and on themselves as on the
cosets of the identity. -/
theorem ValidGroup.exists_cosetActions_residues :
    let G := validResidues (n := 6) (by decide) (by decide)
    (∃ N : Subgroup G.Element, Consists G.Stands threes N ∧ ∃ A,
      GroupAction.onCosets G.candidate threes.candidate = .ok A ∧ G.IsCosetAction threes A) ∧
    ∃ A : ValidAction G, GroupAction.leftMul G.candidate = .ok A.toGroupAction ∧
      A.isTransitive = .ok true ∧ ∃ a ∈ A.items, ∃ K B, A.stabilizer a = .ok K ∧
        GroupAction.onCosets G.candidate K.candidate = .ok B ∧
        A.toGroupAction.Identifies a K B := by
  intro G
  obtain ⟨N, -, hconsists⟩ := exists_consists_threes
  obtain ⟨A, hmake, htransitive, -⟩ := G.isTransitive_leftMul
  obtain ⟨a, ha⟩ := List.exists_mem_of_ne_nil _ A.items_ne
  exact ⟨⟨N, hconsists, G.exists_cosetActions.1 threes N hconsists⟩, A, hmake, htransitive, a, ha,
    G.exists_cosetActions.2 A htransitive a ha⟩

/-! ## A transitive action that tells equal items apart -/

/-- The two residues, added to the two numbers, of which the larger one is the first. -/
def swappedSum : GroupAction :=
  { sumAction with items := [upper, lower], members := .ofList [upper, lower] }

theorem mem_swappedSum {a : Value} : a ∈ swappedSum.items ↔ a ∈ sumAction.items := by
  simp [swappedSum, sumAction, or_comm]

/-- The first item is moved to the other one. -/
theorem isTransitive_swappedSum : swappedSum.isTransitive = .ok true := by
  obtain ⟨-, -, hupper, -, -⟩ := beq_rounded
  have horbit : swappedSum.orbit upper = .ok (.ofList [upper, rounded]) :=
    orbit_sumAction (by simp [sumAction])
  have hsize : (Roster.ofList [upper, rounded]).size = 2 := by
    rw [← Roster.length_toList, Roster.toList_ofList (by simp [hupper])]
    rfl
  rw [GroupAction.isTransitive]
  show (do return (← swappedSum.orbit upper).size == 2) = _
  rw [horbit, ok_bind, hsize]
  rfl

/-- Only the identity leaves the first item where it is. -/
theorem exists_stabilizer_swappedSum : ∃ K, swappedSum.stabilizer upper = .ok K ∧
    Consists (WritesResidue 2) K (⊥ : Subgroup (Multiplicative (ZMod 2))) := by
  have hmem : upper ∈ [lower, upper, rounded] := by simp
  have hgens : twoResidues.els.filterM (swappedSum.fixes · upper) = .ok [.int 0] := by
    obtain ⟨-, -, -, hupper, -⟩ := beq_rounded
    have hzero : swappedSum.fixes (.int 0) upper = .ok true := by
      show (do (← sumAction.act (.int 0) upper).equal upper) = _
      rw [act_zero hmem, ok_bind, equal_self hmem]
    have hone : swappedSum.fixes (.real 1) upper = .ok false := by
      show (do (← sumAction.act (.real 1) upper).equal upper) = _
      rw [act_real (.inr rfl) hmem, ok_bind,
        Value.equal_of_isSimple (isSimple_of_mem (by simp)) (isSimple_of_mem hmem), hupper]
    have hne : (Value.real 1 == .int 0) = false := by decide +kernel
    have hfilter : twoResidues.els.filter (· == .int 0) = [.int 0] := by
      rw [els_twoResidues]
      simp [hne]
    rw [← hfilter]
    refine filterM_eq_filter fun g hg => ?_
    rw [els_twoResidues] at hg
    obtain rfl | rfl : g = .int 0 ∨ g = .real 1 := by simpa using hg
    · rw [hzero, BEq.rfl]
    · rw [hone, hne]
  have hzero : WritesResidue 2 (.int 0) 1 := writesResidue_zero (by decide)
  have hbot : extent (WritesResidue 2) [.int 0] = (⊥ : Subgroup (Multiplicative (ZMod 2))) :=
    realizes_twoResidues.faithful.extent_singleton hzero
  have hsub : [.int 0] ⊆ twoResidues.els := by simp [els_twoResidues]
  exact swappedSum.stabilizer_of_gens realizes_twoResidues hgens hsub hbot

/-- What belongs to an item that is not the first one is the coset of the other element. -/
theorem eq_of_pairs_swappedSum {K : FiniteGroup}
    (hK : Consists (WritesResidue 2) K (⊥ : Subgroup (Multiplicative (ZMod 2)))) {y c : Value}
    (hy : upper.equal y = .ok false) (h : swappedSum.Pairs upper K y c)
    {q : Multiplicative (ZMod 2) ⧸ (⊥ : Subgroup (Multiplicative (ZMod 2)))}
    (hc : StandsForCoset (WritesResidue 2) ⊥ c q) : q = (Multiplicative.ofAdd (1 : ZMod 2) :) := by
  obtain ⟨g, hg, u, d, hu, huy, hd, hdc⟩ := h
  change g ∈ twoResidues.els at hg
  rw [els_twoResidues] at hg
  obtain rfl | rfl : g = .int 0 ∨ g = .real 1 := by simpa using hg
  · -- the identity leads to the first item
    obtain rfl := Except.ok.inj (hu.symm.trans (act_zero (a := upper) (by simp)))
    cases hy.symm.trans huy
  · obtain ⟨members, hcoset, hstands⟩ := realizes_twoResidues.cosetOf_spec hK writesResidue_one
    obtain rfl := Except.ok.inj (hd.symm.trans hcoset)
    rw [hstands.equal_eq hc, Except.ok.injEq,
      faithful_coset realizes_twoResidues.faithful hstands hc] at hdc
    exact hdc.symm

/-- A transitive action of a valid group that satisfies the laws and leads from items to items, but
not as on the cosets of the stabilizer. -/
theorem exists_not_identifies :
    let G := validTwoResidues
    ∃ A, GroupAction.ofItems G.candidate
        (.list 0 [.int 9007199254740993, .int 9007199254740992]) (.op .add []) = .ok A ∧
      A.items.Pairwise (fun a b => (a == b) = false) ∧
      (∀ g ∈ G.els, ∀ a ∈ A.items, ∃ b, A.act g a = .ok b ∧ ∃ c ∈ A.items, (b == c) = true) ∧
      A.isAction = .ok true ∧ A.isTransitive = .ok true ∧
      ∃ a ∈ A.items, ∃ K B, A.stabilizer a = .ok K ∧
        GroupAction.onCosets G.candidate K.candidate = .ok B ∧ ¬A.Identifies a K B := by
  intro G
  obtain ⟨-, -, hrounded, -, hne⟩ := beq_rounded
  obtain ⟨K, hK, hconsists⟩ := exists_stabilizer_swappedSum
  obtain ⟨B, hmake, hB, -⟩ := realizes_twoResidues.exists_onCosets hconsists
  refine ⟨swappedSum, rfl, ?_, fun g hg a ha => ?_,
    GroupAction.isAction_of_subset isAction_sumAction _ fun a ha => mem_swappedSum.1 ha,
    isTransitive_swappedSum, upper, by simp [swappedSum], K, B, hK, hmake, fun hident => ?_⟩
  · show [upper, lower].Pairwise _
    simp [BEq.comm, hne]
  · obtain ⟨b, hb, c, hc, hbc⟩ := act_mem_sumAction hg (mem_swappedSum.1 ha)
    exact ⟨b, hb, c, mem_swappedSum.2 hc, hbc⟩
  · -- the other element leads from the coset that belongs to the second item to the other coset,
    -- but from the second item to what is equal to it
    obtain ⟨c, ⟨hc, hpairs⟩, -⟩ := hident.existsUnique_coset lower (by simp [swappedSum])
    obtain ⟨q, hq⟩ := hB.standing c hc
    have hqone := eq_of_pairs_swappedSum hconsists (by
      rw [Value.equal_of_isSimple rfl rfl, BEq.comm, hne]) hpairs hq
    obtain ⟨z, d, hz, hd, hpairs'⟩ := hident.commutes (.real 1) (by
      show _ ∈ twoResidues.els
      simp [els_twoResidues]) lower (by simp [swappedSum]) c hc hpairs
    obtain rfl := Except.ok.inj (hz.symm.trans (act_real (.inr rfl) (a := lower) (by simp)))
    obtain ⟨d', hd', hdq⟩ := hB.act_eq writesResidue_one hq
    obtain rfl := Except.ok.inj (hd.symm.trans hd')
    have hdone := eq_of_pairs_swappedSum hconsists (by
      rw [Value.equal_of_isSimple rfl rfl, hrounded]) hpairs' hdq
    rw [hqone] at hdone
    have hmem := QuotientGroup.eq.1 hdone
    rw [Subgroup.mem_bot] at hmem
    revert hmem
    decide

end FiniteGroups
