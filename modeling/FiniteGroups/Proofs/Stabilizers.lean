import FiniteGroups.Proofs.CosetActions
import FiniteGroups.Proofs.InnerAutomorphisms

/-!
# Stabilizers

The elements that leave an item where it is span a subgroup, which has no other elements. Its
order and the size of the orbit multiply to the order of the group, and the stabilizers of the
items of one orbit are conjugate.

`ValidAction.exists_stabilizers` says it for valid actions, and that an action is found to be free
exactly if no element other than the identity leaves an item where it is. In
`exists_not_conjugate` an action tells equal items apart : the stabilizer of an image is everything
there, and its conjugate is trivial.
-/

set_option linter.unusedSectionVars false

namespace FiniteGroups

open FiniteGroup MulAction

/-- All stabilizers are trivial if no element but the identity fixes anything. -/
theorem stabilizers_eq_bot_iff {M X : Type} [Group M] [MulAction M X] :
    (∀ x : X, stabilizer M x = ⊥) ↔ ∀ g : M, g ≠ 1 → fixedBy X g = ∅ := by
  simp only [Subgroup.eq_bot_iff_forall, mem_stabilizer_iff, Set.eq_empty_iff_forall_notMem,
    mem_fixedBy]
  constructor
  · exact fun h g hg x hx => hg (h x g hx)
  · intro h x g hx
    by_contra hg
    exact h g hg x hx

/-- A stabilizer has the operation of the group. -/
theorem GroupAction.stabilizer_op {A : GroupAction} (hintact : A.group.Intact) {a : Value}
    {K : FiniteGroup} (h : A.stabilizer a = .ok K) : K.op = A.group.op := by
  obtain ⟨gens, -, hspan⟩ := bind_eq_ok.1 h
  exact (hintact.of_span hspan).1

namespace GroupAction.Realizes

variable {M X : Type} [Group M] [MulAction M X] {R : Value → M → Prop} {S : Value → X → Prop}
  {A : GroupAction} (hA : A.Realizes R S)
include hA

/-- The size of an orbit and the order of the stabilizer multiply to the order of the group. -/
theorem checkOrbitStabilizer_eq {a : Value} {x : X} (ha : S a x) :
    A.checkOrbitStabilizer a = .ok true := by
  obtain ⟨found, hfound, hstand, hextent⟩ := hA.orbit_spec ha
  obtain ⟨K, hK, hconsists⟩ := hA.stabilizer_spec ha
  have hproduct : found.size * K.order = A.group.order := by
    rw [← hA.faithful.ncard_extent hstand, hextent, hconsists.order_eq hA.group.faithful,
      hA.group.order_eq, ← Subgroup.card_mul_index (MulAction.stabilizer M x), index_stabilizer,
      mul_comm, ← Nat.card_coe_set_eq, ← Nat.card_coe_set_eq]
    rfl
  rw [checkOrbitStabilizer, hfound, ok_bind, hK, ok_bind, hproduct, BEq.rfl]
  rfl

/-- No items are left where they are exactly if nothing is fixed. -/
theorem fixedPoints_eq_nil_iff {a : Value} {g : M} (ha : R a g) :
    A.fixedPoints a = .ok [] ↔ fixedBy X g = ∅ := by
  have := hA.finite
  obtain ⟨points, hpoints, hlength⟩ := hA.fixedPoints_spec ha
  rw [hpoints, Except.ok.injEq, ← List.length_eq_zero_iff, hlength, Set.ncard_eq_zero]

/-- Whether all stabilizers are trivial is found out, in whatever order and however often the items
are listed. -/
theorem isFree_of_standing {items : List Value} (hstand : Standing S items)
    (hextent : extent S items = Set.univ) (members : Roster Value) :
    ∃ answer, { A with items, members }.isFree = .ok answer ∧
      (answer = true ↔ ∀ x : X, MulAction.stabilizer M x = ⊥) := by
  have := hA.group.finite
  obtain ⟨answer, hanswer, hiff⟩ := hA.faithful.exists_allM hstand
      (f := fun a => do return (← A.stabilizer a).order == 1)
      (P := fun x => MulAction.stabilizer M x = ⊥) fun a _ x ha => by
    obtain ⟨K, hK, hconsists⟩ := hA.stabilizer_spec ha
    refine ⟨K.order == 1, by rw [hK]; rfl, ?_⟩
    rw [beq_iff_eq, hconsists.order_eq hA.group.faithful, ← Nat.card_coe_set_eq]
    exact Subgroup.card_eq_one
  rw [hextent] at hiff
  exact ⟨answer, hanswer, by simpa using hiff⟩

/-- Whether all stabilizers are trivial is found out. -/
theorem isFree_spec : ∃ answer, A.isFree = .ok answer ∧
    (answer = true ↔ ∀ x : X, MulAction.stabilizer M x = ⊥) :=
  hA.isFree_of_standing hA.standing hA.extent_items A.members

end GroupAction.Realizes

/-! ## Valid actions -/

namespace ValidAction

variable {G : ValidGroup} (A : ValidAction G)

/-- What there is to say about the stabilizer `K` of the item `a`. -/
structure IsStabilizer (a : Value) (K : FiniteGroup) : Prop where
  exists_consists : ∃ N : Subgroup G.Element, Consists G.Stands K N
  /-- It has the elements that leave the item where it is. -/
  contains : ∀ ⦃g y⦄, G.Stands g y →
    ∃ answer, K.contains g = .ok answer ∧ A.fixes g a = .ok answer
  checkOrbitStabilizer_eq : A.checkOrbitStabilizer a = .ok true
  /-- The stabilizer of an image under an element, as it is listed or however else it is written and
  inverted, is a conjugate. It is found equal to it if the group as a value is equal to itself. -/
  conjugate : ∀ g, g ∈ G.els ∨ G.Invertible G.Stands g → ∃ b L C,
    A.act g a = .ok b ∧ A.stabilizer b = .ok L ∧
      G.candidate.conjugateSubgroup K.candidate g = .ok C ∧
      L.elements.sameSet C.elements = true ∧
      (G.value.equal G.value = .ok true → L.value.equal C.value = .ok true)

variable {A}

/-- The stabilizer of an item is what it should be. -/
theorem isStabilizer_of_consists {a : Value} {x : A.Item} (ha : A.Stands a x) {K : FiniteGroup}
    (hK : Consists G.Stands K (stabilizer G.Element x)) : A.IsStabilizer a K := by
  have hA := A.realizes
  have hG := G.realizes
  refine ⟨⟨_, hK⟩, fun g y hg => ?_, hA.checkOrbitStabilizer_eq ha, fun g hg => ?_⟩
  · obtain ⟨answer, hanswer, hiff⟩ := hG.contains_spec hK hg
    obtain ⟨answer', hfixes, hiff'⟩ := hA.fixes_spec hg ha
    have hsame : answer = answer' := by
      rw [Bool.eq_iff_iff, hiff, hiff']
      rfl
    exact ⟨answer, hanswer, hsame ▸ hfixes⟩
  · -- the conjugate is made with the inverse of `g` as it is written
    obtain ⟨z, i, hz, hi, hiz⟩ := hg.elim hG.invertible_of_mem id
    obtain ⟨b, hb, hbx⟩ := hA.act_eq hz ha
    obtain ⟨L, hL, hLconsists⟩ := hA.stabilizer_spec hbx
    obtain ⟨C, hC, hop, hCconsists⟩ := hG.conjugateSubgroup_of_inverse hK hz hi hiz
    have hset : (stabilizer G.Element (z • x) : Set G.Element) =
        MulAut.conj z '' (stabilizer G.Element x : Set G.Element) := by
      rw [stabilizer_smul_eq_stabilizer_map_conj]
      rfl
    exact ⟨b, L, C, hb, hL, hC, (hLconsists.sameSet_iff ValidGroup.faithful hCconsists).2 hset,
      fun hself => (equal_value_of_op ValidGroup.faithful hLconsists hCconsists hG.consists
        (A.group_eq ▸ A.toGroupAction.stabilizer_op hA.group.intact hL) hop hself).2 hset⟩

/-- Every item of a valid action has a stabilizer, and the action is found to be free exactly if no
element but the identity leaves an item where it is. -/
theorem exists_stabilizers (A : ValidAction G) :
    (∀ ⦃a x⦄, A.Stands a x → ∃ K, A.stabilizer a = .ok K ∧ A.IsStabilizer a K) ∧
    ∃ answer, A.isFree = .ok answer ∧ (answer = true ↔
      ∀ g ∈ G.els, g.equal G.identity = .ok false → A.fixedPoints g = .ok []) := by
  have hA := A.realizes
  refine ⟨fun a x ha => ?_, ?_⟩
  · obtain ⟨K, hK, hconsists⟩ := hA.stabilizer_spec ha
    exact ⟨K, hK, isStabilizer_of_consists ha hconsists⟩
  · obtain ⟨answer, hanswer, hiff⟩ := hA.isFree_spec
    rw [stabilizers_eq_bot_iff] at hiff
    exact ⟨answer, hanswer, hiff.trans (G.realizes.forall_ne_identity_iff fun g y _ hy _ =>
      hA.fixedPoints_eq_nil_iff hy).symm⟩

end ValidAction

/-- The residues modulo six act on themselves, among them on the residue zero. -/
theorem exists_stabilizers_residues :
    let G := validResidues (n := 6) (by decide) (by decide)
    ∃ A : ValidAction G, GroupAction.leftMul G.candidate = .ok A.toGroupAction ∧
      (∃ x, A.Stands (.int 0) x ∧ ∃ K, A.stabilizer (.int 0) = .ok K ∧ A.IsStabilizer (.int 0) K) ∧
      ∃ answer, A.isFree = .ok answer ∧ (answer = true ↔
        ∀ g ∈ G.els, g.equal G.identity = .ok false → A.fixedPoints g = .ok []) := by
  intro G
  obtain ⟨members, hmembers⟩ := G.realizes.exists_leftMul
  have hzero : .int 0 ∈ (G.leftAction members).items :=
    (mem_residues (by decide)).2 ⟨0, by decide, rfl⟩
  have hstands := ValidAction.stands_self (A := G.leftAction members) ⟨_, hzero⟩
  obtain ⟨hall, hfree⟩ := (G.leftAction members).exists_stabilizers
  exact ⟨G.leftAction members, hmembers, ⟨_, hstands, hall hstands⟩, hfree⟩

/-! ## Stabilizers that are not conjugate -/

/-- Everything leaves the rounded number where it is. -/
theorem exists_stabilizer_rounded : ∃ K, sumAction.stabilizer rounded = .ok K ∧
    Consists (WritesResidue 2) K (⊤ : Subgroup (Multiplicative (ZMod 2))) := by
  have hmem : rounded ∈ [lower, upper, rounded] := by simp
  have hgens : twoResidues.els.filterM (sumAction.fixes · rounded) = .ok twoResidues.els := by
    have hfilter : twoResidues.els.filter (fun _ => true) = twoResidues.els := by simp
    conv_rhs => rw [← hfilter]
    refine filterM_eq_filter fun g hg => ?_
    rw [els_twoResidues] at hg
    obtain rfl | rfl : g = .int 0 ∨ g = .real 1 := by simpa using hg
    · rw [GroupAction.fixes, act_zero hmem, ok_bind, equal_self hmem]
    · rw [GroupAction.fixes, act_real (.inr rfl) hmem, ok_bind, equal_self hmem]
  exact sumAction.stabilizer_of_gens realizes_twoResidues hgens (List.Subset.refl _)
    (realizes_twoResidues.extent_els.trans Subgroup.coe_top.symm)

/-- An action of a valid group that satisfies the laws and leads from items to items. An element
moves an item to the other one, but the stabilizer of the result is not a conjugate of the
stabilizer of the item. -/
theorem exists_not_conjugate :
    let G := validTwoResidues
    ∃ A, GroupAction.ofItems G.candidate
        (.list 0 [.int 9007199254740992, .int 9007199254740993]) (.op .add []) = .ok A ∧
      A.items.Pairwise (fun a b => (a == b) = false) ∧
      (∀ g ∈ G.els, ∀ a ∈ A.items, ∃ b, A.act g a = .ok b ∧ ∃ c ∈ A.items, (b == c) = true) ∧
      A.isAction = .ok true ∧
      ∃ g ∈ G.els, ∃ a ∈ A.items, ∃ b K L C, A.act g a = .ok b ∧
        A.stabilizer a = .ok K ∧ A.stabilizer b = .ok L ∧
        G.candidate.conjugateSubgroup K.candidate g = .ok C ∧
        L.elements.sameSet C.elements = false ∧ L.value.equal C.value ≠ .ok true := by
  intro G
  have hG := realizes_twoResidues
  have hmem : .real 1 ∈ twoResidues.els := by simp [els_twoResidues]
  obtain ⟨K, hK, hbot⟩ := exists_stabilizer_swappedSum
  obtain ⟨L, hL, htop⟩ := exists_stabilizer_rounded
  obtain ⟨C, hC, hop, hconsists⟩ := hG.conjugateSubgroup_spec hbot hmem writesResidue_one
  have hself : twoResidues.value.equal twoResidues.value = .ok true := by
    refine equal_value_self ?_
    show (Value.op .addMod [.int 2]).compare (.op .addMod [.int 2]) = _
    rw [Value.compare, if_pos rfl]
    exact (compareEach_writes .int .int).trans (congrArg _ (Value.same_refl _))
  -- a conjugate of the trivial subgroup is trivial
  have hne : ((⊤ : Subgroup (Multiplicative (ZMod 2))) : Set (Multiplicative (ZMod 2))) ≠
      MulAut.conj (Multiplicative.ofAdd 1) '' ↑(⊥ : Subgroup (Multiplicative (ZMod 2))) := by
    intro heq
    have hone : Multiplicative.ofAdd (1 : ZMod 2) ∈ (⊤ : Subgroup (Multiplicative (ZMod 2))) :=
      Subgroup.mem_top _
    rw [← SetLike.mem_coe, heq, Subgroup.coe_bot, Set.image_singleton, map_one] at hone
    exact absurd hone (by decide)
  refine ⟨sumAction, ofItems_sumAction, distinct_sumAction,
    fun g hg a ha => act_mem_sumAction hg ha, isAction_sumAction, .real 1, hmem, upper,
    by simp [sumAction], rounded, K, L, C, act_real (.inr rfl) (by simp), hK, hL, hC, ?_, ?_⟩
  · rw [← Bool.not_eq_true, htop.sameSet_iff hG.faithful hconsists]
    exact hne
  · rw [Ne, equal_value_of_op hG.faithful htop hconsists hG.consists
      (sumAction.stabilizer_op hG.intact hL) hop hself]
    exact hne

end FiniteGroups
