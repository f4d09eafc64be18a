import FiniteGroups.Group.Candidate
import FiniteGroups.Group.Table
import FiniteGroups.Proofs.Computation
import FiniteGroups.Proofs.Roster

/-!
# Groups that were left as they were made

The list of elements of a group can be changed after the group was made, and what is kept with a
group, such as its table, does not follow. A group is `Intact` if nothing of this kind has
happened: its list of elements is the one in which members are looked up, what is kept is what
would be computed anew, and seen as a value it multiplies and inverts as it does itself.

Groups are intact when they are made (`intact_ofRoster`, `Intact.subgroupOf`), and an intact group
that is read from its value again is the same up to the index of its elements (`Intact.reread`).
-/

namespace FiniteGroups

namespace FiniteGroup

/-- Nothing of the group was changed since it was made. -/
structure Intact (G : FiniteGroup) : Prop where
  els_eq : G.els = G.elements.toList
  /-- An identity that is an element stands in front of the list, as it is written. -/
  head?_eq : G.elements.contains G.identity = true → G.els.head? = some G.identity
  table_eq : G.table = G.freshTable
  position_eq : ∀ a, G.position? a = do
    return (G.elements.find? (← a.keyed)).map Value.ofNat
  op_eq : G.value.meaning.op = .ok G.mul
  inverse_eq : G.value.meaning.inverse = .ok G.inverse
  /-- The group can be written. -/
  text_eq : ∃ s, G.text = .ok s

/-! ## Groups as they are made -/

/-- What a group means as a value. -/
theorem meaning_value (G : FiniteGroup) : ∃ own, G.value.meaning =
    Meaning.group G.els G.elements.toList G.op.meaning G.identity
      (match G.inv with
        | .none => none
        | inv => some inv.meaning) G.kept G.positions own := by
  rw [Value.meaning, value, Value.meaningWith.eq_def]
  exact ⟨_, rfl⟩

theorem meaning_op (G : FiniteGroup) : G.value.meaning.op = .ok G.op.meaning.call₂ := by
  obtain ⟨own, h⟩ := G.meaning_value
  rw [h]
  rfl

theorem meaning_inverse (G : FiniteGroup) : G.value.meaning.inverse =
    .ok (inverseBy G.inv G.inv.meaning
      (keptInverses G.kept G.els G.op.meaning.call₂ G.identity)) := by
  obtain ⟨own, h⟩ := G.meaning_value
  rw [h]
  cases G.inv <;> rfl

theorem meaning_contains (G : FiniteGroup) (a : Value) :
    G.value.meaning.contains a = G.contains a := by
  obtain ⟨own, h⟩ := G.meaning_value
  rw [h, contains]
  show (do return (Roster.ofList G.elements.toList).contains (← a.sought)) = _
  have hsame : (Roster.ofList G.elements.toList).contains = G.elements.contains := by
    funext b
    rw [Bool.eq_iff_iff, Roster.contains_ofList, Roster.contains_iff]
  rw [hsame]

theorem meaning_method (place : Nat) (owner : Value) (name : String) :
    (Value.method place owner name).meaning = .function (owner.meaning.method name) := by
  rw [Value.meaning, Value.meaningWith.eq_def]
  rfl

/-- The inverse as a function that belongs to the group. -/
theorem method_inverse (G : FiniteGroup) (a : Value) :
    G.value.meaning.method "inverse" [a] =
      inverseBy G.inv G.inv.meaning
        (keptInverses G.kept G.els G.op.meaning.call₂ G.identity) a := by
  obtain ⟨own, h⟩ := G.meaning_value
  rw [h]
  cases G.inv <;> rfl

/-- The text of a group that can be written. -/
theorem plain_value {G : FiniteGroup} {s : String} (h : G.text = .ok s) :
    G.value.plain = .ok s := by
  rw [Value.plain, value, Value.write.eq_def]
  exact h

/-- Groups are equal if they have the same elements and equal operations. -/
theorem equal_value_eq_ite (G H : FiniteGroup) : G.value.equal H.value =
    if decide (G.els.length = H.els.length) &&
      Value.sameMembers G.elements.toList H.elements.toList
      then G.op.compare H.op else .ok false := by
  rw [Value.equal, if_neg (by simp [value, Value.isSimple]), value, value, Value.compare]
  rfl

theorem position?_of_none {G : FiniteGroup} (h : G.positions = .none) (a : Value) :
    G.position? a = do return (G.elements.find? (← a.keyed)).map Value.ofNat := by
  rw [position?, h]
  rfl

theorem table_of_none {G : FiniteGroup} (h : G.memory = .none) : G.table = G.freshTable := by
  rw [table, h]

/-- A name is a text or missing. -/
def Nameable (name : Value) : Prop :=
  name = .none ∨ ∃ s, name = .text s

theorem exists_groupText {name : Value} (h : Nameable name) (origin : Origin) (order : Nat)
    {links : List Value} (hlinks : ∀ v ∈ links, ∃ n, v.length = .ok n) :
    ∃ s, Value.groupText origin name order links = .ok s := by
  rw [Value.groupText.eq_def]
  obtain ⟨named, hnamed⟩ : ∃ b, name.truthy = .ok b := by
    obtain rfl | ⟨s, rfl⟩ := h <;> exact ⟨_, rfl⟩
  rw [hnamed, ok_bind]
  cases named with
  | true =>
    obtain rfl | ⟨s, rfl⟩ := h
    · exact Bool.noConfusion (Except.ok.inj hnamed)
    · exact ⟨s, rfl⟩
  | false =>
    rw [if_neg Bool.false_ne_true]
    split
    · next parent _ =>
      obtain ⟨n, hn⟩ := hlinks parent (by simp)
      exact ⟨_, by rw [hn]; rfl⟩
    · exact ⟨_, rfl⟩

/-- A group that is made of elements is intact, wherever it comes from. -/
theorem intact_from (els : Roster Value) (op identity inv gens : Value) {name : Value}
    (h : Nameable name) (origin : Origin) {links : List Value}
    (hlinks : ∀ v ∈ links, ∃ n, v.length = .ok n) :
    ({ ofRoster els op identity inv gens name with origin, links } : FiniteGroup).Intact where
  els_eq := rfl
  head?_eq := Roster.head?_promote
  table_eq := table_of_none rfl
  position_eq := position?_of_none rfl
  op_eq := meaning_op _
  inverse_eq := meaning_inverse _
  text_eq := exists_groupText h _ _ hlinks

theorem intact_ofRoster (els : Roster Value) (op identity inv gens : Value) {name : Value}
    (h : Nameable name) : (ofRoster els op identity inv gens name).Intact :=
  intact_from els op identity inv gens h .plain (by simp)

/-- What generators span is what the closure finds, as a group. -/
theorem exists_of_span {G H : FiniteGroup} {gens : List Value} (h : G.span gens = .ok H) :
    ∃ found r, (spanned gens G.mul (some G.inverse) G.identity unlimited).outcome = .ok found ∧
      Value.distinct found = .ok r ∧ H = G.subgroupOf r (.list 0 gens) .none := by
  rw [span, generated] at h
  simp only [Report.outcome_bind, outcome_liftM] at h
  obtain ⟨-, -, h⟩ := bind_eq_ok.1 h
  obtain ⟨found, hfound, h⟩ := bind_eq_ok.1 h
  obtain ⟨r, hr, h⟩ := bind_eq_ok.1 h
  obtain ⟨-, -, h⟩ := bind_eq_ok.1 h
  exact ⟨found, r, hfound, hr, (Except.ok.inj h).symm⟩

theorem mul_of_span {G H : FiniteGroup} {gens : List Value} (h : G.span gens = .ok H) :
    H.mul = G.mul := by
  obtain ⟨-, r, -, -, rfl⟩ := exists_of_span h
  rfl

/-! ## Groups read again -/

/-- The group with a new index of its elements. -/
def reread (G : FiniteGroup) : FiniteGroup :=
  { G with elements := .ofList G.elements.toList }

theorem toList_reread (G : FiniteGroup) : G.reread.elements.toList = G.elements.toList :=
  Roster.toList_ofList G.elements.pairwise_toList

theorem value_reread (G : FiniteGroup) : G.reread.value = G.value := by
  rw [value, toList_reread]
  rfl

theorem find?_reread (G : FiniteGroup) (a : Value) :
    G.reread.elements.find? a = G.elements.find? a := by
  rw [Roster.find?_eq_findIdx?, Roster.find?_eq_findIdx?, toList_reread]

theorem contains_reread (G : FiniteGroup) (a : Value) :
    G.reread.elements.contains a = G.elements.contains a := by
  rw [Bool.eq_iff_iff, Roster.contains_iff, Roster.contains_iff, toList_reread]

theorem position?_reread (G : FiniteGroup) : G.reread.position? = G.position? := by
  funext a
  rw [position?, position?, Meaning.positionIn, Meaning.positionIn]
  show (a.keyed >>= fun k => _) = (a.keyed >>= fun k => _)
  refine congrArg _ (funext fun k => ?_)
  have hfind : (Thunk.pure G.reread.elements).get.find? k = (Thunk.pure G.elements).get.find? k :=
    find?_reread G k
  rw [hfind]
  rfl

namespace Intact

variable {G : FiniteGroup} (hG : G.Intact)
include hG

theorem call_op : G.op.meaning.call₂ = G.mul :=
  Except.ok.inj ((meaning_op G).symm.trans hG.op_eq)

theorem inverseBy_eq :
    inverseBy G.inv G.inv.meaning (keptInverses G.kept G.els G.mul G.identity) = G.inverse := by
  rw [← hG.call_op]
  exact Except.ok.inj ((meaning_inverse G).symm.trans hG.inverse_eq)

/-- A subgroup is intact. It inverts by the group that it is a part of. -/
theorem subgroupOf (els : Roster Value) (gens : Value) {name : Value} (h : Nameable name) :
    (G.subgroupOf els gens name).Intact where
  els_eq := rfl
  head?_eq := Roster.head?_promote
  table_eq := table_of_none rfl
  position_eq := position?_of_none rfl
  op_eq := by
    rw [meaning_op]
    exact congrArg _ hG.call_op
  inverse_eq := by
    rw [meaning_inverse]
    refine congrArg Except.ok (funext fun a => ?_)
    show (Value.method 0 G.value "inverse").meaning.call [a] = G.inverse a
    rw [meaning_method, ← hG.inverseBy_eq, ← hG.call_op]
    exact G.method_inverse a
  text_eq := exists_groupText h _ _ (by simp [FiniteGroup.subgroupOf, value, Value.length])

/-- A group that is spanned multiplies as the group that it is a part of, and can be written. -/
theorem of_span {H : FiniteGroup} {gens : List Value} (h : G.span gens = .ok H) :
    H.op = G.op ∧ ∃ s, H.text = .ok s := by
  obtain ⟨-, r, -, -, rfl⟩ := exists_of_span h
  exact ⟨rfl, (hG.subgroupOf r _ (.inl rfl)).text_eq⟩

/-- A group that is read from its value is the group itself, with a new index of its elements. -/
theorem ofValue?_value : ofValue? G.value = some G.reread := by
  rw [reread, ← hG.inverseBy_eq, ← hG.call_op]
  rfl

theorem reread : G.reread.Intact where
  els_eq := by
    rw [toList_reread]
    exact hG.els_eq
  head?_eq h := by
    refine hG.head?_eq ?_
    rwa [← contains_reread]
  table_eq := by
    have hfresh : G.reread.freshTable = G.freshTable := by
      have hindex : ∀ els, G.reread.productIndex els = G.productIndex els := by
        intro els
        funext i j
        rw [productIndex, productIndex, position?_reread]
        rfl
      rw [freshTable, freshTable]
      simp only [hindex]
      rfl
    rw [hfresh, ← hG.table_eq, table, hfresh]
    rfl
  position_eq a := by
    rw [position?_reread, hG.position_eq]
    simp only [find?_reread]
  op_eq := by
    rw [value_reread]
    exact hG.op_eq
  inverse_eq := by
    rw [value_reread]
    exact hG.inverse_eq
  text_eq := hG.text_eq

end Intact

end FiniteGroup

end FiniteGroups
