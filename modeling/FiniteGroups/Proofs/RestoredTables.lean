import FiniteGroups.Proofs.TableGroups

/-!
# Numbers that are made of their own table

Numbers with a table have a table in turn, and the numbers with that table are the same up to the
numbering : the identity is `0` then, and the table does not change any more
(`exists_restored`). They are equal to the numbers that the table was asked of only if `0` was the
identity from the start, since groups with a table are compared by their tables
(`equal_value_numbersOf`, `exists_restored_ne`).
-/

namespace FiniteGroups

open FiniteGroup

/-! ## Comparison of tables -/

namespace Value

theorem sameEach_int {ms ns : List Int} :
    sameEach (ms.map .int) (ns.map .int) = true ↔ ms = ns := by
  induction ms generalizing ns with
  | nil => cases ns <;> simp [sameEach]
  | cons m ms ih =>
    cases ns with
    | nil => simp [sameEach]
    | cons n ns =>
      have hhead : same (.int m) (.int n) = true ↔ m = n := beq_int
      simp [sameEach, ih, hhead]

/-- Look-ups are the same if they are in one table. -/
theorem lookupIn_beq_iff {s t : Table} : (lookupIn s == lookupIn t) = true ↔ s = t := by
  constructor
  · intro h
    obtain ⟨-, hsame, -⟩ := same_iff.1 h
    simp only [lookupIn, ordered, sameEach, same, Bool.and_eq_true, sameEach_int, beq_iff_eq,
      Int.natCast_inj] at hsame
    obtain ⟨⟨hsize, -⟩, hentries, -⟩ := hsame
    obtain ⟨m, xs, hxs⟩ := s
    obtain ⟨n, ys, hys⟩ := t
    obtain rfl : m = n := hsize
    obtain rfl : xs = ys := Array.toList_inj.1 hentries
    rfl
  · rintro rfl
    exact BEq.rfl

theorem compare_lookup (grid grid' : Value) (xs ys : List Value) :
    (Value.lookup grid xs).compare (.lookup grid' ys) =
      .ok (Value.lookup grid xs == .lookup grid' ys) := by
  rw [compare]
  all_goals simp [equalAlien]

end Value

/-! ## The numbers again -/

namespace FiniteGroup

variable {s t : Table} {e : Nat}

/-- Numbers with their own table are equal to what they were exactly if the identity was in front
already. -/
theorem equal_value_numbersOf (he : t.HasIdentity e) (h : Renumbers t e s) :
    (numbersOf s 0).value.equal (numbersOf t e).value = .ok (decide (e = 0)) := by
  have hcompare : (Value.lookupIn s).compare (Value.lookupIn t) =
      .ok (Value.lookupIn s == Value.lookupIn t) := Value.compare_lookup ..
  by_cases hfirst : e = 0
  · obtain rfl := (h.eq_iff he).2 hfirst
    rw [Value.lookupIn_beq_iff.2 rfl] at hcompare
    rw [decide_eq_true hfirst, hfirst]
    exact equal_value_self hcompare
  · have hne : (Value.lookupIn s == Value.lookupIn t) = false := by
      rw [← Bool.not_eq_true, Value.lookupIn_beq_iff, h.eq_iff he]
      exact hfirst
    rw [hne] at hcompare
    rw [decide_eq_false hfirst]
    exact equal_value_of_compare_op hcompare

/-- Places are multiplied as the numbers at them are. -/
theorem Renumbers.exists_product (h : Renumbers t e s) (he : t.HasIdentity e) {p q : Nat}
    (hp : p < t.size) (hq : q < t.size) : ∃ c i j k,
    (numbersOf t e).mul (.int (seat e p)) (.int (seat e q)) = .ok c ∧
      (numbersOf t e).position (.int (seat e p)) = .ok i ∧
      (numbersOf t e).position (.int (seat e q)) = .ok j ∧
      (numbersOf t e).position c = .ok k ∧ (numbersOf s 0).mul i j = .ok k := by
  have hlt := he.lt_size
  obtain ⟨r, hr, hget, hseat⟩ := h.get_eq p hp q hq
  refine ⟨.int (seat e r), _, _, _, ?_, position_numbersOf hlt hp, position_numbersOf hlt hq,
    position_numbersOf hlt hr, ?_⟩
  · rw [mul_numbersOf (seat_lt hlt hp) (seat_lt hlt hq), hseat]
  · rw [← h.size_eq] at hp hq
    exact (mul_numbersOf hp hq).trans (by rw [hget]; rfl)

/-- The group `G` of the numbers with a table has the table `s`, and `R` is the group of the numbers
with that one. -/
structure IsRestored (t : Table) (e : Nat) (G : FiniteGroup) (s : Table) (R : FiniteGroup) :
    Prop where
  hasIdentity : t.HasIdentity e
  table_eq : G.table = .ok s
  /-- The table as an array is read as the table. -/
  readTable_eq : ∃ v, G.tableValue = .ok v ∧ v.readTable = .ok s
  ofTable_eq : ofTable s = .ok R
  identity_eq : R.identity = .int 0
  restored_eq : R.table = .ok s
  equal_eq : R.value.equal G.value = .ok (decide (e = 0))
  eq_iff : s = t ↔ e = 0
  /-- The numbering sends the elements of one to those of the other, and products to products. -/
  position_eq : G.els.mapM G.position = .ok R.els
  mul_eq : ∀ a ∈ G.els, ∀ b ∈ G.els, ∃ c p q r, G.mul a b = .ok c ∧ G.position a = .ok p ∧
    G.position b = .ok q ∧ G.position c = .ok r ∧ R.mul p q = .ok r

/-- What is made of a table can be made of its own table again. -/
theorem exists_restored (ht : t.IsInside) {G : FiniteGroup} (hG : ofTable t = .ok G) :
    ∃ e s R, IsRestored t e G s R := by
  obtain ⟨e, he, rfl⟩ := ofTable_eq_ok_iff.1 hG
  obtain ⟨s, hs⟩ := exists_table_numbersOf ht he
  have h := renumbers_of_table ht he hs
  have hinside := h.isInside
  have hidentity := h.hasIdentity he
  have hpos := hidentity.lt_size
  refine ⟨e, s, numbersOf s 0, he, hs, exists_readTable hs, ofTable_eq_ok_iff.2 ⟨0, hidentity, rfl⟩,
    rfl, table_numbersOf hinside hidentity, equal_value_numbersOf he h, h.eq_iff he, ?_, ?_⟩
  · rw [els_numbersOf he.lt_size, els_numbersOf hpos, h.size_eq, mapM_eq_ok_iff,
      List.forall₂_map_left_iff, List.forall₂_map_right_iff, List.forall₂_same]
    intro p hp
    rw [seat_zero]
    exact position_numbersOf he.lt_size (List.mem_range.1 hp)
  · intro a ha b hb
    obtain ⟨p, hp, rfl⟩ := List.getElem_of_mem ha
    obtain ⟨q, hq, rfl⟩ := List.getElem_of_mem hb
    rw [getElem_els_numbersOf he.lt_size, getElem_els_numbersOf he.lt_size]
    rw [length_els_numbersOf he.lt_size] at hp hq
    exact h.exists_product he hp hq

/-! ## Two numbers of which the second is the identity -/

/-- The table of two numbers of which `1` is the identity. -/
def oneFirst : Table :=
  ⟨2, #[1, 0, 0, 1], rfl⟩

theorem isInside_oneFirst : oneFirst.IsInside := by
  unfold Table.IsInside
  decide

theorem hasIdentity_oneFirst : oneFirst.HasIdentity 1 :=
  ⟨by decide, by decide, by decide⟩

/-- They are made again of their own table. -/
theorem exists_restored_oneFirst : oneFirst.IsInside ∧
    ofTable oneFirst = .ok (numbersOf oneFirst 1) ∧
    ∃ e s R, IsRestored oneFirst e (numbersOf oneFirst 1) s R := by
  have hmade : ofTable oneFirst = .ok (numbersOf oneFirst 1) :=
    ofTable_eq_ok_iff.2 ⟨1, hasIdentity_oneFirst, rfl⟩
  exact ⟨isInside_oneFirst, hmade, exists_restored isInside_oneFirst hmade⟩

/-- They are not equal to what is made of their table. -/
theorem exists_restored_ne : ∃ G s R, oneFirst.IsInside ∧ ofTable oneFirst = .ok G ∧
    G.table = .ok s ∧ ofTable s = .ok R ∧ R.value.equal G.value = .ok false := by
  obtain ⟨s, hs⟩ := exists_table_numbersOf isInside_oneFirst hasIdentity_oneFirst
  have h := renumbers_of_table isInside_oneFirst hasIdentity_oneFirst hs
  exact ⟨_, s, _, isInside_oneFirst, ofTable_eq_ok_iff.2 ⟨1, hasIdentity_oneFirst, rfl⟩, hs,
    ofTable_eq_ok_iff.2 ⟨0, h.hasIdentity hasIdentity_oneFirst, rfl⟩,
    equal_value_numbersOf hasIdentity_oneFirst h⟩

end FiniteGroup

end FiniteGroups
