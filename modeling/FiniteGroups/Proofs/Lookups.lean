import FiniteGroups.Proofs.Residues

/-!
# Numbers that are multiplied by a table

A table with an identity is the multiplication of the numbers from `0` on (`numbersOf`). Of the
numbers the identity is put in front, and the others keep their order, so that the number at a
place is `seat e p` if `e` is the identity. The table of the numbers therefore is not the table that
they were made of, but what becomes of it when each number is replaced by its place
(`exists_renumbers`). Only if `0` is the identity, this is the same (`table_numbersOf`).

Nothing of this depends on the laws of a group. The entries of the table have to be places
(`Table.IsInside`).
-/

set_option linter.unusedSectionVars false

namespace FiniteGroups

/-! ## Tables -/

namespace Table

/-- All entries are places. -/
def IsInside (t : Table) : Prop :=
  ∀ i < t.size, ∀ j < t.size, ∃ k < t.size, t.get i j = k

/-- The row and the column of `e` leave everything where it is. -/
structure HasIdentity (t : Table) (e : Nat) : Prop where
  lt_size : e < t.size
  left_eq : ∀ i < t.size, t.get e i = i
  right_eq : ∀ i < t.size, t.get i e = i

variable {s t : Table} {e : Nat}

/-- Tables of one size with the same entries are one. -/
theorem ext_get (hsize : s.size = t.size)
    (hget : ∀ i < t.size, ∀ j < t.size, s.get i j = t.get i j) : s = t := by
  obtain ⟨n, xs, hxs⟩ := s
  obtain ⟨m, ys, hys⟩ := t
  obtain rfl : n = m := hsize
  obtain rfl : xs = ys := by
    refine Array.ext (hxs.trans hys.symm) fun k hk hk' => ?_
    have hlt : k < n * n := hxs ▸ hk
    have hpos : 0 < n := Nat.pos_of_ne_zero (by rintro rfl; simp at hlt)
    have hentry := hget (k / n) (Nat.div_lt_of_lt_mul hlt) (k % n) (Nat.mod_lt k hpos)
    simpa [get, Nat.div_add_mod', hk, hk'] using hentry
  rfl

theorem HasIdentity.unique {d : Nat} (hd : t.HasIdentity d) (he : t.HasIdentity e) : d = e := by
  have h := hd.left_eq e he.lt_size
  rw [he.right_eq d hd.lt_size] at h
  omega

end Table

namespace FiniteGroup

variable {t : Table} {e : Nat}

/-- The identity of a table is found if there is one. -/
theorem tableIdentity_eq_some_iff : tableIdentity t = some e ↔ t.HasIdentity e := by
  have hiff : ∀ i < t.size, ((List.range t.size).all (fun j => t.get i j == j) &&
      (List.range t.size).all (fun j => t.get j i == j)) = true ↔ t.HasIdentity i := by
    intro i hi
    simp only [Bool.and_eq_true, List.all_eq_true, List.mem_range, beq_iff_eq]
    exact ⟨fun h => ⟨hi, h.1, h.2⟩, fun h => ⟨h.2, h.3⟩⟩
  rw [tableIdentity, List.find?_range_eq_some, List.mem_range]
  constructor
  · rintro ⟨hfound, hlt, -⟩
    exact (hiff e hlt).1 hfound
  · intro h
    refine ⟨(hiff e h.lt_size).2 h, h.lt_size, fun d hd => ?_⟩
    rw [Bool.not_eq_true', ← Bool.not_eq_true, hiff d (hd.trans h.lt_size)]
    exact fun hother => hd.ne (hother.unique h)

end FiniteGroup

/-! ## Arrays -/

namespace Grid

theorem cells_ofCells (kind : CellKind) (shape : List Nat) (cells : List Cell) :
    (ofCells kind shape cells).cells = cells := by
  refine List.ext_getElem? fun i => ?_
  by_cases hi : i < cells.length <;> simp [Grid.cells, ofCells, hi]

variable {t : Table}

theorem cell_ofTable {i j : Nat} (hi : i < t.size) (hj : j < t.size) :
    (ofTable t).cell (i * t.size + j) = .word (t.get i j) := by
  have hplace : i * t.size + j < t.entries.size := by
    have hrow := Nat.mul_le_mul_right t.size hi
    rw [Nat.succ_mul, ← t.square] at hrow
    omega
  simp [cell, ofTable, ofCells, Table.get, hplace]

theorem cellAt?_ofTable {i j : Nat} (hi : i < t.size) (hj : j < t.size) :
    (ofTable t).cellAt? i j = some (.word (t.get i j)) := by
  have hshape : (ofTable t).shape = [t.size, t.size] := rfl
  rw [cellAt?, hshape]
  simp only [Int.toNat_natCast, cell_ofTable hi hj]
  rw [if_pos ⟨by omega, by omega, by omega, by omega⟩]

/-- A place leads as far into a dimension as there are places before it. -/
theorem offset_of_lt {size stride : Nat} {i : Int} (hi : 0 ≤ i) (hlt : i < size) :
    offset (size, stride) i = some (i.toNat * stride) := by
  lift i to ℕ using hi
  rw [offset, Position.resolve_natCast, if_pos (by omega)]
  rfl

/-- Cells that are integers hold integers. -/
theorem eq_map_word {cells : List Cell} {ns : List Int} (h : cells.mapM word? = some ns) :
    cells = ns.map .word := by
  induction cells generalizing ns with
  | nil =>
    obtain rfl : [] = ns := by simpa using h
    rfl
  | cons c cells ih =>
    rw [List.mapM_cons, Option.bind_eq_bind, Option.bind_eq_some_iff] at h
    obtain ⟨n, hn, h⟩ := h
    rw [Option.bind_eq_bind, Option.bind_eq_some_iff] at h
    obtain ⟨ns', hns, h⟩ := h
    obtain rfl : n :: ns' = ns := Option.some.inj h
    rw [ih hns, List.map_cons]
    cases c <;> cases hn
    rfl

theorem mapM_word? (ns : List Int) : (ns.map Cell.word).mapM word? = some ns := by
  induction ns with
  | nil => rfl
  | cons n ns ih =>
    rw [List.map_cons, List.mapM_cons, ih]
    rfl

theorem toTable?_ofTable (t : Table) : (ofTable t).toTable? = some t := by
  have hcells : (ofTable t).cells = t.entries.toList.map .word := cells_ofCells _ _ _
  rw [toTable?, hcells, mapM_word?]
  simp [ofTable, ofCells, t.square]

end Grid

namespace Value

/-- A table that an array is can be read from the array. -/
theorem readTable_of_toTable? {place : Nat} {g : Grid} {t : Table} (h : g.toTable? = some t) :
    (Value.array place g).readTable = .ok t := by
  rw [Grid.toTable?, Option.bind_eq_bind, Option.bind_eq_some_iff] at h
  obtain ⟨ns, hns, h⟩ := h
  have hleaves : (Value.array place g).leaves.mapM tableEntry = .ok ns := by
    rw [leaves, Grid.eq_map_word hns, mapM_eq_ok_iff, List.forall₂_map_left_iff,
      List.forall₂_map_left_iff, List.forall₂_same]
    exact fun n _ => rfl
  dsimp only at h
  split at h
  · next m n hshape =>
    obtain ⟨hsquare, h⟩ := Option.dite_none_right_eq_some.1 h
    have hdims : (Value.array place g).rowShape = .ok [m, n] := by
      rw [rowShape, shape, hshape]
      rfl
    obtain rfl := hsquare.1
    rw [readTable, hdims, ok_bind, hleaves, ok_bind, ← Option.some.inj h]
    simp [hsquare.2]
  · cases h

theorem readTable_ofTable (t : Table) : (ofTable t).readTable = .ok t :=
  readTable_of_toTable? (Grid.toTable?_ofTable t)

/-- Places of a row and of a column mean what they mean as indices, if they are such. -/
theorem partAt_eq_cellsAt {g : Grid} {i j : Int} (hi : isBounded i = true)
    (hj : isBounded j = true) :
    partAt g (.int i) (.int j) = cellsAt 0 g (.tuple [.int i, .int j]) := by
  rw [partAt]
  cases hcell : g.cellAt? i j with
  | none => rfl
  | some c =>
    rw [Grid.cellAt?] at hcell
    split at hcell
    · next rows columns hshape =>
      obtain ⟨⟨hi0, hilt, hj0, hjlt⟩, hc⟩ := Option.ite_none_right_eq_some.1 hcell
      have hselect : g.select [.one i, .one j] = .ok ⟨[.single, .single], [],
          [i.toNat * columns + j.toNat], true⟩ := by
        rw [Grid.select, hshape]
        simp [Grid.partsOf, Grid.strides, Grid.volume, Grid.arrange, Grid.combine,
          Grid.offset_of_lt hi0 hilt, Grid.offset_of_lt hj0 hjlt, Nat.add_comm]
      have hindex : selectors (.tuple [.int i, .int j]) = .ok [.one i, .one j] := by
        simp [selectors, selector, hi, hj]
      rw [cellsAt, hindex, ok_bind, hselect, ← Option.some.inj hc]
      rfl
    · cases hcell

/-- The entry at places of a row and of a column is what the table has there. -/
theorem lookup_call {t : Table} (data : List Value) {i j : Nat} (hi : i < t.size)
    (hj : j < t.size) : (Value.lookup (ofTable t) data).meaning.call₂ (.int i) (.int j) =
      .ok (.int (t.get i j)) := by
  have hpart : partAt (Grid.ofTable t) (.int i) (.int j) = .ok (.word (t.get i j)) := by
    rw [partAt]
    simp only [Grid.cellAt?_ofTable hi hj]
    rfl
  show (Value.lookup (ofTable t) data).meaning.call [.int i, .int j] = _
  rw [Value.meaning, Value.meaningWith.eq_def]
  show entryAt (Grid.ofTable t) (.int i) (.int j) = _
  rw [entryAt, hpart]
  rfl

end Value

/-! ## The numbers in order -/

/-- The number at a place, if `e` is put in front of the others. -/
def seat (e p : Nat) : Nat :=
  if p = 0 then e else if p ≤ e then p - 1 else p

@[simp] theorem seat_first (e : Nat) : seat e 0 = e :=
  rfl

theorem seat_succ {e p : Nat} (h : p < e) : seat e (p + 1) = p := by
  rw [seat, if_neg (by omega), if_pos (by omega), Nat.add_sub_cancel]

theorem seat_of_lt {e p : Nat} (h : e < p) : seat e p = p := by
  rw [seat, if_neg (by omega), if_neg (by omega)]

/-- What is in front already stays there. -/
@[simp] theorem seat_zero (p : Nat) : seat 0 p = p := by
  obtain rfl | hp := Nat.eq_zero_or_pos p
  · rfl
  · exact seat_of_lt hp

theorem seat_lt {e n p : Nat} (he : e < n) (hp : p < n) : seat e p < n := by
  unfold seat
  split_ifs <;> omega

theorem seat_inj {e p q : Nat} : seat e p = seat e q ↔ p = q := by
  unfold seat
  split_ifs <;> omega

theorem exists_seat {e n x : Nat} (hx : x < n) (he : e < n) : ∃ p < n, seat e p = x := by
  obtain h | rfl | h := lt_trichotomy x e
  · exact ⟨x + 1, by omega, seat_succ h⟩
  · exact ⟨0, by omega, rfl⟩
  · exact ⟨x, hx, seat_of_lt h⟩

/-- A number that is put in front leaves its place. -/
theorem map_seat {e n : Nat} (he : e < n) :
    (List.range n).map (seat e) = e :: (List.range n).filter (· ≠ e) := by
  induction n, he using Nat.le_induction with
  | base =>
    have hfilter : (List.range e).filter (· ≠ e) = List.range e :=
      List.filter_eq_self.2 fun p hp => by simpa using (List.mem_range.1 hp).ne
    have hmap : (List.range e).map (seat e ∘ Nat.succ) = List.range e :=
      (List.map_congr_left fun p hp => seat_succ (List.mem_range.1 hp)).trans (List.map_id _)
    rw [List.range_succ_eq_map, List.map_cons, List.map_map, hmap, ← List.range_succ_eq_map,
      List.range_succ, List.filter_append, hfilter, List.filter_cons_of_neg (by simp),
      List.filter_nil, List.append_nil]
    rfl
  | succ n hn ih =>
    rw [List.range_succ, List.map_append, ih, List.filter_append, List.map_singleton,
      seat_of_lt hn, List.filter_cons_of_pos (by simpa using Nat.ne_of_gt hn), List.filter_nil,
      List.cons_append]

namespace FiniteGroup

/-- The numbers from `0` on with a table, of which `e` is the identity. -/
def numbersOf (t : Table) (e : Nat) : FiniteGroup :=
  ofRoster (.ofList ((List.range t.size).map Value.ofNat)) (Value.lookupIn t) (.int e) .none .none
    .none

variable {s t : Table} {e : Nat}

theorem ofTable_eq_ok_iff {G : FiniteGroup} :
    ofTable t = .ok G ↔ ∃ e, t.HasIdentity e ∧ numbersOf t e = G := by
  rw [ofTable]
  cases hfind : tableIdentity t with
  | none =>
    refine iff_of_false (fun h => nomatch h) ?_
    rintro ⟨e, he, -⟩
    rw [tableIdentity_eq_some_iff.2 he] at hfind
    cases hfind
  | some d =>
    have hd := tableIdentity_eq_some_iff.1 hfind
    refine ⟨fun h => ⟨d, hd, Except.ok.inj h⟩, ?_⟩
    rintro ⟨e, he, rfl⟩
    rw [he.unique hd]
    rfl

theorem intact_numbersOf (t : Table) (e : Nat) : (numbersOf t e).Intact :=
  intact_ofRoster _ _ _ _ _ (.inl rfl)

section

variable (he : e < t.size)
include he

theorem els_numbersOf :
    (numbersOf t e).els = (List.range t.size).map fun p => Value.ofNat (seat e p) := by
  have hlist := Roster.toList_ofList (pairwise_range t.size)
  have hmem : (Roster.ofList ((List.range t.size).map Value.ofNat)).contains (.int e) = true :=
    Roster.contains_ofList.2 ⟨.int e, List.mem_map.2 ⟨e, List.mem_range.2 he, rfl⟩, BEq.rfl⟩
  show (Roster.promote _ _).toList = _
  rw [Roster.toList_promote hmem, hlist, List.filter_map]
  show _ = (List.range t.size).map (Value.ofNat ∘ seat e)
  rw [← List.map_map, map_seat he, List.map_cons]
  refine congrArg _ (congrArg _ (List.filter_congr fun p _ => ?_))
  have heq : (Value.int e == Value.ofNat p) = true ↔ e = p := beq_int.trans Int.natCast_inj
  show (!(Value.int e == Value.ofNat p)) = decide (p ≠ e)
  rw [Bool.eq_iff_iff, Bool.not_eq_true', ← Bool.not_eq_true, heq, decide_eq_true_iff, ne_comm]

theorem length_els_numbersOf : (numbersOf t e).els.length = t.size := by
  rw [els_numbersOf he, List.length_map, List.length_range]

theorem getElem_els_numbersOf {p : Nat} (hp : p < (numbersOf t e).els.length) :
    (numbersOf t e).els[p] = .int (seat e p) := by
  simp [els_numbersOf he, Value.ofNat]

theorem mem_els_numbersOf {i : Nat} (hi : i < t.size) : Value.int i ∈ (numbersOf t e).els := by
  obtain ⟨p, hp, rfl⟩ := exists_seat hi he
  rw [els_numbersOf he]
  exact List.mem_map_of_mem (List.mem_range.2 hp)

/-- The number at a place has this place. -/
theorem position_numbersOf {p : Nat} (hp : p < t.size) :
    (numbersOf t e).position (.int (seat e p)) = .ok (Value.ofNat p) := by
  have hG := intact_numbersOf t e
  have hlt : p < (numbersOf t e).elements.toList.length := by
    rwa [← hG.els_eq, length_els_numbersOf he]
  have hfind : (numbersOf t e).elements.find? (.int (seat e p)) = some p := by
    refine Roster.find?_eq_some_iff.2 ⟨hlt, ?_⟩
    rw [← List.getElem_of_eq hG.els_eq (length_els_numbersOf he ▸ hp), getElem_els_numbersOf he]
    exact BEq.rfl
  rw [position, hG.position_eq]
  show (do Meaning.demandPosition ((Option.map Value.ofNat _ : Option Value))) = _
  rw [hfind]
  rfl

end

theorem mul_numbersOf {i j : Nat} (hi : i < t.size) (hj : j < t.size) :
    (numbersOf t e).mul (.int i) (.int j) = .ok (.int (t.get i j)) :=
  Value.lookup_call (Value.lookupIn t).ordered hi hj

/-! ## The table of the numbers -/

/-- The table `s` is the table `t` with places for numbers, if `e` is put in front. -/
structure Renumbers (t : Table) (e : Nat) (s : Table) : Prop where
  size_eq : s.size = t.size
  get_eq : ∀ p < t.size, ∀ q < t.size, ∃ r < t.size,
    s.get p q = r ∧ t.get (seat e p) (seat e q) = seat e r

section

variable (ht : t.IsInside) (he : t.HasIdentity e)
include ht he

theorem exists_seat_get {p q : Nat} (hp : p < t.size) (hq : q < t.size) :
    ∃ r < t.size, t.get (seat e p) (seat e q) = seat e r ∧
      (numbersOf t e).mul (.int (seat e p)) (.int (seat e q)) = .ok (.int (seat e r)) := by
  have hp' := seat_lt he.lt_size hp
  have hq' := seat_lt he.lt_size hq
  obtain ⟨k, hk, hget⟩ := ht _ hp' _ hq'
  obtain ⟨r, hr, rfl⟩ := exists_seat hk he.lt_size
  exact ⟨r, hr, hget, by rw [mul_numbersOf hp' hq', hget]⟩

theorem exists_table_numbersOf : ∃ s, (numbersOf t e).table = .ok s := by
  refine (intact_numbersOf t e).indexed.exists_table fun a ha b hb => ?_
  obtain ⟨p, hp, rfl⟩ := List.getElem_of_mem ha
  obtain ⟨q, hq, rfl⟩ := List.getElem_of_mem hb
  rw [getElem_els_numbersOf he.lt_size, getElem_els_numbersOf he.lt_size, keyedProduct]
  rw [length_els_numbersOf he.lt_size] at hp hq
  obtain ⟨r, -, -, hmul⟩ := exists_seat_get ht he hp hq
  exact ⟨.int (seat e r), by rw [hmul]; rfl⟩

/-- In the table of the numbers they are replaced by their places. -/
theorem renumbers_of_table (hs : (numbersOf t e).table = .ok s) : Renumbers t e s := by
  have hG := intact_numbersOf t e
  have htab := hG.indexed.tabulates hs
  have hlen := length_els_numbersOf he.lt_size
  refine ⟨htab.size_eq.trans hlen, fun p hp q hq => ?_⟩
  obtain ⟨r, hr, hget, hmul⟩ := exists_seat_get ht he hp hq
  obtain ⟨c, hc, ⟨r', hr', hentry, hbeq, -⟩ | ⟨-, hout⟩⟩ := htab.get_eq p (hlen ▸ hp) q (hlen ▸ hq)
  all_goals
    rw [getElem_els_numbersOf he.lt_size, getElem_els_numbersOf he.lt_size, hmul] at hc
    obtain rfl := Except.ok.inj hc
  · rw [getElem_els_numbersOf he.lt_size, beq_int, Int.natCast_inj, seat_inj] at hbeq
    exact ⟨r, hr, hbeq ▸ hentry, hget⟩
  · -- all products are among the numbers
    have hmem : (numbersOf t e).elements.contains (.int (seat e r)) = true := by
      refine Roster.contains_of_mem ?_
      rw [← hG.els_eq, ← getElem_els_numbersOf he.lt_size (hlen ▸ hr)]
      exact List.getElem_mem _
    rw [contains_of_keyed rfl, hmem] at hout
    cases hout

end

namespace Renumbers

variable (h : Renumbers t e s)
include h

theorem isInside : s.IsInside := by
  intro p hp q hq
  obtain ⟨r, hr, hget, -⟩ := h.get_eq p (h.size_eq ▸ hp) q (h.size_eq ▸ hq)
  exact ⟨r, h.size_eq ▸ hr, hget⟩

/-- The identity gets the place in front. -/
theorem hasIdentity (he : t.HasIdentity e) : s.HasIdentity 0 := by
  have hpos : 0 < t.size := Nat.zero_lt_of_lt he.lt_size
  refine ⟨h.size_eq ▸ hpos, fun p hp => ?_, fun p hp => ?_⟩
  all_goals
    rw [h.size_eq] at hp
    have hp' := seat_lt he.lt_size hp
  · obtain ⟨r, -, hget, hseat⟩ := h.get_eq 0 hpos p hp
    rw [seat_first, he.left_eq _ hp', Int.natCast_inj, seat_inj] at hseat
    rw [hget, hseat]
  · obtain ⟨r, -, hget, hseat⟩ := h.get_eq p hp 0 hpos
    rw [seat_first, he.right_eq _ hp', Int.natCast_inj, seat_inj] at hseat
    rw [hget, hseat]

/-- The table is the same exactly if the identity is in front already. -/
theorem eq_iff (he : t.HasIdentity e) : s = t ↔ e = 0 := by
  constructor
  · rintro rfl
    exact he.unique (h.hasIdentity he)
  · rintro rfl
    refine Table.ext_get h.size_eq fun p hp q hq => ?_
    obtain ⟨r, -, hget, hseat⟩ := h.get_eq p hp q hq
    rw [hget, ← seat_zero p, ← seat_zero q, hseat, seat_zero]

end Renumbers

/-- Numbers of which `0` is the identity have the table that they were made of. -/
theorem table_numbersOf (ht : t.IsInside) (he : t.HasIdentity 0) :
    (numbersOf t 0).table = .ok t := by
  obtain ⟨s, hs⟩ := exists_table_numbersOf ht he
  rw [hs, ((renumbers_of_table ht he hs).eq_iff he).2 rfl]

end FiniteGroup

end FiniteGroups
