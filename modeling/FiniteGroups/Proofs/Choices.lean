import FiniteGroups.Proofs.Numbers
import FiniteGroups.Proofs.Residues
import FiniteGroups.Proofs.Subsets
import FiniteGroups.Value.Counting
import Mathlib.Data.List.Sort

/-!
# Choices by place

Entries are chosen from a list by their places, so equal entries at two places make two choices.
The places of a choice go up, and the choices come in the lexicographic order of their places, none
of them twice (`ListsChoices`). `combinations` lists them by whether the first entry is chosen or
not (`listsChoices_combinations`).

A search by the first entry that is chosen finds the same ones in the same order
(`choicesByFirst_eq`) : it puts each entry before the choices from those behind it, and knows the
choices at once where too few entries are left or where at most one is to be chosen.

`Value.Offers.exists_choices` says this of values, be they sequences or integers that stand for the
numbers below them.
-/

namespace FiniteGroups

variable {α β : Type}

/-! ## Places -/

/-- The list of all choices of `n` entries of `xs`. -/
structure ListsChoices (xs : List α) (n : Nat) (choices : List (List α)) : Prop where
  /-- There is one choice for each increasing sequence of `n` places, and they come in the order of
  these sequences, which is lexicographic. -/
  exists_places : ∃ places : List (List (Fin xs.length)), choices = places.map (·.map xs.get) ∧
    places.Pairwise (· < ·) ∧ ∀ ps, ps ∈ places ↔ ps.Pairwise (· < ·) ∧ ps.length = n
  length_eq : choices.length = xs.length.choose n
  eq_nil : xs.length < n → choices = []

theorem combinations_map (f : α → β) (xs : List α) (k : Nat) :
    combinations (xs.map f) k = (combinations xs k).map (List.map f) := by
  induction xs generalizing k with
  | nil => cases k <;> rfl
  | cons x xs ih =>
    cases k with
    | zero => rfl
    | succ k => simp [combinations, ih, Function.comp_def]

/-- Choices from what goes up come in lexicographic order. -/
theorem pairwise_combinations [LT α] {xs : List α} (h : xs.Pairwise (· < ·)) (k : Nat) :
    (combinations xs k).Pairwise (· < ·) := by
  induction xs generalizing k with
  | nil => cases k <;> simp [combinations]
  | cons x xs ih =>
    obtain ⟨hx, hxs⟩ := List.pairwise_cons.1 h
    cases k with
    | zero => simp [combinations]
    | succ k =>
      rw [combinations, List.pairwise_append]
      refine ⟨?_, ih hxs (k + 1), ?_⟩
      · rw [List.pairwise_map]
        exact (ih hxs k).imp fun hlt => List.Lex.cons hlt
      -- a choice with the first entry comes before one that begins with a later entry
      · intro s hs t ht
        obtain ⟨s, -, rfl⟩ := List.mem_map.1 hs
        obtain ⟨hsub, hlen⟩ := mem_combinations.1 ht
        obtain ⟨y, t, rfl⟩ := List.exists_cons_of_length_eq_add_one hlen
        exact List.Lex.rel (hx y (hsub.subset List.mem_cons_self))

/-- The choices among all places are the increasing sequences. -/
theorem mem_combinations_finRange {m k : Nat} {ps : List (Fin m)} :
    ps ∈ combinations (List.finRange m) k ↔ ps.Pairwise (· < ·) ∧ ps.length = k := by
  have hall : (List.finRange m).Pairwise (· < ·) := List.pairwise_lt_finRange m
  rw [mem_combinations]
  refine and_congr_left fun _ => ⟨fun h => List.Pairwise.sublist h hall, fun h => ?_⟩
  exact List.sublist_of_subperm_of_pairwise
    (List.subperm_of_subset h.nodup fun i _ => List.mem_finRange i) h hall

theorem length_combinations (xs : List α) (k : Nat) :
    (combinations xs k).length = xs.length.choose k := by
  rw [(combinations_perm xs k).length_eq, List.length_sublistsLen]

theorem combinations_eq_nil {xs : List α} {k : Nat} (h : xs.length < k) :
    combinations xs k = [] := by
  rw [← List.length_eq_zero_iff, length_combinations, Nat.choose_eq_zero_of_lt h]

theorem listsChoices_combinations (xs : List α) (n : Nat) :
    ListsChoices xs n (combinations xs n) where
  exists_places := by
    refine ⟨combinations (List.finRange xs.length) n, ?_,
      pairwise_combinations (List.pairwise_lt_finRange _) n, fun _ => mem_combinations_finRange⟩
    rw [← combinations_map, List.map_get_finRange]
  length_eq := length_combinations xs n
  eq_nil := combinations_eq_nil

/-! ## First entries -/

/-- The choices of `n` entries by the first one that is chosen. -/
def choicesByFirst (xs : List α) (n : Nat) : List (List α) :=
  if xs.length < n then []
  else
    match n with
    | 0 => [[]]
    | 1 => xs.map ([·])
    | n + 2 => xs.zipIdx.flatMap fun (x, i) =>
      (choicesByFirst (xs.drop (i + 1)) (n + 1)).map (x :: ·)
termination_by structural n

theorem combinations_zero (xs : List α) : combinations xs 0 = [[]] := by
  rw [combinations]

theorem combinations_one (xs : List α) : combinations xs 1 = xs.map ([·]) := by
  induction xs with
  | nil => rfl
  | cons x xs ih =>
    rw [combinations, ih, combinations_zero]
    rfl

/-- Each entry is the first one of as many choices as there are from the entries behind it. -/
theorem combinations_eq_flatMap (xs : List α) (k : Nat) :
    combinations xs (k + 1) = xs.zipIdx.flatMap fun (x, i) =>
      (combinations (xs.drop (i + 1)) k).map (x :: ·) := by
  induction xs with
  | nil => rfl
  | cons x xs ih =>
    rw [combinations, ih, List.zipIdx_cons', List.flatMap_cons, List.flatMap_map]
    rfl

theorem choicesByFirst_eq (xs : List α) (n : Nat) :
    choicesByFirst xs n = combinations xs n := by
  induction n generalizing xs with
  | zero => rw [choicesByFirst, if_neg (Nat.not_lt_zero _), combinations_zero]
  | succ n ih =>
    rw [choicesByFirst.eq_def]
    split
    · next hlt => exact (combinations_eq_nil hlt).symm
    · cases n with
      | zero => exact (combinations_one xs).symm
      | succ n => simp only [ih, combinations_eq_flatMap]

/-! ## Choices from values -/

theorem choose_natCast (xs : List α) (n : Nat) : choose xs n = combinations xs n := by
  rw [choose, if_neg (by omega), Int.toNat_natCast]

namespace Value

/-- The items that a value offers : its own, in their order, if it is a sequence, and the numbers
below it if it is an integer. -/
inductive Offers : Value → List Value → Prop
  | below (m : Int) : Offers (.int m) ((List.range m.toNat).map ofNat)
  | text (s : String) : Offers (.text s) (characters s)
  | tuple (xs : List Value) : Offers (.tuple xs) xs
  | verdict (xs : List Value) : Offers (.verdict xs) xs
  | list (p : Nat) (xs : List Value) : Offers (.list p xs) xs
  /-- An array with as many cells as its shape has places, of at least one dimension. -/
  | array {p : Nat} {g : Grid} {xs : List Value} (hsize : g.size = Grid.volume g.shape)
      (hentries : (Value.array p g).entries = .ok xs) : Offers (.array p g) xs
  | group {origin : Origin} {p : Nat} {listing : Value} {elements links : List Value}
      {op identity inv gens name table positions inverses : Value} :
      Offers (.group origin p listing elements op identity inv gens name links table positions
        inverses) listing.listed
  | action {p : Nat} {group items act : Value} {members : List Value} :
      Offers (.action p group items members act) items.listed

/-- An array has as many entries as its first dimension has places. -/
theorem length_array {p : Nat} {g : Grid} {xs : List Value} (hsize : g.size = Grid.volume g.shape)
    (hentries : (Value.array p g).entries = .ok xs) :
    (Value.array p g).length = .ok xs.length := by
  rw [entries] at hentries
  rw [length]
  cases hshape : g.shape with
  | nil =>
    rw [hshape] at hentries
    cases hentries
  | cons n rest =>
    rw [hshape] at hentries hsize
    cases rest with
    | nil =>
      have hvolume : Grid.volume [n] = n := Nat.mul_one n
      rw [← Except.ok.inj hentries, List.length_map, Grid.cells, List.length_map,
        Array.length_toList, ← Grid.size, hsize, hvolume]
    | cons m rest => simp [← Except.ok.inj hentries, Grid.parts, hshape]

/-- The choices from a sequence. -/
theorem choose_of_entries {items : Value} {xs : List Value}
    (hlength : items.length = .ok xs.length) (hentries : items.entries = .ok xs)
    (hrest : items.hasRest = true) (n : Nat) :
    choose items (.int n) = .ok (.list 0 ((combinations xs n).map .tuple)) := by
  have hbefore : (ofNat xs.length).before (.int n) = .ok (decide (xs.length < n)) := by
    rw [ofNat, before_int]
    simp only [Nat.cast_lt]
  have hequal (k : Nat) : (Value.int n).equal (.int k) = .ok (decide (n = k)) := by
    rw [equal_of_isSimple rfl rfl, Except.ok.injEq, Bool.eq_iff_iff, beq_int, Nat.cast_inj,
      decide_eq_true_iff]
  have hzero : (Value.int n).equal (.int 0) = .ok (decide (n = 0)) := hequal 0
  have hone : (Value.int n).equal (.int 1) = .ok (decide (n = 1)) := hequal 1
  rw [choose.eq_def]
  split
  · cases hrest
  · simp only [hlength, hentries, hrest, ok_bind, pure_eq_ok, hbefore, hzero, hone,
      decide_eq_true_eq, Bool.or_true, Bool.true_or, if_true]
    split
    · next hlt => rw [combinations_eq_nil hlt]
    split
    · next hn => rw [hn, combinations_zero]
    split
    · next hn => rw [hn, combinations_one]
    · rw [← choose_natCast]
      rfl

/-- An integer is taken for the list of the numbers below it. -/
theorem choose_below (m : Int) (n : Value) :
    choose (.int m) n = choose (.list 0 ((List.range m.toNat).map ofNat)) n := by
  simp only [choose, length, entries, ok_bind, pure_eq_ok, List.length_map, List.length_range,
    hasRest, Bool.or_true, Bool.true_or]

namespace Offers

variable {items : Value} {xs : List Value}

theorem choose_eq (h : items.Offers xs) (n : Nat) :
    choose items (.int n) = .ok (.list 0 ((combinations xs n).map .tuple)) := by
  cases h with
  | below m =>
    rw [choose_below]
    exact choose_of_entries rfl rfl rfl n
  | array hsize hentries => exact choose_of_entries (length_array hsize hentries) hentries rfl n
  | text s =>
    refine choose_of_entries ?_ rfl rfl n
    rw [length, characters, List.length_map]
    rfl
  | tuple | verdict | list | group | action => exact choose_of_entries rfl rfl rfl n

/-- Any number of items is chosen in all ways, in the order of their places, and the search by first
entries finds the same. -/
theorem exists_choices (h : items.Offers xs) (n : Nat) : ∃ choices,
    choose items (.int n) = .ok (.list 0 (choices.map .tuple)) ∧ ListsChoices xs n choices ∧
      combinations xs n = choices ∧ choicesByFirst xs n = choices :=
  ⟨combinations xs n, h.choose_eq n, listsChoices_combinations xs n, rfl, choicesByFirst_eq xs n⟩

/-- Two of three items are equal, and there are three choices of two all the same. -/
theorem exists_choices_repeated :
    (Value.tuple [.int 7, .int 8, .int 7]).Offers [.int 7, .int 8, .int 7] ∧
      choose (.tuple [.int 7, .int 8, .int 7]) (.int 2) = .ok (.list 0
        [.tuple [.int 7, .int 8], .tuple [.int 7, .int 7], .tuple [.int 8, .int 7]]) := by
  have hoffers := Offers.tuple [.int 7, .int 8, .int 7]
  obtain ⟨choices, hchoose, -, rfl, -⟩ := hoffers.exists_choices 2
  exact ⟨hoffers, hchoose⟩

end Offers

end Value

end FiniteGroups
