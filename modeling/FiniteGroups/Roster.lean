import Std.Data.HashMap

/-!
# Rosters

A roster is a list without repetitions, in order of arrival, with a look-up table beside it.
Repetition is meant up to `==` : of two equal newcomers the first one stays, as it was written.

The look-up table is only a faster `Array.findIdx?` (`Roster.index_eq`), so every statement
about a roster is a statement about its `items`. A roster seen as a set forgets the order:
`Roster.subset` and `Roster.sameSet` compare members only.
-/

namespace FiniteGroups

/-- A list without repetitions, in order of arrival. -/
structure Roster (α : Type) [BEq α] [Hashable α] where
  /-- The members in order of arrival. -/
  items : Array α
  /-- Where each member stands. -/
  index : Std.HashMap α Nat
  distinct : items.toList.Pairwise fun a b => (a == b) = false
  index_eq : ∀ a, index[a]? = items.findIdx? (· == a)

namespace Roster

variable {α : Type} [BEq α] [Hashable α]

/-- The roster without members. -/
def empty : Roster α where
  items := #[]
  index := ∅
  distinct := by simp
  index_eq := by simp

instance : Inhabited (Roster α) := ⟨empty⟩

/-- The number of members. -/
def size (r : Roster α) : Nat := r.items.size

/-- The members as a list. -/
def toList (r : Roster α) : List α := r.items.toList

/-- The position of a member. -/
def find? (r : Roster α) (a : α) : Option Nat := r.index[a]?

/-- Whether something equal to `a` is a member. -/
def contains (r : Roster α) (a : α) : Bool := r.index.contains a

/-- The member at a position. -/
def get? (r : Roster α) (i : Nat) : Option α := r.items[i]?

/-- The members from a position onwards. -/
def since (r : Roster α) (i : Nat) : List α := (r.items.extract i r.items.size).toList

/-- The position of a member is the first place with something equal to it. -/
theorem find?_eq (r : Roster α) (a : α) : r.find? a = r.items.findIdx? (· == a) := r.index_eq a

section

variable [EquivBEq α] [LawfulHashable α]

/-- Membership is what a search through the items finds. -/
theorem contains_eq (r : Roster α) (a : α) : r.contains a = r.items.any (· == a) := by
  rw [contains, Std.HashMap.contains_eq_isSome_getElem?, r.index_eq, Array.findIdx?_isSome]

/-- To be a member is to be equal to something in the list. -/
theorem contains_iff {r : Roster α} {a : α} :
    r.contains a = true ↔ ∃ b ∈ r.toList, b == a := by
  rw [contains_eq, toList, Array.any_eq_true']
  simp

/-- Equal things are members together. -/
theorem contains_congr (r : Roster α) {a b : α} (h : a == b) : r.contains a = r.contains b := by
  rw [contains, contains, Std.HashMap.contains_congr h]

/-- Equal things have one position. -/
theorem find?_congr (r : Roster α) {a b : α} (h : a == b) : r.find? a = r.find? b := by
  rw [find?, find?, Std.HashMap.getElem?_congr h]

/-- A newcomer goes to the end. -/
def push (r : Roster α) (a : α) (new : r.contains a = false) : Roster α :=
  let size := r.items.size
  { items := r.items.push a
    index := r.index.insert a size
    distinct := by
      rw [Array.toList_push, List.pairwise_append]
      refine ⟨r.distinct, by simp, ?_⟩
      intro b hb c hc
      obtain rfl := List.mem_singleton.1 hc
      rw [contains_eq, Array.any_eq_false'] at new
      simpa using new b (by simpa using hb)
    index_eq := by
      intro b
      rw [Std.HashMap.getElem?_insert, Array.findIdx?_push, ← r.index_eq]
      rw [contains, Std.HashMap.contains_eq_isSome_getElem?] at new
      by_cases h : a == b
      · rw [← Std.HashMap.getElem?_congr h]
        simp_all [size]
      · simp [h] }

/-- A newcomer goes to the end; what is there already stays as it is. -/
def insert (r : Roster α) (a : α) : Roster α :=
  if new : r.contains a then r else r.push a (by simpa using new)

/-- A newcomer is the last of the list. -/
theorem toList_push (r : Roster α) (a : α) (new : r.contains a = false) :
    (r.push a new).toList = r.toList ++ [a] := by
  simp [push, toList]

/-- Only what is new lengthens the list. -/
theorem toList_insert (r : Roster α) (a : α) :
    (r.insert a).toList = if r.contains a then r.toList else r.toList ++ [a] := by
  unfold insert
  split
  · rfl
  · exact toList_push ..

/-- The distinct values of a list, each where it first occurs. -/
def ofList (xs : List α) : Roster α := xs.foldl insert empty

/-- Whether every member of `r` is a member of `s`. -/
def subset (r s : Roster α) : Bool := r.items.all s.contains

/-- Whether two rosters have the same members, in whatever order. -/
def sameSet (r s : Roster α) : Bool := r.size == s.size && r.subset s

/-- The roster with `a` in front, in the place of the member equal to it, if there is one. -/
def promote (r : Roster α) (a : α) : Roster α :=
  if r.contains a then ofList (a :: r.toList) else r

/-- A newcomer moves nobody. -/
theorem get?_insert {r : Roster α} {a b : α} {i : Nat} (h : r.get? i = some b) :
    (r.insert a).get? i = some b := by
  unfold insert
  split
  · exact h
  · rw [get?] at *
    obtain ⟨hi, rfl⟩ := Array.getElem?_eq_some_iff.1 h
    rw [push, Array.getElem?_push_lt hi]

/-- Newcomers move nobody. -/
theorem get?_foldl_insert {b : α} {i : Nat} (xs : List α) :
    ∀ {r : Roster α}, r.get? i = some b → (xs.foldl insert r).get? i = some b := by
  induction xs with
  | nil => exact id
  | cons x xs ih => exact fun h => ih (get?_insert h)

/-- The first value of a list stands in front. -/
theorem get?_ofList_cons (a : α) (xs : List α) : (ofList (a :: xs)).get? 0 = some a := by
  refine get?_foldl_insert xs ?_
  simp [insert, contains, empty, push, get?]

/-- A member that was promoted stands in front. -/
theorem get?_promote {r : Roster α} {a : α} (h : (r.promote a).contains a = true) :
    (r.promote a).get? 0 = some a := by
  unfold promote at *
  split
  · exact get?_ofList_cons ..
  · simp_all

end

end Roster

end FiniteGroups
