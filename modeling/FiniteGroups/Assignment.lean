import FiniteGroups.Roster

/-!
# Assignments

An assignment gives a value to each of finitely many keys, which stay in the order in which they
first came. A later value for a key replaces the earlier one; the key stays as it was first
written.
-/

namespace FiniteGroups

/-- Values for the keys of a roster, position by position. -/
structure Assignment (α β : Type) [BEq α] [Hashable α] where
  keys : Roster α
  values : Array β
  aligned : values.size = keys.size

namespace Assignment

variable {α β : Type} [BEq α] [Hashable α]

/-- The assignment without keys. -/
def empty : Assignment α β := ⟨.empty, #[], rfl⟩

/-- The number of keys. -/
def size (m : Assignment α β) : Nat := m.keys.size

/-- The value of a key. -/
def get? (m : Assignment α β) (a : α) : Option β := (m.keys.find? a).bind (m.values[·]?)

/-- The keys with their values, in order. -/
def toList (m : Assignment α β) : List (α × β) := m.keys.toList.zip m.values.toList

/-- The keys with their values from a position onwards. -/
def since (m : Assignment α β) (i : Nat) : List (α × β) :=
  (m.keys.since i).zip (m.values.extract i m.values.size).toList

variable [EquivBEq α] [LawfulHashable α]

/-- Gives a value to a new key. -/
def push (m : Assignment α β) (a : α) (b : β) (new : m.keys.contains a = false) :
    Assignment α β where
  keys := m.keys.push a new
  values := m.values.push b
  aligned := by simpa [Roster.size, Roster.push] using m.aligned

/-- Gives a value to a key, in the place of an earlier one. -/
def set (m : Assignment α β) (a : α) (b : β) : Assignment α β :=
  if new : m.keys.contains a = false then m.push a b new
  else
    { m with
      values := m.values.setIfInBounds ((m.keys.find? a).getD 0) b
      aligned := by simpa using m.aligned }

/-- The assignment with the given keys and values; a later value for a key wins. -/
def ofList (xs : List (α × β)) : Assignment α β :=
  xs.foldl (fun m (a, b) => m.set a b) empty

end Assignment

end FiniteGroups
