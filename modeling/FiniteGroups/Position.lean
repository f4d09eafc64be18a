import FiniteGroups.Fault

/-!
# Positions from either end

A position in a sequence is counted from the front, or backwards from the end when it is
negative: `-1` is the last place. `resolve` turns such a position into a plain index.
-/

namespace FiniteGroups.Position

/-- The index that position `i` means among `size` places. -/
def resolve (size : Nat) (i : Int) : Option Nat :=
  let j := if i < 0 then i + size else i
  if 0 ≤ j ∧ j < size then some j.toNat else none

/-- A position that means something means a place. -/
theorem resolve_lt {size : Nat} {i : Int} {j : Nat} (h : resolve size i = some j) : j < size := by
  unfold resolve at h
  simp only [Option.ite_none_right_eq_some, Option.some.injEq] at h
  omega

/-- From the front, a position is its own index. -/
theorem resolve_natCast (size i : Nat) : resolve size i = if i < size then some i else none := by
  unfold resolve
  have : ¬ ((i : Int) < 0) := by omega
  simp [this]

/-- The entry at position `i`, counted from either end. -/
def entry {α : Type} (xs : List α) (i : Int) : Except Fault α :=
  match resolve xs.length i with
  | some j => if h : j < xs.length then .ok xs[j] else .error .outOfBounds
  | none => .error .outOfBounds

end FiniteGroups.Position
