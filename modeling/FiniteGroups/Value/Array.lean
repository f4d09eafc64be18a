import FiniteGroups.Value.Equality

/-!
# Values and arrays

What an array makes of other values. Tuples, lists, groups and actions are taken for rows of what
they hold, to any depth; everything else is a single entry. The cells of an array are values in
their turn.

* `Value.ofCell`, `Value.cell?` : cells as values, and numbers as cells;
* `Value.shape`, `Value.leaves` : how many entries a value has on each level, and the entries;
* `Value.align` : two values stretched to one shape, entry beside entry;
* `Value.equalCells` : where the entries of two values are equal.
-/

namespace FiniteGroups.Value

/-- The entries of a list; of other values there are none. -/
def listed : Value → List Value
  | .list _ xs => xs
  | _ => []

/-- A floating-point number as a value. One that is none gets a trail. -/
def ofReal (x : Float) (trail : UInt64) : Value := if x.isNaN then .nan 0 trail else .real x

/-- A cell as a value. -/
def ofCell : Cell → Value
  | .truth b => .bool b
  | .word n => .word n
  | .real x => ofReal x 0

/-- The only cell of an array, and every other value itself. -/
def onlyCell : Value → Value
  | .array p g =>
    match g.cells with
    | [c] => ofCell c
    | _ => .array p g
  | v => v

/-- Whether an integer fits into 64 bits. -/
def isBounded (n : Int) : Bool := -0x8000000000000000 ≤ n && n < 0x8000000000000000

/-- An integer that fits into 64 bits. -/
def bounded (n : Int) : Except Fault Int := if isBounded n then .ok n else .error .overflow

/-- Nothing, as the machine has it. -/
def noNumber : Float := 0.0 / 0.0

/-- A number as a cell. -/
def cell? : Value → Except Fault (Option Cell)
  | .int n => do return some (.word (← bounded n))
  | .bool b => .ok (some (.truth b))
  | .real x => .ok (some (.real x))
  | .nan .. => .ok (some (.real noNumber))
  | .word n => .ok (some (.word n))
  | _ => .ok Option.none

mutual

/-- How many entries there are on each level of nesting, if that is the same throughout. -/
def shape : Value → Except Fault (List Nat)
  | .tuple xs | .verdict xs | .list _ xs => do shapeOf (← shapes xs)
  | .group _ _ (.list _ xs) _ _ _ _ _ _ _ _ _ _ | .action _ _ (.list _ xs) _ _ => do
    shapeOf (← shapes xs)
  | .array _ g => .ok g.shape
  | _ => .ok []

/-- The shapes of the entries of a list. -/
def shapes : List Value → Except Fault (List (List Nat))
  | [] => .ok []
  | x :: xs => do return (← shape x) :: (← shapes xs)

/-- The shape of a sequence of things with the given shapes. -/
def shapeOf : List (List Nat) → Except Fault (List Nat)
  | [] => .ok [0]
  | s :: ss => if ss.all (· == s) then .ok ((s :: ss).length :: s) else .error .badValue

end

mutual

/-- The innermost entries in order. -/
def leaves : Value → List Value
  | .tuple xs | .verdict xs | .list _ xs => leavesEach xs
  | .group _ _ (.list _ xs) _ _ _ _ _ _ _ _ _ _ | .action _ _ (.list _ xs) _ _ => leavesEach xs
  | .array _ g => g.cells.map ofCell
  | x => [x]

/-- The innermost entries of the members of a list, in order. -/
def leavesEach : List Value → List Value
  | [] => []
  | x :: xs => leaves x ++ leavesEach xs

end

/-- The deepest nesting of sequences that an array is made of. -/
def maxNesting : Nat := 64

/-- The shape of a value that an array is made of. -/
def rowShape (v : Value) : Except Fault (List Nat) := do
  let dims ← v.shape
  if maxNesting < dims.length then throw .badValue else return dims

/-- The common shape of two values, and their entries side by side. -/
def align (a b : Value) : Except Fault (List Nat × List (Value × Value)) := do
  let s ← rowShape a
  let t ← rowShape b
  match Grid.common s t with
  | some shape =>
    let spread (dims : List Nat) (v : Value) : List Value :=
      let own := v.leaves.toArray
      (Grid.stretch dims shape).map fun i => own.getD i .none
    return (shape, (spread s a).zip (spread t b))
  | Option.none => throw .badValue

/-- Whether a value is an array. -/
def isArray : Value → Bool
  | .array .. => true
  | _ => false

/-- Whether a value is a number. -/
def isNumber : Value → Bool
  | .int _ | .bool _ | .real _ | .word _ => true
  | _ => false

/-- Whether the entries of a value are texts, maybe along with numbers. -/
def isTextual (v : Value) : Bool :=
  let entries := v.leaves
  (entries.any fun x => x matches .text _) && entries.all fun x => x.isNumber || x matches .text _

/-- Where the entries of two values are equal, one of which is an array. Only numbers are equal to
a cell, and not if they stand beside texts. -/
def equalCells (a b : Value) : Except Fault Grid := do
  let (shape, pairs) ← align a b
  let textual := a.isTextual || b.isTextual
  return Grid.ofCells .truth shape (pairs.map fun (x, y) =>
    .truth (!textual && x.isNumber && y.isNumber && x == y))

end FiniteGroups.Value
