import FiniteGroups.Decimal.Real
import FiniteGroups.Grid.Selection
import FiniteGroups.Text.Listing
import FiniteGroups.Text.Numeral
import FiniteGroups.Value.Comparison

/-!
# Arrays by index

An array is indexed by a value for each dimension, several of them in a tuple: an integer, nothing
for a new dimension, or a sequence of integers or of truth values. What is written into an array is
made an integer of 64 bits first: fractions lose what is behind the point, and texts must spell
integers.

* `Value.cellsAt`, `Value.readTable` : the part of an array that an index means, and the square
  table that nested sequences spell out;
* `Value.putAt` : an array with new entries at an index.
-/

namespace FiniteGroups.Value

/-! ## Reading an index -/

/-- What the integers of an index mean in 64 bits: those of the upper half count from the end, if
there are no others. -/
def wrapped (is : List Int) : List Int :=
  if is.all fun i => 0x8000000000000000 ≤ i ∧ i < 0x10000000000000000 then
    is.map (· - 0x10000000000000000)
  else is

/-- What a sequence means in an index. It holds truth values or integers and nothing else. -/
def sequenceSelector (v : Value) : Except Fault Grid.Selector := do
  let dims ← rowShape v
  let entries := v.leaves
  let truth : Value → Option Bool
    | .bool b => some b
    | _ => Option.none
  let place : Value → Option Int
    | .int n | .word n => some n
    | .bool b => some (ofBool b)
    | _ => Option.none
  match entries.mapM truth, entries.mapM place with
  | some holds, some _ => if holds.isEmpty then return .many dims [] else return .mask dims holds
  | _, some places => return .many dims (wrapped places)
  | _, _ => throw .outOfBounds

/-- What one value of an index means. -/
def selector (v : Value) : Except Fault Grid.Selector :=
  match v with
  | .none => .ok .fresh
  | .word n => .ok (.one n)
  | .bool b => .ok (.mask [] [b])
  | .int n =>
    if isBounded n then .ok (.one n)
    else if 0 ≤ n ∧ n < 0x10000000000000000 then .error .overflow else .error .outOfBounds
  | .tuple _ | .verdict _ | .list .. | .group .. | .action .. => sequenceSelector v
  | .array _ g =>
    if g.size = 0 then
      match g.kind with
      | .truth => .ok (.mask g.shape [])
      | .word => .ok (.many g.shape [])
      | .real => .error .outOfBounds
    else sequenceSelector v
  | _ => .error .outOfBounds

/-- What an index means, one value or a tuple of values. -/
def selectors (index : Value) : Except Fault (List Grid.Selector) :=
  match index with
  | .tuple is | .verdict is => is.mapM selector
  | i => do return [← selector i]

/-! ## Reading an array -/

/-- The part of an array that an index means: a single cell, a view of some cells, or a copy. -/
def cellsAt (place : Nat) (g : Grid) (index : Value) : Except Fault Value := do
  let s ← g.select (← selectors index)
  if !s.inside then throw .outOfBounds
  if s.isCell then return ofCell (g.cell (s.positions.headD 0))
  let part := g.view s.shape s.positions
  if s.isView then return .array place part
  else return .array 0 (Grid.ofCells g.kind s.shape part.cells)

/-! ## Writing into an array -/

/-- The integer that an entry of an array stands for. -/
def tableEntry : Value → Except Fault Int
  | .int n => bounded n
  | .word n => .ok n
  | .bool b => .ok (ofBool b)
  | .real x => do bounded (← Decimal.Real.truncate x)
  | .nan .. => .error .badValue
  | .text s => do bounded (← Text.numeral s)
  | _ => .error .wrongKind

/-- The cell of a kind that a value is made when it is written. -/
def cellOf (kind : CellKind) (v : Value) : Except Fault Cell := do
  match kind, v with
  | .word, v => return .word (← tableEntry v)
  | .truth, .text s => return .truth !s.isEmpty
  | .truth, .none => return .truth false
  | .truth, v =>
    match ← v.cell? with
    | some (.word n) => return .truth (n != 0)
    | some (.real x) => return .truth (x != 0)
    | some c => return c
    | Option.none => return .truth true
  | .real, v =>
    match ← v.cell? with
    | some (.word n) => return .real (← Decimal.Real.ofInt n)
    | some (.truth b) => return .real (if b then 1 else 0)
    | some c => return c
    | Option.none => throw .wrongKind

/-- The entries of a value as cells of a kind, stretched to a shape. What is nested deeper must
have a single part on each level that is too many, and sequences must not be. -/
def cellsFor (kind : CellKind) (shape : List Nat) (deep : Bool) (v : Value) :
    Except Fault (List Cell) := do
  let dims ← rowShape v
  if shape.length < dims.length && !(deep || v.isArray) then throw .badValue
  let cells := (← v.leaves.mapM (cellOf kind)).toArray
  let extra := dims.length - shape.length
  if (dims.take extra).any (· != 1) then throw .badValue
  let dims := dims.drop extra
  if Grid.common dims shape = some shape then
    return (Grid.stretch dims shape).map fun i => cells.getD i default
  else throw .badValue

/-- An array with new entries at an index. A single cell takes a single entry, and truth values for
all cells take a row of entries at most. -/
def putAt (g : Grid) (index v : Value) : Except Fault Grid := do
  let given ← selectors index
  let s ← g.select given
  if s.isCell then
    if !s.inside then throw .outOfBounds
    return g.write s.positions [← cellOf g.kind v]
  match given with
  | [.mask shape _] =>
    if shape = g.shape && 1 < (← rowShape v).length then throw .badValue
  | _ => pure ()
  if s.isView then
    if !s.inside then throw .outOfBounds
    return g.write s.positions (← cellsFor g.kind s.shape false v)
  else
    let cells ← cellsFor g.kind s.shape true v
    if !s.inside then throw .outOfBounds
    return g.write s.positions cells

/-! ## Tables -/

/-- The table that nested sequences spell out: the nesting must be even, and there must be as many
columns as rows. -/
def readTable (x : Value) : Except Fault Table := do
  let dims ← rowShape x
  let entries := (← x.leaves.mapM tableEntry).toArray
  match dims with
  | [] => throw .wrongKind
  | n :: _ =>
    if h : dims = [n, n] ∧ entries.size = n * n then return ⟨n, entries, h.2⟩
    else throw (.notSquare (Brackets.round.enclose (dims.map toString)))

/-- A table as an array. -/
def ofTable (t : Table) : Value := .array 0 (Grid.ofTable t)

/-- An operation that looks up its operands in a table. -/
def lookupIn (t : Table) : Value :=
  .lookup (ofTable t) [.tuple [.int t.size, .int t.size], .tuple (t.entries.toList.map .int)]

/-- The part of an array that two indices mean. Places of a row and of a column mean the cell there:
no array is so large that they are no indices. -/
def partAt (g : Grid) (i j : Value) : Except Fault Value :=
  let cell : Option Cell :=
    match i, j with
    | .int i, .int j => g.cellAt? i j
    | _, _ => Option.none
  match cell with
  | some c => .ok (ofCell c)
  | Option.none => cellsAt 0 g (.tuple [i, j])

/-- The entry of an array for two indices, which must single out one. -/
def entryAt (g : Grid) (i j : Value) : Except Fault Value := do
  match ← partAt g i j with
  | .word n => return .int n
  | .bool b => return .int (ofBool b)
  | .real x => return .int (← Decimal.Real.truncate x)
  | .nan .. => throw .badValue
  | _ => throw .wrongKind

end FiniteGroups.Value
