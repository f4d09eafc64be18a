import FiniteGroups.Grid.Basic
import FiniteGroups.Position

/-!
# Selections

What an index means for a grid. An index says something about each dimension in turn: one place
of it, or a whole array of places; or it adds a dimension of one place. An array of truth values
stands for the places where it holds, in as many dimensions as it has itself. The dimensions that
are not spoken of are taken whole.

Arrays of places go together: they are stretched to one shape, which takes the place of their
dimensions in the result, or stands in front if they do not stand side by side. Single places
belong to them then.

* `Grid.select` : the shape of what is selected and the positions of its cells;
* `Grid.Selection.isCell`, `Grid.Selection.isView` : whether a single cell is meant, and whether
  the result shares the memory of the grid.
-/

namespace FiniteGroups.Grid

/-- What an index says about a dimension. -/
inductive Selector where
  /-- A new dimension of one place. -/
  | fresh
  /-- One place. -/
  | one (i : Int)
  /-- An array of places. -/
  | many (shape : List Nat) (places : List Int)
  /-- An array of truth values, for as many dimensions as it has. -/
  | mask (shape : List Nat) (holds : List Bool)

/-- How a part of an index takes part in the whole. -/
inductive Part.Role where
  | whole
  | single
  | array
deriving DecidableEq

/-- A part of an index: the dimensions that it adds to the result, and how far into the grid each
of their places leads. Places that do not exist lead nowhere. -/
structure Part where
  role : Part.Role
  shape : List Nat
  offsets : List (Option Nat)

/-- What an index means: the shape of the result, the positions of its cells, and whether all the
places exist. -/
structure Selection where
  roles : List Part.Role
  shape : List Nat
  positions : List Nat
  inside : Bool

namespace Selection

/-- Whether a single cell is meant. -/
def isCell (s : Selection) : Bool := s.roles.all (· == .single)

/-- Whether the result is another view of the same cells. -/
def isView (s : Selection) : Bool := s.roles.all (· != .array)

end Selection

/-- A dimension that is taken whole. -/
def Part.ofAxis (axis : Nat × Nat) : Part :=
  ⟨.whole, [axis.1], (List.range axis.1).map fun i => some (i * axis.2)⟩

/-- How far into a dimension a place is. -/
def offset (axis : Nat × Nat) (i : Int) : Option Nat :=
  (Position.resolve axis.1 i).map (· * axis.2)

/-- The parts of an index. The axes that are left are given by their sizes and strides; there must
be one for everything that is spoken of. -/
def partsOf : List Selector → (axes : List (Nat × Nat)) → Except Fault (List Part)
  | [], axes => .ok (axes.map Part.ofAxis)
  | .fresh :: rest, axes => do return ⟨.whole, [1], [some 0]⟩ :: (← partsOf rest axes)
  | .one _ :: _, [] | .many _ _ :: _, [] => .error .outOfBounds
  | .one i :: rest, axis :: axes => do
    return ⟨.single, [], [offset axis i]⟩ :: (← partsOf rest axes)
  | .many shape places :: rest, axis :: axes => do
    return ⟨.array, shape, places.map (offset axis)⟩ :: (← partsOf rest axes)
  | .mask shape holds :: rest, axes => do
    let own := axes.take shape.length
    if own.map Prod.fst = shape then
      let found := (((walk own).zip holds).filter Prod.snd).map fun x => some x.1
      return ⟨.array, [found.length], found⟩ :: (← partsOf rest (axes.drop shape.length))
    else throw .outOfBounds

/-- Arrays of places as one part. Their shapes must agree up to stretching. -/
def merge (parts : List Part) : Except Fault Part := do
  let shape ← parts.foldlM (fun shape p =>
    match common shape p.shape with
    | some shape => .ok shape
    | none => .error .outOfBounds) []
  let start := List.replicate (volume shape) (some 0)
  let offsets := parts.foldl (fun offsets p =>
    let own := p.offsets.toArray
    (offsets.zip (stretch p.shape shape)).map fun (sum, i) => do
      return (← sum) + (← (own[i]?).join)) start
  return ⟨.array, shape, offsets⟩

/-- The parts of an index with all arrays of places merged into one. -/
def arrange (parts : List Part) : Except Fault (List Part) := do
  if parts.all (·.role != .array) then return parts
  else
    let chosen ← merge (parts.filter (·.role != .whole))
    let before := parts.takeWhile (·.role == .whole)
    let after := (parts.drop before.length).dropWhile (·.role != .whole)
    if after.all (·.role == .whole) then return before ++ chosen :: after
    else return chosen :: parts.filter (·.role == .whole)

/-- The positions that parts lead to together. -/
def combine : List Part → List Nat
  | [] => [0]
  | p :: rest =>
    let inner := combine rest
    p.offsets.flatMap fun i => inner.map (· + i.getD 0)

/-- What an index means for a grid. -/
def select (g : Grid) (index : List Selector) : Except Fault Selection := do
  let parts ← partsOf index (g.shape.zip (strides g.shape))
  let arranged ← arrange parts
  return {
    roles := parts.map (·.role)
    shape := arranged.flatMap (·.shape)
    positions := combine arranged
    inside := parts.all fun p => p.offsets.all (·.isSome) }

end FiniteGroups.Grid
