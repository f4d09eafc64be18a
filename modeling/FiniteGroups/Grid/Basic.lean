import FiniteGroups.Table

/-!
# Grids

A grid is a rectangular array of cells with any number of dimensions. Its cells stand in a memory
that several grids may share: a row of a grid, or the grid turned over, shows the same cells in
another arrangement, and what is written into one of them is seen in the others. The `layout`
says where in the memory each cell stands, the last dimension running fastest.

* `Grid.cells`, `Grid.ofCells` : the cells of a grid, and a grid with a memory of its own;
* `Grid.parts`, `Grid.transpose` : the parts along the first dimension, and the grid with the
  order of its dimensions reversed;
* `Grid.common`, `Grid.stretch` : the shape that two grids are stretched to before their cells are
  combined, and where the cells of the stretched grid come from;
* `Grid.ofTable`, `Grid.toTable?` : square tables of integers as grids.
-/

namespace FiniteGroups

/-- The kinds of cells. -/
inductive CellKind where
  | truth
  | word
  | real
deriving DecidableEq, Repr

/-- What stands in a cell: a truth value, an integer of 64 bits, or a floating-point number. -/
inductive Cell where
  | truth (b : Bool)
  | word (n : Int)
  | real (x : Float)

instance : Inhabited Cell := ⟨.word 0⟩

/-- A rectangular array of cells in a memory. -/
structure Grid where
  kind : CellKind
  /-- The number of places in each dimension. -/
  shape : List Nat
  /-- Where in the memory each cell stands. -/
  layout : Array Nat
  memory : Array Cell

namespace Grid

/-! ## Shapes -/

/-- The number of cells of a shape. -/
def volume (shape : List Nat) : Nat := shape.foldr (· * ·) 1

/-- How many cells apart neighbours in each dimension stand. -/
def strides : List Nat → List Nat
  | [] => []
  | _ :: rest => volume rest :: strides rest

/-- The positions that are met on a walk through dimensions of so many places, neighbours so many
positions apart. -/
def walk : List (Nat × Nat) → List Nat
  | [] => [0]
  | (size, stride) :: rest =>
    let inner := walk rest
    (List.range size).flatMap fun i => inner.map (· + i * stride)

/-- A shape with dimensions of one place in front, so that there are at least so many. -/
def padded (rank : Nat) (shape : List Nat) : List Nat :=
  List.replicate (rank - shape.length) 1 ++ shape

/-- The shape that two shapes can be stretched to, dimension by dimension from the last one on.
Only dimensions of one place can be stretched. -/
def common (s t : List Nat) : Option (List Nat) :=
  ((padded t.length s).zip (padded s.length t)).mapM fun (m, n) =>
    if m = n ∨ n = 1 then some m else if m = 1 then some n else none

/-- The positions in a shape of the cells of the shape that it is stretched to. -/
def stretch (source target : List Nat) : List Nat :=
  let source := padded target.length source
  walk ((target.zip (source.zip (strides source))).map fun (n, m, stride) =>
    (n, if m = 1 then 0 else stride))

/-! ## Cells -/

/-- The number of cells. -/
def size (g : Grid) : Nat := g.layout.size

/-- The cell at a position. -/
def cell (g : Grid) (i : Nat) : Cell := g.memory.getD (g.layout.getD i 0) default

/-- The cells in order. -/
def cells (g : Grid) : List Cell := g.layout.toList.map fun i => g.memory.getD i default

/-- A grid with a memory of its own. -/
def ofCells (kind : CellKind) (shape : List Nat) (cells : List Cell) : Grid :=
  ⟨kind, shape, Array.range cells.length, cells.toArray⟩

/-- The cells at some positions, in the same memory. -/
def view (g : Grid) (shape positions : List Nat) : Grid :=
  { g with shape, layout := (positions.map (g.layout.getD · 0)).toArray }

/-- The grid with other cells at some positions, one after the other. -/
def write (g : Grid) (positions : List Nat) (cells : List Cell) : Grid :=
  { g with
    memory := (positions.zip cells).foldl
      (fun memory (i, c) => memory.setIfInBounds (g.layout.getD i 0) c) g.memory }

/-- The parts along the first dimension. -/
def parts (g : Grid) : List Grid :=
  match g.shape with
  | [] => []
  | n :: rest =>
    let m := volume rest
    (List.range n).map fun i =>
      { g with shape := rest, layout := g.layout.extract (i * m) ((i + 1) * m) }

/-- The grid with the order of its dimensions reversed. -/
def transpose (g : Grid) : Grid :=
  g.view g.shape.reverse (walk (g.shape.zip (strides g.shape)).reverse)

/-! ## All cells -/

/-- Each cell replaced by another one. -/
def map (kind : CellKind) (f : Cell → Except Fault Cell) (g : Grid) : Except Fault Grid := do
  return ofCells kind g.shape (← g.cells.mapM f)

/-- Whether a grid counts as true: its cell does, of which there must be one. -/
def truth (g : Grid) : Except Fault Bool :=
  if g.size = 1 then
    match g.cell 0 with
    | .truth b => .ok b
    | .word n => .ok (n != 0)
    | .real x => .ok (x != 0)
  else .error .badValue

/-- Whether a truth value of a grid is true. -/
def holdsSomewhere (g : Grid) : Bool :=
  g.cells.any fun
  | .truth b => b
  | _ => false

/-! ## Tables -/

/-- A table as a grid. -/
def ofTable (t : Table) : Grid := ofCells .word [t.size, t.size] (t.entries.toList.map .word)

/-- The integer in a cell. -/
def word? : Cell → Option Int
  | .word n => some n
  | _ => none

/-- The table that a square grid of integers is. -/
def toTable? (g : Grid) : Option Table := do
  let entries := (← g.cells.mapM word?).toArray
  match g.shape with
  | [m, n] => if h : m = n ∧ entries.size = n * n then some ⟨n, entries, h.2⟩ else none
  | _ => none

/-- The cell at places of a row and of a column in a grid of two dimensions. -/
def cellAt? (g : Grid) (i j : Int) : Option Cell :=
  match g.shape with
  | [rows, columns] =>
    if 0 ≤ i ∧ i < rows ∧ 0 ≤ j ∧ j < columns then some (g.cell (i.toNat * columns + j.toNat))
    else none
  | _ => none

end Grid

end FiniteGroups
