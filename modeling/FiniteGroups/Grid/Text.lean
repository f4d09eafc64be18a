import FiniteGroups.Decimal.Fixed
import FiniteGroups.Grid.Basic
import FiniteGroups.Text.Listing

/-!
# The text of a grid

A grid is written with a pair of square brackets for each dimension. All its cells take up the same
width; a line that would grow too long is broken, and of a grid of very many cells only the first
and the last few in each dimension are shown, with dots between them.

* `Grid.text` : the text of a grid, plain with blanks between the cells, or quoted with commas, a
  name in front, and behind it what the cells do not tell about the shape and the kind.
-/

namespace FiniteGroups.Grid

/-! ## Cells -/

/-- A text with blanks in front up to a width. -/
def padLeft (width : Nat) (s : String) : String :=
  String.ofList (List.replicate (width - s.length) ' ') ++ s

/-- A text with blanks behind it up to a width. -/
def padRight (width : Nat) (s : String) : String :=
  s ++ String.ofList (List.replicate (width - s.length) ' ')

/-- The largest of some lengths. -/
def longest (texts : List String) : Nat := (texts.map (·.length)).foldl max 0

/-- How many digits are shown behind the point of a floating-point number at most. -/
def maxPlaces : Nat := 8

/-- What stands before the point of a positional number, and what behind it. -/
def pointedParts (b : Decimal.Binary) : String × String :=
  let split (s : String) : String × String :=
    (String.ofList (s.toList.takeWhile (· != '.')),
      String.ofList ((s.toList.dropWhile (· != '.')).drop 1))
  let (whole, fraction) := split (b.text true)
  if fraction.length ≤ maxPlaces then (whole, fraction)
  else
    let (whole, fraction) := split (Decimal.withoutZeros (Decimal.fixed true maxPlaces b))
    (if b.negative then "-" ++ whole else whole, fraction)

/-- The digits of a number with one of them before the point, and its exponent. -/
def scientificParts (b : Decimal.Binary) : String × String × String :=
  let (d, k) := b.shortest
  let all := (Nat.repr d).toList
  let digits := Decimal.trimZeros all
  let (digits, e) :=
    if digits.length ≤ maxPlaces + 1 then (digits, (all.length : Int) - 1 + k)
    else
      let (e, n) := Decimal.normalized maxPlaces b
      (Decimal.trimZeros (Nat.repr n).toList, e)
  let (digits, e) := if d = 0 then (['0'], 0) else (digits, e)
  ((if b.negative then "-" else "") ++ String.ofList (digits.take 1), String.ofList (digits.drop 1),
    Decimal.exponentText e)

/-- Whether some numbers are so large, so small or so far apart that they are written with
exponents. -/
def needsExponents (xs : List Float) : Bool :=
  let sizes := (xs.filter fun x => x.isFinite && x != 0).map Float.abs
  match sizes with
  | [] => false
  | x :: xs =>
    let largest := xs.foldl (fun m y => if m < y then y else m) x
    let smallest := xs.foldl (fun m y => if y < m then y else m) x
    largest ≥ 100000000.0 || smallest < 0.0001 || largest / smallest > 1000.0

/-- The texts of floating-point numbers, all of one width. -/
def realTexts (xs : List Float) : Float → String :=
  let finite := xs.filterMap Decimal.Binary.decode
  let special (x : Float) : String := if x.isNaN then "nan" else if x < 0 then "-inf" else "inf"
  let others := (xs.filter fun x => !x.isFinite).map special
  if needsExponents xs then
    let parts := finite.map scientificParts
    let left := longest (parts.map (·.1))
    let places := longest (parts.map (·.2.1))
    let ends := longest (parts.map (·.2.2))
    let width := max (left + 1 + places + ends) (longest others)
    fun x => match Decimal.Binary.decode x with
      | some b =>
        let (whole, fraction, e) := scientificParts b
        let zeros := String.ofList (List.replicate (places - fraction.length) '0')
        padLeft width (whole ++ "." ++ fraction ++ zeros ++ e)
      | none => padLeft width (special x)
  else
    let parts := finite.map pointedParts
    let right := longest (parts.map (·.2))
    let width := max (longest (parts.map (·.1)) + 1 + right) (longest others)
    fun x => match Decimal.Binary.decode x with
      | some b =>
        let (whole, fraction) := pointedParts b
        padLeft width (whole ++ "." ++ padRight right fraction)
      | none => padLeft width (special x)

/-- The texts of cells, all of the width that the given ones need. -/
def cellTexts (cells : List Cell) : Cell → String :=
  let width := longest (cells.filterMap fun
    | .word n => some (toString n)
    | _ => none)
  let real := realTexts (cells.filterMap fun
    | .real x => some x
    | _ => none)
  fun
  | .truth b => if b then " True" else "False"
  | .word n => padLeft width (toString n)
  | .real x => real x

/-! ## Lines -/

/-- How a grid is laid out: what stands between two cells, how long a line may be, and whether only
the first and last parts of long dimensions are shown. -/
structure Layout where
  separator : String
  width : Nat
  shortened : Bool

/-- How many parts are shown at either end of a dimension that is shortened. -/
def edge : Nat := 3

/-- The largest number of cells that are all shown. -/
def maxShown : Nat := 1000

/-- The parts that are shown of a dimension; where some are left out there is nothing. -/
def Layout.shown {α : Type} (l : Layout) (parts : List α) : List (Option α) :=
  if l.shortened && 2 * edge < parts.length then
    (parts.take edge).map some ++ none :: (parts.drop (parts.length - edge)).map some
  else parts.map some

/-- The separator without the blank at its end. -/
def Layout.comma (l : Layout) : String := (l.separator.trimAsciiEnd).toString

/-- Puts words on lines of a limited length. What has been put on full lines is `done`, and the
`line` at hand starts with the indent. -/
def Layout.fill (l : Layout) (indent : String) (limit : Nat) :
    List String → (done line : String) → String
  | [], done, line => done ++ line
  | word :: rest, done, line =>
    let full := limit < line.length + word.length && indent.length < line.length
    let (done, line) :=
      if full then (done ++ (line.trimAsciiEnd).toString ++ "\n", indent) else (done, line)
    let line := line ++ word
    l.fill indent limit rest done (if rest.isEmpty then line else line ++ l.separator)

/-- The text of the part of a grid that has so many dimensions left, behind an indent. -/
def lines (l : Layout) (write : Cell → String) : (rank : Nat) → (indent : String) →
    (width : Nat) → Grid → String
  | 0, _, _, g => write (g.cell 0)
  | 1, indent, width, g =>
    let words := (l.shown g.cells).map fun
      | some c => write c
      | none => "..."
    let body := l.fill indent (width - max l.comma.length 1) words "" indent
    "[" ++ (body.drop indent.length).toString ++ "]"
  | rank + 1, indent, width, g =>
    let separator := l.comma ++ String.ofList (List.replicate rank '\n')
    let words := (l.shown g.parts).map fun
      | some part => indent ++ lines l write rank (indent ++ " ") (width - 1) part
      | none => indent ++ "..."
    "[" ++ ((separator.intercalate words).drop indent.length).toString ++ "]"

/-- The cells that are shown. -/
def shownCells (l : Layout) : (rank : Nat) → Grid → List Cell
  | 0, g => g.cells
  | rank + 1, g => ((l.shown g.parts).filterMap id).flatMap (shownCells l rank)

/-- The brackets and the cells of a grid, of which nothing is shown if there are none. -/
def body (g : Grid) (l : Layout) (indent : String) : String :=
  if g.size = 0 then "[]"
  else
    let rank := g.shape.length
    lines l (cellTexts (shownCells l rank g)) rank indent l.width g

/-- The name of a kind of cells. -/
def kindName : CellKind → String
  | .truth => "bool"
  | .word => "int64"
  | .real => "float64"

/-- The length of a line. -/
def lineWidth : Nat := 75

/-- The text of a grid. -/
def text (g : Grid) (quoted : Bool) : String :=
  let shortened := decide (maxShown < g.size)
  if quoted then
    let front := "array(" ++ g.body ⟨", ", lineWidth - 1, shortened⟩ "       "
    let shape := if (g.size = 0 ∧ g.shape ≠ [0]) ∨ shortened then
        ["shape=" ++ Brackets.round.enclose (g.shape.map toString)]
      else []
    let kind := if g.size = 0 then ["dtype=" ++ kindName g.kind] else []
    match shape ++ kind with
    | [] => front ++ ")"
    | extras =>
      let extra := ", ".intercalate extras ++ ")"
      let last := (front.toList.reverse.takeWhile (· != '\n')).length + 1
      let space := if lineWidth < last + extra.length + 1 then "\n      " else " "
      front ++ "," ++ space ++ extra
  else g.body ⟨" ", lineWidth, shortened⟩ " "

end FiniteGroups.Grid
