import FiniteGroups.Value.Arithmetic

/-!
# Permutations from values

Permutations are read from their images, from cycles and from a number of points, which may be
values of any kind; what is wrong with them is reported in their own words.

* `Value.readPerm` : the permutation with given images;
* `Value.permOfCycles`, `Value.cycle`, `Value.transposition` : permutations that move every point
  of a cycle to the next one;
* `Value.identityPerm` : the permutation of so many points that moves none.
-/

namespace FiniteGroups.Value

/-- The permutation with the given entries as images, which must be integers. -/
def readPerm (images : List Value) : Except Fault Perm :=
  let entry : Value → Option Int
    | .int n => some n
    | _ => Option.none
  let label (v : Value) : String := v.quoted.toOption.getD ""
  match Perm.read entry label (Brackets.round.enclose (images.map label)) images with
  | .ok p => .ok p
  | .error e => do
    let _ ← images.mapM quoted
    throw e

/-- The permutation of the points `1, …, n` that moves none. -/
def identityPerm (n : Value) : Except Fault Perm := do
  if ← n.before (.int 1) then throw (.degreeTooSmall (← n.plain))
  else Perm.identity (← n.index)

/-- Whether a value is not below `1` and not above `n`. -/
def isPoint (n a : Value) : Except Fault Bool := do
  match a, n with
  | .perm _, _ => throw .wrongKind
  | .array .., _ | _, .array .. => throw .badValue
  | a, n =>
    if Number.atMost (.whole 1) (← a.number) then return (← a.number).atMost (← n.number)
    else return false

/-- Sends the entry at a position of a cycle of `m` entries to the next one. -/
def redirect (cycle n : Value) (m : Nat) (images : List Value) (i : Nat) :
    Except Fault (List Value) := do
  let a ← cycle.item (ofNat i)
  let b ← cycle.item (ofNat ((i + 1) % m))
  let inside ← if ← isPoint n a then isPoint n b else pure false
  if inside then
    match Position.resolve images.length (← (← a.sub (.int 1)).index) with
    | some i => return images.set i b
    | Option.none => throw .outOfBounds
  else
    let spelled ← cycle.plain
    let _ ← n.decimalText
    throw (.cycleOutOfRange spelled (← n.decimal))

/-- Sends every entry of a cycle to the next one. -/
def redirectAll (n : Value) (images : List Value) (cycle : Value) :
    Except Fault (List Value) := do
  let m ← cycle.length
  (List.range m).foldlM (redirect cycle n m) images

/-- The permutation of `1, …, n` with the given cycles. -/
def permOfCycles (cycles n : Value) : Except Fault Perm := do
  let last ← (← n.add (.int 1)).index
  let start := (List.range' 1 (last - 1).toNat).map ofNat
  readPerm (← (← cycles.entries).foldlM (redirectAll n) start)

/-- The permutation with a single cycle, of its largest point unless a number of points is
given. -/
def cycle (points : List Value) (n : Value) : Except Fault Perm := do
  match points with
  | [] => throw .emptyCycle
  | x :: xs =>
    let n ← match n with
      | .none => largest x xs
      | n => pure n
    permOfCycles (.tuple [.tuple points]) n

/-- The permutation that exchanges two points. -/
def transposition (i j n : Value) : Except Fault Perm :=
  permOfCycles (.list 0 [.tuple [i, j]]) n

end FiniteGroups.Value
