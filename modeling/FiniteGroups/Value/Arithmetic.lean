import FiniteGroups.Arithmetic
import FiniteGroups.Value.Template

/-!
# Arithmetic on values

What the operations of groups are made of. Integers, truth values in their place, and
floating-point numbers are added and multiplied as numbers, and arrays cell by cell; texts, tuples
and lists are joined and repeated; permutations are composed. Everything else is of the wrong kind.

Integers out of an array and in arrays have 64 bits: what does not fit is taken modulo `2 ^ 64`,
and a division by zero gives zero.

* `Value.add`, `Value.sub`, `Value.multiply`, `Value.mod`, `Value.quotient`, `Value.power`;
* `Value.negate`, `Value.complement` : the negative, and the inverse of a permutation or the
  number `-n - 1`;
* `Value.before` : the order of numbers, texts, tuples, lists, sets and permutations.
-/

namespace FiniteGroups.Value

/-! ## Numbers -/

/-- A number: whole, an integer of 64 bits, or a floating-point number with a trail that tells how
it came about. -/
inductive Number where
  | whole (n : Int)
  | word (n : Int)
  | real (x : Float) (trail : UInt64)

/-- The integer of 64 bits that an integer is modulo `2 ^ 64`. -/
def wrap (n : Int) : Int := n.bmod 0x10000000000000000

/-- A computation with two numbers, for each kind of number. -/
structure Computation where
  /-- Tells the results of different computations apart. -/
  tag : UInt64
  exact : Int → Int → Except Fault Int
  /-- On integers of 64 bits, the result to be taken modulo `2 ^ 64`. -/
  words : Int → Int → Except Fault Int
  rounded : Float → Float → Except Fault Float
  /-- On floating-point numbers that come with integers of 64 bits or out of an array. -/
  machine : Float → Float → Float
  /-- On the truth values of arrays. -/
  truths : Bool → Bool → Except Fault Cell
  /-- The kind of what is computed from truth values. -/
  truthKind : CellKind

namespace Number

/-- The number as a floating-point number. -/
def toReal : Number → Except Fault Float
  | .whole n | .word n => Decimal.Real.ofInt n
  | .real x _ => .ok x

/-- Tells how a number came about. -/
def trail : Number → UInt64
  | .whole n | .word n => hash n
  | .real _ trail => trail

/-- A computation with two numbers: exact on integers, and otherwise on floating-point numbers. -/
def combine (c : Computation) : Number → Number → Except Fault Value
  | .whole m, .whole n => do return .int (← c.exact m n)
  | .whole m, .word n | .word m, .whole n | .word m, .word n => do
    return .word (wrap (← c.words (← bounded m) (← bounded n)))
  | a, b => do
    let x ← a.toReal
    let y ← b.toReal
    let z ← match a, b with
      | .word _, _ | _, .word _ => pure (c.machine x y)
      | _, _ => c.rounded x y
    return ofReal z (mixHash c.tag (mixHash a.trail b.trail))

/-- The quotient of integers rounded down. -/
def floorQuotient (m n : Int) : Except Fault Int :=
  if n = 0 then .error .divisionByZero else .ok (m.fdiv n)

/-- The integral power of an integer. -/
def integralPower (m : Int) (n : Nat) : Int :=
  if m < 0 ∧ n % 2 = 1 then -(Nat.pow m.natAbs n : Int) else (Nat.pow m.natAbs n : Int)

/-- The integral power of an integer modulo `2 ^ 64`, by repeated squaring. -/
def wordPower (m : Int) (n : Nat) : Int :=
  if _h : n = 0 then 1
  else
    let half := wordPower (wrap (m * m)) (n / 2)
    if n % 2 = 1 then wrap (m * half) else half
termination_by n
decreasing_by omega

/-- The power of a number as a floating-point number; nothing if it is not real. -/
def realPower (a b : Number) : Except Fault Value := do
  match ← Decimal.Real.power (← a.toReal) (← b.toReal) with
  | some x => return ofReal x (mixHash 7 (mixHash a.trail b.trail))
  | Option.none => return .none

/-- The power of a number. -/
def power : Number → Number → Except Fault Value
  | .whole m, .whole n =>
    if 0 ≤ n then .ok (.int (integralPower m n.toNat)) else realPower (.whole m) (.whole n)
  | .whole m, .word n | .word m, .whole n | .word m, .word n => do
    if (← bounded n) < 0 then throw .badValue
    return .word (wordPower (← bounded m) n.toNat)
  | .word m, .real y trail => do
    return ofReal (Float.pow (← Decimal.Real.ofInt m) y) (mixHash 7 (mixHash (hash m) trail))
  | .real x trail, .word n => do
    return ofReal (Float.pow x (← Decimal.Real.ofInt n)) (mixHash 7 (mixHash trail (hash n)))
  | a, b => realPower a b

/-- Whether one number is smaller than another, by their exact values. -/
def before : Number → Number → Bool
  | .whole m, .whole n | .whole m, .word n | .word m, .whole n | .word m, .word n => m < n
  | .real x _, .real y _ => x < y
  | .real x _, .whole n | .real x _, .word n => Decimal.Real.compareInt x n == some .lt
  | .whole n, .real x _ | .word n, .real x _ => Decimal.Real.compareInt x n == some .gt

/-- Whether one number is at most another. What is no number at all is neither smaller than
another nor at most that. -/
def atMost : Number → Number → Bool
  | .whole m, .whole n | .whole m, .word n | .word m, .whole n | .word m, .word n => m ≤ n
  | .real x _, .real y _ => x ≤ y
  | .real x _, .whole n | .real x _, .word n => (Decimal.Real.compareInt x n).any (·.isLE)
  | .whole n, .real x _ | .word n, .real x _ => (Decimal.Real.compareInt x n).any (·.isGE)

end Number

/-- The number that a value is. -/
def number? : Value → Option Number
  | .int n => some (.whole n)
  | .bool b => some (.whole (ofBool b))
  | .word n => some (.word n)
  | .real x => some (.real x x.toBits)
  | .nan p trail => some (.real noNumber (mixHash (hash p) trail))
  | _ => Option.none

/-- The number that a value is; anything else is of the wrong kind. -/
def number (v : Value) : Except Fault Number :=
  match v.number? with
  | some n => .ok n
  | Option.none => .error .wrongKind

/-! ## Arrays -/

/-- The kind of cells that the entries of a value are in an array. All of them must be numbers. -/
def entryKind (v : Value) : Except Fault CellKind := do
  let _ ← rowShape v
  match v with
  | .array _ g => return g.kind
  | v =>
    let cells ← v.leaves.mapM fun x => do
      match ← x.cell? with
      | some c => return c
      | Option.none => throw .wrongKind
    if cells.isEmpty || cells.any fun c => c matches .real _ then return .real
    else if cells.all fun c => c matches .truth _ then return .truth
    else return .word

/-- A cell as a floating-point number. -/
def cellReal : Cell → Except Fault Float
  | .truth b => .ok (if b then 1 else 0)
  | .word n => Decimal.Real.ofInt n
  | .real x => .ok x

/-- A cell as an integer, fractions apart. -/
def cellWord : Cell → Int
  | .truth b => ofBool b
  | .word n => n
  | .real _ => 0

/-- A computation with the cells of arrays. -/
def Computation.onCells (c : Computation) : Cell → Cell → Except Fault Cell
  | .truth a, .truth b => c.truths a b
  | .real x, y => do return .real (c.machine x (← cellReal y))
  | x, .real y => do return .real (c.machine (← cellReal x) y)
  | x, y => do return .word (wrap (← c.words (cellWord x) (cellWord y)))

/-- The kind of the cells that are computed. -/
def Computation.kindOf (c : Computation) : CellKind → CellKind → CellKind
  | .truth, .truth => c.truthKind
  | .real, _ | _, .real => .real
  | _, _ => .word

/-- A computation cell by cell. -/
def elementwise (c : Computation) (a b : Value) : Except Fault Value := do
  let k ← entryKind a
  let l ← entryKind b
  let (shape, pairs) ← align a b
  let cells ← pairs.mapM fun (x, y) => do
    match ← x.cell?, ← y.cell? with
    | some x, some y => c.onCells x y
    | _, _ => throw .wrongKind
  return .array 0 (Grid.ofCells (c.kindOf k l) shape cells)

/-- Whether a value is a row in the eyes of an array. -/
def isRow : Value → Bool
  | .tuple _ | .verdict _ | .list .. | .group .. | .action .. => true
  | _ => false

/-- Whether two values are combined cell by cell: one of them is an array, or an integer out of an
array stands beside a row. -/
def areCells (a b : Value) : Bool :=
  match a, b with
  | .array .., _ | _, .array .. => true
  | .word _, b => b.isRow
  | a, .word _ => a.isRow
  | _, _ => false

/-- A computation with two values: cell by cell if they are arrays, and otherwise with numbers. -/
def compute (c : Computation) (a b : Value) : Except Fault Value :=
  if areCells a b then elementwise c a b
  else do Number.combine c (← a.number) (← b.number)

/-! ## Computations -/

/-- Truth values as integers. -/
def asWords (f : Int → Int → Except Fault Int) (a b : Bool) : Except Fault Cell := do
  return .word (← f (ofBool a) (ofBool b))

/-- Addition; of truth values, whether one of them holds. -/
def sums : Computation where
  tag := 1
  exact m n := .ok (m + n)
  words m n := .ok (m + n)
  rounded x y := .ok (x + y)
  machine x y := x + y
  truths a b := .ok (.truth (a || b))
  truthKind := .truth

/-- Subtraction, which truth values do not have. -/
def differences : Computation where
  tag := 2
  exact m n := .ok (m - n)
  words m n := .ok (m - n)
  rounded x y := .ok (x - y)
  machine x y := x - y
  truths _ _ := .error .wrongKind
  truthKind := .truth

/-- Multiplication; of truth values, whether both of them hold. -/
def products : Computation where
  tag := 3
  exact m n := .ok (m * n)
  words m n := .ok (m * n)
  rounded x y := .ok (x * y)
  machine x y := x * y
  truths a b := .ok (.truth (a && b))
  truthKind := .truth

/-- The remainder in 64 bits, zero if the divisor is. -/
def wordRemainder (m n : Int) : Except Fault Int := .ok (if n = 0 then 0 else m.fmod n)

/-- The quotient in 64 bits rounded down, zero if the divisor is. -/
def wordQuotient (m n : Int) : Except Fault Int := .ok (if n = 0 then 0 else m.fdiv n)

/-- Remainders, which have the sign of the divisor. -/
def remainders : Computation where
  tag := 4
  exact := remainder
  words := wordRemainder
  rounded := Decimal.Real.remainder
  machine x y := if y == 0 then noNumber else (Decimal.Real.remainder x y).toOption.getD noNumber
  truths := asWords wordRemainder
  truthKind := .word

/-- Quotients rounded down. -/
def quotients : Computation where
  tag := 5
  exact := Number.floorQuotient
  words := wordQuotient
  rounded := Decimal.Real.quotient
  machine x y := if y == 0 then x / y else (Decimal.Real.quotient x y).toOption.getD noNumber
  truths := asWords wordQuotient
  truthKind := .word

/-- Powers in 64 bits, which have no negative exponents. -/
def wordPower (m n : Int) : Except Fault Int :=
  if n < 0 then .error .badValue else .ok (Number.wordPower m n.toNat)

/-- Powers of the cells of arrays. -/
def powers : Computation where
  tag := 7
  exact := wordPower
  words := wordPower
  rounded x y := .ok (Float.pow x y)
  machine := Float.pow
  truths := asWords wordPower
  truthKind := .word

/-! ## Joining and repeating -/

/-- How often something of a size is repeated, if that is not too often. -/
def repetitions (size : Nat) (n : Int) : Except Fault Nat :=
  if n < 0 then .ok 0
  else if 0x7fffffffffffffff < n ∨ 0x8000000 < size * n then .error .overflow
  else .ok n.toNat

/-- Entries repeated. -/
def repeated (xs : List Value) (v : Value) : Except Fault (List Value) := do
  return (List.replicate (← repetitions xs.length (← v.index)) xs).flatten

/-- A text repeated. -/
def repeatedText (s : String) (v : Value) : Except Fault Value := do
  return .text (String.join (List.replicate (← repetitions s.length (← v.index)) s))

/-- The sum of two numbers, or two texts, tuples or lists joined. -/
def add : Value → Value → Except Fault Value
  | .text s, .text t => .ok (.text (s ++ t))
  | .tuple xs, .tuple ys | .tuple xs, .verdict ys | .verdict xs, .tuple ys
  | .verdict xs, .verdict ys => .ok (.tuple (xs ++ ys))
  | .list _ xs, .list _ ys => .ok (.list 0 (xs ++ ys))
  | .int m, .int n => .ok (.int (m + n))
  | a, b => compute sums a b

/-- The difference of two numbers. -/
def sub (a b : Value) : Except Fault Value := compute differences a b

/-- The product of two numbers or permutations, or a text, tuple or list repeated. -/
def multiply : Value → Value → Except Fault Value
  | .perm p, .perm q => Value.perm <$> p.mul q
  | .int m, .int n => .ok (.int (m * n))
  | .array p g, b => elementwise products (.array p g) b
  | a, .array q h => elementwise products a (.array q h)
  | .text s, b => repeatedText s b
  | a, .text s => repeatedText s a
  | .tuple xs, b | .verdict xs, b => .tuple <$> repeated xs b
  | .list _ xs, b => .list 0 <$> repeated xs b
  | a, .tuple xs | a, .verdict xs => .tuple <$> repeated xs a
  | a, .list _ xs => .list 0 <$> repeated xs a
  | a, b => compute products a b

/-- The remainder of a number, with the sign of the divisor; a text is a template to fill. -/
def mod : Value → Value → Except Fault Value
  | .text s, b => Template.fill s b
  | .int m, .int n => Value.int <$> remainder m n
  | a, b => compute remainders a b

/-- The quotient of numbers, rounded down. -/
def quotient (a b : Value) : Except Fault Value := compute quotients a b

/-- The negative of a number. Truth values in an array have none. -/
def negate (a : Value) : Except Fault Value := do
  match a with
  | .array _ g =>
    return .array 0 (← g.map g.kind fun
      | .truth _ => .error .wrongKind
      | .word n => .ok (.word (wrap (-n)))
      | .real x => .ok (.real (-x)))
  | a =>
    match ← a.number with
    | .whole n => return .int (-n)
    | .word n => return .word (wrap (-n))
    | .real x trail => return ofReal (-x) (mixHash 6 trail)

/-- The inverse of a permutation; the number `-n - 1`, and the opposite of a truth value in an
array. -/
def complement : Value → Except Fault Value
  | .perm p => .ok (.perm p.inverse)
  | .word n => .ok (.word (-n - 1))
  | .array _ g => do
    return .array 0 (← g.map g.kind fun
      | .truth b => .ok (.truth !b)
      | .word n => .ok (.word (-n - 1))
      | .real _ => .error .wrongKind)
  | a => do return .int (-(← a.index) - 1)

/-! ## Powers -/

/-- The exponent of a permutation that a value is. An integral floating-point number is none, and
neither is a text that spells an integer. -/
def exponent : Value → Except Fault Int
  | .int n | .word n => .ok n
  | .bool b => .ok (ofBool b)
  | .nan .. => .error .badValue
  | .real x => do
    let _ ← Decimal.Real.truncate x
    if (realMagnitude x) matches .whole _ then throw .wrongKind else throw .failedCheck
  | .text s => do
    let _ ← Text.numeral s
    throw .failedCheck
  | _ => .error .wrongKind

/-- The power of a permutation or a number. -/
def power : Value → Value → Except Fault Value
  | .perm p, b => do return .perm (p.zpow (← b.exponent))
  | a, b => do
    if areCells a b then elementwise powers a b else Number.power (← a.number) (← b.number)

/-! ## Order -/

/-- Where the entries of one value are smaller than those of another, one of which is an array. -/
def smallerCells (a b : Value) : Except Fault Grid := do
  let _ ← entryKind a
  let _ ← entryKind b
  let (shape, pairs) ← align a b
  let cells ← pairs.mapM fun (x, y) => do return .truth ((← x.number).before (← y.number))
  return Grid.ofCells .truth shape cells

/-- The order of values that have no parts to be compared in turn. -/
def beforeAlien (a b : Value) : Except Fault Bool := do
  if areCells a b then (← smallerCells a b).truth else return (← a.number).before (← b.number)

mutual

/-- Whether one value comes before another: numbers by size, texts by their characters, tuples
and lists by the first entry that differs, a set before the sets that properly contain it, and
permutations by degree and images. -/
def before : Value → Value → Except Fault Bool
  | .text s, b =>
    match b with
    | .text t => .ok (decide (s < t))
    | b => beforeAlien (.text s) b
  | .perm p, b =>
    match b with
    | .perm q => .ok (p.before q)
    | _ => .error .noAttribute
  | .tuple xs, b =>
    match b with
    | .tuple ys | .verdict ys => beforeEach xs ys
    | b => beforeAlien (.tuple xs) b
  | .verdict xs, b =>
    match b with
    | .tuple ys | .verdict ys => beforeEach xs ys
    | b => beforeAlien (.verdict xs) b
  | .list p xs, b =>
    match b with
    | .list _ ys => beforeEach xs ys
    | b => beforeAlien (.list p xs) b
  | .set frozen xs, b =>
    match b with
    | .set _ ys => .ok (within xs ys && xs.length < ys.length)
    | b => beforeAlien (.set frozen xs) b
  | a, b => beforeAlien a b

/-- Compares lists at the first place where they differ. -/
def beforeEach : List Value → List Value → Except Fault Bool
  | [], ys => .ok !ys.isEmpty
  | x :: xs, ys =>
    match ys with
    | [] => .ok false
    | y :: ys => do if ← x.coincide y then beforeEach xs ys else before x y

end

/-- Whether one value comes before another as a value, for arrays cell by cell. -/
def precedence (a b : Value) : Except Fault Value := do
  match a with
  | .perm p => return .bool (← before (.perm p) b)
  | a =>
    if a.isArray || b.isArray then return .array 0 (← smallerCells a b)
    else return .bool (← before a b)

/-- The largest of some values, the first of them if there are several. -/
def largest (x : Value) (xs : List Value) : Except Fault Value :=
  xs.foldlM (fun m y => do return if ← before m y then y else m) x

/-- Where a value belongs in a sorted array, behind what does not come after it: between the
places `lo` and `hi`. -/
def place (x : Value) (sorted : Array Value) : (fuel lo hi : Nat) → Except Fault Nat
  | 0, lo, _ => .ok lo
  | fuel + 1, lo, hi =>
    if lo < hi then do
      let mid := (lo + hi) / 2
      if ← before x (sorted.getD mid .none) then place x sorted fuel lo mid
      else place x sorted fuel (mid + 1) hi
    else .ok lo

/-- Puts the values of a list into a sorted array one by one. -/
def insertEach : List Value → Array Value → Except Fault (Array Value)
  | [], sorted => .ok sorted
  | x :: xs, sorted => do
    let i ← place x sorted (sorted.size + 1) 0 sorted.size
    insertEach xs (sorted.insertIdxIfInBounds i x)

/-- How many values at the front of a list follow each other as told, the first coming after
`x`. -/
def run (descending : Bool) (x : Value) : List Value → Except Fault Nat
  | [] => .ok 0
  | y :: ys => do
    if (← before y x) == descending then return (← run descending y ys) + 1 else return 0

/-- The values of a list in increasing order. What is sorted at the front, one way or the other,
is left together; the rest is put in one by one. -/
def sort : List Value → Except Fault (List Value)
  | [] => .ok []
  | [x] => .ok [x]
  | x :: y :: rest => do
    let descending ← before y x
    let n := (← run descending y rest) + 2
    let all := x :: y :: rest
    let front := if descending then (all.take n).reverse else all.take n
    return (← insertEach (all.drop n) front.toArray).toList

end FiniteGroups.Value
