/-!
# Shortest decimals

A finite binary number is `± mantissa · 2 ^ exponent`. All reals that are nearer to it than to
its neighbours read back as it, so among the decimals in that interval the one with the fewest
digits is written, the nearest of them if there are several.

* `Binary.decode` : the parts of a floating-point number, `none` if it is infinite or no number;
* `Binary.shortest` : the digits and the power of ten of the decimal that is written;
* `Binary.whole?`, `Binary.truncate` : the number as an integer.
-/

namespace FiniteGroups.Decimal

/-- The `n`-th power of two. -/
def twos (n : Nat) : Nat := Nat.pow 2 n

/-- The `n`-th power of ten. -/
def tens (n : Nat) : Nat := Nat.pow 10 n

/-- A finite binary number, `± mantissa · 2 ^ exponent`. -/
structure Binary where
  negative : Bool
  mantissa : Nat
  exponent : Int
deriving DecidableEq, Repr

namespace Binary

/-- The parts of a floating-point number, read from its 64 bits. -/
def decode (x : Float) : Option Binary :=
  let bits : Nat := x.toBits.toNat
  let negative := decide (twos 63 ≤ bits)
  let field : Nat := bits / twos 52 % twos 11
  let fraction := bits % twos 52
  if field = 2047 then none
  else if field = 0 then some ⟨negative, fraction, -1074⟩
  else some ⟨negative, twos 52 + fraction, Int.ofNat field - 1075⟩

/-- The absolute value rounded down. -/
def floor (b : Binary) : Nat :=
  if 0 ≤ b.exponent then b.mantissa * twos b.exponent.toNat
  else b.mantissa / twos b.exponent.natAbs

/-- The integer left when the fraction is dropped. -/
def truncate (b : Binary) : Int := if b.negative then -(b.floor : Int) else b.floor

/-- Whether there is no fraction. -/
def isWhole (b : Binary) : Bool :=
  0 ≤ b.exponent || b.mantissa % twos b.exponent.natAbs == 0

/-- The value as an integer, if it is one. -/
def whole? (b : Binary) : Option Int := if b.isWhole then some b.truncate else none

/-- Compares `d · 10 ^ k` with `n · 2 ^ q`. -/
def compareScaled (d : Nat) (k : Int) (n : Nat) (q : Int) : Ordering :=
  compare (d * tens k.toNat * twos (-q).toNat) (n * twos q.toNat * tens (-k).toNat)

/-- Whether `d · 10 ^ k` reads back as the number. The ends of the interval are half way to the
neighbours and belong to it when the mantissa is even; below a power of two the neighbour is
only half as far away. -/
def readsBack (b : Binary) (d : Nat) (k : Int) : Bool :=
  let low := if b.mantissa = twos 52 ∧ -1074 < b.exponent then 4 * b.mantissa - 1
    else 4 * b.mantissa - 2
  let high := 4 * b.mantissa + 2
  let below := compareScaled d k low (b.exponent - 2)
  let above := compareScaled d k high (b.exponent - 2)
  if b.mantissa % 2 = 0 then below != .lt && above != .gt else below == .gt && above == .lt

/-- The number divided by `10 ^ k` and rounded down. -/
def floorScaled (b : Binary) (k : Int) : Nat :=
  (b.mantissa * twos b.exponent.toNat * tens (-k).toNat) /
    (twos (-b.exponent).toNat * tens k.toNat)

/-- Whether the upper one of the neighbours `d` and `d + 1` on the grid of step `10 ^ k` is to be
taken: the nearer one, and the even one if both are equally near. -/
def roundsUp (b : Binary) (d : Nat) (k : Int) : Bool :=
  match compareScaled (2 * d + 1) k (2 * b.mantissa) b.exponent with
  | .lt => true
  | .gt => false
  | .eq => d % 2 == 1

/-- The decimal on the grid of step `10 ^ k` that reads back, if one of the two neighbours of the
number does. -/
def onGrid (b : Binary) (k : Int) : Option Nat :=
  let d := b.floorScaled k
  match b.readsBack d k, b.readsBack (d + 1) k with
  | true, true => some (if b.roundsUp d k then d + 1 else d)
  | true, false => some d
  | false, true => some (d + 1)
  | false, false => none

/-- The largest power of ten that is not above the number, searched downwards. -/
def decade (b : Binary) : (fuel : Nat) → (k : Int) → Int
  | 0, k => k
  | fuel + 1, k =>
    if compareScaled 1 k b.mantissa b.exponent == .gt then decade b fuel (k - 1) else k

/-- The coarsest grid, from `10 ^ k` downwards, on which a decimal reads back. -/
def firstGrid (b : Binary) : (fuel : Nat) → (k : Int) → Nat × Int
  | 0, k => (b.floorScaled k, k)
  | fuel + 1, k =>
    match b.onGrid k with
    | some d => (d, k)
    | none => firstGrid b fuel (k - 1)

/-- The digits and the power of ten of the shortest decimal that reads back. -/
def shortest (b : Binary) : Nat × Int :=
  if b.mantissa = 0 then (0, 0) else b.firstGrid 17 (b.decade 640 309)

end Binary

/-- The digits of `n` without the zeros at the end. -/
def trimZeros (digits : List Char) : List Char :=
  (digits.reverse.dropWhile (· = '0')).reverse

/-- Digits with a point behind the first `k` of them. For a missing fraction stands `.0`, or
nothing at all if the number is to be `bare`. -/
def pointed (bare : Bool) (digits : List Char) (k : Int) : String :=
  let ds := if k ≤ 0 then List.replicate (1 - k).toNat '0' ++ digits
    else digits ++ List.replicate (k.toNat - digits.length) '0'
  let k := if k ≤ 0 then 1 else k.toNat
  let fraction := match ds.drop k with
    | [] => if bare then [] else ['.', '0']
    | fraction => '.' :: fraction
  String.ofList (ds.take k ++ fraction)

/-- Digits with a point behind the first one and the power of ten at the end. -/
def scientific (digits : List Char) (e : Int) : String :=
  let point := if digits.length ≤ 1 then digits else digits.take 1 ++ '.' :: digits.drop 1
  let power := (Nat.repr e.natAbs).toList
  let power := if power.length < 2 then '0' :: power else power
  String.ofList (point ++ 'e' :: (if e < 0 then '-' else '+') :: power)

/-- The text of a finite number: its shortest decimal, positional from `10 ^ (-4)` up to
`10 ^ 16`. -/
def Binary.text (bare : Bool) (b : Binary) : String :=
  let (d, k) := b.shortest
  let all := (Nat.repr d).toList
  let e := (all.length : Int) - 1 + k
  let digits := if d = 0 then ['0'] else trimZeros all
  let body := if -4 ≤ e ∧ e < 16 then pointed bare digits (e + 1) else scientific digits e
  if b.negative then "-" ++ body else body

/-- The text of a floating-point number. -/
def text (x : Float) : String :=
  match Binary.decode x with
  | some b => b.text false
  | none => if x.isNaN then "nan" else if x < 0 then "-inf" else "inf"

end FiniteGroups.Decimal
