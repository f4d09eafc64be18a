import FiniteGroups.Decimal.Nearest
import FiniteGroups.Fault

/-!
# Floating-point arithmetic

What a machine does not say by itself about its floating-point numbers. Integers become the
nearest floating-point number, remainders are exact and take the sign of the divisor, quotients
are rounded down, and a floating-point number is compared with an integer by their exact values.

* `Real.ofInt` : an integer as a floating-point number, if it is not too large;
* `Real.remainder`, `Real.quotient` : division with a remainder that has the sign of the divisor;
* `Real.power` : powers, with the faults of a power of zero and of a result that is too large;
* `Real.compareInt`, `Real.truncate` : a floating-point number beside the integers.
-/

namespace FiniteGroups.Decimal

/-- `n · 2 ^ e` rounded to the nearest binary number. -/
def Extended.ofScaled (negative : Bool) (n : Nat) (e : Int) : Extended :=
  if n = 0 then .finite ⟨negative, 0, -1074⟩
  else
    let shift : Int := max ((n.log2 : Int) - 52) (-1074 - e)
    pack negative (roundQuotient (n * twos (-shift).toNat) (twos shift.toNat)) (e + shift)

/-- The sign of a binary number given to an absolute value. -/
def Binary.signed (b : Binary) (n : Nat) : Int := if b.negative then -(n : Int) else n

namespace Real

/-- Whether the sign bit is set, be the number nothing. -/
def isNegative (x : Float) : Bool := decide (twos 63 ≤ x.toBits.toNat)

/-- Nothing, with the sign of a number. -/
def zeroLike (x : Float) : Float := if isNegative x then -0.0 else 0.0

/-- The floating-point number nearest to an integer. -/
def ofInt (n : Int) : Except Fault Float :=
  match Extended.nearest (decide (n < 0)) n.natAbs 0 with
  | .finite b => .ok (Extended.finite b).toFloat
  | .infinite _ => .error .overflow

/-- The exact remainder of finite numbers, with the sign of the dividend. -/
def exactRemainder (a b : Binary) : Float :=
  let e := min a.exponent b.exponent
  let m := a.mantissa * twos (a.exponent - e).toNat
  let n := b.mantissa * twos (b.exponent - e).toNat
  (Extended.ofScaled a.negative (m % n) e).toFloat

/-- The remainder with the sign of the dividend. -/
def rest (x y : Float) : Float :=
  match Binary.decode x, Binary.decode y with
  | some a, some b => exactRemainder a b
  | some _, none => if y.isNaN then y else x
  | none, _ => 0.0 / 0.0

/-- The remainder with the sign of the divisor. -/
def remainder (x y : Float) : Except Fault Float :=
  if y == 0 then .error .divisionByZero
  else
    let r := rest x y
    .ok (if r == 0 then zeroLike y
      else if decide (y < 0) != decide (r < 0) then r + y else r)

/-- The quotient rounded down. -/
def quotient (x y : Float) : Except Fault Float :=
  if y == 0 then .error .divisionByZero
  else
    let r := rest x y
    let q := (x - r) / y
    let q := if r != 0 && decide (y < 0) != decide (r < 0) then q - 1 else q
    .ok (if q == 0 then zeroLike (x / y)
      else if q - q.floor > 0.5 then q.floor + 1 else q.floor)

/-- The power of a number; nothing if it is not real. -/
def power (x y : Float) : Except Fault (Option Float) :=
  if x == 0 && y < 0 then .error .divisionByZero
  else
    let real := !(x < 0 && y.isFinite && x.isFinite && y.floor != y)
    let z := Float.pow (if real then x else -x) y
    if z.isInf && x.isFinite && y.isFinite then .error .overflow
    else .ok (if real then some z else none)

/-- Compares a number with an integer; nothing if it is not a number. -/
def compareInt (x : Float) (n : Int) : Option Ordering :=
  match Binary.decode x with
  | some b =>
    let m := b.signed (b.mantissa * twos b.exponent.toNat)
    some (compare m (n * twos (-b.exponent).toNat))
  | none => if x.isNaN then none else some (if x < 0 then .lt else .gt)

/-- The integer left when the fraction is dropped. -/
def truncate (x : Float) : Except Fault Int :=
  match Binary.decode x with
  | some b => .ok b.truncate
  | none => if x.isNaN then .error .badValue else .error .overflow

end Real

end FiniteGroups.Decimal
