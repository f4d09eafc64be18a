import FiniteGroups.Decimal.Shortest

/-!
# Nearest binary numbers

A decimal is read as the binary number that is nearest to it; of two that are equally near, the
one with the even mantissa is taken. A decimal beyond all binary numbers is read as infinite.
The computation is exact: quotients are rounded once, at the end.

* `Extended.nearest` : the number that a decimal is read as;
* `Extended.text` : the text of a number, which reads back as it.
-/

namespace FiniteGroups.Decimal

/-- A floating-point number: finite, or beyond all finite ones. -/
inductive Extended where
  | finite (b : Binary)
  | infinite (negative : Bool)
deriving DecidableEq, Repr

/-- `n / m` rounded to the nearest integer, and to the even one of two. -/
def roundQuotient (n m : Nat) : Nat :=
  let q := n / m
  match compare (2 * (n % m)) m with
  | .lt => q
  | .gt => q + 1
  | .eq => q + q % 2

namespace Extended

/-- A mantissa of up to 53 bits, or its successor, with an exponent: the number, if the exponent
is small enough. -/
def pack (negative : Bool) (mantissa : Nat) (exponent : Int) : Extended :=
  let (mantissa, exponent) :=
    if mantissa = twos 53 then (twos 52, exponent + 1) else (mantissa, exponent)
  if 971 < exponent then .infinite negative else .finite ⟨negative, mantissa, exponent⟩

/-- The number that is nearest to `d · 10 ^ k`. Decimals that are far below or beyond all numbers
are not computed. -/
def nearest (negative : Bool) (d : Nat) (k : Int) : Extended :=
  let decade : Int := (Nat.repr d).length + k
  if d = 0 ∨ decade < -330 then .finite ⟨negative, 0, -1074⟩
  else if 310 < decade then .infinite negative
  else
    let n := d * tens k.toNat
    let m := tens (-k).toNat
    let scaled (e : Int) : Nat × Nat := (n * twos (-e).toNat, m * twos e.toNat)
    let e : Int := max (-1074) ((n.log2 : Int) - m.log2 - 53)
    let e := if twos 53 ≤ (scaled e).1 / (scaled e).2 then e + 1 else e
    pack negative (roundQuotient (scaled e).1 (scaled e).2) e

/-- The number with the other sign. -/
def negate : Extended → Extended
  | .finite b => .finite { b with negative := !b.negative }
  | .infinite negative => .infinite !negative

/-- Whether the number is nothing. -/
def isZero : Extended → Bool
  | .finite b => b.mantissa == 0
  | .infinite _ => false

/-- Whether the number has a minus sign, be it nothing. -/
def isNegative : Extended → Bool
  | .finite b => b.negative
  | .infinite negative => negative

/-- The text of a number. A `bare` one shows no fraction where there is none. -/
def text (bare : Bool) : Extended → String
  | .finite b => b.text bare
  | .infinite negative => if negative then "-inf" else "inf"

/-- The number in the 64 bits of a floating-point number. -/
def toFloat : Extended → Float
  | .finite b =>
    let sign := if b.negative then twos 63 else 0
    let field := if b.mantissa < twos 52 then 0 else (b.exponent + 1075).toNat
    Float.ofBits (UInt64.ofNat (sign + field * twos 52 + b.mantissa % twos 52))
  | .infinite negative =>
    Float.ofBits (UInt64.ofNat ((if negative then twos 63 else 0) + 2047 * twos 52))

end Extended

end FiniteGroups.Decimal
