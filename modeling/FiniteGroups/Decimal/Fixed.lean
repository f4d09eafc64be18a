import FiniteGroups.Decimal.Real

/-!
# Digits of a given number

A number written with a given number of digits behind the point, or in all, is rounded once, to
the nearest such decimal and of two to the even one.

* `Decimal.fixed` : so many digits behind the point;
* `Decimal.floating` : one digit before the point, so many behind it, and an exponent;
* `Decimal.general` : so many digits in all, in whichever of the two ways is shorter.
-/

namespace FiniteGroups.Decimal

/-- The nearest integer to `x · 10 ^ k`, for the size `x` of a number. -/
def scaled (b : Binary) (k : Int) : Nat :=
  roundQuotient (b.mantissa * twos b.exponent.toNat * tens k.toNat)
    (twos (-b.exponent).toNat * tens (-k).toNat)

/-- Digits with zeros in front. -/
def padded (width n : Nat) : String :=
  let digits := Nat.repr n
  String.ofList (List.replicate (width - digits.length) '0') ++ digits

/-- Digits with a point before the last ones. Without digits behind it the point is left out,
unless it is asked for. -/
def pointBefore (point : Bool) (places n : Nat) : String :=
  let whole := Nat.repr (n / tens places)
  if places = 0 then if point then whole ++ "." else whole
  else whole ++ "." ++ padded places (n % tens places)

/-- A number with digits behind the point. -/
def fixed (point : Bool) (places : Nat) (b : Binary) : String :=
  pointBefore point places (scaled b places)

/-- The exponent of a number, and the integer of `places + 1` digits that is nearest to it when
the exponent is taken away. -/
def normalized (places : Nat) (b : Binary) : Int × Nat :=
  if b.mantissa = 0 then (0, 0)
  else
    let e := b.decade 640 309
    let n := scaled b (places - e)
    if n = tens (places + 1) then (e + 1, n / 10) else (e, n)

/-- The text of an exponent. -/
def exponentText (e : Int) : String :=
  (if e < 0 then "e-" else "e+") ++ padded 2 e.natAbs

/-- A number with an exponent. -/
def floating (point : Bool) (places : Nat) (b : Binary) : String :=
  let (e, n) := normalized places b
  pointBefore point places n ++ exponentText e

/-- A text without the zeros at its end that stand behind a point. -/
def withoutZeros (s : String) : String :=
  if s.contains '.' then
    let cs := s.toList.reverse.dropWhile (· == '0')
    let cs := match cs with
      | '.' :: cs => cs
      | cs => cs
    String.ofList cs.reverse
  else s

/-- A number with so many digits in all. Zeros at the end are left out, unless the point is asked
for. -/
def general (point : Bool) (digits : Nat) (b : Binary) : String :=
  let digits := max 1 digits
  let (e, n) := normalized (digits - 1) b
  let short (s : String) : String := if point then s else withoutZeros s
  if -4 ≤ e ∧ e < digits then short (fixed point ((digits : Int) - 1 - e).toNat b)
  else short (pointBefore point (digits - 1) n) ++ exponentText e

end FiniteGroups.Decimal
