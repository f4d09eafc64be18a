import FiniteGroups.Fault

/-!
# Whole numbers

The little number theory that counting in groups needs: factorials, divisors, the greatest
common divisor by repeated remainders and the least common multiple. Remainders take the sign
of the divisor, so `gcd` may be negative when its arguments are.
-/

namespace FiniteGroups

/-- The product of the numbers `1, …, n`. -/
def factorial : Nat → Nat
  | 0 => 1
  | n + 1 => (n + 1) * factorial n

/-- The divisors of `n` in increasing order; for `n < 1` just `1`. -/
def divisors (n : Int) : List Nat :=
  1 :: (if 1 < n then (List.range' 2 (n.toNat - 2)).filter (n.toNat % · == 0) ++ [n.toNat] else [])

/-- The remainder that has the sign of the divisor. -/
def remainder (a n : Int) : Except Fault Int :=
  if n = 0 then .error .divisionByZero else .ok (a.fmod n)

/-- A remainder is smaller than the divisor, whatever their signs. -/
theorem natAbs_fmod_lt (a : Int) {b : Int} (h : b ≠ 0) : (a.fmod b).natAbs < b.natAbs := by
  rcases Int.lt_or_gt_of_ne h with h | h
  · have := Int.fmod_nonneg_of_pos (-a) (b := -b) (by omega)
    have := Int.fmod_lt_of_pos (-a) (b := -b) (by omega)
    have := Int.neg_fmod_neg a b
    omega
  · have := Int.fmod_nonneg_of_pos a h
    have := Int.fmod_lt_of_pos a h
    omega

/-- The greatest common divisor by repeated remainders. -/
def gcd (a b : Int) : Int :=
  if _h : b = 0 then a else gcd b (a.fmod b)
termination_by b.natAbs
decreasing_by exact natAbs_fmod_lt a ‹_›

/-- The product over the greatest common divisor, rounded down. -/
def lcm (a b : Int) : Except Fault Int :=
  if gcd a b = 0 then .error .divisionByZero else .ok ((a * b).fdiv (gcd a b))

end FiniteGroups
