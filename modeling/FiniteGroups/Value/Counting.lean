import FiniteGroups.Combinations
import FiniteGroups.Value.Arithmetic

/-!
# Counting with values

The number theory that counting in groups needs, and choices from a collection, for numbers of
all kinds.

* `Value.gcd`, `Value.lcm` : by repeated remainders, which take the sign of the divisor;
* `Value.factorial`, `Value.divisors` : of integers;
* `Value.choose` : the ways to choose some entries of a collection, or some of the numbers below
  an integer.
-/

namespace FiniteGroups.Value

/-! ## Numbers -/

/-- Replaces two numbers by the second one and a remainder until that counts as nothing. -/
def gcdWithin : (bound : Nat) → Value → Value → Except Fault Value
  | 0, _, _ => .error .exhausted
  | bound + 1, a, b => do if ← b.truthy then gcdWithin bound b (← a.mod b) else return a

/-- A bound on the remainders that are taken of floating-point numbers. -/
def maxRemainders : Nat := 10000

/-- The greatest common divisor by repeated remainders. -/
def gcd (a b : Value) : Except Fault Value :=
  match a, b with
  | .int m, .int n => .ok (.int (FiniteGroups.gcd m n))
  | a, b => gcdWithin maxRemainders a b

/-- The product over the greatest common divisor, rounded down. -/
def lcm (a b : Value) : Except Fault Value := do
  let product ← a.multiply b
  product.quotient (← gcd a b)

/-- The product of the numbers `1, …, n`. -/
def factorial (n : Value) : Except Fault Value := do
  return .int (FiniteGroups.factorial (← n.index).toNat)

/-- The divisors of an integer in increasing order. -/
def divisors (n : Value) : Except Fault Value := do
  match n with
  | .int m => return .list 0 ((FiniteGroups.divisors m).map ofNat)
  | .word m =>
    let found := (FiniteGroups.divisors m).map ofNat
    return .list 0 (if 1 < m then found.dropLast ++ [n] else found)
  | n =>
    let _ ← n.index
    return .list 0 [.int 1]

/-! ## Choices -/

/-- Whether the entries from a place onwards can be taken as a collection of their own. -/
def hasRest : Value → Bool
  | .text _ | .tuple _ | .verdict _ | .list .. | .array .. | .group .. | .action .. => true
  | _ => false

/-- The ways to choose `n` entries, each as a tuple. More than one entry can only be chosen from a
collection that leaves a rest, and a fraction of an entry not at all. -/
def choose (items n : Value) : Except Fault Value := do
  let (size, xs) ← match items with
    | .int m => pure (m.toNat, (Except.ok ((List.range m.toNat).map ofNat) : Except Fault _))
    | items => pure (← items.length, items.entries)
  let listing (choices : List (List Value)) : Value := .list 0 (choices.map .tuple)
  if ← (ofNat size).before n then return listing []
  else if ← n.equal (.int 0) then return listing [[]]
  else if ← n.equal (.int 1) then return listing ((← xs).map fun x => [x])
  else
    let xs ← xs
    if items matches .int _ || hasRest items || xs.isEmpty then
      match realOrInt? n with
      | some n => return listing (FiniteGroups.choose xs n)
      | Option.none => return listing []
    else throw .wrongKind
where
  /-- The integer that a number is. -/
  realOrInt? (n : Value) : Option Int :=
    match n.head with
    | .number (.whole n) => some n
    | _ => Option.none

end FiniteGroups.Value
