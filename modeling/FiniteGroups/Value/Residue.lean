import FiniteGroups.Decimal.Real
import FiniteGroups.Value.Text

/-!
# Residues

A number leaves a residue modulo the prime `2 ^ 61 - 1`, an integer or a fraction alike, and what
is made of numbers leaves the residues of its parts. Values that are the same leave the same
residue, and so do some that are not: a permutation and the tuple of its images, a group and any
other set of its elements, the numbers `-1` and `-2`, and nothing written down and zero.

* `Value.trace` : the residues that a value leaves;
* `Value.sameTrace` : whether two keys leave the same residues.
-/

namespace FiniteGroups.Value

/-- The modulus of residues. -/
def modulus : Nat := 0x1fffffffffffffff

/-- The residue of a number of the given size. No residue is `-1`. -/
def residueOf (negative : Bool) (n : Nat) : Int :=
  let r : Int := (n % modulus : Nat)
  let r := if negative then -r else r
  if r = -1 then -2 else r

/-- The residue of an integer. -/
def residue (n : Int) : Int := residueOf (n < 0) n.natAbs

/-- The residue of a floating-point number. A power of two depends on the exponent modulo `61`. -/
def realResidue (x : Float) : Int :=
  match Decimal.Binary.decode x with
  | some b => residueOf b.negative (b.mantissa * Decimal.twos (b.exponent.emod 61).toNat)
  | Option.none => if x < 0 then -314159 else 314159

/-- The residues of parts that have no order. -/
def bag (traces : List Value) : Value := .tuple [ofNat traces.length, .set true traces]

mutual

/-- The residues that a value leaves. -/
def trace : Value → Value
  | .int n => .int (residue n)
  | .bool b => .int (ofBool b)
  | .real x => .int (realResidue x)
  | .word n => .int (residue n)
  | .text s => if s.isEmpty then .int 0 else .text s
  | .perm p => .tuple (p.images.toList.map ofNat)
  | .tuple xs => .tuple (traceEach xs)
  | .set _ xs | .cls _ _ xs | .coset _ _ _ _ _ xs _ | .group _ _ _ xs _ _ _ _ _ _ _ _ _ =>
    bag (traceEach xs)
  | .map _ _ _ (.mapping _ xs) => bag (traceEach xs)
  | .op r xs => .tuple [.text r.name, .tuple (traceEach xs)]
  | .lookup _ xs => .tuple [.text "Table", .tuple (traceEach xs)]
  | v => v

/-- The residues that the values of a list leave. -/
def traceEach : List Value → List Value
  | [] => []
  | x :: xs => trace x :: traceEach xs

end

/-- Whether two keys leave the same residues. -/
def sameTrace (a b : Value) : Except Fault Bool := do
  let a ← a.keyed
  let b ← b.keyed
  return a == b || a.trace == b.trace

end FiniteGroups.Value
