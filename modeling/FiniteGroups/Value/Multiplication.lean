import FiniteGroups.Value.Map

/-!
# Rules of multiplication

What the rules of multiplication make of two operands, as far as no group is involved. The rules
take operands of all kinds; those that a rule cannot multiply are faults.
-/

namespace FiniteGroups.Multiplication

/-- The product of two quaternion units, as a sign and a unit. -/
def unitProduct : String → String → Option (Int × String)
  | "1", "1" => some (1, "1")
  | "1", "i" => some (1, "i")
  | "1", "j" => some (1, "j")
  | "1", "k" => some (1, "k")
  | "i", "1" => some (1, "i")
  | "j", "1" => some (1, "j")
  | "k", "1" => some (1, "k")
  | "i", "i" => some (-1, "1")
  | "j", "j" => some (-1, "1")
  | "k", "k" => some (-1, "1")
  | "i", "j" => some (1, "k")
  | "j", "k" => some (1, "i")
  | "k", "i" => some (1, "j")
  | "j", "i" => some (-1, "k")
  | "k", "j" => some (-1, "i")
  | "i", "k" => some (-1, "j")
  | _, _ => none

/-- The product of two symmetries of an `n`-gon: a rotation after a reflection turns the other
way round. -/
def applyDihedral (n a b : Value) : Except Fault Value := do
  let (r, f) ← a.pair
  let (r', f') ← b.pair
  let turn ← if ← f.equal (.int 0) then r.add r' else r.sub r'
  let turn ← turn.mod n
  let flip ← (← f.add f').mod (.int 2)
  return .tuple [turn, flip]

/-- The product of two signed quaternion units. -/
def applyQuaternion (a b : Value) : Except Fault Value := do
  let (s, u) ← a.pair
  let (s', u') ← b.pair
  let u ← u.keyed
  let u' ← u'.keyed
  match u, u' with
  | .text u, .text u' =>
    match unitProduct u u' with
    | some (sign, unit) => return .tuple [← (← s.times s').times (.int sign), .text unit]
    | none => throw .missingKey
  | _, _ => throw .missingKey

/-- The sums of corresponding entries modulo `p`, as far as the shorter operand goes. -/
def applyVector (p a b : Value) : Except Fault Value := do
  let entries ← ((← a.entries).zip (← b.entries)).mapM fun (x, y) => do (← x.add y).mod p
  return .tuple entries

/-- The third entry of the first row that begins with the operands. -/
def applyRows (a b : Value) : List Value → Except Fault Value
  | [] => .error .missingKey
  | row :: rest => do
    match ← row.entries with
    | [x, y, z] =>
      let found ← if ← x.equal a then y.equal b else pure false
      if found then return z else applyRows a b rest
    | _ => throw .badValue

/-- A part of the data of an operation. -/
def datum (data : List Value) (i : Nat) : Except Fault Value :=
  match data[i]? with
  | some v => .ok v
  | none => .error .outOfBounds

/-- The product of two values by a rule that involves no group. -/
def apply (rule : Multiplication) (data : List Value) (a b : Value) : Except Fault Value :=
  match rule with
  | addMod => do (← a.add b).mod (← datum data 0)
  | dihedral => do applyDihedral (← datum data 0) a b
  | compose => a.times b
  | quaternion => applyQuaternion a b
  | vectorAdd => do applyVector (← datum data 0) a b
  | mulMod => do (← a.times b).mod (← datum data 0)
  | subMod => do (← a.sub b).mod (← datum data 0)
  | add => a.add b
  | left => .ok a
  | max => a.largest [b]
  | rows => do applyRows a b (← (← datum data 0).entries)
  | product | cosets | abstract => .error .unimplemented

end FiniteGroups.Multiplication
