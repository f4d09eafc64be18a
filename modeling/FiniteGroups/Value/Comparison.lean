import FiniteGroups.Roster
import FiniteGroups.Value.Array

/-!
# Equality as a question

Whether two values are equal is a question that may have no answer. It is not quite whether they
are the same: a result that is no number is not equal to anything, not even to itself; an array is
compared cell by cell, and only an array of a single cell says yes or no; and the members of a
coset may be impossible to compute. A map is equal to the maps that send everything to where it
sends it now, whatever it was when it was first looked for.

* `Value.equal` : whether two values are equal. For simple values it is sameness
  (`equal_of_isSimple`);
* `Value.coincide` : whether two entries of a collection are one or equal;
* `Value.equality`, `Value.difference` : the answer as a value, for an array one for each cell.
-/

namespace FiniteGroups.Value

/-! ## Simple values -/

mutual

/-- Whether a value is equal to what it is the same as and to nothing else. -/
def isSimple : Value → Bool
  | .nan .. | .array .. | .group .. | .map .. | .unseen .. => false
  | .tuple xs | .verdict xs | .list _ xs | .mapping _ xs | .op _ xs | .lookup _ xs => areSimple xs
  | .coset _ _ _ _ _ _ state =>
    match state with
    | .faulty _ => false
    | _ => true
  | _ => true

/-- Whether all values of a list are simple. -/
def areSimple : List Value → Bool
  | [] => true
  | x :: xs => isSimple x && areSimple xs

end

/-! ## Comparison -/

/-- Whether two values are one thing. -/
def identical (a b : Value) : Bool :=
  match a with
  | .nan .. => a == b
  | a => a.placeOf != 0 && (a.placeOf == b.placeOf && a.head == b.head)

/-- Whether two sets have the same members. -/
def sameMembers (xs ys : List Value) : Bool :=
  sameEach xs ys || (Roster.ofList xs).sameSet (Roster.ofList ys)

/-- The key of a pair. -/
def keyOf : Value → Value
  | .tuple [k, _] => k
  | v => v

/-- The entry of a mapping for a key. -/
def lookup? (entries : List Value) (k : Value) : Option Value :=
  match entries.find? fun e => keyOf e == k with
  | some (.tuple [_, v]) => some v
  | _ => Option.none

/-- The members of a coset, which may have none that can be computed. -/
def cosetMembers (members : List Value) : Coset.State → Except Fault (List Value)
  | .faulty e => .error e
  | _ => .ok members

/-- Compares a value with one of another kind, to which only an array could be equal. -/
def equalAlien (a b : Value) : Except Fault Bool :=
  match b with
  | .array .. => do (← equalCells a b).truth
  | _ => .ok false

mutual

/-- Whether two values are equal, found out part by part. Of a left and a right coset the members
of the right one are asked for first. -/
def compare : Value → Value → Except Fault Bool
  | .array p g, b => do (← equalCells (.array p g) b).truth
  | .nan p trail, b => equalAlien (.nan p trail) b
  | .tuple xs, b =>
    match b with
    | .tuple ys | .verdict ys => compareEach xs ys
    | b => equalAlien (.tuple xs) b
  | .verdict xs, b =>
    match b with
    | .tuple ys | .verdict ys => compareEach xs ys
    | b => equalAlien (.verdict xs) b
  | .list p xs, b =>
    match b with
    | .list _ ys => if xs.length = ys.length then compareEach xs ys else .ok false
    | b => equalAlien (.list p xs) b
  | .mapping p xs, b =>
    match b with
    | .mapping _ ys => if xs.length = ys.length then comparePairs xs ys else .ok false
    | b => equalAlien (.mapping p xs) b
  | .op r xs, b =>
    match b with
    | .op r' ys => if r = r' then compareEach xs ys else .ok false
    | b => equalAlien (.op r xs) b
  | .group origin p listing xs law e inv gens name links table positions inverses, b =>
    match b with
    | .group _ _ listing' ys law' _ _ _ _ _ _ _ _ =>
      if listing.listed.length = listing'.listed.length && sameMembers xs ys then compare law law'
      else .ok false
    | b =>
      equalAlien (.group origin p listing xs law e inv gens name links table positions inverses) b
  | .coset side p parent subgroup rep xs state, b =>
    match b with
    | .coset side' _ _ _ _ ys state' => do
      if side = .left ∧ side' = .right then
        let _ ← cosetMembers ys state'
      return sameMembers (← cosetMembers xs state) (← cosetMembers ys state')
    | b => equalAlien (.coset side p parent subgroup rep xs state) b
  | .map src tgt send trace, b =>
    match b with
    | .map src' tgt' send' _ => do
      if ← compare src src' then
        if ← compare tgt tgt' then compare send send' else return false
      else return false
    | b => equalAlien (.map src tgt send trace) b
  | a, b => do
    let alien ← equalAlien a b
    return alien || a == b

/-- Whether two sequences are equal: entries that are one thing are not compared. -/
def compareEach : List Value → List Value → Except Fault Bool
  | [], ys => .ok ys.isEmpty
  | x :: xs, ys =>
    match ys with
    | [] => .ok false
    | y :: ys => do
      let agree ← if identical x y then pure true else compare x y
      if agree then compareEach xs ys else return false

/-- Whether the pairs of a mapping are equal to those of another one. -/
def comparePairs : List Value → List Value → Except Fault Bool
  | [], _ => .ok true
  | .tuple [k, v] :: xs, ys =>
    match lookup? ys k with
    | some w => do
      let agree ← if identical v w then pure true else compare v w
      if agree then comparePairs xs ys else return false
    | Option.none => .ok false
  | x :: xs, ys => if ys.contains x then comparePairs xs ys else .ok false

end

/-- Whether two values are equal. -/
def equal (a b : Value) : Except Fault Bool :=
  if a.isSimple && b.isSimple then .ok (a == b) else compare a b

/-- Simple values are equal when they are the same. -/
theorem equal_of_isSimple {a b : Value} (ha : a.isSimple = true) (hb : b.isSimple = true) :
    a.equal b = .ok (a == b) := by
  simp [equal, ha, hb]

/-- Whether two entries of collections are one thing or equal. -/
def coincide (a b : Value) : Except Fault Bool :=
  if identical a b then .ok true else a.equal b

/-- Whether a value coincides with an entry of a list. -/
def occurs (xs : List Value) (v : Value) : Except Fault Bool := xs.anyM fun x => x.coincide v

/-! ## The answer as a value -/

/-- Whether two values are equal, for arrays cell by cell. -/
def equality (a b : Value) : Except Fault Value := do
  if a.isArray || b.isArray then return .array 0 (← equalCells a b)
  else return .bool (← a.equal b)

/-- Whether two values are not equal, for arrays cell by cell. -/
def difference (a b : Value) : Except Fault Value := do
  match ← equality a b with
  | .array _ g => return .array 0 (← g.map .truth fun
    | .truth b => .ok (.truth !b)
    | c => .ok c)
  | answer => return .bool (answer == .bool false)

end FiniteGroups.Value
