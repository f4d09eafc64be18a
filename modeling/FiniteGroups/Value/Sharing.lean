import FiniteGroups.Value.Call

/-!
# Places of values

What can be changed has a place, and all that has one place is one thing.

* `Value.stamp` : gives places to what is fresh;
* `Value.withItem` : a list, a mapping or an array with another entry, in the same place;
* `Value.alter` : a value in which whatever may have a place is altered;
* `Value.refilled`, `Value.regathered` : what becomes of things when a collection is changed.
-/

namespace FiniteGroups.Value

/-! ## New places -/

/-- Takes the next place that is free. -/
def newPlace : StateM Nat Nat := modifyGet fun n => (n, n + 1)

/-- The place given, or the next one that is free if none is given. -/
def givenPlace (p : Nat) : StateM Nat Nat := if p = 0 then newPlace else return p

mutual

/-- Gives places to what is fresh in a value. What has a place already stays as it is. Fresh
results that are no numbers all get the place `common`, since they are told apart by their trails.
The elements of a fresh group are those of its list. -/
def stamp (common : Nat) : Value → StateM Nat Value
  | .nan p trail => return .nan (if p = 0 then common else p) trail
  | .tuple xs => return .tuple (← stampEach common xs)
  | .verdict xs => return .verdict (← stampEach common xs)
  | .op r xs => return .op r (← stampEach common xs)
  | .lookup grid xs => return .lookup (← stamp common grid) xs
  | .set frozen xs => return .set frozen (← stampEach common xs)
  | .list p xs => do
    if p = 0 then return .list (← newPlace) (← stampEach common xs) else return .list p xs
  | .mapping p xs => do
    if p = 0 then return .mapping (← newPlace) (← stampEach common xs) else return .mapping p xs
  | .array p g => return .array (← givenPlace p) g
  | .rule p r xs => do
    if p = 0 then return .rule (← newPlace) r (← stampEach common xs) else return .rule p r xs
  | .family p k xs => do
    if p = 0 then return .family (← newPlace) k (← stampEach common xs) else return .family p k xs
  | .group origin p listing xs law e inv gens name links table positions kept => do
    if p = 0 then
      let place ← newPlace
      let listing ← stamp common listing
      let els := listing.listed
      let xs ← if els.length = xs.length then pure els else stampEach common xs
      return .group origin place listing xs (← stamp common law) (← stamp common e)
        (← stamp common inv) (← stamp common gens) (← stamp common name) (← stampEach common links)
        (← stamp common table) (← stamp common positions) (← stamp common kept)
    else return .group origin p listing xs law e inv gens name links table positions kept
  | .coset side p parent subgroup rep xs state => do
    if p = 0 then
      return .coset side (← newPlace) (← stamp common parent) (← stamp common subgroup)
        (← stamp common rep) (← stampEach common xs) state
    else return .coset side p parent subgroup rep xs state
  | .cls parent rep xs =>
    return .cls (← stamp common parent) (← stamp common rep) (← stampEach common xs)
  | .map src tgt send trace =>
    return .map (← stamp common src) (← stamp common tgt) (← stamp common send)
      (← stamp common trace)
  | .action p G items xs act => do
    if p = 0 then
      return .action (← newPlace) (← stamp common G) (← stamp common items) xs
        (← stamp common act)
    else return .action p G items xs act
  | .method p owner name => return .method p (← stamp common owner) name
  | v => return v

/-- Gives places to what is fresh in the values of a list. -/
def stampEach (common : Nat) : List Value → StateM Nat (List Value)
  | [] => return []
  | x :: xs => return (← stamp common x) :: (← stampEach common xs)

end

/-- Gives places to what is fresh in some values. -/
def settleEach (xs : List Value) : StateM Nat (List Value) := do stampEach (← newPlace) xs

/-! ## Changes -/

/-- The pairs of a mapping with a value for a key, behind them if it is a new one. -/
def withPair (k v : Value) : List Value → List Value
  | [] => [.tuple [k, v]]
  | p :: ps => if keyOf p == k then .tuple [keyOf p, v] :: ps else p :: withPair k v ps

/-- Whether a value is a position that no sequence has. -/
def isFarOff : Value → Bool
  | .int n => n < -0x8000000000000000 || 0x8000000000000000 ≤ n
  | _ => false

/-- A collection with another entry at a position or for a key, in the same place. What cannot be
changed is of the wrong kind, but a position far off is out of bounds first. -/
def withItem (a k v : Value) : Except Fault Value := do
  match a with
  | .list place xs =>
    match Position.resolve xs.length (← k.index) with
    | some i => return .list place (xs.set i v)
    | Option.none => throw .outOfBounds
  | .mapping place xs => return .mapping place (withPair (← k.keyed) v xs)
  | .array place g => return .array place (← putAt g k v)
  | .int _ | .bool _ | .real _ | .nan .. | .word _ | .none | .rule .. | .kind _ | .method .. =>
    throw .wrongKind
  | _ => throw (if isFarOff k then .outOfBounds else .wrongKind)

mutual

/-- A value in which everything that may have a place is altered, the parts of a thing before the
thing itself. -/
def alter (f : Value → Value) : Value → Value
  | .tuple xs => .tuple (alterEach f xs)
  | .verdict xs => .verdict (alterEach f xs)
  | .op r xs => .op r (alterEach f xs)
  | .set frozen xs => .set frozen (alterEach f xs)
  | .lookup grid xs => .lookup (alter f grid) xs
  | .list p xs => f (.list p (alterEach f xs))
  | .mapping p xs => f (.mapping p (alterEach f xs))
  | .array p g => f (.array p g)
  | .rule p r xs => f (.rule p r (alterEach f xs))
  | .family p k xs => f (.family p k (alterEach f xs))
  | .group origin p listing xs law e inv gens name links table positions inverses =>
    f (.group origin p (alter f listing) (alterEach f xs) (alter f law) (alter f e) (alter f inv)
      (alter f gens) (alter f name) (alterEach f links) (alter f table) (alter f positions)
      (alter f inverses))
  | .coset side p parent subgroup rep xs state =>
    f (.coset side p (alter f parent) (alter f subgroup) (alter f rep) (alterEach f xs) state)
  | .cls parent rep xs => .cls (alter f parent) (alter f rep) (alterEach f xs)
  | .map src tgt send trace => f (.map (alter f src) (alter f tgt) (alter f send) trace)
  | .action p G items xs act =>
    f (.action p (alter f G) (alter f items) (alterEach f xs) (alter f act))
  | .method p owner name => .method p (alter f owner) name
  | v => v

/-- The values of a list, in which everything that may have a place is altered. -/
def alterEach (f : Value → Value) : List Value → List Value
  | [] => []
  | x :: xs => alter f x :: alterEach f xs

end

/-- A collection with the contents of another one, if they are one collection. Of arrays only the
memory is shared. -/
def refilled (v new : Value) : Value :=
  match v, new with
  | .list p xs, .list q ys => .list p (if p = q then ys else xs)
  | .mapping p xs, .mapping q ys => .mapping p (if p = q then ys else xs)
  | .array p g, .array q h => .array p (if p = q then { g with memory := h.memory } else g)
  | v, _ => v

/-- A coset nobody has asked the members of, with the members that follow from its parts now. -/
def regathered : Value → Value
  | .coset side p parent subgroup rep xs state =>
    match state with
    | .settled => .coset side p parent subgroup rep xs .settled
    | _ => looseCoset side p parent.meaning parent subgroup rep
  | v => v

end FiniteGroups.Value
