import FiniteGroups.Assignment
import FiniteGroups.Value.Indexing

/-!
# Values as collections

A value with parts has a length, can be run through, looked into and indexed. What cannot is of
the wrong kind.

* `Value.length`, `Value.truthy` : how many parts there are, and whether a value counts as true;
* `Value.entries` : the parts in the order in which a run through the value meets them. A
  permutation is met as the values at the places `0, 1, …, n`, the first of which is the last
  image;
* `Value.contains`, `Value.item` : membership, and the part at a position or of a key;
* `Value.keyed` : a value that can be a key, a member of a set or an element of a group. What can
  change cannot be one, and neither can a value that holds such a thing. What a key is known by is
  settled from then on: the members of a coset and the images of a map.
-/

namespace FiniteGroups.Value

/-- The names of the kinds of families. -/
def kindNames : List (String × Kind) :=
  [("cyclic", .cyclic), ("dihedral", .dihedral), ("symmetric", .symmetric),
    ("alternating", .alternating), ("quaternion", .quaternion),
    ("elementary_abelian", .elementaryAbelian), ("direct_product", .directProduct)]

/-! ## Length -/

/-- The number of parts. -/
def length : Value → Except Fault Nat
  | .text s => .ok s.length
  | .tuple xs | .verdict xs | .list _ xs | .mapping _ xs | .set _ xs | .cls _ _ xs => .ok xs.length
  | .kinds => .ok kindNames.length
  | .array _ g =>
    match g.shape with
    | n :: _ => .ok n
    | [] => .error .wrongKind
  | .group _ _ listing _ _ _ _ _ _ _ _ _ _ => .ok listing.listed.length
  | .coset _ _ _ subgroup _ _ _ => length subgroup
  | .action _ _ items _ _ => .ok items.listed.length
  | _ => .error .wrongKind

/-- Whether a value counts as true: everything does but zero, nothing and what is empty. -/
def truthy : Value → Except Fault Bool
  | .int n => .ok (n != 0)
  | .bool b => .ok b
  | .none => .ok false
  | .real x => .ok (x != 0)
  | .word n => .ok (n != 0)
  | .array _ g => g.truth
  | .nan .. | .perm _ | .op .. | .lookup .. | .rule .. | .family .. | .kind _ | .map ..
  | .method .. => .ok true
  | v => do return (← v.length) != 0

/-! ## Keys -/

mutual

/-- A value as a key. -/
def keyed : Value → Except Fault Value
  | .list .. | .mapping .. | .array .. | .kinds | .verdict _ => .error .wrongKind
  | .set frozen xs => if frozen then .ok (.set true xs) else .error .wrongKind
  | .tuple xs => do return .tuple (← keyedEach xs)
  | .op r xs => do return .op r (← keyedEach xs)
  | .map src tgt (.mapping p xs) .none => do
    let ys ← keyedEach xs
    return .map src tgt (.mapping p ys) (.mapping 0 ys)
  | .map _ _ _ (.unseen part p) => .error (.unseen part p)
  | .coset side p parent subgroup rep xs state =>
    match state with
    | .faulty e => .error e
    | _ => .ok (.coset side p parent subgroup rep xs .settled)
  | v => .ok v

/-- The values of a list as keys. -/
def keyedEach : List Value → Except Fault (List Value)
  | [] => .ok []
  | x :: xs => do return (← keyed x) :: (← keyedEach xs)

end

/-- A value as it is looked for in a set. A set that can change is looked for like one that
cannot. -/
def sought : Value → Except Fault Value
  | .set _ xs => .ok (.set true xs)
  | v => v.keyed

/-- The distinct values of a list of keys. -/
def distinct (xs : List Value) : Except Fault (Roster Value) := do
  return Roster.ofList (← xs.mapM keyed)

/-! ## Parts -/

/-- The characters of a text. -/
def characters (s : String) : List Value := s.toList.map fun c => .text c.toString

/-- A natural number. -/
def ofNat (n : Nat) : Value := .int n

/-- The parts in the order in which a run through the value meets them. -/
def entries : Value → Except Fault (List Value)
  | .text s => .ok (characters s)
  | .tuple xs | .verdict xs | .list _ xs | .set _ xs | .cls _ _ xs => .ok xs
  | .mapping _ xs => .ok (xs.map keyOf)
  | .kinds => .ok (kindNames.map fun (name, _) => .text name)
  | .array p g =>
    match g.shape with
    | [] => .error .wrongKind
    | [_] => .ok (g.cells.map ofCell)
    | _ => .ok (g.parts.map (.array p))
  | .perm p => .ok ((p.images.back?.toList ++ p.images.toList).map ofNat)
  | .group _ _ listing _ _ _ _ _ _ _ _ _ _ => .ok listing.listed
  | .coset _ _ _ _ _ xs state => cosetMembers xs state
  | .action _ _ items _ _ => .ok items.listed
  | _ => .error .wrongKind

/-- Whether one list of characters occurs within another. -/
def occursIn (cs : List Char) : List Char → Bool
  | [] => cs.isEmpty
  | d :: ds => cs.isPrefixOf (d :: ds) || occursIn cs ds

/-- Whether a value is among the members of a set. -/
def memberOf (xs : List Value) (v : Value) : Except Fault Bool := do return xs.contains (← sought v)

/-- Whether a value is among the keys of a mapping. -/
def keyAmong (xs : List Value) (v : Value) : Except Fault Bool := do return xs.contains (← keyed v)

/-- Whether a value is a part of another. -/
def contains (a v : Value) : Except Fault Bool :=
  match a with
  | .text s =>
    match v with
    | .text t => .ok (occursIn t.toList s.toList)
    | _ => .error .wrongKind
  | .tuple xs | .verdict xs | .list _ xs => occurs xs v
  | .mapping _ xs => keyAmong (xs.map keyOf) v
  | .kinds => keyAmong (kindNames.map fun (name, _) => .text name) v
  | .set _ xs | .group _ _ _ xs _ _ _ _ _ _ _ _ _ | .cls _ _ xs | .action _ _ _ xs _ =>
    memberOf xs v
  | .coset _ _ _ _ _ xs state => do memberOf (← cosetMembers xs state) v
  | .array .. => do return (← equalCells a v).holdsSomewhere
  | .perm _ => do occurs (← a.entries) v
  | _ => .error .wrongKind

/-- An integer that counts places. -/
def index : Value → Except Fault Int
  | .int n | .word n => .ok n
  | .bool b => .ok (ofBool b)
  | _ => .error .wrongKind

/-- The part at a position, or of a key. -/
def item (a i : Value) : Except Fault Value :=
  match a with
  | .text s => do Position.entry (characters s) (← i.index)
  | .tuple xs | .verdict xs | .list _ xs => do Position.entry xs (← i.index)
  | .group _ _ listing _ _ _ _ _ _ _ _ _ _ => do Position.entry listing.listed (← i.index)
  | .action _ _ items _ _ => do Position.entry items.listed (← i.index)
  | .mapping _ xs => do
    match lookup? xs (← keyed i) with
    | some v => return v
    | Option.none => throw .missingKey
  | .kinds => do
    match ← keyed i with
    | .text s =>
      match kindNames.lookup s with
      | some k => return .kind k
      | Option.none => throw .missingKey
    | _ => throw .missingKey
  | .perm p => do return ofNat (← p.apply (← i.index))
  | .array p g => cellsAt p g i
  | .word _ => .error .outOfBounds
  | _ => .error .wrongKind

/-- The two parts of a pair. -/
def pair (a : Value) : Except Fault (Value × Value) := do
  match ← a.entries with
  | [x, y] => return (x, y)
  | _ => throw .badValue

/-- A mapping from distinct keys. -/
def mappingOf (pairs : List (Value × Value)) : Except Fault Value := do
  let pairs ← pairs.mapM fun (k, v) => do return (← keyed k, v)
  return .mapping 0 ((Assignment.ofList pairs).toList.map fun (k, v) => .tuple [k, v])

/-- The mapping that a collection of pairs describes, or a copy of a mapping. -/
def asMapping (pairs : Value) : Except Fault Value := do
  match pairs with
  | .mapping _ xs => return .mapping 0 xs
  | .kinds => return .mapping 0 (kindNames.map fun (name, k) => .tuple [.text name, .kind k])
  | pairs => mappingOf (← (← pairs.entries).mapM pair)

/-- The pairs of a mapping. -/
def items : Value → List Value
  | .mapping _ xs => xs
  | _ => []

end FiniteGroups.Value
