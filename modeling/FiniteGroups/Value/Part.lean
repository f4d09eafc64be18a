import FiniteGroups.Value.Call

/-!
# Named parts

What a value is made of can be asked for by name: the images of a permutation, the elements and
the generators of a group, the source and the target of a map. A function that belongs to a value
is a part of it as well, and is a value of its own. Names with a dash in front are those of what
is kept with a value; nothing is kept as long as nobody has asked for it.

* `Value.operation` : the operation of a group or a family;
* `Value.part` : the part of a name.
-/

namespace FiniteGroups

/-- The names of what an operation depends on, in the order of its data. -/
def Multiplication.parameters : Multiplication → List String
  | .addMod | .dihedral | .compose => ["n"]
  | .vectorAdd => ["p", "k"]
  | .product => ["G", "H"]
  | .cosets => ["parent", "subgroup"]
  | _ => []

/-- The names of the parameters of a family, in their order. -/
def Kind.parameters : Kind → List String
  | .abstract | .quaternion => []
  | .cyclic | .dihedral | .symmetric | .alternating => ["n"]
  | .elementaryAbelian => ["p", "k"]
  | .directProduct => ["G", "H"]

/-- The names of the groups and mappings that the origin of a group adds, in their order. -/
def Origin.linkNames : Origin → List String
  | .plain => []
  | .within => ["parent"]
  | .quotient => ["parent", "subgroup"]
  | .regular => ["source", "ordered", "index", "send"]

namespace Value

/-- The operation that belongs to a value. -/
def operation : Value → Except Fault Value
  | .group _ _ _ _ law _ _ _ _ _ _ _ _ => .ok law
  | .family _ k data =>
    match Meaning.familyRule k with
    | some r => .ok (.op r data)
    | Option.none => .ok .none
  | .kind _ => .ok .none
  | _ => .error .noAttribute

/-- The set of elements that belongs to a group, a coset or a conjugacy class. -/
def elementSet : Value → Except Fault (List Value)
  | .group _ _ _ xs _ _ _ _ _ _ _ _ _ | .cls _ _ xs => .ok xs
  | .coset _ _ _ _ _ xs state => cosetMembers xs state
  | _ => .error .noAttribute

/-- The positions of elements as a mapping: the one that is kept, or the one that follows from
their order. -/
def numbering (els : List Value) : (positions : Value) → Value
  | .none => .mapping 0 (els.zipIdx.map fun (g, i) => .tuple [g, ofNat i])
  | positions => positions

/-- The parts that a value has by name, apart from its functions. -/
def ownParts : Value → List (String × Value)
  | .perm p => [("n", ofNat p.degree), ("perm", .tuple (p.images.toList.map ofNat))]
  | .array p g =>
    [("T", .array p g.transpose), ("shape", .tuple (g.shape.map ofNat)),
      ("ndim", ofNat g.shape.length), ("size", ofNat g.size)]
  | .op r data => r.parameters.zip data ++ [("key", .tuple data)]
  | .lookup grid _ => [("T", grid)]
  | .family _ k data => k.parameters.zip data
  | .group origin place listing xs law e inv gens name links table positions inverses =>
    let G := Value.group origin place listing xs law e inv gens name links table positions inverses
    let inv := match origin with
      | .quotient | .regular => .method 0 G "_inv"
      | _ => inv
    origin.linkNames.zip links ++
      [("els", listing), ("inv", inv), ("gens", gens), ("name", name),
        ("lookup", numbering xs positions), ("_table", table), ("_inverse", inverses)]
  | .coset _ _ parent subgroup rep xs state =>
    [("parent", parent), ("subgroup", subgroup), ("rep", rep),
      ("_elements", match state with
        | .settled => .set true xs
        | _ => .none)]
  | .cls parent rep _ => [("parent", parent), ("representative", rep)]
  | .map src tgt send _ => [("src", src), ("tgt", tgt), ("send", send)]
  | .action _ G items xs act =>
    [("G", G), ("items", items), ("set_items", .set false xs), ("act", act)]
  | .verdict [ok, violations] => [("ok", ok), ("violations", violations)]
  | _ => []

/-- The part of a name. -/
def part (v : Value) (name : String) : Except Fault Value :=
  match v.ownParts.lookup name, name, v.elementSet with
  | some x, _, _ => .ok x
  | _, "elements", xs => do return .set true (← xs)
  | _, _, _ =>
    match name, v.identity, v.operation, v.fullName name with
    | "identity", e, _, _ => e
    | "op", _, law, _ => law
    | _, _, _, some _ => .ok (.method 0 v name)
    | _, _, _, Option.none => .error .noAttribute

end Value

end FiniteGroups
