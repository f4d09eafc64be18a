import FiniteGroups.Grid.Text
import FiniteGroups.Perm.Cycles
import FiniteGroups.Text.Quoted
import FiniteGroups.Value.Collection

/-!
# The text of a value

A value is written in two ways. Inside other values it is *quoted*: texts stand in quotes, a
permutation is written by its images, a coset by its representative and a group by its elements
and its operation. On its own it is *plain*: a text stands as it is, a permutation is written by
its cycles, a coset as a product of its representative and the subgroup `H`, and a group by its
name.

Not every value can be written: integers of very many digits are refused, and so is a group
whose name is no text.
-/

namespace FiniteGroups

/-- The name of the cosets of a side. -/
def Side.cosetName : Side → String
  | .left => "Coset"
  | .right => "RightCoset"

/-- The name of the kind of group. -/
def Origin.groupName : Origin → String
  | .plain => "Group"
  | .within => "Subgroup"
  | .quotient => "QuotientGroup"
  | .regular => "CayleyPermutationGroup"

/-- The name of a rule of multiplication. -/
def Multiplication.name : Multiplication → String
  | .addMod => "AddMod"
  | .dihedral => "DihedralMul"
  | .compose => "Compose"
  | .quaternion => "QuaternionMul"
  | .vectorAdd => "VectorAdd"
  | .product => "ProductMul"
  | .cosets => "CosetMul"
  | .mulMod => "MulMod"
  | .subMod => "SubMod"
  | .add => "Add"
  | .left => "Left"
  | .max => "Max"
  | .rows => "MapOp"
  | .abstract => "Operation"

/-- The name of a kind of family. -/
def Kind.className : Kind → String
  | .abstract => "GenerationStrategy"
  | .cyclic => "Cyclic"
  | .dihedral => "Dihedral"
  | .symmetric => "Symmetric"
  | .alternating => "Alternating"
  | .quaternion => "Quaternion"
  | .elementaryAbelian => "ElementaryAbelian"
  | .directProduct => "DirectProduct"

/-- The images of a permutation in brackets. -/
def Perm.quoted (p : Perm) : String :=
  s!"Perm({Brackets.square.enclose (p.images.toList.map toString)})"

/-- The cycles of a permutation. -/
def Perm.plain (p : Perm) : String := s!"Perm({p.cycleText})"

namespace Value

/-! ## Identities -/

/-- The identity that belongs to a value. -/
def identity : Value → Except Fault Value
  | .group _ _ _ _ _ e _ _ _ _ _ _ _ => .ok e
  | .family _ .cyclic _ => .ok (.int 0)
  | .family _ .dihedral _ => .ok (.tuple [.int 0, .int 0])
  | .family _ .symmetric [n] | .family _ .alternating [n] => do
    return .perm (← Perm.identity (← n.index))
  | .family _ .quaternion _ => .ok (.tuple [.int 1, .text "1"])
  | .family _ .elementaryAbelian [_, k] => do
    return .tuple (List.replicate (← k.index).toNat (.int 0))
  | .family _ .directProduct [G, H] => do return .tuple [← identity G, ← identity H]
  | .family .. | .kind _ => .ok .none
  | _ => .error .noAttribute

/-! ## Functions -/

/-- The names of the functions that belong to a value, by the kinds of values that have them. -/
def functionNames : Value → List (String × List String)
  | .perm _ =>
    [("Perm", ["order", "cycles", "cycle_type", "sign", "fixed", "cycle_str", "is_identity",
      "inverse"])]
  | .group origin .. =>
    let own := match origin with
      | .plain => []
      | .within => ["index", "intersect", "intersection"]
      | .quotient => ["coset", "projection", "_inv"]
      | .regular => ["perm_of", "hom", "_inv"]
    [(origin.groupName, own), ("Group", ["order", "index_of", "mul", "inverse", "conjugate", "pow",
      "element_order", "is_abelian", "is_cyclic", "exponent", "is_subgroup", "subgroup",
      "generated", "trivial", "table", "do_check"])]
  | .coset side .. => [(side.cosetName, ["get_elements"])]
  | .map .. =>
    [("Hom", ["is_hom", "kernel", "image", "is_injective", "is_surjective", "is_iso", "first_iso",
      "compose", "inverse"])]
  | .action .. =>
    [("Action", ["is_action", "orbit", "orbits", "stabilizer", "check_orbit_stabilizer",
      "fixed_points", "fixed_counts", "burnside", "is_transitive", "is_free", "perm_rep"])]
  | .family _ k _ => [(k.className, ["get_name", "gens", "inverse", "build"])]
  | .cls .. => [("ConjugacyClass", ["size"])]
  | .verdict _ => [("Result", ["summary"])]
  | _ => []

/-- The name of a function together with the kind of values that have it. Two functions are known
by a second name. -/
def fullName (v : Value) (name : String) : Option String :=
  match v, name with
  | .perm _, "inverse" => some "Perm.__invert__"
  | .group .within .., "intersection" => some "Subgroup.intersect"
  | v, name =>
    (v.functionNames.find? fun kind => kind.2.contains name).map fun kind => s!"{kind.1}.{name}"

/-! ## Text -/

/-- The text of a kind of object. -/
def classText (module name : String) : String := s!"<class 'fingroup.{module}.{name}'>"

/-- The text of a kind of family. -/
def kindText (k : Kind) : String := classText "construct" k.className

/-- The text of a group: its name, or else its kind and its order. -/
def groupText (origin : Origin) (name : Value) (order : Nat) (links : List Value) :
    Except Fault String := do
  if ← name.truthy then
    match name with
    | .text s => return s
    | _ => throw .wrongKind
  else
    match origin, links with
    | .within, parent :: _ => return s!"Subgroup({order}, {← parent.length})"
    | o, _ => return s!"{o.groupName}({order})"

/-- The text of a look-up: the shape of the array that it looks into and the bytes of its cells,
eight for each, the lowest byte first. -/
def lookupText (shape cells : List Value) : String :=
  let bytes (n : Int) : List UInt8 :=
    (List.range 8).map fun k =>
      UInt8.ofNat ((n % 0x10000000000000000).toNat / Nat.pow 256 k % 256)
  let number : Value → Option Int
    | .int n => some n
    | _ => Option.none
  let dims := (shape.filterMap number).map toString
  let data := (cells.filterMap number).flatMap bytes
  s!"Table({Brackets.round.enclose dims}, {Text.quoteBytes data})"

/-- The text of a set, an empty one by its name. -/
def setText (frozen : Bool) (members : List String) : String :=
  let inner := "\x7b" ++ ", ".intercalate members ++ "\x7d"
  match frozen, members with
  | false, [] => "set()"
  | false, _ => inner
  | true, [] => "frozenset()"
  | true, _ => s!"frozenset({inner})"

mutual

/-- The text of a value, quoted or plain. -/
def write (quoted : Bool) : Value → Except Fault String
  | .int n => Text.ofInt n
  | .bool b => .ok (if b then "True" else "False")
  | .none => .ok "None"
  | .real x => .ok (Decimal.text x)
  | .nan .. => .ok "nan"
  | .word n => .ok (if quoted then s!"np.int64({n})" else toString n)
  | .text s => .ok (if quoted then Text.quote s else s)
  | .perm p => .ok (if quoted then p.quoted else p.plain)
  | .tuple xs => do return Brackets.round.enclose (← writeEach xs)
  | .list _ xs => do return Brackets.square.enclose (← writeEach xs)
  | .mapping _ xs => do return "\x7b" ++ ", ".intercalate (← writePairs xs) ++ "\x7d"
  | .set frozen xs => do return setText frozen (← writeEach xs)
  | .array _ g => .ok (g.text quoted)
  | .op r xs => do return r.name ++ Brackets.round.enclose (← writeEach xs)
  | .lookup _ [.tuple shape, .tuple cells] => .ok (lookupText shape cells)
  | .lookup _ xs => do return "Table" ++ Brackets.round.enclose (← writeEach xs)
  | .kind k => .ok (kindText k)
  | .kinds =>
    let inner := kindNames.map fun (name, k) => s!"'{name}': {kindText k}"
    .ok ("mappingproxy(\x7b" ++ ", ".intercalate inner ++ "\x7d)")
  | .group origin _ listing _ law _ _ _ name links _ _ _ => do
    if quoted then
      return s!"{origin.groupName}({← write true listing}, {← write false law})"
    else groupText origin name listing.listed.length links
  | .coset side _ parent _ rep _ _ => do
    if quoted then return s!"{side.cosetName}({← write false rep})"
    else if ← rep.equal (← identity parent) then return "H"
    else
      match side with
      | .left => return (← write false rep) ++ "H"
      | .right => return "H" ++ (← write false rep)
  | .cls _ rep xs => do
    if quoted then return s!"ConjugacyClass({← write false rep}, {xs.length})"
    else return s!"[{← write false rep}]"
  | .map src tgt _ _ => do return s!"Hom({← write false src}, {← write false tgt})"
  | .action _ G items _ _ => do return s!"Action({← write false G}, {items.listed.length})"
  | .verdict xs => do
    match ← writeEach xs with
    | [ok, violations] => return s!"Result(ok={ok}, violations={violations})"
    | _ => throw .wrongKind
  | .family _ k _ => .ok s!"<fingroup.construct.{k.className} object>"
  | .rule .. => .ok "<function>"
  | .method _ owner name => do
    let full := (owner.fullName name).getD name
    return s!"<bound method {full} of {← write true owner}>"
  | .unseen part p => .error (.unseen part p)

/-- The quoted texts of the entries of a list. -/
def writeEach : List Value → Except Fault (List String)
  | [] => .ok []
  | x :: xs => do return (← write true x) :: (← writeEach xs)

/-- The quoted texts of the pairs of a mapping. -/
def writePairs : List Value → Except Fault (List String)
  | [] => .ok []
  | .tuple [k, v] :: xs => do
    return s!"{← write true k}: {← write true v}" :: (← writePairs xs)
  | x :: xs => do return (← write true x) :: (← writePairs xs)

end

/-- The text of a value on its own. -/
def plain (a : Value) : Except Fault String := write false a

/-- The text of a value inside another one. -/
def quoted (a : Value) : Except Fault String := write true a

/-- The text of the kind of a value. -/
def typeText : Value → String
  | .int _ => "<class 'int'>"
  | .bool _ => "<class 'bool'>"
  | .none => "<class 'NoneType'>"
  | .real _ | .nan .. => "<class 'float'>"
  | .word _ => "<class 'numpy.int64'>"
  | .text _ => "<class 'str'>"
  | .perm _ => classText "perm" "Perm"
  | .tuple _ => "<class 'tuple'>"
  | .list .. => "<class 'list'>"
  | .mapping .. => "<class 'dict'>"
  | .set frozen _ => if frozen then "<class 'frozenset'>" else "<class 'set'>"
  | .array .. => "<class 'numpy.ndarray'>"
  | .op r _ =>
    match r with
    | .abstract => classText "group" r.name
    | .cosets => classText "quotient" r.name
    | .mulMod | .subMod | .add | .left | .max | .rows => s!"<class '__main__.{r.name}'>"
    | _ => classText "construct" r.name
  | .lookup .. => classText "group" "Table"
  | .rule .. => "<class 'function'>"
  | .family _ k _ => kindText k
  | .kind _ => "<class 'type'>"
  | .kinds => "<class 'mappingproxy'>"
  | .group origin .. =>
    match origin with
    | .quotient => classText "quotient" origin.groupName
    | .regular => classText "cayley" origin.groupName
    | _ => classText "group" origin.groupName
  | .coset side .. => classText "quotient" side.cosetName
  | .cls .. => classText "conjugacy" "ConjugacyClass"
  | .map .. => classText "hom" "Hom"
  | .action .. => classText "action" "Action"
  | .verdict _ => classText "verify" "Result"
  | .method .. => "<class 'method'>"
  | .unseen .. => ""

end Value

end FiniteGroups
