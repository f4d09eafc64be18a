import FiniteGroups.Action.Basic
import FiniteGroups.Arguments
import FiniteGroups.Group.Axioms
import FiniteGroups.Group.Family
import FiniteGroups.Group.Powers
import FiniteGroups.Perm.Cycles
import FiniteGroups.Regular

/-!
# Functions that belong to values

Permutations, groups, maps, actions and families have functions of their own, which are called by
name with further arguments.

* `Value.functions` : the functions of a value by their names;
* `Value.invoke` : calls the function of a name, or else the part of that name;
* `Value.apply` : calls a value; if that is a function of another value, by the name of it.
-/

namespace FiniteGroups

namespace Method

/-- A function without parameters that tells a part of something. -/
def get {α : Type} (x : α) (name : String) (f : α → Value) : String × Function :=
  (name, .nullary fun _ => return f x)

/-- A question without parameters. -/
def ask {α : Type} (x : α) (name : String) (f : α → Except Fault Bool) : String × Function :=
  (name, .nullary fun _ => do return .bool (← f x))

/-- A function without parameters that may fail. -/
def find {α : Type} (x : α) (name : String) (f : α → Except Fault Value) : String × Function :=
  (name, .nullary fun _ => do return ← f x)

/-- A list of values. -/
def list (xs : List Value) : Value := .list 0 xs

/-- A set of values. -/
def set (r : Roster Value) : Value := .set false r.toList

/-- Counts by what is counted. -/
def counts {α : Type} (key : α → Value) (xs : List (α × Nat)) : Value :=
  .mapping 0 (xs.map fun (k, n) => .tuple [key k, Value.ofNat n])

/-- A set of elements as a subgroup, after a check if a flag counts as true. -/
def subgroupOf (G : FiniteGroup) (els check name : Value) : Except Fault Value := do
  let els ← els.entries
  if ← check.truthy then return (← G.checkedSubgroup els name).value
  else return (← G.subgroup els .none name).value

/-- The functions of a permutation. -/
def ofPerm (p : Perm) : List (String × Function) :=
  let numbers := fun (xs : List Nat) => xs.map Value.ofNat
  [get p "order" (Value.ofNat ·.order), get p "sign" (.int ·.sign),
    find p "cycles" fun p => do return list ((← p.takenCycles).map fun c => list (numbers c)),
    get p "cycle_type" fun p => .tuple (numbers p.cycleType),
    get p "fixed" fun p => list (numbers p.fixedPoints),
    get p "cycle_str" (.text ·.cycleText), get p "is_identity" (.bool ·.isIdentity),
    get p "inverse" (.perm ·.inverse)]

/-- The functions that the origin of a group adds. -/
def ofOrigin (G : FiniteGroup) : List (String × Function) :=
  match G.origin, G.links, QuotientGroup.ofGroup? G, RegularGroup.ofGroup? G with
  | .within, parent :: _, _, _ =>
    let meet := Function.unary "other" fun K => do
      return (← G.intersect (← K.candidate.required) (← parent.candidate.group)).value
    [("intersect", meet), ("intersection", meet),
      ("check_subset", .binary "parent" "els" fun K els => do
        (← K.candidate.group).checkSubgroup (← els.entries)
        return .none),
      find G "index" fun G => do return .ofNat (← G.indexIn (← parent.length))]
  | _, _, some Q, _ =>
    [("coset", .unary "g" fun g => do return ← Q.coset g),
      find Q "projection" fun Q => do return (← Q.projection).value]
  | _, _, _, some R =>
    [("perm_of", .unary "g" fun g => do return .perm (← R.perm g)),
      find R "hom" fun R => do return (← R.hom).value]
  | _, _, _, _ => []

/-- The functions of a group. -/
def ofGroup (G : FiniteGroup) : List (String × Function) :=
  ofOrigin G ++ [get G "order" (Value.ofNat ·.order),
    ask G "is_abelian" (·.isAbelian), ask G "is_cyclic" (·.isCyclic),
    find G "exponent" fun G => do return .int (← G.exponent),
    find G "trivial" fun G => do return (← G.trivial).value,
    find G "table" (·.tableValue),
    find G "do_check" fun G => do
      G.requireAxioms
      return .none,
    ("mul", .binary "a" "b" fun a b => do return ← G.mul a b),
    ("inverse", .unary "a" fun a => do return ← G.inverse a),
    ("conjugate", .binary "g" "x" fun g x => do return ← G.conjugate g x),
    ("pow", .binary "g" "k" fun g k => do return ← powerBy G.mul G.inverse G.identity g k),
    ("element_order", .unary "g" fun g => do return .ofNat (← G.elementOrder g)),
    ("index_of", .unary "g" fun g => do return ← G.position g),
    ("is_subgroup", .unary "H" fun H => do return .bool (← Candidate.includes G H.candidate)),
    ("subgroup", .optional "els" "check" (.bool true) fun els check => do
      return ← subgroupOf G els check .none),
    ("generated", .optional "gens" "verbose" (.bool false) fun gens loud => do
      return (← Report.shown loud (G.generated (← gens.entries))).value)]

/-- The functions of a map. -/
def ofMap (v : Value) (f : GroupMap) : List (String × Function) :=
  [ask f "is_hom" (·.isHom), find f "kernel" fun f => do return (← f.kernel).value,
    find f "image" fun f => do return (← f.image).value,
    ask f "is_injective" (·.isInjective), ask f "is_surjective" (·.isSurjective),
    ask f "is_iso" (·.isIso), find f "first_iso" fun f => do return .ofNat (← f.firstIso),
    find v "inverse" (·.inverseMap),
    ("compose", .unary "other" fun g => do return ← Value.composeMaps v g)]

/-- The functions of an action. -/
def ofAction (A : GroupAction) : List (String × Function) :=
  [ask A "is_action" (·.isAction),
    ("orbit", .unary "x" fun x => do return set (← A.orbit x)),
    find A "orbits" fun A => do return list ((← A.orbits).map set),
    ("stabilizer", .unary "x" fun x => do return (← A.stabilizer x).value),
    ("check_orbit_stabilizer", .unary "x" fun x => do
      return .bool (← A.checkOrbitStabilizer x)),
    ("fixed_points", .unary "g" fun g => do return list (← A.fixedPoints g)),
    find A "fixed_counts" fun A => do return counts id (← A.fixedCounts).toList,
    find A "burnside" fun A => do return .ofNat (← A.burnside),
    ask A "is_transitive" (·.isTransitive), ask A "is_free" (·.isFree),
    find A "perm_rep" fun A => do return (← A.permRep).value]

/-- The functions of a family. -/
def ofFamily (F : Family) : List (String × Function) :=
  [find F "get_name" fun F => do return .text (← F.name),
    find F "gens" fun F => do return list (← F.gens),
    ("inverse", .unary "a" fun a => do return ← F.inverse a),
    ("build", ⟨[.may "name" .none, .verbose], fun
      | [name, loud] => do return (← Report.shown loud (F.build name)).value
      | _ => throw .wrongKind⟩)]

end Method

namespace Value

/-- The functions of a value by their names. -/
def functions (v : Value) : List (String × Function) :=
  match v, GroupMap.ofValue? v, GroupAction.ofValue? v, FiniteGroup.ofValue? v with
  | _, some f, _, _ => Method.ofMap v f
  | _, _, some A, _ => Method.ofAction A
  | _, _, _, some G => Method.ofGroup G
  | .perm p, _, _, _ => Method.ofPerm p
  | .family place k data, _, _, _ => Method.ofFamily ⟨place, k, data⟩
  | .coset side _ parent subgroup rep _ _, _, _, _ =>
    [Method.find rep "get_elements" fun rep => do
      return .set true (← cosetProducts side parent.meaning subgroup rep).toList]
  | .cls _ _ xs, _, _, _ => [Method.get xs "size" (ofNat ·.length)]
  | .verdict _, _, _, _ => [Method.find v "summary" fun v => do return .text (← v.summary)]
  | _, _, _, _ => []

/-- Calls the function of a name, or else the part of that name. -/
def invoke (v : Value) (name : String) (c : Arguments) : Report Value := do
  match v.functions.lookup name with
  | some f => f.call c
  | Option.none => (← v.part name).call c.positional

/-- Calls a value with arguments by position. -/
def apply (f : Value) (args : List Value) : Report Value :=
  match f with
  | .method _ owner name =>
    match owner.functions.lookup name with
    | some f => f.call ⟨args, []⟩
    | Option.none => do return ← f.call args
  | .kind k => do return (← Family.make k args).value
  | f => do return ← f.call args

end Value

end FiniteGroups
