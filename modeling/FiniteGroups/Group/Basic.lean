import FiniteGroups.Closure
import FiniteGroups.Value.Call

/-!
# Finite groups

A finite group is a list of elements with an operation, an identity and an inverse. The inverse
belongs to the group and not to the element: the same value can live in many groups. It is
either given as a function or searched for in the list; the search is done once and its result
kept.

Nothing here asks whether the group axioms hold. A `FiniteGroup` is data that may or may not be
a group, and all operations are defined for it; faults of the operation are passed on.

* `FiniteGroup.ofElements`, `FiniteGroup.generate` : from elements and from generators;
* `FiniteGroup.subgroup`, `FiniteGroup.generated` : a set of elements as a group of its own;
* `FiniteGroup.checkedSubgroup` : the same for a set that is checked first;
* `FiniteGroup.value`, `FiniteGroup.ofValue?` : a group as a value, and back.
-/

namespace FiniteGroups

/-- A finite list of elements with an operation, an identity and an inverse. -/
structure FiniteGroup where
  origin : Origin
  /-- The place of the group, and that of the list of its elements. -/
  place : Nat
  listing : Nat
  /-- The elements in the order of enumeration. The list can be changed afterwards, so that it is
  not the same as the `elements`, in which members are looked up. -/
  els : List Value
  elements : Roster Value
  identity : Value
  /-- The product of two elements. -/
  mul : Value → Value → Except Fault Value
  /-- The inverse of an element; nothing, if it was searched for and not found. -/
  inverse : Value → Except Fault Value
  /-- The operation and the inverse as values; without an inverse there is nothing. -/
  op : Value
  inv : Value
  /-- The list of generators, if they are known. -/
  gens : Value
  name : Value
  links : List Value
  /-- The table of products, the positions of the elements and the inverses, as far as they are
  kept with the group. -/
  memory : Value
  positions : Value
  kept : Value

namespace FiniteGroup

/-! ## Groups and values -/

/-- A group as a value. -/
def value (G : FiniteGroup) : Value :=
  .group G.origin G.place (.list G.listing G.els) G.elements.toList G.op G.identity G.inv G.gens
    G.name G.links G.memory G.positions G.kept

/-- The inverse that a value says, or the one that was searched for. What the value means and the
table are prepared once for all elements. -/
def inverseBy (inv : Value) (meaning : Meaning)
    (table : Thunk (Except Fault (Assignment Value Value))) (a : Value) : Except Fault Value :=
  match inv with
  | .none => foundInverse table a
  | _ => meaning.call [a]

/-- The group that a value is. -/
def ofValue? : Value → Option FiniteGroup
  | .group origin place listing xs op identity inv gens name links memory positions kept =>
    let mul := op.meaning.call₂
    let els := listing.listed
    let table := keptInverses kept els mul identity
    some {
      origin, place, els, identity, mul, op, inv, gens, name, links, memory, positions, kept
      listing := match listing with
        | .list place _ => place
        | _ => 0
      elements := Roster.ofList xs
      inverse := inverseBy inv inv.meaning table }
  | _ => none

/-! ## Making groups -/

/-- The group with the given elements, of which the identity is put in front. -/
def ofRoster (els : Roster Value) (op identity inv gens name : Value) : FiniteGroup :=
  let els := els.promote identity
  let mul := op.meaning.call₂
  let table := keptInverses .none els.toList mul identity
  { origin := .plain, place := 0, listing := 0, els := els.toList, elements := els, identity, mul,
    inverse := inverseBy inv inv.meaning table, op, inv, gens, name, links := [],
    memory := .none, positions := .none, kept := .none }

/-- A list of generators, if there are any known. -/
def generators (gens : Value) : Except Fault Value :=
  match gens with
  | .none => .ok .none
  | gens => do return .list 0 (← gens.entries)

/-- Refuses an identity that is equal to an element, but is a value that cannot be one. -/
def requireIdentity (identity : Value) (els : List Value) : Except Fault Unit := do
  if ← Value.occurs els identity then
    let _ ← identity.keyed

/-- The group with the elements that a value lists. -/
def ofElements (els op identity inv gens name : Value) : Except Fault FiniteGroup := do
  let els ← Value.distinct (← els.entries)
  requireIdentity identity els.toList
  return ofRoster els op identity inv (← generators gens) name

/-- The number of elements. -/
def order (G : FiniteGroup) : Nat := G.els.length

/-- Whether something is an element. -/
def contains (G : FiniteGroup) (a : Value) : Except Fault Bool := do
  return G.elements.contains (← a.sought)

/-- The text of a group on its own. -/
def text (G : FiniteGroup) : Except Fault String :=
  Value.groupText G.origin G.name G.order G.links

/-- The conjugate `x * a * x⁻¹`. -/
def conjugate (G : FiniteGroup) (a x : Value) : Except Fault Value :=
  conjugateBy G.mul G.inverse a x

/-! ## Closure -/

/-- Stops a search at a number of elements, unless the number counts as nothing. -/
def stopAt (most : Value) (n : Nat) : Except Fault Bool := do
  if ← most.truthy then return (← most.number).atMost (.whole n) else return false

/-- The position of an element: the one that is kept, or its place in the order. -/
def position? (G : FiniteGroup) (a : Value) : Except Fault (Option Value) :=
  Meaning.positionIn G.positions (Thunk.pure G.elements) a

/-- The position of an element, which it must have. -/
def position (G : FiniteGroup) (a : Value) : Except Fault Value := do
  Meaning.demandPosition (← G.position? a)

/-- The product of two values as a key. -/
def keyedProduct (mul : Value → Value → Except Fault Value) (a b : Value) : Except Fault Value := do
  (← mul a b).keyed

/-- The elements that generators span under a multiplication. Nothing generates the identity
alone, which must be known then. -/
def spanned (gens : List Value) (mul : Value → Value → Except Fault Value)
    (inv : Option (Value → Except Fault Value)) (identity : Value)
    (stop : Nat → Except Fault Bool) : Report (List Value) := do
  let gens ← seeds gens inv
  if gens.isEmpty then
    match identity with
    | .none => throw .emptyClosure
    | e => return [e]
  else
    let gens ← Value.distinct gens
    let found ← closure gens (keyedProduct mul) stop
    return found.toList

/-- The group that the generators span; the identity belongs to it in any case. -/
def generate (gens : List Value) (op identity inv name : Value) : Report FiniteGroup := do
  let mul := op.meaning.call₂
  let given := match inv with
    | .none => none
    | inv =>
      let meaning := inv.meaning
      some fun a => meaning.call [a]
  let els ← spanned gens mul given identity unlimited
  let els := if ← Value.occurs els identity then els else els ++ [identity]
  let els ← Value.distinct els
  requireIdentity identity els.toList
  return ofRoster els op identity inv (.list 0 gens) name

/-! ## Subgroups -/

/-- Distinct elements as a group with the operation of `G`. -/
def subgroupOf (G : FiniteGroup) (els : Roster Value) (gens name : Value) : FiniteGroup :=
  let els := els.promote G.identity
  { origin := .within, place := 0, listing := 0, els := els.toList, elements := els,
    identity := G.identity, mul := G.mul, inverse := G.inverse, op := G.op,
    inv := .method 0 G.value "inverse", gens, name, links := [G.value],
    memory := .none, positions := .none, kept := .none }

/-- A set of elements as a group with the operation of `G`. -/
def subgroup (G : FiniteGroup) (els : List Value) (gens name : Value) :
    Except Fault FiniteGroup := do
  let els ← Value.distinct els
  requireIdentity G.identity els.toList
  return G.subgroupOf els gens name

/-- The subgroup that consists of the identity. -/
def trivial (G : FiniteGroup) : Except Fault FiniteGroup := G.subgroup [G.identity] .none .none

/-- Refuses what is no element. -/
def requireMember (G : FiniteGroup) (a : Value) : Except Fault Unit := do
  if ← G.contains a then return () else throw (.notMember (← a.plain) (← G.text))

/-- The subgroup that the generators span. -/
def generated (G : FiniteGroup) (gens : List Value) : Report FiniteGroup := do
  gens.forM (m := Except Fault) G.requireMember
  let els ← spanned gens G.mul (some G.inverse) G.identity unlimited
  G.subgroup els (.list 0 gens) .none

/-- The subgroup that the generators span, without a report. -/
def span (G : FiniteGroup) (gens : List Value) : Except Fault FiniteGroup :=
  (G.generated gens).outcome

/-- Refuses an item that is no element. -/
def requireInside (G : FiniteGroup) (a : Value) : Except Fault Unit := do
  if !G.elements.contains a then throw (.outsideParent (← a.plain) (← G.text))

/-- Refuses items without the identity. -/
def requireUnit (G : FiniteGroup) (items : Roster Value) : Except Fault Unit := do
  if !items.contains (← G.identity.sought) then throw (.missingIdentity (← G.identity.plain))

/-- Refuses a product that is not among the items. The message names the factors and the product. -/
def requireProduct (G : FiniteGroup) (items : Roster Value) (a b : Value) : Except Fault Unit := do
  let c ← G.mul a b
  if !items.contains (← c.sought) then
    let _ ← a.plain
    let _ ← b.plain
    let _ ← c.plain
    throw .notClosed

/-- Refuses an inverse that is not among the items. The message names the element. -/
def requireInverse (G : FiniteGroup) (items : Roster Value) (a : Value) : Except Fault Unit := do
  if !items.contains (← (← G.inverse a).sought) then
    let _ ← a.plain
    throw .missingInverse

/-- Checks that elements of `G` form a group: they are elements, the identity is among them, and
they are closed under products and inverses. -/
def checkSubgroup (G : FiniteGroup) (els : List Value) : Except Fault Unit := do
  if els.isEmpty then throw .emptySubgroup
  let items ← Value.distinct els
  items.toList.forM G.requireInside
  G.requireUnit items
  items.toList.forM fun a => items.toList.forM (G.requireProduct items a)
  items.toList.forM (G.requireInverse items)

/-- A set of elements as a group, if it is one. -/
def checkedSubgroup (G : FiniteGroup) (els : List Value) (name : Value) :
    Except Fault FiniteGroup := do
  G.checkSubgroup els
  G.subgroup els .none name

/-- The number of cosets in the group that `H` is a part of: `n` divided by the order of `H`. -/
def indexIn (H : FiniteGroup) (n : Nat) : Except Fault Nat :=
  if H.order = 0 then .error .divisionByZero
  else if n % H.order = 0 then .ok (n / H.order)
  else .error (.orderNotDividing H.order n)

/-- The elements that a part of a group shares with another group, as a part of the first one's
parent. -/
def intersect (H K parent : FiniteGroup) : Except Fault FiniteGroup := do
  parent.subgroup (← H.els.filterM K.contains) .none .none

end FiniteGroup

end FiniteGroups
