import FiniteGroups.Conjugacy
import FiniteGroups.Quotient
import FiniteGroups.Value.Perms

/-!
# Actions

A group acts on items: an element and an item give an item. As with maps between groups, that
the laws of an action hold is a question to ask (`GroupAction.isAction`). The items are a list in
which an item may occur several times.

* `GroupAction.orbit`, `GroupAction.orbits`, `GroupAction.stabilizer`;
* `GroupAction.burnside` : the number of orbits by counting fixed points;
* `GroupAction.permRep` : the action as a map to permutations of the numbered items;
* `GroupAction.leftMul`, `GroupAction.conjugation`, `GroupAction.onCosets` : the actions that
  every group has.
-/

namespace FiniteGroups

/-- A group, items, and what each element makes of each item. -/
structure GroupAction where
  /-- The place of the action, and that of the list of its items. -/
  place : Nat
  group : FiniteGroup
  listing : Nat
  items : List Value
  /-- The distinct items. -/
  members : Roster Value
  /-- The function that describes the action. -/
  rule : Value
  act : Value → Value → Except Fault Value

namespace GroupAction

/-- An action as a value. -/
def value (A : GroupAction) : Value :=
  .action A.place A.group.value (.list A.listing A.items) A.members.toList A.rule

/-- The action that a value is. -/
def ofValue? : Value → Option GroupAction
  | .action place G items xs rule => do
    let group ← FiniteGroup.ofValue? G
    let act := rule.meaning.call₂
    let members := Roster.ofList xs
    match items with
    | .list listing items => return { place, group, listing, items, members, rule, act }
    | _ => none
  | _ => none

/-- Whether the identity moves nothing and products act one factor after the other. -/
def isAction (A : GroupAction) : Except Fault Bool := do
  if ← A.items.allM fun x => do (← A.act A.group.identity x).equal x then
    A.group.els.allM fun g => A.group.els.allM fun h => do
      let gh ← A.group.mul g h
      A.items.allM fun x => do (← A.act gh x).equal (← A.act g (← A.act h x))
  else return false

/-- A group acting on items, of which there must be some. -/
def make (G : Candidate) (items : List Value) (rule : Value) : Except Fault GroupAction := do
  let group ← G.required
  if items.isEmpty then throw .nothingToActOn
  let members ← Value.distinct items
  let act := rule.meaning.call₂
  return { place := 0, group, listing := 0, items, members, rule, act }

/-- A group acting on the entries of a collection. -/
def ofItems (G : Candidate) (items rule : Value) : Except Fault GroupAction := do
  let _ ← G.required
  make G (← items.entries) rule

/-- The action itself, if it satisfies the laws. -/
def checked (A : GroupAction) : Except Fault GroupAction := do
  if ← A.isAction then return A else throw .notAnAction

/-! ## Actions that every group has -/

/-- A group acting on its elements by left multiplication. -/
def leftMul (G : Candidate) : Except Fault GroupAction := do
  let H ← G.group
  make G H.els H.op

/-- A group acting on its elements by conjugation. -/
def conjugation (G : Candidate) : Except Fault GroupAction := do
  make G (← G.group).els (.rule 0 .conjugation [G.value])

/-- A group acting on the left cosets of a subgroup. -/
def onCosets (G H : Candidate) : Except Fault GroupAction := do
  let cosets ← G.leftCosets H
  make G cosets (.rule 0 .cosets (G.value :: H.value :: cosets))

/-! ## Orbits and stabilizers -/

/-- The items that an item is moved to. -/
def orbit (A : GroupAction) (x : Value) : Except Fault (Roster Value) := do
  return .ofList (← A.group.els.mapM fun g => do (← A.act g x).keyed)

/-- Takes the orbit of the first item that remains, until none remains. An orbit that does not
take an item away never ends the search, which then runs out of rounds. -/
def orbitsFrom (A : GroupAction) :
    (bound : Nat) → (remain : List Value) → Except Fault (List (Roster Value))
  | _, [] => .ok []
  | 0, _ :: _ => .error .exhausted
  | bound + 1, x :: rest => do
    let orbit ← A.orbit x
    let remain ← orbit.toList.foldlM (fun remain y => FiniteGroup.removeItem y remain) (x :: rest)
    return orbit :: (← orbitsFrom A bound remain)

/-- The orbits, in the order of their first items. -/
def orbits (A : GroupAction) : Except Fault (List (Roster Value)) := do
  let items ← Value.distinct A.items
  A.orbitsFrom items.size items.toList

/-- Whether an element leaves an item where it is. -/
def fixes (A : GroupAction) (g x : Value) : Except Fault Bool := do (← A.act g x).equal x

/-- The subgroup spanned by the elements that leave an item where it is. -/
def stabilizer (A : GroupAction) (x : Value) : Except Fault FiniteGroup := do
  A.group.span (← A.group.els.filterM fun g => A.fixes g x)

/-- Whether the sizes of the orbit and the stabilizer multiply to the order of the group. -/
def checkOrbitStabilizer (A : GroupAction) (x : Value) : Except Fault Bool := do
  let n := (← A.orbit x).size
  return n * (← A.stabilizer x).order == A.group.order

/-- The items that an element leaves where they are. -/
def fixedPoints (A : GroupAction) (g : Value) : Except Fault (List Value) :=
  A.items.filterM (A.fixes g)

/-- The number of items that each element leaves where they are. -/
def fixedCounts (A : GroupAction) : Except Fault (Assignment Value Nat) := do
  let counts ← A.group.els.mapM fun g => do
    let n := (← A.fixedPoints g).length
    return (← g.keyed, n)
  return .ofList counts

/-- The average number of items that an element leaves where they are. -/
def burnside (A : GroupAction) : Except Fault Nat := do
  let total := (← A.fixedCounts).values.toList.foldl (· + ·) 0
  let n := A.group.order
  if n = 0 then throw .divisionByZero
  else if total % n = 0 then return total / n
  else throw .failedCheck

/-- Whether the orbit of the first item is as large as the list of items. -/
def isTransitive (A : GroupAction) : Except Fault Bool := do
  let x ← Position.entry A.items 0
  return (← A.orbit x).size == A.items.length

/-- Whether all stabilizers are trivial. -/
def isFree (A : GroupAction) : Except Fault Bool :=
  A.items.allM fun x => do return (← A.stabilizer x).order == 1

/-! ## Permutations -/

/-- The numbers of the items, counted from `1`; of an item that occurs several times the last
number counts. -/
def numbers (A : GroupAction) : Except Fault (Assignment Value Nat) := do
  return .ofList ((← A.items.mapM Value.keyed).zipIdx 1)

/-- The permutation of the numbers of the items that an element stands for. -/
def permOf (A : GroupAction) (numbers : Assignment Value Nat) (g : Value) : Except Fault Perm := do
  let images ← A.items.mapM fun x => do
    match numbers.get? (← (← A.act g x).keyed) with
    | some i => return Value.ofNat i
    | none => throw .missingKey
  Value.readPerm images

/-- The map from the group to the permutations of the numbered items. -/
def permRep (A : GroupAction) : Except Fault GroupMap := do
  let numbers ← A.numbers
  let perms ← A.group.els.mapM fun g => do
    let p ← A.permOf numbers g
    return (← g.keyed, Value.perm p)
  let n := A.items.length
  let one ← Perm.identity n
  let tgt := FiniteGroup.ofRoster (.ofList (perms.map Prod.snd)) (.op .compose [.int n])
    (.perm one) (.rule 0 .complement []) .none (.text s!"Sym({← A.value.plain})")
  GroupMap.ofAssignment A.group tgt (.ofList perms)

end GroupAction

end FiniteGroups
