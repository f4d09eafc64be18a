import FiniteGroups.Group.Basic
import FiniteGroups.Value.Indexing

/-!
# Groups and tables

The table of a group holds at `i` and `j` the position of the product of the elements at these
positions, or `-1` if the product is no element. It is kept with the group, and whoever asks for
it again gets the same one. Conversely a table with an identity is the multiplication of a group
of the numbers from `0` on.
-/

namespace FiniteGroups.FiniteGroup

/-- What a table notes of a position: a place in a list of `size` elements as it is, since no list
is so long that its places do not fit, and anything else as an entry of an array. -/
def placeEntry (size : Nat) : Value → Except Fault Int
  | .int k => if 0 ≤ k && k < size then .ok k else (Value.int k).tableEntry
  | place => place.tableEntry

/-- The position of a product, or `-1`. -/
def productIndex (G : FiniteGroup) (els : Array Value) (i j : Nat) : Except Fault Int :=
  match els[i]?, els[j]? with
  | some a, some b => do
    match ← G.position? (← G.mul a b) with
    | some place => placeEntry els.size place
    | none => return -1
  | _, _ => .ok (-1)

/-- The table of positions of all products, computed anew. -/
def freshTable (G : FiniteGroup) : Except Fault Table :=
  let els := G.els.toArray
  Table.build els.size (G.productIndex els)

/-- The table of positions of all products: the one kept with the group, if there is one. -/
def table (G : FiniteGroup) : Except Fault Table :=
  match G.memory with
  | .none => G.freshTable
  | .array _ g =>
    match g.toTable? with
    | some t => .ok t
    | none => .error .failedCheck
  | .unseen part place => .error (.unseen part place)
  | _ => .error .wrongKind

/-- The table of positions of all products as a value, which may be the one kept with the group. -/
def tableValue (G : FiniteGroup) : Except Fault Value := do
  match G.memory with
  | .none => return Value.ofTable (← G.freshTable)
  | .unseen part place => throw (.unseen part place)
  | kept => return kept

/-- The first place whose row and column leave everything where it is. -/
def tableIdentity (t : Table) : Option Nat :=
  (List.range t.size).find? fun i =>
    (List.range t.size).all (fun j => t.get i j == j) &&
      (List.range t.size).all (fun j => t.get j i == j)

/-- The numbers from `0` on with a table as their multiplication. -/
def ofTable (t : Table) : Except Fault FiniteGroup :=
  match tableIdentity t with
  | some i =>
    let els := Roster.ofList ((List.range t.size).map fun (k : Nat) => Value.int k)
    .ok (ofRoster els (Value.lookupIn t) (.int i) .none .none .none)
  | none => .error .noTableIdentity

end FiniteGroups.FiniteGroup
