import FiniteGroups.Map.Basic

/-!
# The regular representation

Every group is a group of permutations: an element `g` sends the number of `x` to the number of
`g * x`, where the elements are numbered from `1` in their order.
-/

namespace FiniteGroups

/-- A group as a group of permutations of its elements. The order of the elements, their numbers
and the permutation of each are collections of their own. -/
structure RegularGroup where
  source : Value
  ordered : Value
  index : Value
  sent : Value
  group : FiniteGroup

namespace RegularGroup

/-- The representation that a group is. -/
def ofGroup? (R : FiniteGroup) : Option RegularGroup :=
  match R.origin, R.links with
  | .regular, [source, ordered, index, sent] => some ⟨source, ordered, index, sent, R⟩
  | _, _ => none

/-- The permutations by which the elements of a group multiply them. -/
def make (source : Candidate) : Except Fault RegularGroup := do
  let G ← source.demanded
  let keys ← G.els.mapM Value.keyed
  let numbers : Assignment Value Value :=
    .ofList (keys.zipIdx.map fun (g, i) => (g, Value.ofNat (i + 1)))
  let perms ← keys.mapM fun g => do return (g, Value.perm (← regularPerm G.mul G.els numbers g))
  let one ← Perm.identity G.order
  let R := FiniteGroup.ofRoster (.ofList (perms.map Prod.snd)) (.op .compose [.int G.order])
    (.perm one) (.rule 0 .complement []) .none (.text s!"Cayley({← G.text})")
  let ordered := Value.list 0 G.els
  let index := Value.ofAssignment numbers
  let sent := Value.ofAssignment (.ofList perms)
  let links := [G.value, ordered, index, sent]
  return ⟨G.value, ordered, index, sent, { R with origin := .regular, links }⟩

/-- The permutation by which an element multiplies the ordered elements. -/
def perm (R : RegularGroup) (g : Value) : Except Fault Perm := do
  regularPerm (← R.source.meaning.op) R.ordered.listed R.index.assignment g

/-- The map that sends every element to its permutation. -/
def hom (R : RegularGroup) : Except Fault GroupMap := do
  GroupMap.ofAssignment (← R.source.candidate.demanded) R.group R.sent.assignment

end RegularGroup

end FiniteGroups
