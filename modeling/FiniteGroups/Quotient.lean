import FiniteGroups.Map.Basic
import FiniteGroups.Subgroup.Normal

/-!
# Cosets and quotients

The cosets of a subgroup, each kept with the first representative that was found, and the group
of the left cosets of a normal subgroup with its projection.
-/

namespace FiniteGroups

namespace Candidate

/-- The coset of `H` through an element of `G`. -/
def coset (G : Candidate) (side : Side) (H : Candidate) (rep : Value) : Except Fault Value :=
  cosetOf side G.value.meaning G.value H.value rep

/-- The distinct cosets of `H`. -/
def cosets (G : Candidate) (side : Side) (H : Candidate) : Except Fault (List Value) := do
  let meaning := G.value.meaning
  let found ← (← G.entries).mapM fun g => do
    (← cosetOf side meaning G.value H.value g).keyed
  return (Roster.ofList found).toList

/-- The distinct left cosets `g * H`. -/
def leftCosets (G H : Candidate) : Except Fault (List Value) := G.cosets .left H

/-- The distinct right cosets `H * g`. -/
def rightCosets (G H : Candidate) : Except Fault (List Value) := G.cosets .right H

/-- Whether `H` has the operation of `G` and all its elements are elements of `G`. -/
def isPartOf (H G : Candidate) : Except Fault Bool := do
  if ← (← H.value.operation).equal (← G.value.operation) then includes (← G.group) H
  else return false

end Candidate

/-- A group modulo a normal subgroup. -/
structure QuotientGroup where
  parent : Value
  subgroup : Value
  group : FiniteGroup

namespace QuotientGroup

/-- The quotient that a group is. -/
def ofGroup? (Q : FiniteGroup) : Option QuotientGroup :=
  match Q.origin, Q.links with
  | .quotient, [parent, subgroup] => some ⟨parent, subgroup, Q⟩
  | _, _ => none

/-- The group of the left cosets of a normal subgroup. -/
def make (G H : Candidate) : Except Fault QuotientGroup := do
  if !(← H.isPartOf G) then throw (.notInside (← H.value.plain) (← G.value.plain))
  if !(← G.isNormal H) then throw (.notNormal (← H.value.plain) (← G.value.plain))
  let parts := [G.value, H.value]
  let cosets ← G.leftCosets H
  let identity ← (← G.coset .left H (← G.identity)).keyed
  let name := s!"{← G.value.plain}/{← H.value.plain}"
  let Q := FiniteGroup.ofRoster (.ofList cosets) (.op .cosets parts) identity
    (.rule 0 .quotientInverse parts) .none (.text name)
  if Q.order * (← H.size) = (← G.size) then
    return ⟨G.value, H.value, { Q with origin := .quotient, links := parts }⟩
  else throw .failedCheck

/-- The coset of an element, as it stands among the elements of the quotient. -/
def coset (Q : QuotientGroup) (g : Value) : Except Fault Value := do
  let c ← cosetOf .left Q.parent.meaning Q.parent Q.subgroup g
  (Value.list 0 Q.group.els).item (← Q.group.position c)

/-- The map that sends every element to its coset. -/
def projection (Q : QuotientGroup) : Except Fault GroupMap := do
  GroupMap.ofFunction (← Q.parent.candidate.demanded) Q.group Q.coset

end QuotientGroup

end FiniteGroups
