import FiniteGroups.Map.Basic

/-!
# Automorphisms

A map of a group to itself that respects the operation and is one to one and onto is an
automorphism. Conjugation by an element is one; these are the inner automorphisms.
-/

namespace FiniteGroups

namespace GroupMap

/-- Whether a map is an isomorphism of a group with itself. -/
def isAutomorphism (f : GroupMap) : Except Fault Bool := do
  if ← f.src.value.equal f.tgt.value then
    if ← f.isHom then f.isIso else return false
  else return false

/-- Conjugation by an element. -/
def inner (G : Candidate) (g : Value) : Except Fault GroupMap := do
  let G ← G.demanded
  ofFunction G G fun h => G.conjugate h g

/-- The distinct inner automorphisms. -/
def innerAutomorphisms (G : Candidate) : Except Fault (List Value) := do
  let maps ← (← G.entries).mapM fun g => do (← inner G g).value.keyed
  return (Roster.ofList maps).toList

/-- Whether a map is conjugation by some element. -/
def isInner (f : GroupMap) : Except Fault Bool := do
  if ← f.tgt.value.equal f.src.value then
    f.src.els.anyM fun g => do (← inner f.src g).value.equal f.value
  else return false

end GroupMap

end FiniteGroups
