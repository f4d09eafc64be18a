import FiniteGroups.Group.Candidate
import FiniteGroups.Group.Powers

/-!
# Conjugacy classes

The elements of a group fall into classes of conjugates. `conjugacyClasses` lists the classes by
the order of their elements, then by size; the class equation counts the classes of each size.
-/

namespace FiniteGroups

/-- A class of conjugates with one of its members. -/
structure ConjugacyClass where
  parent : Value
  representative : Value
  members : Roster Value

namespace ConjugacyClass

/-- A class as a value. -/
def value (c : ConjugacyClass) : Value := .cls c.parent c.representative c.members.toList

/-- The class with the given members, of which the representative must be one. -/
def make (parent representative members : Value) : Except Fault ConjugacyClass := do
  if ← members.contains representative then
    return ⟨parent, representative, ← Value.distinct (← members.entries)⟩
  else throw (.notInOwnClass (← representative.plain))

/-- The number of members. -/
def size (c : ConjugacyClass) : Nat := c.members.size

end ConjugacyClass

namespace Candidate

/-- The conjugates of an element. -/
def conjugacyClass (G : Candidate) (g : Value) : Except Fault (Roster Value) := do
  G.requireMember g
  return .ofList (← (← G.entries).mapM fun x => do (← G.conjugate g x).keyed)

/-- Whether some conjugate of `g` is `h`. -/
def areConjugate (G : Candidate) (g h : Value) : Except Fault Bool := do
  G.requireMember g
  G.requireMember h
  (← G.entries).anyM fun x => do (← G.conjugate g x).equal h

end Candidate

namespace FiniteGroup

/-- A list without an element that must occur in it. -/
def removeItem (a : Value) : List Value → Except Fault (List Value)
  | [] => .error .missingKey
  | b :: rest => if b == a then .ok rest else do return b :: (← removeItem a rest)

/-- Takes the class of the first element that remains, until none remains. Each class takes at
least its representative away, so there are no more classes than elements. -/
def classesFrom (G : FiniteGroup) :
    (bound : Nat) → (remain : List Value) → Except Fault (List ConjugacyClass)
  | _, [] => .ok []
  | 0, _ :: _ => .error .exhausted
  | bound + 1, g :: rest => do
    let members ← G.candidate.conjugacyClass g
    let c ← ConjugacyClass.make G.value g (.set true members.toList)
    let remain ← members.toList.foldlM (fun remain h => removeItem h remain) (g :: rest)
    return c :: (← classesFrom G bound remain)

/-- The order by two numbers, the first one counting most. -/
def pairwiseLe (a b : Nat × Nat) : Bool := a.1 < b.1 || (a.1 == b.1 && a.2 ≤ b.2)

/-- The conjugacy classes by the order of their elements, then by size. -/
def conjugacyClasses (G : FiniteGroup) : Except Fault (List ConjugacyClass) := do
  let els ← Value.distinct G.els
  let classes ← G.classesFrom G.order els.toList
  let keyed ← classes.mapM fun c => do
    return ((← G.elementOrder c.representative, c.size), c)
  return (keyed.mergeSort fun a b => pairwiseLe a.1 b.1).map Prod.snd

/-- The number of classes of each size, in the order in which the sizes occur. -/
def classEquation (G : FiniteGroup) : Except Fault (Assignment Nat Nat) := do
  return (← G.conjugacyClasses).foldl
    (fun count c => count.set c.size ((count.get? c.size).getD 0 + 1)) .empty

/-- Whether the sizes of the classes add up to the order and divide it. -/
def verifyClassEquation (G : FiniteGroup) : Except Fault Bool := do
  let sizes := (← G.conjugacyClasses).map ConjugacyClass.size
  return sizes.foldl (· + ·) 0 == G.order && sizes.all fun m => G.order % m == 0

/-- The number of conjugacy classes. -/
def numberOfClasses (G : FiniteGroup) : Except Fault Nat := do
  return (← G.conjugacyClasses).length

end FiniteGroup

end FiniteGroups
