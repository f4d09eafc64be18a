import FiniteGroups.Group.Basic
import FiniteGroups.Value.Part

/-!
# Candidates

Much that can be asked about a group can be asked about any value that offers as much of a group
as the question needs: to run through it, to look for a member, to multiply. A `Candidate` is a
value seen in this way. What a value does not offer is a fault, which comes up when it is needed
and not before.

A group offers everything (`FiniteGroup.candidate`); a coset or a conjugacy class can stand for a
set of elements, a family for an operation with an inverse, and a tuple at least for a list.
-/

namespace FiniteGroups

/-- What a value offers when it is taken for a group or for a part of one. -/
structure Candidate where
  value : Value
  /-- The number of elements. -/
  size : Except Fault Nat
  /-- The elements in order. -/
  entries : Except Fault (List Value)
  /-- The elements as a set. -/
  elements : Except Fault (Roster Value)
  identity : Except Fault Value
  mul : Except Fault (Value → Value → Except Fault Value)
  inverse : Except Fault (Value → Except Fault Value)
  conjugate : Value → Value → Except Fault Value
  contains : Value → Except Fault Bool
  group? : Option FiniteGroup

/-- What a group offers. -/
def FiniteGroup.candidate (G : FiniteGroup) : Candidate where
  value := G.value
  size := .ok G.order
  entries := .ok G.els
  elements := .ok G.elements
  identity := .ok G.identity
  mul := .ok G.mul
  inverse := .ok G.inverse
  conjugate := G.conjugate
  contains := G.contains
  group? := some G

instance : Coe FiniteGroup Candidate := ⟨FiniteGroup.candidate⟩

/-- What a value offers. -/
def Value.candidate (v : Value) : Candidate :=
  match FiniteGroup.ofValue? v with
  | some G => G.candidate
  | Option.none =>
    let meaning := v.meaning
    { value := v
      size := v.length
      entries := v.entries
      elements := Roster.ofList <$> v.elementSet
      identity := v.identity
      mul := meaning.op
      inverse := meaning.inverse
      conjugate := meaning.conjugate
      contains := v.contains
      group? := Option.none }

namespace Candidate

/-- The group itself; what is none does not offer what is asked. -/
def group (C : Candidate) : Except Fault FiniteGroup :=
  match C.group? with
  | some G => .ok G
  | none => .error .noAttribute

/-- The group itself; what is none is refused, naming its kind. -/
def demanded (C : Candidate) : Except Fault FiniteGroup :=
  match C.group? with
  | some G => .ok G
  | none => .error (.wrongClass C.value.typeText)

/-- The group itself; what is none is refused. -/
def required (C : Candidate) : Except Fault FiniteGroup :=
  match C.group? with
  | some G => .ok G
  | none => .error .failedCheck

/-- Refuses what is no member. -/
def requireMember (C : Candidate) (a : Value) : Except Fault Unit := do
  if ← C.contains a then return () else throw (.notMember (← a.plain) (← C.value.plain))

/-- Whether every element of `H` is an element of `G`. -/
def includes (G : FiniteGroup) (H : Candidate) : Except Fault Bool := do
  return (← H.elements).subset G.elements

end Candidate

/-- The values of a list as candidates. -/
def Value.candidates (v : Value) : Except Fault (List Candidate) := do
  return (← v.entries).map Value.candidate

end FiniteGroups
