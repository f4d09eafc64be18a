import FiniteGroups.Value.Arithmetic

/-!
# Maps as values

A map between groups is a value like any other: it can be inverted, and two maps that fit can be
composed, so maps from a group to itself can be the elements of a group.

* `Value.mapBetween` : the map that a mapping describes, which must send every element somewhere;
* `Value.composeMaps`, `Value.inverseMap` : composition and inversion;
* `Value.times` : the product of any two values, that of maps being their composition.
-/

namespace FiniteGroups.Value

/-- Whether a value is a group. -/
def isGroup : Value → Bool
  | .group .. => true
  | _ => false

/-- Refuses what is no group, naming its kind. -/
def requireGroup (v : Value) : Except Fault Unit :=
  if v.isGroup then .ok () else .error (.wrongClass v.typeText)

/-- What an assignment sends elements to, as pairs. -/
def tabulate (els : List Value) (send : Assignment Value Value) :
    Except Fault (List (Value × Value)) :=
  els.mapM fun g => do
    match send.get? (← keyed g) with
    | some h => return (g, h)
    | Option.none => throw (.unsent (← g.plain))

/-- An assignment as a mapping. -/
def ofAssignment (m : Assignment Value Value) : Value :=
  .mapping 0 (m.toList.map fun (k, v) => .tuple [k, v])

/-- The assignment that a mapping is. -/
def assignment : Value → Assignment Value Value
  | .mapping _ xs => .ofList (xs.filterMap fun
    | .tuple [k, v] => some (k, v)
    | _ => Option.none)
  | _ => .empty

/-- The map between groups that sends elements as assigned. -/
def mapBetween (src tgt : Value) (send : Assignment Value Value) : Except Fault Value := do
  src.requireGroup
  tgt.requireGroup
  let pairs ← tabulate (← src.entries) send
  return .map src tgt (ofAssignment (.ofList pairs)) .none

/-- The composition of two maps, the second after the first. -/
def composeMaps (first second : Value) : Except Fault Value := do
  match first, second with
  | .map src tgt send _, .map src' tgt' send' _ =>
    if ← tgt.equal src' then
      let a := send.assignment
      let b := send'.assignment
      let pairs ← (← src.entries).mapM fun g => do
        match a.get? (← keyed g) with
        | some h =>
          match b.get? (← keyed h) with
          | some k => return (g, k)
          | Option.none => throw .missingKey
        | Option.none => throw .missingKey
      mapBetween src tgt' (.ofList pairs)
    else throw (.notComposable (← first.plain) (← second.plain))
  | _, _ => throw .failedCheck

/-- Sends the images of a map back, unless one of them comes twice. -/
def reversed (label : Except Fault String) :
    List (Value × Value) → Assignment Value Value → Except Fault (Assignment Value Value)
  | [], back => .ok back
  | (g, h) :: rest, back => do
    if back.keys.contains (← keyed h) then throw (.notInjective (← label))
    else reversed label rest (back.set h g)

/-- The inverse of a map that is one-to-one. -/
def inverseMap (f : Value) : Except Fault Value := do
  match f with
  | .map src tgt send _ =>
    let back ← reversed f.plain send.assignment.toList .empty
    for h in ← tgt.entries do
      if !back.keys.contains (← keyed h) then throw (.notSurjective (← f.plain))
    mapBetween tgt src back
  | _ => throw .noAttribute

/-- The product of two values. The product of maps is their composition, the right one first. -/
def times (a b : Value) : Except Fault Value :=
  match a, b with
  | .map .., .map .. => composeMaps b a
  | .map .., _ => .error .failedCheck
  | a, b => multiply a b

end FiniteGroups.Value
