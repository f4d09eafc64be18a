import FiniteGroups.Group.Table

/-!
# The axioms

`FiniteGroup.verify` checks the group axioms by trying everything and lists what it finds:
whether the identity is an element and a unit, whether every inverse is an element and an
inverse, whether products are elements, and, if they are, whether they associate. Of the triples
that do not associate only some are listed for each first factor, and the list is cut off when
it has grown long; what is left out never turns a bad verdict into a good one, unless not even one
triple is listed.
-/

namespace FiniteGroups

/-- What a check of the axioms found. -/
structure Verdict where
  violations : List String

namespace Verdict

/-- Whether nothing was found. -/
def ok (v : Verdict) : Bool := v.violations.isEmpty

/-- The report on violations: one line for each of them. -/
def report (ok : Bool) (violations : List String) : String :=
  if ok then "All axioms satisfied."
  else "\n".intercalate (s!"Violations ({violations.length}):" :: violations.map (" - " ++ ·))

/-- The report. -/
def summary (v : Verdict) : String := report v.ok v.violations

/-- A verdict as a value. -/
def value (v : Verdict) : Value := .verdict [.bool v.ok, .list 0 (v.violations.map .text)]

end Verdict

/-- The report of a verdict that is a value, whose list of violations may have been changed. -/
def Value.summary : Value → Except Fault String
  | .verdict [ok, violations] => do
    if ← ok.truthy then return Verdict.report true []
    else return Verdict.report false (← (← violations.entries).mapM plain)
  | _ => .error .noAttribute

namespace FiniteGroup

/-- A violation, unless a law holds. -/
def breach (holds : Bool) (violation : String) (a : Value) : Except Fault (List String) := do
  if holds then return [] else return [s!"{violation}: {← a.plain}"]

/-- The violations of the laws of the identity. -/
def identityViolations (G : FiniteGroup) : Except Fault (List String) := do
  let e := G.identity
  let membership ← if ← G.contains e then pure []
    else pure [s!"Identity {← e.plain} is not an element"]
  let laws ← G.els.mapM fun a => do
    let left ← breach (← (← G.mul e a).equal a) "Left identity fails for element" a
    let right ← breach (← (← G.mul a e).equal a) "Right identity fails for element" a
    return left ++ right
  return membership ++ laws.flatten

/-- Whether `b` is a two-sided inverse of `a`. -/
def areInverse (G : FiniteGroup) (a b : Value) : Except Fault Bool := do
  if ← (← G.mul a b).equal G.identity then (← G.mul b a).equal G.identity else return false

/-- The violations of the laws of the inverse. -/
def inverseViolations (G : FiniteGroup) : Except Fault (List String) := do
  let found ← G.els.mapM fun a => do
    let b ← G.inverse a
    let inside ← if b matches .none then pure false else G.contains b
    if inside then breach (← G.areInverse a b) "Inverse fails for element" a
    else breach false "Inverse not in set for element" a
  return found.flatten

/-- The element at a position. -/
def element (G : FiniteGroup) (i : Nat) : Except Fault Value := Position.entry G.els i

/-- The products that are no elements. -/
def closureViolations (G : FiniteGroup) (t : Table) : Except Fault (List String) := do
  let places := (List.range t.size).flatMap fun i => (List.range t.size).map fun j => (i, j)
  (places.filter fun (i, j) => t.get i j < 0).mapM fun (i, j) => do
    let a ← G.element i
    let b ← G.element j
    let c ← G.mul a b
    return s!"Closure violated for pair: {← a.plain}, {← b.plain} -> {← c.plain}"

/-- The first entries of a list; a negative number says how many to leave out at the end. -/
def upTo {α : Type} (m : Int) (xs : List α) : List α :=
  if m < 0 then xs.take (xs.length - m.natAbs) else xs.take m.toNat

/-- The second and third factors that do not associate with the first factor number `i`. -/
def badPairs (t : Table) (i : Nat) : List (Nat × Nat) :=
  (List.range t.size).flatMap fun j =>
    let ij := (t.get i j).toNat
    (List.range t.size).filterMap fun k =>
      if t.get ij k == t.get i (t.get j k).toNat then none else some (j, k)

/-- The report of three factors that do not associate. -/
def tripleViolation (G : FiniteGroup) (i : Nat) (jk : Nat × Nat) : Except Fault String := do
  let a ← G.element i
  let b ← G.element jk.1
  let c ← G.element jk.2
  return s!"Associativity fails for triple: {← a.plain}, {← b.plain}, {← c.plain}"

/-- Adds the triples that do not associate, until the list is longer than ten times the number
of triples that are listed for each first factor. -/
def addTriples (G : FiniteGroup) (t : Table) (most : Value) :
    (firsts : List Nat) → List String → Except Fault (List String)
  | [], found => .ok found
  | i :: firsts, found => do
    if t.size ≤ i ∨ t.entries.any fun n => (t.size : Int) ≤ n then throw .outOfBounds
    let most' ← most.index
    let found := found ++ (← (upTo most' (badPairs t i)).mapM (G.tripleViolation i))
    if 10 * most' < found.length then return found else addTriples G t most firsts found

/-- The violations of the group axioms. -/
def verify (G : FiniteGroup) (most : Value) : Except Fault Verdict := do
  if G.order = 0 then return ⟨["Element set is empty"]⟩
  let identity ← G.identityViolations
  let inverse ← G.inverseViolations
  let t ← G.table
  let closure ← G.closureViolations t
  let found := identity ++ inverse ++ closure
  if t.entries.all (0 ≤ ·) then return ⟨← G.addTriples t most (List.range G.order) found⟩
  else return ⟨found⟩

/-- How many triples are listed for each first factor, unless a number is given. -/
def maxErrors : Value := .int 20

/-- The inverses that are found among the elements as a mapping, unless the group was given an
inverse. -/
def foundInverses (G : FiniteGroup) : Except Fault Value := do
  match G.inv with
  | .none => return Value.ofAssignment (← (keptInverses G.kept G.els G.mul G.identity).get)
  | _ => return G.kept

/-- Refuses a group that does not satisfy the axioms. -/
def requireAxioms (G : FiniteGroup) : Except Fault Unit := do
  let v ← G.verify maxErrors
  if v.ok then return () else throw (.axiomsViolated v.summary)

/-- The group itself, if it satisfies the axioms. Its table and its inverses are known then. -/
def checked (G : FiniteGroup) : Except Fault FiniteGroup := do
  G.requireAxioms
  return { G with memory := ← G.tableValue, kept := ← G.foundInverses }

/-- The group itself; if a flag counts as true, it must satisfy the axioms. -/
def checkedIf (flag : Value) (G : FiniteGroup) : Except Fault FiniteGroup := do
  if ← flag.truthy then G.checked else return G

end FiniteGroup

end FiniteGroups
