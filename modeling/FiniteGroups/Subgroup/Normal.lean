import FiniteGroups.Group.Candidate

/-!
# Conjugates and commuting elements

Conjugates of a subgroup, normality, and the subgroups that are defined by conjugating and
commuting: normalizer, centralizer, center and commutator subgroup. Each of these collects
elements of the group and hands them to the closure, so that the answer is a subgroup whatever
was collected.
-/

namespace FiniteGroups.Candidate

/-- The conjugates `g * h * g⁻¹` of the elements `h` of `H`. -/
def conjugates (G H : Candidate) (g : Value) : Except Fault (List Value) := do
  (← H.entries).mapM fun h => G.conjugate h g

/-- The conjugates as a set. -/
def conjugateSet (G H : Candidate) (g : Value) : Except Fault (Roster Value) := do
  return .ofList (← (← H.entries).mapM fun h => do (← G.conjugate h g).keyed)

/-- Whether conjugation by `g` maps `H`, with the given elements, onto itself. -/
def normalizes (G H : Candidate) (elements : Roster Value) (g : Value) : Except Fault Bool := do
  return (← G.conjugateSet H g).sameSet elements

/-- The subgroup `g * H * g⁻¹`. -/
def conjugateSubgroup (G H : Candidate) (g : Value) : Except Fault FiniteGroup := do
  let found ← G.conjugates H g
  (← G.demanded).subgroup found .none .none

/-- Whether every conjugate of `H` is `H`. -/
def isNormal (G H : Candidate) : Except Fault Bool := do
  let elements ← H.elements
  (← G.entries).allM (G.normalizes H elements)

/-- The elements whose conjugation maps `H` onto itself. -/
def normalizer (G H : Candidate) : Except Fault FiniteGroup := do
  let elements ← H.elements
  let found ← (← G.entries).filterM (G.normalizes H elements)
  (← G.group).span found

/-- Whether `g` commutes with every element of `H`. -/
def centralizes (mul : Value → Value → Except Fault Value) (H : Candidate) (g : Value) :
    Except Fault Bool := do
  (← H.entries).allM fun h => do (← mul g h).equal (← mul h g)

/-- The elements that commute with every element of `H`. -/
def centralizer (G H : Candidate) : Except Fault FiniteGroup := do
  let mul ← G.mul
  let found ← (← G.entries).filterM (centralizes mul H)
  (← G.group).span found

/-- The elements that commute with the powers of `g`. -/
def elementCentralizer (G : Candidate) (g : Value) : Except Fault FiniteGroup := do
  G.centralizer (← (← G.group).span [g])

/-- The elements that commute with all elements. -/
def center (G : Candidate) : Except Fault FiniteGroup := G.centralizer G

/-- The commutator `g⁻¹ * h⁻¹ * g * h`. -/
def commutator (G : Candidate) (g h : Value) : Except Fault Value := do
  let mul ← G.mul
  let inverse ← G.inverse
  mul (← mul (← inverse g) (← inverse h)) (← mul g h)

/-- The commutators of all pairs of elements, as a set. -/
def commutators (G : Candidate) : Except Fault (Roster Value) := do
  let els ← G.entries
  let found ← els.mapM fun g => els.mapM fun h => do (← G.commutator g h).keyed
  return .ofList found.flatten

/-- The subgroup that the commutators span. -/
def commutatorSubgroup (G : Candidate) : Except Fault FiniteGroup := do
  let found ← G.commutators
  (← G.group).span found.toList

/-- Whether only the identity commutes with all elements. -/
def isCenterless (G : Candidate) : Except Fault Bool := do return (← G.center).order == 1

end FiniteGroups.Candidate
