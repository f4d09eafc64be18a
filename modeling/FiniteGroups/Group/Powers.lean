import FiniteGroups.Group.Basic

/-!
# Powers and orders

Powers are computed by repeated squaring, the order of an element by multiplying until the
identity comes up. In a group of `n` elements no order exceeds `n`, so a longer search shows
that the list is no group. The exponent is the least common multiple of all orders.
-/

namespace FiniteGroups.FiniteGroup

/-- The power `g ^ k`; a negative exponent takes powers of the inverse. -/
def pow (G : FiniteGroup) (g : Value) (k : Int) : Except Fault Value :=
  powerOf G.mul G.inverse G.identity g k

/-- The least positive `k` for which `g ^ k` is the identity. -/
def elementOrder (G : FiniteGroup) (g : Value) : Except Fault Nat :=
  orderOf G.mul G.identity G.order g

/-- Whether `a * b` and `b * a` are equal. -/
def commute (G : FiniteGroup) (a b : Value) : Except Fault Bool := do
  (← G.mul a b).equal (← G.mul b a)

/-- Whether each element of a list commutes with those behind it. -/
def allCommute (G : FiniteGroup) : List Value → Except Fault Bool
  | [] => .ok true
  | a :: rest => do
    if ← rest.allM fun b => G.commute a b then allCommute G rest else return false

/-- Whether any two elements commute. -/
def isAbelian (G : FiniteGroup) : Except Fault Bool := G.allCommute G.els

/-- Whether some element has the order of the group. -/
def isCyclic (G : FiniteGroup) : Except Fault Bool :=
  G.els.anyM fun g => do return (← G.elementOrder g) == G.order

/-- The least common multiple of the orders of the elements. -/
def exponent (G : FiniteGroup) : Except Fault Int := do
  let orders ← G.els.mapM G.elementOrder
  (orders.map Int.ofNat).foldlM lcm 1

end FiniteGroups.FiniteGroup
