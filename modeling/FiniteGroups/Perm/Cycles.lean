import FiniteGroups.Perm.Basic

/-!
# Cycles

Every point lies on exactly one cycle of a permutation. `Perm.cycles` lists the cycles by their
least points, each from its least point onwards and fixed points included; the cycle type, the
sign and the usual notation are read off that list. `Perm.takenCycles` finds the same list in one
run over the points, from which each cycle takes its points away.
-/

namespace FiniteGroups

namespace Perm

/-- The points met on the way from `i`, up to and without the point `start`. -/
def path (p : Perm) (start : Nat) : (steps : Nat) → (i : Nat) → List Nat
  | 0, _ => []
  | steps + 1, i => if i = start then [] else i :: path p start steps (p.image i)

/-- The cycle through a point, from that point onwards. -/
def cycleAt (p : Perm) (i : Nat) : List Nat := i :: p.path i p.degree (p.image i)

/-- The cycles, each from its least point onwards, in the order of their least points. -/
def cycles (p : Perm) : List (List Nat) :=
  (p.points.map p.cycleAt).filter fun c => c.all (c.headD 0 ≤ ·)

/-! ## Taking the cycles out of the points

The same cycles, found one after the other: a walk from a point that remains takes the points that
it meets away from the others. What the walk relies on is watched. -/

/-- The points met on the way from `i`, up to and without the point `start`; there may be `left` of
them. -/
def walk (p : Perm) (start : Nat) : (left : Nat) → (i : Nat) → Except Fault (List Nat)
  | left, i =>
    if i = start then .ok []
    else match left with
      | 0 => .error .failedCheck
      | left + 1 => do return i :: (← p.walk start left (← p.apply i))

/-- Takes a point away, which must be there. -/
def takeAway (remain : List Nat) (i : Nat) : Except Fault (List Nat) :=
  if i ∈ remain then .ok (remain.erase i) else .error .missingKey

/-- The cycles through those of some points that remain when their turn comes. -/
def takeCycles (p : Perm) : (points remain : List Nat) → Except Fault (List (List Nat))
  | [], _ => .ok []
  | i :: points, remain =>
    if i ∈ remain then do
      let cycle := i :: (← p.walk i (p.degree - 1) (← p.apply i))
      let remain ← cycle.foldlM takeAway remain
      return cycle :: (← p.takeCycles points remain)
    else p.takeCycles points remain

/-- The cycles, taken out of the points one after the other. -/
def takenCycles (p : Perm) : Except Fault (List (List Nat)) := p.takeCycles p.points p.points

/-! ## What is read off the cycles -/

/-- The lengths of the cycles in increasing order. -/
def cycleType (p : Perm) : List Nat := (p.cycles.map List.length).mergeSort

/-- `1` or `-1`, according to whether the number of cycles of even length is even or odd. -/
def sign (p : Perm) : Int := p.cycles.foldl (fun s c => if c.length % 2 = 0 then -s else s) 1

/-- The points that stay where they are. -/
def fixedPoints (p : Perm) : List Nat := p.points.filter fun i => p.image i == i

/-- The cycles of more than one point in the usual notation; `()` if there are none. -/
def cycleText (p : Perm) : String :=
  match p.cycles.filter (1 < ·.length) with
  | [] => "()"
  | cs => String.join (cs.map fun c => "(" ++ " ".intercalate (c.map toString) ++ ")")

end Perm

end FiniteGroups
