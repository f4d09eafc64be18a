import FiniteGroups.Assignment
import FiniteGroups.Report

/-!
# Closure

The smallest set that contains given seeds and is closed under a multiplication is found in
rounds. The boundary, at first the seeds, holds what the last round found; a round multiplies
each element of the boundary by each seed and keeps what is new. When a round finds nothing, the
set is closed. In a finite group this also brings in all inverses.

* `closure` : the closure of generators;
* `seeds` : generators and, if an inverse is given, their inverses;
* `closeMap` : the same for a map between two multiplications, which is extended from the
  generators to all products and refused when two products disagree.

The multiplication is arbitrary, so the set may never close. The rounds of both searches are
therefore partial: `none` is a search that never ends, which `Report.ended` turns into the fault
`exhausted`. A search that has a result has come to its end.
-/

namespace FiniteGroups

variable {α β : Type} [BEq α] [Hashable α] [EquivBEq α] [LawfulHashable α]

/-- The state of a search: more is to come, or the size asked for has been reached. -/
inductive Search (σ : Type) where
  | going (found : σ)
  | full (found : σ)

/-- Never stops a search. -/
def unlimited (_ : Nat) : Except Fault Bool := .ok false

/-- Adds the new ones among the products of `a` with the seeds. -/
def extendBy (mul : α → α → Except Fault α) (stop : Nat → Except Fault Bool)
    (a : α) :
    (seeds : List α) → Roster α → Except Fault (Search (Roster α))
  | [], found => .ok (.going found)
  | b :: seeds, found => do
    let c ← mul a b
    if new : found.contains c = false then
      let found := found.push c new
      if ← stop found.size then return .full found
      else extendBy mul stop a seeds found
    else extendBy mul stop a seeds found

/-- One round: multiplies each element of the boundary by each seed. -/
def sweep (mul : α → α → Except Fault α) (stop : Nat → Except Fault Bool) (seeds : List α) :
    (boundary : List α) → Roster α → Except Fault (Search (Roster α))
  | [], found => .ok (.going found)
  | a :: boundary, found => do
    match ← extendBy mul stop a seeds found with
    | .going found => sweep mul stop seeds boundary found
    | .full found => return .full found

/-- Rounds until nothing new is found. The boundary is what was found from position `start` on,
and the size is reported at the beginning of each round. -/
def Roster.rounds (mul : α → α → Except Fault α) (stop : Nat → Except Fault Bool) (seeds : List α)
    (text : String) (start : Nat) (found : Roster α) : Option (Report (Roster α)) :=
  if start = found.size then some ⟨text ++ "\n", .ok found⟩
  else
    let size := found.size
    let text := text ++ s!"{size} "
    match sweep mul stop seeds (found.since start) found with
    | .error e => some ⟨text, .error e⟩
    | .ok (.full found) => some ⟨text, .ok found⟩
    | .ok (.going next) => next |>.rounds mul stop seeds text size
partial_fixpoint

/-- The generators, and behind them their inverses if an inverse is given. -/
def seeds (gens : List α) (inv : Option (α → Except Fault α)) : Except Fault (List α) :=
  match inv with
  | none => .ok gens
  | some f => do return gens ++ (← gens.mapM f)

/-- The closure of some generators, in the order in which its elements are found. The search stops
early when it is told to at the number of elements found. -/
def closure (gens : Roster α) (mul : α → α → Except Fault α)
    (stop : Nat → Except Fault Bool) : Report (Roster α) :=
  .ended (gens.rounds mul stop gens.toList "" 0)

/-! ## Maps -/

/-- What the extension of a map needs to know: the multiplications on both sides, how a product
becomes a key, whether two images are equal, and how an element is called. -/
structure Extension (α β : Type) where
  mul₁ : α → α → Except Fault α
  mul₂ : β → β → Except Fault β
  key : α → Except Fault α
  agree : β → β → Except Fault Bool
  label : α → Except Fault String

/-- Adds the products of `a` with the boundary, each sent to the product of the images. -/
def extendMapBy (ext : Extension α β) (a : α × β) :
    (boundary : List (α × β)) → Assignment α β → Except Fault (Assignment α β)
  | [], m => .ok m
  | b :: boundary, m => do
    let c ← ext.mul₁ a.1 b.1
    let d ← ext.mul₂ a.2 b.2
    let c ← ext.key c
    if new : m.keys.contains c = false then
      extendMapBy ext a boundary (m.push c d new)
    else
      let agree ← match m.get? c with
        | some d' => ext.agree d' d
        | none => pure false
      if agree then extendMapBy ext a boundary m
      else throw (.notMultiplicative (← ext.label a.1) (← ext.label b.1))

/-- Rounds until the map is closed under products. -/
def Extension.rounds (ext : Extension α β) (gens : List (α × β)) (text : String) (start : Nat)
    (m : Assignment α β) : Option (Report (Assignment α β)) :=
  if start = m.size then some ⟨text ++ "\n", .ok m⟩
  else
    let size := m.size
    let text := text ++ s!"{size} "
    let boundary := m.since start
    match gens.foldlM (fun m a => extendMapBy ext a boundary m) m with
    | .error e => some ⟨text, .error e⟩
    | .ok next => ext |>.rounds gens text size next
partial_fixpoint

/-- The map that extends an assignment of images to generators and sends products to products. -/
def closeMap (gens : Assignment α β) (ext : Extension α β) : Report (Assignment α β) :=
  .ended (ext.rounds gens.toList "" 0 gens)

end FiniteGroups
