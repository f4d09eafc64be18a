import FiniteGroups.Combinations
import FiniteGroups.Subgroup.Normal

/-!
# All subgroups

Three searches for the subgroups of a group.

* `bruteSubgroups` tries all sets of elements whose size divides the order. It is exact, and
  refused above a limit, since there are exponentially many sets.
* `genSubgroups` closes all sets of at most `k` elements. It misses the subgroups that need more
  than `k` generators.
* `joinSubgroups` starts from the cyclic subgroups and joins cyclic subgroups to what was found
  until nothing new turns up. It is exact, since a subgroup is the join of its cyclic subgroups.

`allSubgroups` runs one of them and sorts the result by order. All searches report a point for
each subgroup that they find.
-/

namespace FiniteGroups

/-- The largest order for which all sets of elements are tried. -/
def maxBrute : Value := .int 20

/-- The largest order for which sets of four generators are tried. -/
def smallOrder : Nat := 32

/-- The largest order for which subgroups are searched by generators. -/
def maxSearch : Value := .int 200

/-- Whether elements form a subgroup. -/
def Candidate.isClosed (G : Candidate) (els : List Value) : Except Fault Bool := do
  let items ← Value.distinct els
  if items.contains (← (← G.identity).sought) then
    let mul ← G.mul
    let inverse ← G.inverse
    items.toList.allM fun a => do
      if items.contains (← (← inverse a).sought) then
        items.toList.allM fun b => do
          return items.contains (← (← mul a b).sought)
      else return false
  else return false

/-- Refuses a search in a group of more than `limit` elements. Without a limit none is refused. -/
def refuseAbove (limit : Value) (n : Nat) (fault : Nat → Int → Fault) : Except Fault Unit := do
  match limit with
  | .none => return ()
  | limit =>
    if ← limit.before (Value.ofNat n) then
      let _ ← limit.decimalText
      throw (fault n (← limit.decimal))

namespace FiniteGroup

/-- The elements other than the identity. -/
def others (G : FiniteGroup) : Except Fault (List Value) :=
  G.els.filterM fun g => do return !(← g.equal G.identity)

/-- Adds the candidate to the subgroups found, if it is one. -/
def tryCandidate (G : FiniteGroup) (found : Array FiniteGroup) (els : List Value) :
    Report (Array FiniteGroup) := do
  if ← G.candidate.isClosed els then
    let H ← G.subgroup els .none .none
    Report.say "."
    return found.push H
  else return found

/-- The sets of elements that form a subgroup, among those whose size divides the order. -/
def allClosed (G : FiniteGroup) : Report (List FiniteGroup) := do
  let others ← G.others
  let found ← Report.fold (fun found m => do
    Report.say s!"[{m}]"
    Report.fold (fun found els => G.tryCandidate found (G.identity :: els)) found
      (combinations others (m - 1))) #[] (divisors G.order)
  Report.say "\n"
  return found.toList

/-- The subgroup that `gens` generate, marked with these generators. -/
def spannedBy (G : FiniteGroup) (gens : List Value) (els : Roster Value) :
    Except Fault FiniteGroup := do
  requireIdentity G.identity els.toList
  return G.subgroupOf els (.list 0 gens) .none

/-- Whether one of the groups has the given elements. -/
def holds (found : Array FiniteGroup) (els : Roster Value) : Bool :=
  found.any fun H => H.elements.sameSet els

/-- Adds the subgroup that `gens` generate, if it is new. -/
def addSpan (G : FiniteGroup) (found : Array FiniteGroup) (gens : List Value) :
    Report (Array FiniteGroup) := do
  let els ← (spanned gens G.mul (some G.inverse) G.identity unlimited).outcome
  let els ← Value.distinct els
  if holds found els then return found
  else
    let H ← G.spannedBy gens els
    Report.say "."
    return found.push H

/-- The subgroups that are generated by as many of some elements as one of the numbers tells. -/
def allSpans (G : FiniteGroup) (els : List Value) (sizes : List Nat) :
    Report (List FiniteGroup) := do
  let found ← Report.fold (fun found r =>
    Report.fold G.addSpan found (combinations els r)) #[] sizes
  Report.say "\n"
  return found.toList

/-- Adds the subgroup of the powers of `g`, if it is new. -/
def addCyclic (G : FiniteGroup) (found : Array FiniteGroup) (g : Value) :
    Except Fault (Array FiniteGroup) := do
  let els ← Value.distinct (← (spanned [g] G.mul none .none unlimited).outcome)
  if holds found els then return found else return found.push (← G.spannedBy [g] els)

/-- The subgroups that are generated by one element. -/
def cyclicSubgroups (G : FiniteGroup) : Except Fault (List FiniteGroup) := do
  return (← G.els.foldlM G.addCyclic #[]).toList

/-- The subgroups found so far, and those among them that were found in this round and are to be
enlarged in the next one. -/
structure Joins where
  found : Array FiniteGroup
  fresh : Array FiniteGroup

/-- Adds the join of `H` and the cyclic subgroup `C`, if it is new. -/
def addJoin (G H : FiniteGroup) (joins : Joins) (C : FiniteGroup) : Report Joins := do
  if C.elements.subset H.elements then return joins
  else
    let gens := H.gens.listed ++ C.gens.listed
    let els ← Value.distinct (← (spanned gens G.mul none .none unlimited).outcome)
    if holds joins.found els then return joins
    else
      let K ← G.spannedBy gens els
      Report.say "."
      return ⟨joins.found.push K, if K.order < G.order then joins.fresh.push K else joins.fresh⟩

/-- One round: joins the cyclic subgroups to each subgroup of the boundary. -/
def joinRound (G : FiniteGroup) (cyclic boundary : List FiniteGroup) (found : Array FiniteGroup) :
    Report Joins :=
  Report.fold (fun joins H => Report.fold (G.addJoin H) joins cyclic) ⟨found, #[]⟩ boundary

/-- Rounds of joining cyclic subgroups to those of the last round. -/
def joinRounds (G : FiniteGroup) (cyclic : List FiniteGroup) (text : String)
    (boundary : List FiniteGroup) (found : Array FiniteGroup) :
    Option (Report (Array FiniteGroup)) :=
  if boundary.isEmpty then some ⟨text, .ok found⟩
  else
    let joins := joinRound G cyclic boundary found
    let text := text ++ joins.text
    match joins.outcome with
    | .error e => some ⟨text, .error e⟩
    | .ok joins => G |>.joinRounds cyclic text joins.fresh.toList joins.found
partial_fixpoint

/-- The subgroups, as joins of cyclic ones; the group itself comes right behind these. -/
def allJoins (G : FiniteGroup) : Report (List FiniteGroup) := do
  let cyclic ← G.cyclicSubgroups
  let start := cyclic.toArray
  let start ← (if holds start G.elements then pure start
    else return start.push (← G.subgroup G.els G.gens .none) : Except Fault (Array FiniteGroup))
  let found ← Report.ended
    (G.joinRounds cyclic "" (cyclic.filter fun H => H.order < G.order) start)
  Report.say "\n"
  return found.toList

end FiniteGroup

namespace Candidate

/-- The sets of elements that form a subgroup, unless there are more elements than a limit. -/
def bruteSubgroups (G : Candidate) (limit : Value) : Report (List FiniteGroup) := do
  refuseAbove limit (← G.size) .bruteForceTooLarge
  (← G.group).allClosed

/-- The subgroups that are generated by at most `k` elements; four of them for groups of at most
`smallOrder` elements and two for others, unless a number is given. -/
def genSubgroups (G : Candidate) (k limit : Value) : Report (List FiniteGroup) := do
  let n ← G.size
  refuseAbove limit n .searchTooLarge
  let G ← G.group
  let others ← G.others
  let k ← (match k with
    | .none => pure (if n ≤ smallOrder then 4 else 2)
    | k => k.index : Except Fault Int)
  G.allSpans others (List.range (k + 1).toNat)

/-- The subgroups as joins of cyclic ones, unless there are more elements than a limit. -/
def joinSubgroups (G : Candidate) (limit : Value) : Report (List FiniteGroup) := do
  refuseAbove limit (← G.size) .searchTooLarge
  (← G.group).allJoins

/-- The subgroups that are generated by one element. What has no elements has none. -/
def cyclicSubgroups (G : Candidate) : Except Fault (List FiniteGroup) := do
  if (← G.entries).isEmpty then return [] else (← G.group).cyclicSubgroups

end Candidate

/-- The ways to search for subgroups. -/
inductive SearchMethod where
  | brute
  | gens (k : Value)
  | cyclic

/-- All subgroups in the order of their sizes. Without a limit the one of the method holds. -/
def Candidate.allSubgroups (G : Candidate) (method : SearchMethod) (limit : Value) :
    Report (List FiniteGroup) := do
  let limited (default : Value) : Value := match limit with
    | .none => default
    | limit => limit
  let found ← match method with
    | .brute => G.bruteSubgroups (limited maxBrute)
    | .gens k => G.genSubgroups k (limited maxSearch)
    | .cyclic => G.joinSubgroups (limited maxSearch)
  let n ← G.size
  if found.any fun H => H.order == 0 then throw .divisionByZero
  if found.all fun H => n % H.order == 0 then
    return found.mergeSort fun H K => H.order ≤ K.order
  else throw .indivisibleOrder

end FiniteGroups
