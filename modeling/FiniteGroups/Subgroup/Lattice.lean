import FiniteGroups.Subgroup.Search

/-!
# The lattice of subgroups

What can be said about the subgroups of a group once they are listed: which are maximal, what
they have in common (the Frattini subgroup), which lies directly below which, which are
conjugate, and which are normal. Each function takes the list of subgroups, so it can be asked
about any list, complete or not, and even about sets of elements that are no groups.
-/

namespace FiniteGroups

namespace Candidate

/-- Whether `H` is smaller than `K` and all its elements belong to `K`. -/
def below (H K : Candidate) : Except Fault Bool := do
  if (← H.size) < (← K.size) then return (← H.elements).subset (← K.elements) else return false

/-- The candidates of fewer than `n` elements that do not lie below another one of these. -/
def maximalAmong (n : Nat) (subs : List Candidate) : Except Fault (List Candidate) := do
  let proper ← subs.filterM fun H => do return (← H.size) < n
  proper.filterM fun H => do return !(← proper.anyM H.below)

/-- The maximal ones among some subgroups. -/
def maximal (G : Candidate) (subs : List Candidate) : Except Fault (List Candidate) := do
  maximalAmong (← G.size) subs

/-- What some candidates have in common. -/
def common (H : Candidate) (rest : List Candidate) : Except Fault (List Value) := do
  rest.foldlM (fun items K => do
    let elements ← K.elements
    return items.filter elements.contains) (← H.elements).toList

/-- The subgroup that is spanned by what the maximal subgroups have in common; the trivial one if
there are none. -/
def frattini (G : Candidate) (subs : List Candidate) : Except Fault FiniteGroup := do
  match ← G.maximal subs with
  | [] => (← G.group).trivial
  | H :: rest => do
    let items ← common H rest
    (← G.group).span items

/-- Whether one of the candidates is smaller than `K` and all its elements belong to `K`. -/
def isAboveSome (K : Candidate) (others : List Candidate) : Except Fault Bool :=
  others.anyM fun L => L.below K

/-- The positions of those that lie directly above `H`. -/
def covers (H : Candidate) (numbered : List (Candidate × Nat)) : Except Fault (List Nat) := do
  let above ← numbered.filterM fun (K, _) => H.below K
  let direct ← above.filterM fun (K, _) => do
    return !(← K.isAboveSome (above.map Prod.fst))
  return direct.map Prod.snd

/-- The pairs of positions of which the first candidate lies below the second, with none of the
list in between. -/
def lattice (subs : List Candidate) : Except Fault (List (Nat × Nat)) := do
  let numbered := subs.zipIdx
  let pairs ← numbered.mapM fun (H, i) => do return (← H.covers numbered).map fun j => (i, j)
  return pairs.flatten

/-! ## Classes of conjugates -/

/-- Removes what has given elements from a list, if there is such a thing. -/
def takeOut (elements : Roster Value) :
    List (Roster Value × Candidate) → Option (Candidate × List (Roster Value × Candidate))
  | [] => none
  | H :: rest =>
    if H.1.sameSet elements then some (H.2, rest)
    else (takeOut elements rest).map fun (found, rest) => (found, H :: rest)

/-- Puts a candidate behind a list, or in the place of the one with the same elements. -/
def putIn (K : Roster Value × Candidate) :
    List (Roster Value × Candidate) → List (Roster Value × Candidate)
  | [] => [K]
  | H :: rest => if H.1.sameSet K.1 then K :: rest else H :: putIn K rest

/-- Takes the conjugates of `H` by the given elements out of the candidates that remain. -/
def takeConjugates (G H : Candidate) :
    (conjugators : List Value) → (remain : List (Roster Value × Candidate)) →
      Except Fault (List Candidate × List (Roster Value × Candidate))
  | [], remain => .ok ([], remain)
  | g :: rest, remain => do
    match takeOut (← G.conjugateSubgroup H g).elements remain with
    | none => takeConjugates G H rest remain
    | some (K, remain) => do
      let (found, remain) ← takeConjugates G H rest remain
      return (K :: found, remain)

/-- Distributes the candidates that remain over classes of conjugates. -/
def classesOf (G : Candidate) :
    (subs : List Candidate) → (remain : List (Roster Value × Candidate)) →
      Except Fault (List (List Candidate))
  | [], _ => .ok []
  | H :: subs, remain => do
    let elements ← H.elements
    if remain.any fun K => K.1.sameSet elements then
      let (found, remain) ← G.takeConjugates H (← G.entries) remain
      return found :: (← classesOf G subs remain)
    else classesOf G subs remain

/-- The candidates of a list up to conjugacy. -/
def subgroupClasses (G : Candidate) (subs : List Candidate) :
    Except Fault (List (List Candidate)) := do
  let remain ← subs.foldlM (fun remain H => do return putIn (← H.elements, H) remain) []
  G.classesOf subs remain

/-! ## Normal subgroups -/

/-- The normal ones among the candidates of a list. -/
def normalAmong (G : Candidate) (subs : List Candidate) : Except Fault (List Candidate) :=
  subs.filterM G.isNormal

/-- Whether exactly two candidates of a list are normal. A group of one element is not simple,
and for it the list is not asked for. -/
def isSimple (G : Candidate) (subs : Report (List Candidate)) : Report Bool := do
  if (← G.size) = 1 then return false
  else return (← G.normalAmong (← subs)).length == 2

end Candidate

end FiniteGroups
