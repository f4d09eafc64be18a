import FiniteGroups.Group.Axioms
import FiniteGroups.Value.Part
import FiniteGroups.Value.Sharing

/-!
# Sessions

A session keeps values under names, while steps are taken that use them. Values that share a part
go on sharing it: when a list, a mapping or an array is changed, it is changed in all values that
are kept.

What is kept with a value once somebody asked for it does not follow such changes. Nobody needs to
know who has asked as long as nothing changes, since what was asked for could as well be computed
anew. Only before a change the session looks back: it goes through the earlier steps again while
the parts in question are hidden, and the steps that come upon a hidden part have asked for it.

* `Session.keep`, `Session.get?` : values under names;
* `Session.settleEach` : gives places to what is fresh in some values;
* `Session.remember` : a step to look back at;
* `Session.change` : changes an entry of a collection;
* `Session.expose`, `Session.number` : keep the table and the positions of a group, since they
  are about to be handed out.
-/

namespace FiniteGroups

/-- A part that is kept with the value at a place. -/
abbrev Memory := Kept × Nat

/-- An earlier step. When the values that it meets are altered, it tells which hidden part it comes
upon first. -/
abbrev Question := (Value → Value) → Option Memory

namespace Value

/-- Whether a part could be kept with a value, but is not. -/
def lacks (part : Kept) : Value → Bool
  | .group _ _ _ _ _ _ inv _ _ _ table _ inverses =>
    match part with
    | .table => (table matches .none)
    | .inverses => (inv matches .none) && (inverses matches .none)
    | _ => false
  | .coset _ _ _ _ _ _ state => part == .members && state == .loose
  | .map _ _ _ trace => part == .images && (trace matches .none)
  | _ => false

/-- A value with a part of it kept. -/
def keeping (v : Value) (part : Kept) (x : Value) : Value :=
  match v with
  | .group origin p listing xs law e inv gens name links table positions inverses =>
    match part with
    | .table => .group origin p listing xs law e inv gens name links x positions inverses
    | .inverses => .group origin p listing xs law e inv gens name links table positions x
    | _ => .group origin p listing xs law e inv gens name links table positions inverses
  | .map src tgt send _ => .map src tgt send x
  | .coset side p parent subgroup rep xs _ =>
    match x with
    | .unseen part place => .coset side p parent subgroup rep [] (.faulty (.unseen part place))
    | _ => .coset side p parent subgroup rep xs .settled
  | v => v

/-- A part of a value that is not kept, computed. -/
def compute? (part : Kept) (v : Value) : Option Value :=
  match FiniteGroup.ofValue? v, part with
  | some G, .table => G.tableValue.toOption
  | some G, .inverses => G.foundInverses.toOption
  | _, .members => some .none
  | _, .images =>
    match v.keyed with
    | .ok (.map _ _ _ trace) => some trace
    | _ => Option.none
  | _, _ => Option.none

/-- The kinds of parts that may be kept. -/
def keepable : List Kept := [.table, .inverses, .members, .images]

/-- A value in which the parts are hidden that are not kept and satisfy a condition. -/
def veiled (hides : Memory → Bool) (v : Value) : Value :=
  v.alter fun x => keepable.foldl (fun x part =>
    if x.placeOf != 0 && x.lacks part && hides (part, x.placeOf) then
      x.keeping part (.unseen part x.placeOf)
    else x) x

end Value

/-- A value under a name. If the value came about under that name, its origin is a number that
tells it apart from all others, and otherwise zero. -/
structure Register where
  name : String
  origin : Nat
  value : Value

/-- Values under names, the next place that is free, and the steps so far, the last one first. -/
structure Session where
  registers : List Register
  next : Nat
  questions : List Question

namespace Session

/-- A session in which nothing is kept. The place zero is for what is fresh, and the place one for
results that are no numbers and are written down as such. -/
def empty : Session := ⟨[], 2, []⟩

/-- What is kept under a name. -/
def find? (s : Session) (name : String) : Option Register :=
  s.registers.find? fun r => r.name == name

/-- The value under a name. -/
def get? (s : Session) (name : String) : Option Value := (s.find? name).map Register.value

/-- The origin of the value under a name. -/
def origin (s : Session) (name : String) : Nat := ((s.find? name).map Register.origin).getD 0

/-- Takes the next place that is free. -/
def takePlace (s : Session) : Nat × Session := (s.next, { s with next := s.next + 1 })

/-- Keeps a value of some origin under a name, in the place of an earlier one. -/
def keep (s : Session) (name : String) (origin : Nat) (v : Value) : Session :=
  { s with registers := ⟨name, origin, v⟩ :: s.registers.filter fun r => r.name != name }

/-- Gives places to what is fresh in some values. -/
def settleEach (s : Session) (xs : List Value) : List Value × Session :=
  let (xs, next) := (Value.settleEach xs).run s.next
  (xs, { s with next })

/-- Keeps a step to look back at. -/
def remember (s : Session) (q : Question) : Session := { s with questions := q :: s.questions }

/-- The session with all values altered. -/
def alter (s : Session) (f : Value → Value) : Session :=
  { s with registers := s.registers.map fun r => { r with value := r.value.alter f } }

/-! ## Looking back -/

/-- What a step has asked for besides what is known already. Each round asks for something new. -/
def asked (q : Question) : (bound : Nat) → List Memory → List Memory
  | 0, known => known
  | bound + 1, known =>
    match q (Value.veiled fun m => !known.contains m) with
    | none => known
    | some m => if known.contains m then known else asked q bound (m :: known)

/-- A bound on what one step asks for. -/
def maxAsked : Nat := 10000

/-- Everything that the steps so far have asked for. -/
def demanded (s : Session) : List Memory :=
  s.questions.foldr (fun q known => asked q maxAsked known) []

/-- Keeps a part with the value at a place, unless it is kept already or cannot be computed. It
gets a place of its own. -/
def filled (m : Memory) (next : Nat) (v : Value) : Value :=
  if v.placeOf = m.2 ∧ v.lacks m.1 then
    match v.compute? m.1 with
    | some (.array _ g) => v.keeping m.1 (.array next g)
    | some (.mapping _ xs) => v.keeping m.1 (.mapping next xs)
    | some x => v.keeping m.1 x
    | none => v
  else v

/-- Keeps a part with the value at a place, wherever the value occurs. -/
def fill (s : Session) (m : Memory) : Session :=
  { s.alter (filled m s.next) with next := s.next + 1 }

/-- Keeps what the steps so far have asked for. The step that is being taken uses some values, in
which the parts are kept as well. -/
def settleDemands (s : Session) (used : List Value) : Session × List Value :=
  s.demanded.foldl (fun (s, used) m => (s.fill m, Value.alterEach (filled m s.next) used))
    (s, used)

/-- Changes an entry of a collection wherever the collection occurs. What the steps so far have
asked for is kept first. -/
def change (s : Session) (a k v : Value) : Except Fault Session := do
  match s.settleDemands [a, k, v] with
  | (s, [a, k, v]) => do
    let new ← a.withItem k v
    return s.alter fun x => (x.refilled new).regathered
  | (s, _) => return s

/-! ## Handing out -/

/-- Keeps the table of a group if a step is going to ask for it. -/
def expose (s : Session) (G : Value) (q : Question) : Session :=
  let m := (Kept.table, G.placeOf)
  if q (Value.veiled (· == m)) == some m then s.fill m else s

/-- Keeps the positions of the elements of a group. -/
def number (s : Session) (G : Value) : Session :=
  let place' := s.next
  { s.alter fun v =>
      match v with
      | .group origin p listing xs law e inv gens name links table .none inverses =>
        let positions :=
          match Value.numbering xs .none with
          | .mapping _ ys => Value.mapping place' ys
          | v => v
        if p = G.placeOf then
          .group origin p listing xs law e inv gens name links table positions inverses
        else v
      | v => v with
    next := place' + 1 }

end Session

end FiniteGroups
