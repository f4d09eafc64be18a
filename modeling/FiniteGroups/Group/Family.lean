import FiniteGroups.Group.Candidate
import FiniteGroups.Value.Perms

/-!
# Families of groups

A family is a recipe for a group: an operation, an identity, inverses and generators, from which
the closure finds the elements. `Family.build` carries a recipe out and checks the order where
it is known beforehand.

`Family.make` refuses parameters for which there is no group. Permutations are built of at most
`maxDegree` points: there are `8! = 40320` of eight points. `Family.makeUpTo` takes the largest
number of points as a parameter.
-/

namespace FiniteGroups

/-- A recipe for a group: the kind of family and its parameters. The place tells whether two
recipes are one. -/
structure Family where
  place : Nat
  kind : Kind
  data : List Value

namespace Family

/-- A family as a value. -/
def value (F : Family) : Value := .family F.place F.kind F.data

/-- The largest number of points of which all permutations are listed. -/
def maxDegree : Int := 8

/-- The largest number of entries of a tuple. -/
def maxLength : Int := 0x7fffffffffffffff

/-! ## Choosing a family -/

/-- Refuses a number that is smaller than the least parameter of a family. -/
def checkLeast (family : String) (least : Nat) (n : Value) : Except Fault Unit := do
  if ← n.before (.int least) then throw (.familyParameter family least (← n.plain))

/-- Refuses numbers of points that are not positive or larger than `most`. -/
def checkDegree (most : Int) (n : Value) : Except Fault Unit := do
  checkLeast "symmetric" 1 n
  if ← (Value.int most).before n then
    let _ ← n.decimalText
    throw (.degreeTooLarge (← n.decimal) most)
  let _ ← Value.identityPerm n

/-- Whether `p` has no divisors but `1` and itself, and these are two. -/
def isPrime (p : Int) : Bool := 2 ≤ p && divisors p == [1, p.toNat]

/-- Refuses what is no prime. -/
def checkPrime (p : Value) : Except Fault Unit := do
  if ← p.before (.int 2) then throw (.notPrime (← p.plain))
  else if isPrime (← p.index) then return () else throw (.notPrime (← p.plain))

/-- The family of a kind with the given parameters, permutations being those of at most `most`
points. -/
def makeUpTo (most : Int) (kind : Kind) (data : List Value) : Except Fault Family := do
  match kind, data with
  | .abstract, [] | .quaternion, [] => pure ()
  | .cyclic, [n] => checkLeast "cyclic" 1 n
  | .dihedral, [n] => checkLeast "dihedral" 2 n
  | .symmetric, [n] | .alternating, [n] => checkDegree most n
  | .elementaryAbelian, [p, k] => do
    checkPrime p
    if ← k.before (.int 1) then throw (.rankTooSmall (← k.plain))
    if maxLength < (← k.index) then throw .overflow
  | .directProduct, [G, H] => do
    let _ ← G.identity
    let _ ← H.identity
  | _, _ => throw .wrongKind
  return ⟨0, kind, data⟩

/-- The family of a kind with the given parameters. -/
def make (kind : Kind) (data : List Value) : Except Fault Family := makeUpTo maxDegree kind data

/-! ## The recipe -/

/-- The operation; nothing for an abstract family. -/
def op (F : Family) : Value :=
  match Meaning.familyRule F.kind with
  | some rule => .op rule F.data
  | none => .none

/-- The identity. -/
def identity (F : Family) : Except Fault Value := F.value.identity

/-- The inverse of an element. -/
def inverse (F : Family) (a : Value) : Except Fault Value := do
  (← F.value.meaning.inverse) a

/-- The generators of a group, or all its elements if none are known. -/
def gensOf (G : Value) : Except Fault (List Value) := do
  match G with
  | .group _ _ listing _ _ _ _ gens _ _ _ _ _ =>
    if ← gens.truthy then gens.entries else return listing.listed
  | .family .. | .kind _ => throw .wrongKind
  | _ => throw .noAttribute

/-- The numbers from `1` up to and without `n`. -/
def below (n : Int) : List Int := (List.range' 1 (n - 1).toNat).map Int.ofNat

/-- The generators. -/
def gens (F : Family) : Except Fault (List Value) := do
  match F.kind, F.data with
  | .cyclic, [n] => return [← (Value.int 1).mod n]
  | .dihedral, [n] =>
    return [.tuple [← (Value.int 1).mod n, .int 0], .tuple [.int 0, .int 1]]
  | .symmetric, [n] => (below (← n.index)).mapM fun i => do
    return .perm (← Value.transposition (.int i) (.int (i + 1)) n)
  | .alternating, [n] => (below ((← n.index) - 1)).mapM fun i => do
    return .perm (← Value.cycle [.int i, .int (i + 1), .int (i + 2)] n)
  | .quaternion, _ => return [.tuple [.int 1, .text "i"], .tuple [.int 1, .text "j"]]
  | .elementaryAbelian, [_, k] =>
    let k := (← k.index).toNat
    return (List.range k).map fun i =>
      .tuple ((List.range k).map fun j => .int (if i = j then 1 else 0))
  | .directProduct, [G, H] =>
    let e ← G.identity
    let e' ← H.identity
    let gs := (← gensOf G).map fun g => Value.tuple [g, e']
    return gs ++ (← gensOf H).map fun h => .tuple [e, h]
  | _, _ => throw .unimplemented

/-- The name of the group. -/
def name (F : Family) : Except Fault String := do
  match F.kind, F.data with
  | .cyclic, [n] => return s!"C{← n.decimalText}"
  | .dihedral, [n] => return s!"D{← n.decimalText}"
  | .symmetric, [n] => return s!"S{← n.decimalText}"
  | .alternating, [n] => return s!"A{← n.decimalText}"
  | .quaternion, _ => return "Q8"
  | .elementaryAbelian, [p, k] => return s!"E{← p.decimalText}^{← k.decimalText}"
  | .directProduct, [G, H] => return s!"{← G.plain}x{← H.plain}"
  | kind, _ => return kind.className

/-- The order that the group must have, where it is checked when the group is built. -/
def size? (F : Family) : Except Fault (Option Nat) := do
  match F.kind, F.data with
  | .symmetric, [n] => return some (factorial (← n.index).toNat)
  | .alternating, [n] => return some (Nat.max 1 (factorial (← n.index).toNat / 2))
  | .directProduct, [G, H] => return some ((← G.length) * (← H.length))
  | _, _ => return none

/-- The group of a family, under the name of the family unless another one is given. -/
def build (F : Family) (name : Value) : Report FiniteGroup := do
  let name ← match name with
    | .none => (Value.text <$> F.name : Except Fault Value)
    | name => pure name
  let gens ← F.gens
  let G ← FiniteGroup.generate gens F.op (← F.identity) (.method 0 F.value "inverse") name
  match ← F.size? with
  | some n => if G.order = n then return G else throw .failedCheck
  | none => return G

/-- The group of a kind of family with the given parameters. -/
def group (kind : Kind) (data : List Value) : Except Fault FiniteGroup := do
  ((← make kind data).build .none).outcome

/-- The group of four elements that are all their own inverses. -/
def klein : Except Fault FiniteGroup := do
  ((← make .elementaryAbelian [.int 2, .int 2]).build (.text "V4")).outcome

/-- The family that a table of families has under a name, with the given parameters. -/
def ofName (table name : Value) (data : List Value) : Except Fault Family := do
  let found ← match table with
    | .kinds | .mapping .. => do
      match table.item name with
      | .error .missingKey => pure Value.none
      | found => found
    | _ => throw .noAttribute
  match found with
  | .none => throw (.unknownFamily (← name.quoted))
  | .kind kind => make kind data
  | f => do
    let _ ← f.call data
    throw .noAttribute

end Family

end FiniteGroups
