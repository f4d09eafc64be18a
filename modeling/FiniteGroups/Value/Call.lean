import FiniteGroups.Value.Multiplication
import FiniteGroups.Value.Perms

/-!
# Calling values

Operations, permutations, maps, actions and rules can be called, and a group or a family offers
its operation and its inverse. `Value.meaning` says what a value does when it is used in these
ways. It goes through a value once and prepares what many calls share, such as the inverses of a
group that have to be searched for.

A rule may call its first argument, which is not a part of the rule; a chain of such calls is
followed for a bounded number of steps.
-/

namespace FiniteGroups

/-- What a value does when it is used as a function or as a group. Of what it cannot do there is
the fault. -/
structure Meaning where
  /-- The value of a call. -/
  call : List Value → Except Fault Value
  /-- The operation that belongs to the value. -/
  op : Except Fault (Value → Value → Except Fault Value)
  /-- The inverse that belongs to the value. -/
  inverse : Except Fault (Value → Except Fault Value)
  /-- The conjugate `x * g * x⁻¹` of `g` by `x`. -/
  conjugate : Value → Value → Except Fault Value
  /-- Powers in a group. -/
  power : Value → Value → Except Fault Value
  /-- Whether something is a part of the value. -/
  contains : Value → Except Fault Bool
  /-- The value of a function of a name that belongs to the value. -/
  method : String → List Value → Except Fault Value

/-! ## Groups from an operation and an inverse -/

/-- The first candidate whose product with `a` is the identity. -/
def searchInverse (mul : Value → Value → Except Fault Value) (identity a : Value)
    (candidates : List Value) : Except Fault (Option Value) :=
  candidates.findM? fun b => do (← mul a b).equal identity

/-- The inverses that can be found among the elements. -/
def searchInverses (els : List Value) (mul : Value → Value → Except Fault Value)
    (identity : Value) : Except Fault (Assignment Value Value) :=
  els.foldlM (fun found a => do
    match ← searchInverse mul identity a els with
    | some b => return found.set (← a.keyed) b
    | none => return found) .empty

/-- The inverses that are kept, or else those that can be found. -/
def keptInverses (kept : Value) (els : List Value) (mul : Value → Value → Except Fault Value)
    (identity : Value) : Thunk (Except Fault (Assignment Value Value)) :=
  Thunk.mk fun _ =>
    match kept with
    | .none => searchInverses els mul identity
    | .unseen part place => .error (.unseen part place)
    | kept => .ok kept.assignment

/-- The inverse that was found for an element, or nothing. -/
def foundInverse (table : Thunk (Except Fault (Assignment Value Value))) (a : Value) :
    Except Fault Value := do
  return ((← table.get).get? (← a.keyed)).getD .none

/-- The conjugate `x * a * x⁻¹`. -/
def conjugateBy (mul : Value → Value → Except Fault Value)
    (inverse : Value → Except Fault Value) (a x : Value) : Except Fault Value := do
  mul (← mul x a) (← inverse x)

/-- `h * g ^ k` by repeated squaring of `g`. -/
def mulPow (mul : Value → Value → Except Fault Value) (h g : Value) (k : Nat) :
    Except Fault Value :=
  if _h : k = 0 then .ok h
  else do
    let h ← if k % 2 = 1 then mul h g else pure h
    mulPow mul h (← mul g g) (k / 2)
termination_by k
decreasing_by omega

/-- The power `g ^ k`; a negative exponent takes powers of the inverse. -/
def powerOf (mul : Value → Value → Except Fault Value) (inverse : Value → Except Fault Value)
    (identity g : Value) (k : Int) : Except Fault Value := do
  let g ← if k < 0 then inverse g else pure g
  mulPow mul identity g k.natAbs

/-- The power of an element to an exponent of any kind, which must be an integer. A floating-point
number is only noticed when it is not zero. An array must have a single cell. -/
def powerBy (mul : Value → Value → Except Fault Value) (inverse : Value → Except Fault Value)
    (identity g k : Value) : Except Fault Value := do
  match k.onlyCell with
  | .array .. => throw .badValue
  | .real x => do
    if x < 0 then
      let _ ← inverse g
    if x == 0 then return identity else throw .wrongKind
  | .nan .. => throw .wrongKind
  | .perm _ => throw .noAttribute
  | k => powerOf mul inverse identity g (← k.index)

/-- The number of factors `g` after which the product `h` becomes the identity, one more than
the steps still to be taken, of which there may be `left`. -/
def stepsToIdentity (mul : Value → Value → Except Fault Value) (identity g : Value) :
    (left : Nat) → (h : Value) → Except Fault Nat
  | left, h => do
    if ← h.equal identity then return 1
    else
      let next ← mul h g
      match left with
      | 0 => throw (.infiniteOrder (← g.plain))
      | left + 1 => return (← stepsToIdentity mul identity g left next) + 1

/-- The least positive `k` for which `g ^ k` is the identity, in a group of `n` elements. -/
def orderOf (mul : Value → Value → Except Fault Value) (identity : Value) (n : Nat) (g : Value) :
    Except Fault Nat :=
  stepsToIdentity mul identity g (n - 1) g

/-! ## Cosets and permutations -/

/-- The products of a representative with the elements of a subgroup, on the side that `side`
tells. -/
def cosetProducts (side : Side) (meaning : Meaning) (subgroup rep : Value) :
    Except Fault (Roster Value) := do
  let mul ← meaning.op
  let products ← (← subgroup.entries).mapM fun h => do
    let product ← match side with
      | .left => mul rep h
      | .right => mul h rep
    product.keyed
  return .ofList products

/-- The coset at a place whose members nobody has asked for. That they cannot be computed is only
noticed by those who do. -/
def looseCoset (side : Side) (place : Nat) (meaning : Meaning) (parent subgroup rep : Value) :
    Value :=
  match cosetProducts side meaning subgroup rep with
  | .ok ms => .coset side place parent subgroup rep ms.toList .loose
  | .error e => .coset side place parent subgroup rep [] (.faulty e)

/-- The coset of a subgroup through a representative, which must be in the group. -/
def cosetOf (side : Side) (meaning : Meaning) (parent subgroup rep : Value) :
    Except Fault Value := do
  if ← meaning.contains rep then return looseCoset side 0 meaning parent subgroup rep
  else throw (.notMember (← rep.plain) (← parent.plain))

/-- The permutation of ordered elements by which `g` multiplies them. -/
def regularPerm (mul : Value → Value → Except Fault Value) (ordered : List Value)
    (numbers : Assignment Value Value) (g : Value) : Except Fault Perm := do
  let images ← ordered.mapM fun x => do
    match numbers.get? (← (← mul g x).keyed) with
    | some i => return i
    | none => throw .missingKey
  Value.readPerm images

/-- The representative of a coset. -/
def Value.representative : Value → Except Fault Value
  | .coset _ _ _ _ rep _ _ => .ok rep
  | _ => .error .noAttribute

/-! ## Rules -/

namespace Rule

/-- The points of a permutation in a sequence, each mapped. -/
def mapPoints (f : Value → Except Fault Value) (x : Value) : Except Fault Value := do
  return .tuple (← (← x.entries).mapM f)

/-- The entries of a sequence in the order of the images of the places `1, …, n`. -/
def permute (f : Value → Except Fault Value) (x : Value) : Except Fault Value := do
  let entries ← (List.range (← x.length)).mapM fun i => do
    x.item (← (← f (Value.ofNat (i + 1))).sub (.int 1))
  return .tuple entries

/-- A sequence whose last `n` entries are moved to the front. -/
def turned (n : Int) (x : Value) : Except Fault Value :=
  let turn {α : Type} (xs : List α) : List α :=
    let size : Int := xs.length
    let clip (i : Int) : Nat := (max 0 (min size (if i < 0 then i + size else i))).toNat
    xs.drop (clip (-n)) ++ xs.take (clip (-n))
  match x with
  | .text s => .ok (.text (String.ofList (turn s.toList)))
  | .tuple xs | .verdict xs => .ok (.tuple (turn xs))
  | .list _ xs => .ok (.list 0 (turn xs))
  | _ => .error .wrongKind

/-- The value of a rule of one argument. -/
def unary (rule : Rule) (data : List Value) (meanings : List Meaning)
    (assigned : Thunk (Assignment Value Value)) (x : Value) : Except Fault Value :=
  match rule, data, meanings with
  | remainder, [n], _ => x.mod n
  | affine, [k, c, n], _ => do (← (← k.times x).add c).mod n
  | parity, [], _ =>
    match x with
    | .perm p => .ok (.int (if p.sign = 1 then 0 else 1))
    | _ => .error .noAttribute
  | constant, [v], _ => .ok v
  | permInverse, [], _ =>
    match x with
    | .perm p => .ok (.perm p.inverse)
    | .map .. => x.inverseMap
    | .group .. | .family .. => .error .wrongKind
    | _ => .error .noAttribute
  | power, [_, k], G :: _ => G.power x k
  | lookup, _, _ => do return (assigned.get.get? (← x.keyed)).getD .none
  | complement, [], _ => x.complement
  | quotientInverse, [parent, subgroup], G :: _ => do
    let inverse ← G.inverse
    cosetOf .left G parent subgroup (← inverse (← x.representative))
  | _, _, _ => .error .wrongKind

/-- The value of a rule of a group element and an item. Calls of the element go through
`dynamic`. -/
def binary (dynamic : Value → Value → Except Fault Value) (rule : Rule) (data : List Value)
    (meanings : List Meaning) (canonical : Thunk (Roster Value)) (g x : Value) :
    Except Fault Value :=
  match rule, data, meanings with
  | point, [], _ => dynamic g x
  | rotate, [], _ => do if ← g.truthy then turned (← g.index) x else return x
  | place, [], _ => permute (dynamic g) x
  | placeInverse, [], _ => permute (fun i => do dynamic (← g.complement) i) x
  | entries, [], _ => mapPoints (dynamic g) x
  | sortedEntries, [], _ => do
    return .tuple (← Value.sort (← (← mapPoints (dynamic g) x).entries))
  | vertex, [n], _ => do
    let r ← g.item (.int 0)
    let f ← g.item (.int 1)
    (← r.add (← if ← f.truthy then x.negate else pure x)).mod n
  | next, [n], _ => do (← x.add (.int 1)).mod n
  | add, [n], _ => do (← g.add x).mod n
  | trivial, [], _ => .ok x
  | grid, [rows], _ => do (← rows.item g).item x
  | conjugation, [_], G :: _ => G.conjugate x g
  | cosets, G :: H :: _, m :: _ => do
    let rep ← x.representative
    let side := match x with
      | .coset side .. => side
      | _ => .left
    let c ← cosetOf side m G H (← (← m.op) g rep)
    match (canonical.get.find? (← c.keyed)).bind canonical.get.get? with
    | some c => return c
    | none => throw .missingKey
  | _, _, _ => .error .wrongKind

/-- Whether a rule takes one argument. -/
def isUnary : Rule → Bool
  | remainder | affine | parity | constant | permInverse | power | lookup | complement
  | quotientInverse => true
  | _ => false

end Rule

/-! ## Meanings -/

namespace Meaning

/-- What a value means that can only be called. -/
def function (call : List Value → Except Fault Value) : Meaning where
  call := call
  op := .error .noAttribute
  inverse := .error .noAttribute
  conjugate := fun _ _ => .error .noAttribute
  power := fun _ _ => .error .noAttribute
  contains := fun _ => .error .wrongKind
  method := fun _ _ => .error .wrongKind

/-- What a value means that is neither a function nor a group. Numbers have conjugates of their
own, which take no operands. -/
def passive (v : Value) : Meaning :=
  { function fun _ => .error .wrongKind with
    inverse := match v with
      | .perm _ | .map .. => .ok fun _ => .error .wrongKind
      | _ => .error .noAttribute
    conjugate := fun _ _ => match v with
      | .int _ | .bool _ | .real _ | .nan .. | .word _ | .array .. => .error .wrongKind
      | _ => .error .noAttribute
    contains := v.contains }

/-- What an operation means: a product of two operands. -/
def operation (rule : Multiplication) (data : List Value) (parts : List Meaning)
    (a b : Value) : Except Fault Value :=
  match rule, data, parts with
  | .product, _, [G, H] => do
    let mul ← G.op
    let x ← mul (← a.item (.int 0)) (← b.item (.int 0))
    let mul ← H.op
    return .tuple [x, ← mul (← a.item (.int 1)) (← b.item (.int 1))]
  | .cosets, parent :: subgroup :: _, G :: _ => do
    let mul ← G.op
    cosetOf .left G parent subgroup (← mul (← a.representative) (← b.representative))
  | rule, data, _ => rule.apply data a b

/-- The rule of the operation that belongs to a kind of family. -/
def familyRule : Kind → Option Multiplication
  | .abstract => none
  | .cyclic => some .addMod
  | .dihedral => some .dihedral
  | .symmetric | .alternating => some .compose
  | .quaternion => some .quaternion
  | .elementaryAbelian => some .vectorAdd
  | .directProduct => some .product

/-- The inverse that belongs to a family. -/
def familyInverse (kind : Kind) (data : List Value) (parts : List Meaning) (a : Value) :
    Except Fault Value :=
  match kind, data, parts with
  | .cyclic, [n], _ => do (← a.negate).mod n
  | .dihedral, [n], _ => do
    let (r, f) ← a.pair
    if ← f.truthy then return a else return .tuple [← (← r.negate).mod n, .int 0]
  | .symmetric, _, _ | .alternating, _, _ => a.complement
  | .quaternion, _, _ => do
    let (s, u) ← a.pair
    if ← u.equal (.text "1") then return a else return .tuple [← s.negate, u]
  | .elementaryAbelian, p :: _, _ => do
    return .tuple (← (← a.entries).mapM fun x => do (← x.negate).mod p)
  | .directProduct, _, [G, H] => do
    let inverse ← G.inverse
    let x ← inverse (← a.item (.int 0))
    let inverse ← H.inverse
    return .tuple [x, ← inverse (← a.item (.int 1))]
  | _, _, _ => .error .unimplemented

/-- What a family means. -/
def family (kind : Kind) (data : List Value) (parts : List Meaning) : Meaning :=
  { function fun _ => .error .wrongKind with
    op := .ok fun a b =>
      match familyRule kind with
      | some rule => operation rule data parts a b
      | none => .error .wrongKind
    inverse := .ok (familyInverse kind data parts)
    method := fun
      | "inverse", [a] => familyInverse kind data parts a
      | _, _ => .error .wrongKind }

/-- The position of an element: the one that was kept for it, or its place in a roster. -/
def positionIn (kept : Value) (roster : Thunk (Roster Value)) (a : Value) :
    Except Fault (Option Value) := do
  let a ← a.keyed
  match kept with
  | .mapping _ xs => return Value.lookup? xs a
  | _ => return (roster.get.find? a).map Value.ofNat

/-- What comes of the position of an element, which it must have. -/
def demandPosition (found : Option Value) : Except Fault Value :=
  match found with
  | some i => .ok i
  | none => .error .missingKey

/-- What a group means. -/
def group (els elements : List Value) (op : Meaning) (identity : Value)
    (inv : Option Meaning) (kept positions : Value)
    (own : String → List Value → Except Fault Value) : Meaning :=
  let mul := fun a b => op.call [a, b]
  let inverse := match inv with
    | some m => fun a => m.call [a]
    | none => foundInverse (keptInverses kept els mul identity)
  let roster := Thunk.mk fun _ => Roster.ofList elements
  { function fun _ => .error .wrongKind with
    op := .ok mul
    inverse := .ok inverse
    conjugate := conjugateBy mul inverse
    power := powerBy mul inverse identity
    contains := fun v => do return roster.get.contains (← v.sought)
    method := fun
      | "inverse", [a] => inverse a
      | "mul", [a, b] => mul a b
      | "conjugate", [a, x] => conjugateBy mul inverse a x
      | "pow", [a, k] => powerBy mul inverse identity a k
      | "element_order", [a] => do return Value.ofNat (← orderOf mul identity els.length a)
      | "index_of", [a] => do demandPosition (← positionIn positions roster a)
      | name, args => own name args }

/-- The functions that a quotient adds: the coset of an element as it stands among the elements,
and the coset of the inverse. -/
def quotientMethod (els : List Value) (positions : Value) (roster : Thunk (Roster Value))
    (parent subgroup : Value) (G : Meaning) :
    String → List Value → Except Fault Value
  | "coset", [g] => do
    let c ← cosetOf .left G parent subgroup g
    (Value.list 0 els).item (← demandPosition (← positionIn positions roster c))
  | "_inv", [c] => do
    let inverse ← G.inverse
    cosetOf .left G parent subgroup (← inverse (← c.representative))
  | _, _ => .error .wrongKind

/-- The functions that a group of permutations adds which stands for another group: the permutation
of an element, and inverses. -/
def regularMethod (ordered : List Value) (numbers : Thunk (Assignment Value Value))
    (source : Meaning) : String → List Value → Except Fault Value
  | "perm_of", [g] => do
    let mul ← source.op
    return .perm (← regularPerm mul ordered numbers.get g)
  | "_inv", [p] => p.complement
  | _, _ => .error .wrongKind

/-- The value of a call with two operands. -/
def call₂ (m : Meaning) (a b : Value) : Except Fault Value := m.call [a, b]

end Meaning

namespace Value

/-- A function of one argument. -/
def ofUnary (f : Value → Except Fault Value) : List Value → Except Fault Value
  | [x] => f x
  | _ => .error .wrongKind

/-- A function of two arguments. -/
def ofBinary (f : Value → Value → Except Fault Value) : List Value → Except Fault Value
  | [x, y] => f x y
  | _ => .error .wrongKind

mutual

/-- What a value means, where calls of arguments go through `dynamic`. -/
def meaningWith (dynamic : Value → Value → Except Fault Value) : Value → Meaning
  | .perm p => { Meaning.passive (.perm p) with call := ofUnary (Value.item (.perm p)) }
  | .op r data =>
    let parts := meanings dynamic data
    .function (ofBinary (Meaning.operation r data parts))
  | .rule _ r data =>
    let parts := meanings dynamic data
    let assigned := Thunk.mk fun _ => assignment (data.headD .none)
    let canonical := Thunk.mk fun _ => Roster.ofList (data.drop 2)
    .function (if r.isUnary then ofUnary (r.unary data parts assigned)
      else ofBinary (r.binary dynamic data parts canonical))
  | .lookup grid _ =>
    .function (ofBinary fun a b =>
      match grid with
      | .array _ g => entryAt g a b
      | _ => .error .wrongKind)
  | .family _ k data => .family k data (meanings dynamic data)
  | .group origin _ listing xs law e inv _ _ links _ positions kept =>
    let roster := Thunk.mk fun _ => Roster.ofList xs
    let own := match origin, links, meanings dynamic links with
      | .quotient, [parent, subgroup], G :: _ =>
        Meaning.quotientMethod listing.listed positions roster parent subgroup G
      | .regular, [_, ordered, index, _], G :: _ =>
        Meaning.regularMethod ordered.listed (Thunk.mk fun _ => index.assignment) G
      | _, _, _ => fun _ _ => .error .wrongKind
    let inv := match inv with
      | .none => Option.none
      | inv => some (meaningWith dynamic inv)
    .group listing.listed xs (meaningWith dynamic law) e inv kept positions own
  | .map src tgt send trace =>
    let assigned := Thunk.mk fun _ => send.assignment
    { Meaning.passive (.map src tgt send trace) with
      call := ofUnary fun x => do
        match assigned.get.get? (← x.keyed) with
        | some y => return y
        | Option.none => throw .missingKey }
  | .action p G items xs act =>
    { Meaning.passive (.action p G items xs act) with call := (meaningWith dynamic act).call }
  | .method _ owner name => .function ((meaningWith dynamic owner).method name)
  | v => .passive v

/-- What the values of a list mean. -/
def meanings (dynamic : Value → Value → Except Fault Value) : List Value → List Meaning
  | [] => []
  | x :: xs => meaningWith dynamic x :: meanings dynamic xs

end

/-- The value of a call of one argument, through a chain of at most so many calls. -/
def callWithin : (bound : Nat) → Value → Value → Except Fault Value
  | 0, _, _ => .error .exhausted
  | bound + 1, f, x => (meaningWith (callWithin bound) f).call [x]

/-- The longest chain of calls that is followed. -/
def maxChain : Nat := 1000

/-- What a value means. -/
def meaning (v : Value) : Meaning := meaningWith (callWithin maxChain) v

/-- The value of a call. -/
def call (f : Value) (args : List Value) : Except Fault Value := f.meaning.call args

end Value

end FiniteGroups
