import FiniteGroups.Decimal.Shortest
import FiniteGroups.Fault
import FiniteGroups.Grid.Basic
import FiniteGroups.Perm.Basic

/-!
# Values

One type for everything that a computation with groups may hold: numbers, texts and permutations,
tuples, lists, mappings and sets, operations, groups and what is made of groups. Any value that
can be compared can be an element of a group, so a coset is an element of a quotient and a map
between groups an element of a group of automorphisms.

Lists, mappings, arrays and groups can be changed after they were made, and whoever holds one
sees the change. Each therefore has a *place*, a number that tells whether two of them are one;
what is fresh has the place zero until it is put somewhere.

What follows from the parts of a value may be kept with it once it was asked for: the table, the
inverses and the numbering of a group, the members of a coset, and the images that a map had when
it was first looked for. What is kept does not follow later changes.

Two values are the same (`Value.same`, written `==`) when they stand for the same thing: numbers
by value, so that `1`, `1.0` and the truth value `true` are one, tuples and lists entry by entry,
sets, mappings, cosets and conjugacy classes by their members in whatever order, groups by their
elements and their operation. Families, actions, arrays and plain rules are the same only if they
have one place, and functions that belong to a value only if that value has. Results that are no
numbers are the same only if they are one and the same result.

Every value has a `Value.head`, parts that are compared in order (`Value.ordered`) and parts that
are compared as a set (`Value.members`), and sameness is that of heads and of parts.
`Value.digest` is a hash that respects sameness.
-/

namespace FiniteGroups

/-- The side on which a representative multiplies a subgroup. -/
inductive Side where
  | left
  | right
deriving DecidableEq, Repr

/-- How a group came about: on its own, as a part of another group, as a quotient, or as a group
of permutations that stands for another group. -/
inductive Origin where
  | plain
  | within
  | quotient
  | regular
deriving DecidableEq, Repr

/-- The rules of multiplication. -/
inductive Multiplication where
  /-- Addition modulo `n`. -/
  | addMod
  /-- The symmetries of an `n`-gon as pairs `(r, f)` : `r` rotations, then `f` reflections. -/
  | dihedral
  /-- Composition of permutations. -/
  | compose
  /-- The quaternion units as pairs of a sign and one of `1`, `i`, `j`, `k`. -/
  | quaternion
  /-- Addition of tuples, entry by entry modulo `p`. -/
  | vectorAdd
  /-- Multiplication of pairs, part by part. -/
  | product
  /-- Multiplication of the left cosets of a subgroup by their representatives. -/
  | cosets
  /-- Multiplication modulo `n`. -/
  | mulMod
  /-- Subtraction modulo `n`. -/
  | subMod
  /-- Addition, or joining of texts and tuples. -/
  | add
  /-- The left operand. -/
  | left
  /-- The larger operand. -/
  | max
  /-- The first of the rows `(a, b, c)` that begins with the operands says the product. -/
  | rows
  /-- No rule at all. -/
  | abstract
deriving DecidableEq, Hashable, Repr

/-- Rules that are not operations: maps between groups, inverses, and actions on items. -/
inductive Rule where
  /- of one argument -/
  | remainder
  | affine
  | parity
  | constant
  | permInverse
  | power
  | lookup
  | complement
  | quotientInverse
  /- of a group element and an item -/
  | point
  | rotate
  | place
  | placeInverse
  | entries
  | sortedEntries
  | vertex
  | next
  | add
  | trivial
  | grid
  | conjugation
  | cosets
deriving DecidableEq, Repr

/-- The kinds of families of groups. -/
inductive Kind where
  | abstract
  | cyclic
  | dihedral
  | symmetric
  | alternating
  | quaternion
  | elementaryAbelian
  | directProduct
deriving DecidableEq, Hashable, Repr

/-- What is known of the members of a coset: nothing yet, so that they follow the subgroup; all,
since they were asked for; or that they cannot be computed. -/
inductive Coset.State where
  | loose
  | settled
  | faulty (e : Fault)
deriving DecidableEq, Repr

/-- Everything that a computation may hold. -/
inductive Value where
  | int (n : Int)
  | bool (b : Bool)
  | none
  /-- A floating-point number that is one. -/
  | real (x : Float)
  /-- A result that is no number. The `trail` tells fresh ones apart by how they came about. -/
  | nan (place : Nat) (trail : UInt64)
  /-- An integer of 64 bits out of an array. -/
  | word (n : Int)
  | text (s : String)
  | perm (p : Perm)
  | tuple (entries : List Value)
  | list (place : Nat) (entries : List Value)
  /-- Pairs of a key and a value, as tuples. -/
  | mapping (place : Nat) (entries : List Value)
  | set (frozen : Bool) (members : List Value)
  /-- An array. Arrays with one place share their memory. -/
  | array (place : Nat) (grid : Grid)
  /-- An operation and the data that its rule depends on. -/
  | op (rule : Multiplication) (data : List Value)
  /-- Look-up in an array, known by what the array held when the operation was made. -/
  | lookup (grid : Value) (data : List Value)
  | rule (place : Nat) (rule : Rule) (data : List Value)
  | family (place : Nat) (kind : Kind) (data : List Value)
  | kind (kind : Kind)
  /-- All kinds by their names. -/
  | kinds
  /-- A group: the elements in their order of enumeration, as a list that can be changed, and as
  they were when the group was made; the inverse, the generators and the name are `none` when
  they are not known. The `links` are the groups and mappings that the origin adds. Of the table,
  the positions of the elements and the inverses there is `none` as long as nobody has asked. -/
  | group (origin : Origin) (place : Nat) (listing : Value) (elements : List Value)
      (op identity inv gens name : Value) (links : List Value) (table positions inverses : Value)
  /-- A coset with the members that follow from its parts or were settled before. -/
  | coset (side : Side) (place : Nat) (parent subgroup rep : Value) (members : List Value)
      (state : Coset.State)
  /-- A conjugacy class. -/
  | cls (parent rep : Value) (members : List Value)
  /-- A map between groups, given by a mapping, and the mapping as it was when the map was first
  looked for. -/
  | map (src tgt send trace : Value)
  | action (place : Nat) (group items : Value) (members : List Value) (act : Value)
  /-- What a check of the axioms found: whether nothing, and the list of violations. -/
  | verdict (entries : List Value)
  /-- A function that belongs to a value. It has a place only if the owner has none. -/
  | method (place : Nat) (owner : Value) (name : String)
  /-- Stands for a part that is kept with the value at a place, and is hidden. -/
  | unseen (part : Kept) (place : Nat)

namespace Value

instance : Inhabited Value := ⟨.none⟩

/-! ## Sameness -/

/-- The value of a number: an integer, or the bits of a number that is none. -/
inductive Magnitude where
  | whole (n : Int)
  | fractional (bits : UInt64)
deriving DecidableEq, Hashable, Repr

/-- The value of a truth value, `1` or `0`. -/
def ofBool (b : Bool) : Int := if b then 1 else 0

/-- The value of a floating-point number. -/
def realMagnitude (x : Float) : Magnitude :=
  match (Decimal.Binary.decode x).bind Decimal.Binary.whole? with
  | some n => .whole n
  | Option.none => .fractional x.toBits

/-- What a value is apart from its parts. -/
inductive Head where
  | number (m : Magnitude)
  | none
  | nan (place : Nat) (trail : UInt64)
  | text (s : String)
  | perm (p : Perm)
  | row
  | list
  | mapping
  | set
  | array (place : Nat) (layout : Array Nat)
  | op (rule : Multiplication)
  | lookup
  | rule (place : Nat)
  | family (place : Nat)
  | kind (kind : Kind)
  | kinds
  | group
  | coset
  | cls
  | map
  | action (place : Nat)
  | method (place : Nat) (name : String)
  | unseen (part : Kept) (place : Nat)
deriving DecidableEq

/-- The place of a value that has one. That of a map is the place of its mapping. -/
def placeOf : Value → Nat
  | .nan p _ | .list p _ | .mapping p _ | .array p _ | .rule p _ _ | .family p _ _
  | .action p _ _ _ _ | .group _ p _ _ _ _ _ _ _ _ _ _ _ | .coset _ p _ _ _ _ _
  | .map _ _ (.mapping p _) _ => p
  | _ => 0

/-- The place by which a function that belongs to a value is known. -/
def methodPlace (place : Nat) (owner : Value) : Nat :=
  if owner.placeOf = 0 then place else owner.placeOf

/-- The owner of a function, if the function is not known by its place. -/
def methodOwner (place : Nat) (owner : Value) : List Value :=
  if methodPlace place owner = 0 then [owner] else []

/-- What tells a map apart from those that send elements elsewhere: the mapping as it was when the
map was first looked for. -/
def keyImages (send : Value) : Value → Value
  | .none => send
  | trace => trace

/-- What a value is apart from its parts. -/
def head : Value → Head
  | .int n => .number (.whole n)
  | .bool b => .number (.whole (ofBool b))
  | .none => .none
  | .real x => .number (realMagnitude x)
  | .nan p trail => .nan p trail
  | .word n => .number (.whole n)
  | .text s => .text s
  | .perm p => .perm p
  | .tuple _ | .verdict _ => .row
  | .list .. => .list
  | .mapping .. => .mapping
  | .set .. => .set
  | .array p g => .array p g.layout
  | .op r _ => .op r
  | .lookup .. => .lookup
  | .rule p _ _ => .rule p
  | .family p _ _ => .family p
  | .kind k => .kind k
  | .kinds => .kinds
  | .group .. => .group
  | .coset .. => .coset
  | .cls .. => .cls
  | .map .. => .map
  | .action p .. => .action p
  | .method p owner name => .method (methodPlace p owner) name
  | .unseen part p => .unseen part p

/-- The parts that are compared one by one. -/
def ordered : Value → List Value
  | .tuple xs | .verdict xs | .list _ xs | .op _ xs | .lookup _ xs => xs
  | .group _ _ _ _ law _ _ _ _ _ _ _ _ => [law]
  | .map src tgt send trace => [src, tgt, send, keyImages send trace]
  | .method p owner _ => methodOwner p owner
  | _ => []

/-- The parts that are compared as a set. -/
def members : Value → List Value
  | .mapping _ xs | .set _ xs | .group _ _ _ xs _ _ _ _ _ _ _ _ _ | .coset _ _ _ _ _ xs _
  | .cls _ _ xs => xs
  | _ => []

mutual

/-- Whether two values stand for the same thing. -/
def same : Value → Value → Bool
  | .int n, b =>
    match b with
    | .int m => n == m
    | b => b.head == .number (.whole n)
  | .bool c, b => b.head == .number (.whole (ofBool c))
  | .real x, b => b.head == .number (realMagnitude x)
  | .nan p trail, b => b.head == .nan p trail
  | .word n, b => b.head == .number (.whole n)
  | .none, b => b.head == .none
  | .text s, b => b.head == .text s
  | .perm p, b =>
    match b with
    | .perm q => p == q
    | _ => false
  | .tuple xs, b =>
    match b with
    | .tuple ys => sameEach xs ys
    | b => b.head == .row && sameEach xs b.ordered
  | .verdict xs, b => b.head == .row && sameEach xs b.ordered
  | .list _ xs, b => b.head == .list && sameEach xs b.ordered
  | .mapping _ xs, b => b.head == .mapping && sameSet xs b.members
  | .set _ xs, b => b.head == .set && sameSet xs b.members
  | .array p g, b => b.head == .array p g.layout
  | .op r xs, b => b.head == .op r && sameEach xs b.ordered
  | .lookup _ xs, b => b.head == .lookup && sameEach xs b.ordered
  | .rule p _ _, b => b.head == .rule p
  | .family p _ _, b => b.head == .family p
  | .kind k, b => b.head == .kind k
  | .kinds, b => b.head == .kinds
  | .group _ _ _ xs law _ _ _ _ _ _ _ _, b =>
    match b with
    | .group _ _ _ ys law' _ _ _ _ _ _ _ _ => same law law' && sameSet xs ys
    | _ => false
  | .coset _ _ _ _ _ xs _, b => b.head == .coset && sameSet xs b.members
  | .cls _ _ xs, b => b.head == .cls && sameSet xs b.members
  | .map src tgt send trace, b =>
    match b with
    | .map src' tgt' send' trace' =>
      same src src' && (same tgt tgt' && (same send send' &&
        match trace with
        | .none => same send (keyImages send' trace')
        | trace => same trace (keyImages send' trace')))
    | _ => false
  | .action p _ _ _ _, b => b.head == .action p
  | .method p owner name, b =>
    b.head == .method (methodPlace p owner) name &&
      (methodPlace p owner != 0 || b.ordered.any (same owner))
  | .unseen part p, b => b.head == .unseen part p

/-- Whether two lists agree entry by entry. -/
def sameEach : List Value → List Value → Bool
  | [], ys => ys.isEmpty
  | x :: xs, ys =>
    match ys with
    | [] => false
    | y :: ys => same x y && sameEach xs ys

/-- Whether each entry of one list occurs in the other, which is clear when they agree entry by
entry. -/
def sameSet : List Value → List Value → Bool
  | [], ys => ys.isEmpty
  | _ :: _, [] => false
  | x :: xs, y :: ys =>
    (same x y && sameEach xs ys) ||
      (((y :: ys).any (same x) && within xs (y :: ys)) &&
        (y :: ys).all fun z => same x z || meets xs z)

/-- Whether every entry of the first list occurs in the second. -/
def within : List Value → List Value → Bool
  | [], _ => true
  | x :: xs, ys => ys.any (same x) && within xs ys

/-- Whether a value occurs in a list. -/
def meets : List Value → Value → Bool
  | [], _ => false
  | x :: xs, y => same x y || meets xs y

end

instance : BEq Value := ⟨same⟩

mutual

/-- A hash that is the same for values that are the same. -/
def digest : Value → UInt64
  | .int n => hash (Magnitude.whole n)
  | .bool c => hash (Magnitude.whole (ofBool c))
  | .real x => hash (realMagnitude x)
  | .nan p trail => mixHash (hash p) trail
  | .word n => hash (Magnitude.whole n)
  | .text s => hash s
  | .perm p => hash p
  | .tuple xs | .verdict xs | .list _ xs | .lookup _ xs => digestEach xs
  | .op r xs => mixHash (hash r) (digestEach xs)
  | .mapping _ xs | .set _ xs | .group _ _ _ xs _ _ _ _ _ _ _ _ _ | .coset _ _ _ _ _ xs _
  | .cls _ _ xs => largestDigest xs
  | .map _ _ send .none => digest send
  | .map _ _ _ trace => digest trace
  | .method p owner name => mixHash (hash name) (hash (methodPlace p owner))
  | .rule p _ _ | .family p _ _ | .action p _ _ _ _ => hash p
  | .none | .array .. | .kind _ | .kinds | .unseen .. => 7

/-- The hash of a list, which depends on the order. -/
def digestEach : List Value → UInt64
  | [] => 11
  | x :: xs => mixHash (digest x) (digestEach xs)

/-- The largest hash in a list, which does not depend on the order. -/
def largestDigest : List Value → UInt64
  | [] => 0
  | x :: xs => max (digest x) (largestDigest xs)

end

instance : Hashable Value := ⟨digest⟩

end Value

end FiniteGroups
