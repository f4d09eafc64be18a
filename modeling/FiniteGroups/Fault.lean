/-!
# Faults

Everything that can go wrong, by cause. A fault carries what its report needs, already
written out, so that two faults are equal exactly when their reports are.

* `Fault.category` : the family a cause belongs to. A *structure* fault is a structure that
  fails its axioms when it is built, a *precondition* fault is a question without an answer,
  a *size limit* fault is an exhaustive search refused above a ceiling, a *consistency* fault
  is two computations that must agree and do not. The other categories name operands of the
  wrong kind and failed look-ups, which have no report of their own;
* `Fault.message` : the report of a fault, empty where there is nothing to say.
-/

namespace FiniteGroups

/-- The families of faults. -/
inductive Fault.Category where
  | structural
  | precondition
  | sizeLimit
  | consistency
  | assertion
  | wrongKind
  | missingKey
  | outOfBounds
  | badValue
  | divisionByZero
  | noAttribute
  | overflow
  | unimplemented
  | exhausted
  | unseen
deriving DecidableEq, Repr

/-- What may be kept with a value once somebody asked for it: the table and the inverses of a
group, the members of a coset, the images of a map. -/
inductive Kept where
  | table
  | inverses
  | members
  | images
deriving DecidableEq, Repr

/-- The causes of failure. Strings hold the report text of the values concerned. -/
inductive Fault where
  /- structures that fail their axioms -/
  | emptyPermutation
  | imageOutOfRange (image images : String)
  | imageRepeated (image images : String)
  | cycleOutOfRange (cycle : String) (degree : Int)
  | conflictingImages (generator : String)
  | notMultiplicative (left right : String)
  | unsent (element : String)
  | tooFewGenerators (count : Nat) (group : String)
  | noTableIdentity
  | axiomsViolated (report : String)
  | emptySubgroup
  | outsideParent (element parent : String)
  | missingIdentity (identity : String)
  | notClosed
  | missingInverse
  | notInside (subgroup group : String)
  | notNormal (subgroup group : String)
  /- questions without an answer -/
  | degreeMismatch (left right : Nat)
  | degreeTooSmall (degree : String)
  | emptyCycle
  | emptyClosure
  | generatorCount (generators images : Nat)
  | familyParameter (family : String) (least : Nat) (given : String)
  | notPrime (p : String)
  | rankTooSmall (k : String)
  | unknownFamily (name : String)
  | unknownSearch (name : String)
  | orderNotDividing (order parent : Nat)
  | notMember (element group : String)
  | notInOwnClass (element : String)
  | notComposable (first second : String)
  | notInjective (map : String)
  | notSurjective (map : String)
  /- searches that are refused -/
  | degreeTooLarge (degree limit : Int)
  | bruteForceTooLarge (order : Nat) (limit : Int)
  | searchTooLarge (order : Nat) (limit : Int)
  /- computations that disagree -/
  | isomorphismMismatch (quotient image : Nat)
  /- assertions -/
  | infiniteOrder (element : String)
  | indivisibleOrder
  | nothingToActOn
  | notAnAction
  | notSquare (shape : String)
  | wrongClass (name : String)
  | failedCheck
  /- operands and look-ups -/
  | wrongKind
  | missingKey
  | outOfBounds
  | badValue
  | divisionByZero
  | noAttribute
  | overflow
  | unimplemented
  /- a search that ran out of rounds, or never ends -/
  | exhausted
  /- a look at what is hidden: a part that is kept with the value at a place -/
  | unseen (part : Kept) (place : Nat)
deriving DecidableEq, Repr

namespace Fault

/-- The family a cause belongs to. -/
def category : Fault → Category
  | emptyPermutation | imageOutOfRange .. | imageRepeated .. | cycleOutOfRange ..
  | conflictingImages _ | notMultiplicative .. | unsent _ | tooFewGenerators ..
  | noTableIdentity | axiomsViolated _ | emptySubgroup | outsideParent ..
  | missingIdentity _ | notClosed | missingInverse | notInside .. | notNormal .. => .structural
  | degreeMismatch .. | degreeTooSmall _ | emptyCycle | emptyClosure | generatorCount ..
  | familyParameter .. | notPrime _ | rankTooSmall _ | unknownFamily _ | unknownSearch _
  | orderNotDividing .. | notMember .. | notInOwnClass _ | notComposable ..
  | notInjective _ | notSurjective _ => .precondition
  | degreeTooLarge .. | bruteForceTooLarge .. | searchTooLarge .. => .sizeLimit
  | isomorphismMismatch .. => .consistency
  | infiniteOrder _ | indivisibleOrder | nothingToActOn | notAnAction | notSquare _
  | wrongClass _ | failedCheck => .assertion
  | wrongKind => .wrongKind
  | missingKey => .missingKey
  | outOfBounds => .outOfBounds
  | badValue => .badValue
  | divisionByZero => .divisionByZero
  | noAttribute => .noAttribute
  | overflow => .overflow
  | unimplemented => .unimplemented
  | exhausted => .exhausted
  | unseen .. => .unseen

/-- The report of a fault. -/
def message : Fault → String
  | emptyPermutation => "empty permutation"
  | imageOutOfRange i is => s!"{i} out of range in {is}"
  | imageRepeated i is => s!"{i} repeated in {is}"
  | cycleOutOfRange c n => s!"cycle {c} out of range 1..{n}"
  | conflictingImages g => s!"generator {g} sent to two places"
  | notMultiplicative a b => s!"not a hom: {a}*{b}"
  | unsent g => s!"{g} is not sent anywhere"
  | tooFewGenerators n g => s!"{n} generators do not generate {g}"
  | noTableIdentity => "table has no identity"
  | axiomsViolated r => r
  | emptySubgroup => "a subgroup contains at least the identity"
  | outsideParent x g => s!"{x} is not in {g}"
  | missingIdentity e => s!"missing the identity {e}"
  | notClosed => "not closed:"
  | missingInverse => "missing the inverse of"
  | notInside h g => s!"{h} is not inside {g}"
  | notNormal h g => s!"{h} is not normal in {g}"
  | degreeMismatch m n => s!"degree {m} != {n}"
  | degreeTooSmall n => s!"n={n}"
  | emptyCycle => "empty cycle"
  | emptyClosure => "closure of nothing needs an identity"
  | generatorCount n m => s!"{n} generators but {m} images"
  | familyParameter f l n => s!"{f} group needs n >= {l}, got {n}"
  | notPrime p => s!"p={p} is not prime"
  | rankTooSmall k => s!"k={k}"
  | unknownFamily n => s!"no group family called {n}"
  | unknownSearch n => s!"unknown subgroup search {n}"
  | orderNotDividing m n => s!"order {m} does not divide {n}"
  | notMember x g => s!"{x} is not in {g}"
  | notInOwnClass x => s!"{x} is not in its own class"
  | notComposable f g => s!"cannot compose {f} with {g}"
  | notInjective f => s!"{f} is not injective"
  | notSurjective f => s!"{f} is not surjective"
  | degreeTooLarge n m => s!"degree {n} > {m}"
  | bruteForceTooLarge n m => s!"brute force subgroup search on {n} > {m} elements"
  | searchTooLarge n m => s!"subgroup search on {n} > {m} elements"
  | isomorphismMismatch n m => s!"|G/ker| = {n} but |image| = {m}"
  | infiniteOrder x => s!"{x} has no finite order"
  | indivisibleOrder => "Lagrange says no"
  | nothingToActOn => "nothing to act on"
  | notAnAction => "not an action"
  | notSquare s => s
  | wrongClass n => n
  | failedCheck | wrongKind | missingKey | outOfBounds | badValue | divisionByZero
  | noAttribute | overflow | unimplemented | exhausted | unseen .. => ""

end Fault

end FiniteGroups
