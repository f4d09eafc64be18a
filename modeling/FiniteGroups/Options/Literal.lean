import FiniteGroups.Options.Form

/-!
# Literals

A literal is an expression of a simple form: a constant, a collection of literals, a number with a
sign, a sum of a real and an imaginary number, or the call that makes an empty set. Reading it
takes two steps, the form of a text (`Form.read`) and the datum that the form stands for. A form
may still be no literal, `1+2` is none, or stand for nothing at all, as a set does whose members
include a list; these cases are told apart by `Refusal`. The parts of a form are taken from left
to right, and the first that has no datum decides.

* `Form.value` : the datum of a form;
* `Datum.parse` : the value of an option, which is its own text if that is no literal.
-/

namespace FiniteGroups

open Decimal (Extended)

/-- Why a form has no datum: it is no literal, or a fault occurs. -/
inductive Refusal where
  | notLiteral
  | fault (e : Fault)
deriving DecidableEq, Repr

namespace Form

/-! ## The datum of a form -/

/-- A number without a sign. -/
def number : Form → Except Refusal Datum
  | constant (.int n) => .ok (.int n)
  | constant (.real x) => .ok (.real x)
  | constant (.complex re im) => .ok (.complex re im)
  | _ => .error .notLiteral

/-- A number with the other sign. -/
def negated : Datum → Except Refusal Datum
  | .int n => .ok (.int (-n))
  | .real x => .ok (.real x.negate)
  | .complex re im => .ok (.complex re.negate im.negate)
  | _ => .error .notLiteral

/-- A number with at most one sign. -/
def signedNumber : Form → Except Refusal Datum
  | signed negative x => do
    let d ← number x
    if negative then negated d else .ok d
  | x => number x

/-- A number plus or minus nothing: it loses the sign of a zero when nothing is added. -/
def plusZero (minus : Bool) (x : Extended) : Extended :=
  if x.isZero && !minus then .nearest false 0 0 else x

/-- The real number plus or minus the imaginary one. -/
def combine (minus : Bool) (re im : Extended) : Datum :=
  .complex (plusZero minus re)
    (if im.isZero then .nearest false 0 0 else if minus then im.negate else im)

/-- The sum of a real number and an imaginary one, or their difference. -/
def complexSum (minus : Bool) (x y : Form) : Except Refusal Datum := do
  let left ← signedNumber x
  match left, ← number y with
  | .int n, .complex _ im =>
    match Extended.nearest (n < 0) n.natAbs 0 with
    | .finite b => return combine minus (.finite b) im
    | .infinite _ => throw (.fault .overflow)
  | .real re, .complex _ im => return combine minus re im
  | _, _ => throw .notLiteral

/-- A datum that is to be found later. -/
def key (d : Datum) : Except Refusal Datum :=
  match d.key with
  | .ok d => .ok d
  | .error e => .error (.fault e)

/-- The members of a set, or why there is none. -/
def setOf (members : List (Except Refusal Datum)) : Except Refusal (List Datum) :=
  members.foldlM (fun found member => do
    let d ← member
    return Datum.insert found (← key d)) []

/-- The keys and values of a dictionary, or why there is none. -/
def mappingOf (keys values : List (Except Refusal Datum)) :
    Except Refusal (List Datum × List Datum) :=
  (keys.zip values).foldlM (fun (found : List Datum × List Datum) (k, v) => do
    let k ← k
    let v ← v
    return Datum.assign found.1 found.2 (← key k) v) ([], [])

mutual

/-- The datum that a form stands for. -/
def value : Form → Except Refusal Datum
  | .constant d => .ok d
  | .name _ | .place | .starred _ | .other => .error .notLiteral
  | .call f => if f matches .name "set" then .ok (.set []) else .error .notLiteral
  | .tuple xs => return .tuple (← (values xs).mapM id)
  | .list xs => return .list (← (values xs).mapM id)
  | .set xs => return .set (← setOf (values xs))
  | .mapping ks xs => do
    let (keys, values) ← mappingOf (values ks) (values xs)
    return .mapping keys values
  | .signed negative x => signedNumber (.signed negative x)
  | .sum minus x y => complexSum minus x y

/-- The data of a list of forms. -/
def values : List Form → List (Except Refusal Datum)
  | [] => []
  | x :: xs => value x :: values xs

end

end Form

/-- The value of an option: the datum of a literal, and of any other text the text itself. -/
def Datum.parse (s : String) : Except Fault Datum :=
  match Form.read s with
  | Option.none => .ok (ofString s)
  | some form =>
    match form.value with
    | .ok d => .ok d
    | .error .notLiteral => .ok (ofString s)
    | .error (.fault e) => .error e

end FiniteGroups
