import FiniteGroups.Decimal.Nearest
import FiniteGroups.Fault
import FiniteGroups.Text.Listing
import FiniteGroups.Text.Numeral
import FiniteGroups.Text.Quoted

/-!
# Data

The values of options. A datum is a constant or a collection of data. In a set each member occurs
once, in a dictionary each key; both are found by what they stand for, numbers by value, so that
`1`, `1.0` and `True` are one key. Collections that may change cannot be found in this way and are
a fault there.

* `Datum.same` : whether two data stand for the same thing;
* `Datum.hashable` : whether a datum may be a member of a set or a key;
* `Datum.write` : how a datum is written.
-/

namespace FiniteGroups

open Decimal (Extended Binary)

/-- The values of options. A text is a list of code points, since an escape may name one that is
no character by itself. -/
inductive Datum where
  | none
  | ellipsis
  | bool (b : Bool)
  | int (n : Int)
  | real (x : Extended)
  | complex (re im : Extended)
  | text (points : List Nat)
  | bytes (bs : List UInt8)
  | tuple (xs : List Datum)
  | list (xs : List Datum)
  | set (xs : List Datum)
  | mapping (keys values : List Datum)

namespace Datum

instance : Inhabited Datum := ⟨.none⟩

/-- The datum of a text. -/
def ofString (s : String) : Datum := .text (s.toList.map Char.toNat)

/-! ## Sameness -/

/-- What a real number is worth. -/
inductive Worth where
  | whole (n : Int)
  | fractional (b : Binary)
  | infinite (negative : Bool)
deriving DecidableEq, Repr

/-- What a floating-point number is worth. -/
def worth : Extended → Worth
  | .finite b =>
    match b.whole? with
    | some n => .whole n
    | Option.none => .fractional b
  | .infinite negative => .infinite negative

/-- What a number is worth, its real and its imaginary part. -/
def worth? : Datum → Option (Worth × Worth)
  | bool b => some (.whole (if b then 1 else 0), .whole 0)
  | int n => some (.whole n, .whole 0)
  | real x => some (worth x, .whole 0)
  | complex re im => some (worth re, worth im)
  | _ => Option.none

mutual

/-- Whether two data stand for the same thing. Sets and dictionaries, which are never members of a
set or keys, are not compared. -/
def same : Datum → Datum → Bool
  | .none, d => match d with | .none => true | _ => false
  | .ellipsis, d => match d with | .ellipsis => true | _ => false
  | .text s, d => match d with | .text t => s == t | _ => false
  | .bytes bs, d => match d with | .bytes cs => bs == cs | _ => false
  | .tuple xs, d => match d with | .tuple ys => sameEach xs ys | _ => false
  | .list xs, d => match d with | .list ys => sameEach xs ys | _ => false
  | .set _, _ | .mapping .., _ => false
  | c, d =>
    match c.worth?, d.worth? with
    | some v, some w => v == w
    | _, _ => false

/-- Whether two lists agree entry by entry. -/
def sameEach : List Datum → List Datum → Bool
  | [], ys => ys.isEmpty
  | x :: xs, ys => match ys with | [] => false | y :: ys => same x y && sameEach xs ys

end

mutual

/-- Whether a datum can be found by what it stands for. -/
def hashable : Datum → Bool
  | .list _ | .set _ | .mapping .. => false
  | .tuple xs => allHashable xs
  | _ => true

/-- Whether all members of a list can be found. -/
def allHashable : List Datum → Bool
  | [] => true
  | x :: xs => hashable x && allHashable xs

end

/-- A datum that is to be found later. -/
def key (d : Datum) : Except Fault Datum := if d.hashable then .ok d else .error .wrongKind

/-- The members of a set with one more. -/
def insert (xs : List Datum) (x : Datum) : List Datum := if xs.any (same x) then xs else xs ++ [x]

/-- The keys and values of a dictionary with a value for one more key. A key that is there stays
as it was written and gets the new value. -/
def assign (keys values : List Datum) (k v : Datum) : List Datum × List Datum :=
  match keys.findIdx? (same k) with
  | some i => (keys, values.set i v)
  | Option.none => (keys ++ [k], values ++ [v])

/-- Whether a datum counts as true: whether it is not nothing, zero or empty. -/
def truthy : Datum → Bool
  | none => false
  | ellipsis => true
  | bool b => b
  | int n => n != 0
  | real x => !x.isZero
  | complex re im => !(re.isZero && im.isZero)
  | text ps => !ps.isEmpty
  | bytes bs => !bs.isEmpty
  | tuple xs | list xs | set xs | mapping xs _ => !xs.isEmpty

/-! ## Text -/

/-- The text of a complex number. A real part of zero is left out, unless it has a minus sign. -/
def complexText (re im : Extended) : String :=
  if re.isZero && !re.isNegative then im.text true ++ "j"
  else
    let plus := if im.isNegative then "" else "+"
    "(" ++ re.text true ++ plus ++ im.text true ++ "j)"

/-- The text of a dictionary, from those of its keys and values. -/
def entries (pairs : List (String × String)) : String :=
  "\x7b" ++ ", ".intercalate (pairs.map fun p => p.1 ++ ": " ++ p.2) ++ "\x7d"

mutual

/-- The text of a datum, in which no integer may have too many digits. -/
def write : Datum → Except Fault String
  | .none => .ok "None"
  | .ellipsis => .ok "Ellipsis"
  | .bool b => .ok (if b then "True" else "False")
  | .int n => Text.ofInt n
  | .real x => .ok (x.text false)
  | .complex re im => .ok (complexText re im)
  | .text ps => .ok (Text.quotePoints ps)
  | .bytes bs => .ok (Text.quoteBytes bs)
  | .tuple xs => do return Brackets.round.enclose (← writeEach xs)
  | .list xs => do return Brackets.square.enclose (← writeEach xs)
  | .set xs => do
    if xs.isEmpty then return "set()"
    else return "\x7b" ++ ", ".intercalate (← writeEach xs) ++ "\x7d"
  | .mapping keys values => do return entries ((← writeEach keys).zip (← writeEach values))

/-- The texts of the members of a list. -/
def writeEach : List Datum → Except Fault (List String)
  | [] => .ok []
  | x :: xs => do return (← write x) :: (← writeEach xs)

end

end Datum

end FiniteGroups
