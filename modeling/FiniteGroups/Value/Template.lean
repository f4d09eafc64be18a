import FiniteGroups.Decimal.Fixed
import FiniteGroups.Value.Text

/-!
# Templates

A text with a percent sign in it is a template: behind the sign stands what kind of text is to
take its place. The values are taken from a tuple in turn, or there is a single value, from which
entries may be taken by their names.

* `Template.fill` : the template with the values in place. Too few and too many values are of
  the wrong kind, as are values that a place cannot show;
* `Value.decimal` : a number as the integer that a place for an integer shows.
-/

namespace FiniteGroups

/-- The integer that a number shows where an integer is asked for: the fraction is dropped. -/
def Value.decimal : Value → Except Fault Int
  | .int n | .word n => .ok n
  | .bool b => .ok (Value.ofBool b)
  | .real x => Decimal.Real.truncate x
  | .nan .. => .error .badValue
  | _ => .error .wrongKind

/-- The text of a number where an integer is asked for. -/
def Value.decimalText (v : Value) : Except Fault String := do Text.ofInt (← v.decimal)

namespace Template

/-- How a value is to be shown: aligned to the left, with zeros in front, with a sign, with a
blank in place of a sign, with a mark of the base or the point in any case, in so many places, of
so many characters or digits. -/
structure Form where
  left : Bool := false
  zeros : Bool := false
  signed : Bool := false
  blank : Bool := false
  marked : Bool := false
  width : Nat := 0
  precision : Option Nat := none

/-- The values that are left for a template: those that are taken in turn, and the one whose
entries are taken by name. -/
structure Supply where
  rest : List Value
  named : Option Value

/-- The next value. -/
def Supply.next (s : Supply) : Except Fault (Value × Supply) :=
  match s.rest with
  | [] => .error .wrongKind
  | v :: rest => .ok (v, { s with rest })

/-! ## Forms -/

/-- The name in round brackets at the start of a text, up to the bracket that closes the first
one, and the rest. -/
def nameUpTo (open' : Nat) (acc : List Char) : List Char → Except Fault (String × List Char)
  | [] => .error .badValue
  | c :: cs =>
    if c = ')' then
      if open' = 0 then .ok (String.ofList acc.reverse, cs)
      else nameUpTo (open' - 1) (c :: acc) cs
    else nameUpTo (if c = '(' then open' + 1 else open') (c :: acc) cs

/-- Takes the entry of a name, if there is one in front of a form. -/
def chooseNamed (cs : List Char) (s : Supply) : Except Fault (Supply × List Char) := do
  match cs with
  | '(' :: cs =>
    match s.named with
    | none => throw .wrongKind
    | some v => do
      let (name, cs) ← nameUpTo 0 [] cs
      return ({ s with rest := [← v.item (.text name)] }, cs)
  | cs => return (s, cs)

/-- Reads the flags in front of a form. -/
def flags (f : Form) : List Char → Form × List Char
  | '-' :: cs => flags { f with left := true } cs
  | '0' :: cs => flags { f with zeros := true } cs
  | '+' :: cs => flags { f with signed := true } cs
  | ' ' :: cs => flags { f with blank := true } cs
  | '#' :: cs => flags { f with marked := true } cs
  | cs => (f, cs)

/-- Reads a number. -/
def number (n : Nat) : List Char → Nat × List Char
  | c :: cs => if c.isDigit then number (10 * n + (c.toNat - 48)) cs else (n, c :: cs)
  | [] => (n, [])

/-- A number in a form: digits, or a star for the next value, which must be an integer. Numbers
have a limit. -/
def numberOr (limit : Nat) (cs : List Char) (s : Supply) :
    Except Fault (Int × List Char × Supply) := do
  match cs with
  | '*' :: cs =>
    let (v, s) ← s.next
    match v with
    | .int _ | .bool _ =>
      let n ← v.index
      if limit < n.natAbs then throw .overflow
      return (n, cs, s)
    | _ => throw .wrongKind
  | cs =>
    let (n, cs) := number 0 cs
    if limit < n then throw .badValue
    return (n, cs, s)

/-- Reads a form up to the letter of its kind. -/
def form (cs : List Char) (s : Supply) : Except Fault (Form × List Char × Supply) := do
  let (f, cs) := flags {} cs
  let (n, cs, s) ← numberOr 0x7fffffffffffffff cs s
  let f := { f with left := f.left || n < 0, width := n.natAbs }
  let (f, cs, s) ← match cs with
    | '.' :: cs => do
      let (n, cs, s) ← numberOr 0x7fffffff cs s
      pure ({ f with precision := some n.toNat }, cs, s)
    | cs => pure (f, cs, s)
  match cs with
  | 'h' :: cs | 'l' :: cs | 'L' :: cs => return (f, cs, s)
  | cs => return (f, cs, s)

/-! ## Texts -/

/-- A text in as many places as the form asks for. -/
def pad (f : Form) (s : String) : String :=
  let blanks := String.ofList (List.replicate (f.width - s.length) ' ')
  if f.left then s ++ blanks else blanks ++ s

/-- A text cut to the length that the form allows. -/
def cut (f : Form) (s : String) : String :=
  match f.precision with
  | some n => (s.take n).toString
  | none => s

/-- The text of a number, in front of which there is a sign, a mark and maybe zeros. -/
def numeric (f : Form) (negative : Bool) (mark digits : String) : String :=
  let sign := if negative then "-" else if f.signed then "+" else if f.blank then " " else ""
  let front := sign ++ mark
  let gap := if f.zeros && !f.left then f.width - (front.length + digits.length) else 0
  pad f (front ++ String.ofList (List.replicate gap '0') ++ digits)

/-- An integer in a base. -/
def integer (f : Form) (base : Nat) (mark : String) (upper : Bool) (n : Int) : String :=
  let digits := String.ofList (Nat.toDigits base n.natAbs)
  let digits := if upper then digits.toUpper else digits
  let digits := String.ofList (List.replicate (f.precision.getD 0 - digits.length) '0') ++ digits
  numeric f (n < 0) (if f.marked then mark else "") digits

/-- A number as a floating-point number. -/
def realOf (v : Value) : Except Fault Float :=
  match v with
  | .real x => .ok x
  | .nan .. => .ok Value.noNumber
  | v => do Decimal.Real.ofInt (← v.index)

/-- A floating-point number, as one of the letters `e`, `f` and `g` tells. -/
def real (f : Form) (kind : Char) (upper : Bool) (x : Float) : String :=
  let places := f.precision.getD 6
  let (negative, digits) := match Decimal.Binary.decode x with
    | some b =>
      (b.negative, match kind with
        | 'e' => Decimal.floating f.marked places b
        | 'f' => Decimal.fixed f.marked places b
        | _ => Decimal.general f.marked places b)
    | none => if x.isNaN then (false, "nan") else (x < 0, "inf")
  numeric f negative "" (if upper then digits.toUpper else digits)

/-- The text that takes the place of a form of a kind. -/
def fit (f : Form) (kind : Char) (v : Value) : Except Fault String := do
  match kind with
  | 's' => return pad f (cut f (← v.plain))
  | 'r' => return pad f (cut f (← v.quoted))
  | 'a' => return pad f (cut f (Text.plainAscii (← v.quoted)))
  | 'd' | 'i' | 'u' => do
    let _ ← v.decimalText
    return integer f 10 "" false (← v.decimal)
  | 'x' => return integer f 16 "0x" false (← v.index)
  | 'X' => return integer f 16 "0X" true (← v.index)
  | 'o' => return integer f 8 "0o" false (← v.index)
  | 'c' =>
    match v with
    | .text s => if s.length = 1 then return pad f s else throw .wrongKind
    | v => do
      let n ← v.index
      if 0 ≤ n ∧ n < 0x110000 then return pad f (Char.ofNat n.toNat).toString
      else throw .overflow
  | 'e' | 'f' | 'g' => return real f kind false (← realOf v)
  | 'E' | 'F' | 'G' => return real f kind.toLower true (← realOf v)
  | _ => throw .badValue

/-- The characters of a template with values in the places of its forms, and the values left
over. The fuel is the length of the template. -/
def run : (fuel : Nat) → List Char → Supply → Except Fault (String × Supply)
  | 0, _, s => .ok ("", s)
  | _, [], s => .ok ("", s)
  | fuel + 1, '%' :: '%' :: cs, s => do
    let (text, s) ← run fuel cs s
    return ("%" ++ text, s)
  | fuel + 1, '%' :: cs, s => do
    let (s, cs) ← chooseNamed cs s
    match ← form cs s with
    | (_, [], _) => throw .badValue
    | (f, kind :: rest, s) => do
      let (v, s) ← s.next
      let shown ← fit f kind v
      let (text, s) ← run fuel rest s
      return (shown ++ text, s)
  | fuel + 1, c :: cs, s => do
    let (text, s) ← run fuel cs s
    return (c.toString ++ text, s)

/-- Whether entries of a value are taken by name. All of it need not be shown then. -/
def hasEntries : Value → Bool
  | .list .. | .mapping .. | .array .. | .word _ | .kinds | .group .. | .perm _ | .action .. => true
  | _ => false

/-- A template with values in its places. -/
def fill (template : String) (v : Value) : Except Fault Value := do
  let rest := match v with
    | .tuple xs | .verdict xs => xs
    | v => [v]
  let named := if hasEntries v then some v else none
  let (text, s) ← run template.length template.toList { rest, named }
  if s.rest.isEmpty || named.isSome then return .text text else throw .wrongKind

end Template

end FiniteGroups
