import FiniteGroups.Fault

/-!
# Numerals

A text that spells an integer: digits behind an optional sign, with single underscores between
them and blanks around them. Outside of ASCII every decimal digit and every blank of any script
counts; a text all in ASCII knows only its own digits and blanks.

* `Text.numeral` : the integer that a text spells, a bad value if it spells none or has too many
  digits.
-/

namespace FiniteGroups.Text

/-- The largest number of digits of an integer that is read or written. -/
def maxDigits : Nat := 4300

/-- The zeros of the decimal digits outside of ASCII; each is followed by the other nine. -/
def zeros : List Nat := [
  0x660, 0x6f0, 0x7c0, 0x966, 0x9e6, 0xa66, 0xae6, 0xb66, 0xbe6, 0xc66, 0xce6, 0xd66, 0xde6,
  0xe50, 0xed0, 0xf20, 0x1040, 0x1090, 0x17e0, 0x1810, 0x1946, 0x19d0, 0x1a80, 0x1a90, 0x1b50,
  0x1bb0, 0x1c40, 0x1c50, 0xa620, 0xa8d0, 0xa900, 0xa9d0, 0xa9f0, 0xaa50, 0xabf0, 0xff10, 0x104a0,
  0x10d30, 0x11066, 0x110f0, 0x11136, 0x111d0, 0x112f0, 0x11450, 0x114d0, 0x11650, 0x116c0,
  0x11730, 0x118e0, 0x11950, 0x11c50, 0x11d50, 0x11da0, 0x16a60, 0x16ac0, 0x16b50, 0x1d7ce,
  0x1d7d8, 0x1d7e2, 0x1d7ec, 0x1d7f6, 0x1e140, 0x1e2f0, 0x1e950, 0x1fbf0]

/-- The blanks outside of ASCII. -/
def wideBlanks : List Nat := [
  0x85, 0xa0, 0x1680, 0x2000, 0x2001, 0x2002, 0x2003, 0x2004, 0x2005, 0x2006, 0x2007, 0x2008,
  0x2009, 0x200a, 0x2028, 0x2029, 0x202f, 0x205f, 0x3000]

/-- A character outside of ASCII as the digit or the blank that it is, or as a character that no
numeral contains. -/
def narrow (c : Char) : Char :=
  if c.toNat < 0x7f then c
  else if wideBlanks.contains c.toNat then ' '
  else
    match zeros.find? fun z => z ≤ c.toNat && c.toNat < z + 10 with
    | some z => Char.ofNat (48 + (c.toNat - z))
    | none => '?'

/-- Whether a character is a blank around a numeral. -/
def isBlank (c : Char) : Bool :=
  c == ' ' || c == '\t' || c == '\n' || c == '\r' || c == '\x0b' || c == '\x0c'

/-- The digits of a numeral, between which single underscores may stand. -/
def numeralDigits (joint : Bool) : List Char → Option (List Nat)
  | [] => if joint then none else some []
  | c :: cs =>
    if c.isDigit then (numeralDigits false cs).map ((c.toNat - 48) :: ·)
    else if c == '_' && !joint then numeralDigits true cs
    else none

/-- The integer that a text spells. -/
def numeral (s : String) : Except Fault Int :=
  let cs := s.toList
  let cs := if cs.all fun c => c.toNat < 0x80 then cs else cs.map narrow
  let cs := ((cs.dropWhile isBlank).reverse.dropWhile isBlank).reverse
  let (negative, cs) := match cs with
    | '-' :: cs => (true, cs)
    | '+' :: cs => (false, cs)
    | cs => (false, cs)
  match numeralDigits true cs with
  | none => .error .badValue
  | some ds =>
    if maxDigits < ds.length then .error .badValue
    else
      let n : Nat := ds.foldl (fun n d => 10 * n + d) 0
      .ok (if negative then -(n : Int) else n)

/-- The text of an integer, which must not have too many digits. -/
def ofInt (n : Int) : Except Fault String :=
  if n.natAbs < 0x10000000000000000 || n.natAbs < Nat.pow 10 maxDigits then .ok (toString n)
  else .error .badValue

end FiniteGroups.Text
