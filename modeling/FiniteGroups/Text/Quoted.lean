import FiniteGroups.Text.Printable

/-!
# Quoted text

Text between quotes. Single quotes are preferred; double quotes serve a text that holds single
quotes and no double ones. The quote that is used, the backslash and every character that does
not show as itself are written with a backslash.
-/

namespace FiniteGroups.Text

/-- The quote that a text is put into. -/
def quoteFor (cs : List Char) : Char := if '\x27' ∈ cs ∧ '\x22' ∉ cs then '\x22' else '\x27'

/-- A number in base sixteen, with zeros in front up to the given width. -/
def hex (width n : Nat) : List Char :=
  let digits := Nat.toDigits 16 n
  List.replicate (width - digits.length) '0' ++ digits

/-- A backslash and the number of a code point. -/
def numbered (n : Nat) : List Char :=
  if n < 0x100 then '\\' :: 'x' :: hex 2 n
  else if n < 0x10000 then '\\' :: 'u' :: hex 4 n
  else '\\' :: 'U' :: hex 8 n

/-- A character as it stands between quotes. -/
def escape (quote c : Char) : List Char :=
  if c = quote ∨ c = '\\' then ['\\', c]
  else if c = '\n' then ['\\', 'n']
  else if c = '\r' then ['\\', 'r']
  else if c = '\t' then ['\\', 't']
  else if isPrintable c then [c]
  else numbered c.toNat

/-- The text between quotes. -/
def quote (s : String) : String :=
  let q := quoteFor s.toList
  String.ofList (q :: s.toList.flatMap (escape q) ++ [q])

/-- The characters of a text, those outside of ASCII written by their numbers. -/
def plainAscii (s : String) : String :=
  String.ofList (s.toList.flatMap fun c => if c.toNat < 0x80 then [c] else numbered c.toNat)

/-- A code point as it stands between quotes; one that is no character is written by its number. -/
def escapePoint (quote : Char) (n : Nat) : List Char :=
  if n.isValidChar then escape quote (Char.ofNat n) else '\\' :: 'u' :: hex 4 n

/-- A list of code points between quotes. -/
def quotePoints (ps : List Nat) : String :=
  let q := quoteFor (ps.map Char.ofNat)
  String.ofList (q :: ps.flatMap (escapePoint q) ++ [q])

/-- A byte as it stands between quotes. -/
def escapeByte (quote : Char) (b : UInt8) : List Char :=
  if b < 0x80 then escape quote (Char.ofNat b.toNat) else '\\' :: 'x' :: hex 2 b.toNat

/-- Bytes between quotes, with the mark `b` in front. -/
def quoteBytes (bs : List UInt8) : String :=
  let q := quoteFor (bs.map fun b => Char.ofNat b.toNat)
  String.ofList ('b' :: q :: bs.flatMap (escapeByte q) ++ [q])

end FiniteGroups.Text
