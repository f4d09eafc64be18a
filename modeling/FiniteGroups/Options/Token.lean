import FiniteGroups.Options.Datum
import FiniteGroups.Options.Field
import FiniteGroups.Text.Identifier
import FiniteGroups.Text.Numeral

/-!
# Tokens

The value of an option may be a literal. Its text is cut into tokens: numbers, texts, names and
marks. Blanks, comments and joined lines between them are skipped; inside brackets so are ends of
lines, while outside of brackets the literal must stand on a single line that is not indented,
among blank ones.

Whatever does not fit is no token, and the text then is no literal: every function below gives
`none` for it. Functions that go through a text take a bound on their steps, for which the length
of the text suffices, since every step leaves a shorter one.

* `number` : whole, decimal and imaginary numbers;
* `quotation` : texts and bytes between quotes;
* `tokens` : the tokens of a text.
-/

namespace FiniteGroups

open Decimal (Extended)
open Escape (digit? ofDigits)

/-- The tokens of literals. -/
inductive Token where
  | int (n : Nat)
  | real (x : Extended)
  | imaginary (x : Extended)
  | text (points : List Nat)
  | bytes (bs : List UInt8)
  /-- A template, of which the expressions in its fields are known. -/
  | template (fields : List String)
  | ellipsis
  | name (s : String)
  | mark (s : String)
deriving DecidableEq, Repr

namespace Token

/-! ## Numbers -/

/-- The digits at the start of a text, between which single underscores may stand, and the rest.
There must be a digit in front and behind each underscore. -/
def digits (base : Nat) : List Char → Option (List Nat × List Char)
  | [] => none
  | c :: cs =>
    match digit? base c with
    | none => none
    | some d =>
      match cs with
      | '_' :: rest => (digits base rest).map fun (ds, rest) => (d :: ds, rest)
      | [] => some ([d], [])
      | c' :: rest =>
        if (digit? base c').isSome then
          (digits base (c' :: rest)).map fun (ds, rest) => (d :: ds, rest)
        else some ([d], c' :: rest)

/-- The digits of a text that need not begin with any. -/
def someDigits (cs : List Char) : Option (List Nat × List Char) :=
  match cs with
  | c :: _ => if c.isDigit then digits 10 cs else some ([], cs)
  | [] => some ([], [])

/-- The exponent at the start of a text, if it begins with one. Without a sign and a digit the
letter belongs to what follows the number. -/
def exponent (cs : List Char) : Option (Option Int × List Char) :=
  match cs with
  | [] => some (none, [])
  | e :: rest =>
    let unsigned (rest : List Char) := (digits 10 rest).map fun (ds, rest) => (ofDigits 10 ds, rest)
    if e = 'e' ∨ e = 'E' then
      match rest with
      | '-' :: rest => (unsigned rest).map fun (n, rest) => (some (-n : Int), rest)
      | '+' :: rest => (unsigned rest).map fun (n, rest) => (some (n : Int), rest)
      | c :: _ =>
        if c.isDigit then (unsigned rest).map fun (n, rest) => (some (n : Int), rest)
        else some (none, cs)
      | [] => some (none, cs)
    else some (none, cs)

/-- A whole number. Zeros in front are only allowed in zero itself. -/
def whole (ds : List Nat) : Option Token :=
  if ds.all (· = 0) then some (.int 0)
  else if ds.head? ≠ some 0 ∧ ds.length ≤ Text.maxDigits then some (.int (ofDigits 10 ds))
  else none

/-- The base that the letter behind a zero stands for. -/
def base? (c : Char) : Option Nat :=
  if c = 'x' ∨ c = 'X' then some 16
  else if c = 'o' ∨ c = 'O' then some 8
  else if c = 'b' ∨ c = 'B' then some 2
  else none

/-- A whole number in another base, behind the letter of the base. -/
def based (base : Nat) (cs : List Char) : Option (Token × List Char) :=
  let cs := match cs with
    | '_' :: rest => rest
    | cs => cs
  match digits base cs with
  | some (ds, []) => some (.int (ofDigits base ds), [])
  | some (ds, c :: rest) => if c.isDigit then none else some (.int (ofDigits base ds), c :: rest)
  | none => none

/-- A decimal number. -/
def decimal (cs : List Char) : Option (Token × List Char) := do
  let (ds, rest) ← someDigits cs
  let (point, fs, rest) ← match rest with
    | '.' :: rest => (someDigits rest).map fun (fs, rest) => (true, fs, rest)
    | rest => some (false, [], rest)
  let (power, rest) ← exponent rest
  let value := Extended.nearest false (ofDigits 10 (ds ++ fs)) (power.getD 0 - fs.length)
  match rest with
  | c :: rest' =>
    if c = 'j' ∨ c = 'J' then return (.imaginary value, rest')
    else if point ∨ power.isSome then return (.real value, rest)
    else return (← whole ds, rest)
  | [] => if point ∨ power.isSome then return (.real value, []) else return (← whole ds, [])

/-- Whether a text may follow a number without a blank: it begins with no letter, or with one of
the words that stand between operands. -/
def mayFollow (cs : List Char) : Bool :=
  match cs with
  | c :: _ =>
    !(c.isAlpha || c == '_' || 0x80 ≤ c.toNat) ||
      ["and", "else", "for", "if", "in", "is", "or", "not"].any fun w => w.toList.isPrefixOf cs
  | [] => true

/-- The number at the start of a text that begins with a digit, or a point and a digit. -/
def number (cs : List Char) : Option (Token × List Char) := do
  let (t, rest) ← match cs with
    | '0' :: c :: rest =>
      match base? c with
      | some base => based base rest
      | none => decimal cs
    | cs => decimal cs
  if mayFollow rest then return (t, rest) else none

/-! ## Texts -/

/-- How a quotation is read, by the letters in front of it: whether it stands for bytes, whether
backslashes are ordinary characters, and whether it is a template. -/
structure Style where
  isBytes : Bool
  isRaw : Bool
  isTemplate : Bool

/-- The style that the letters in front of a quotation ask for. -/
def style? (s : String) : Option Style :=
  match s.toLower with
  | "" | "u" => some ⟨false, false, false⟩
  | "r" => some ⟨false, true, false⟩
  | "b" => some ⟨true, false, false⟩
  | "br" | "rb" => some ⟨true, true, false⟩
  | "f" => some ⟨false, false, true⟩
  | "fr" | "rf" => some ⟨false, true, true⟩
  | _ => none

/-- The characters up to the closing quotes and the rest. A character behind a backslash never
closes; a quotation in single quotes ends on its line. -/
def enclosed (quote : Char) (triple : Bool) (acc : List Char) :
    List Char → Option (List Char × List Char)
  | [] => none
  | '\\' :: c :: rest => enclosed quote triple (c :: '\\' :: acc) rest
  | c :: rest =>
    if c = quote then
      if triple then
        match rest with
        | c' :: c'' :: rest' =>
          if c' = quote ∧ c'' = quote then some (acc.reverse, rest')
          else enclosed quote triple (c :: acc) (c' :: c'' :: rest')
        | _ => none
      else some (acc.reverse, rest)
    else if c = '\n' ∧ !triple then none
    else enclosed quote triple (c :: acc) rest

/-- The token of the characters of a quotation. Bytes are written by characters below `0x80`. -/
def quoted (style : Style) (cs : List Char) : Option Token :=
  if style.isTemplate then (Field.all style.isRaw cs).map .template
  else do
    let points ← if style.isRaw then some (cs.map Char.toNat)
      else Escape.unescape style.isBytes (cs.length + 1) cs
    if style.isBytes then
      if cs.all fun c => c.toNat < 0x80 then return .bytes (points.map UInt8.ofNat) else none
    else return .text points

/-- The quotation at the start of a text that begins with a quote. -/
def quotation (style : Style) (cs : List Char) : Option (Token × List Char) := do
  let (inside, rest) ← match cs with
    | q :: q' :: rest =>
      if q = q' then
        match rest with
        | q'' :: rest' => if q'' = q then enclosed q true [] rest' else some ([], rest)
        | [] => some ([], [])
      else enclosed q false [] (q' :: rest)
    | _ => none
  return (← quoted style inside, rest)

/-! ## Lines -/

/-- The text behind a joined line: a backslash joins a line with a next one. -/
def joined : List Char → Option (List Char)
  | '\n' :: c :: rest => some (c :: rest)
  | _ => none

/-- The text of the first line that is not blank and how far it is indented. Lines that hold
nothing but blanks and a comment are skipped; joined lines count from the first indentation. -/
def firstLine (column joinedAt : Nat) : (fuel : Nat) → List Char → Option (Nat × List Char)
  | 0, _ => none
  | fuel + 1, cs =>
    let indent := if joinedAt = 0 then column else joinedAt
    match cs with
    | [] => some (indent, [])
    | c :: rest =>
      if c = ' ' then firstLine (column + 1) joinedAt fuel rest
      else if c = '\t' then firstLine ((column / 8 + 1) * 8) joinedAt fuel rest
      else if c = '\x0c' then firstLine 0 joinedAt fuel rest
      else if c = '\\' then (joined rest).bind fun rest => firstLine column indent fuel rest
      else if c = '\n' then firstLine 0 0 fuel rest
      else if c = '#' then firstLine 0 0 fuel ((rest.dropWhile (· ≠ '\n')).drop 1)
      else some (indent, c :: rest)

/-- The text from its first line that is not blank, which must not be indented. -/
def unindented (cs : List Char) : Option (List Char) :=
  match firstLine 0 0 (cs.length + 1) cs with
  | some (0, rest) => some rest
  | _ => none

/-! ## Tokens -/

/-- The letters of other styles that stand for a plain letter, besides the mathematical ones. -/
def styled : List (Nat × Char) := [
  (0x17f, 's'), (0x2e2, 's'), (0x209b, 's'), (0xff53, 's'), (0x1d49, 'e'), (0x2091, 'e'),
  (0x212f, 'e'), (0x2147, 'e'), (0xff45, 'e'), (0x1d57, 't'), (0x209c, 't'), (0xff54, 't')]

/-- The letter that a mathematical letter stands for, if it is one of `s`, `e` and `t`. There are
thirteen styles of the whole alphabet, in capital and small letters, of which one has no `e`. -/
def mathematical? (n : Nat) : Option Char :=
  let i := n - 0x1d41a
  if n < 0x1d41a ∨ 13 * 52 ≤ i ∨ n = 0x1d4ba then none
  else [(18, 's'), (4, 'e'), (19, 't')].lookup (i % 52)

/-- The plain letter that a letter of another style stands for in a name. -/
def plainLetter? (c : Char) : Option Char :=
  (styled.lookup c.toNat).or (mathematical? c.toNat)

/-- A name in plain letters. -/
def plainName (s : String) : String := s.map fun c => (plainLetter? c).getD c

/-- Whether a character may begin a name, as far as that is clear before the name is complete. -/
def beginsName (c : Char) : Bool := c.isAlpha || c == '_' || 0x80 ≤ c.toNat

/-- Whether a character is a quote. -/
def isQuote (c : Char) : Bool := c == '\x27' || c == '\x22'

/-- The name at the start of a text, or the quotation that it is in front of. -/
def nameOrQuotation (cs : List Char) : Option (Token × List Char) :=
  let isPart := fun (c : Char) => beginsName c || c.isDigit
  let name := cs.takeWhile isPart
  let rest := cs.dropWhile isPart
  let s := String.ofList name
  match rest.head?.any isQuote, style? s with
  | true, some style => quotation style rest
  | _, _ => if Text.isIdentifier name then some (.name s, rest) else none

/-- The words that are no names. -/
def reserved : List String :=
  ["False", "None", "True", "and", "as", "assert", "async", "await", "break", "class", "continue",
    "def", "del", "elif", "else", "except", "finally", "for", "from", "global", "if", "import",
    "in", "is", "lambda", "nonlocal", "not", "or", "pass", "raise", "return", "try", "while",
    "with", "yield"]

/-- The marks, of which a longer one goes before a shorter one. -/
def marks : List String :=
  ["**=", "//=", ">>=", "<<=", "**", "//", ">>", "<<", "<=", ">=", "==", "!=", "<>", "->", "+=",
    "-=", "*=", "/=", "%=", "&=", "|=", "^=", "@=", ":=", "(", ")", "[", "]", "\x7b", "\x7d", ",",
    ":", "+", "-", "*", "/", "%", "@", "&", "|", "^", "~", "<", ">", "=", ".", ";"]

/-- The mark at the start of a text. -/
def firstMark (cs : List Char) : Option (Token × List Char) :=
  (marks.find? fun m => m.toList.isPrefixOf cs).map fun m => (.mark m, cs.drop m.length)

/-- The token at the start of a text. -/
def first (cs : List Char) : Option (Token × List Char) :=
  match cs with
  | [] => none
  | c :: rest =>
    if c.isDigit then number cs
    else if c = '.' then
      match rest with
      | '.' :: '.' :: rest => some (.ellipsis, rest)
      | c' :: _ => if c'.isDigit then number cs else firstMark cs
      | [] => firstMark cs
    else if beginsName c then nameOrQuotation cs
    else if isQuote c then quotation ⟨false, false, false⟩ cs
    else firstMark cs

/-- How many brackets are open behind a token. -/
def depth (level : Nat) : Token → Nat
  | .mark s =>
    if s ∈ ["(", "[", "\x7b"] then level + 1
    else if s ∈ [")", "]", "\x7d"] then level - 1
    else level
  | _ => level

/-- The largest number of brackets that may be open. -/
def maxDepth : Nat := 200

/-- The tokens from inside a line onwards, with `level` brackets open. -/
def inLine : (fuel level : Nat) → List Char → Option (List Token)
  | 0, _, _ => none
  | fuel + 1, level, cs =>
    match cs with
    | [] => if level = 0 then some [] else none
    | c :: rest =>
      if c = ' ' ∨ c = '\t' ∨ c = '\x0c' then inLine fuel level rest
      else if c = '#' then inLine fuel level (rest.dropWhile (· ≠ '\n'))
      else if c = '\\' then (joined rest).bind (inLine fuel level)
      else if c = '\n' then
        if level = 0 then if unindented rest = some [] then some [] else none
        else inLine fuel level rest
      else
        match first cs with
        | some (t, rest) =>
          if depth level t ≤ maxDepth then (inLine fuel (depth level t) rest).map (t :: ·)
          else none
        | none => none

/-- Every line ends in the same way. -/
def plainLines : List Char → List Char
  | '\r' :: '\n' :: cs => '\n' :: plainLines cs
  | '\r' :: cs => '\n' :: plainLines cs
  | c :: cs => c :: plainLines cs
  | [] => []

/-- The tokens of a text. The null character may stand nowhere, not even in a quotation. -/
def tokens (s : String) : Option (List Token) :=
  let cs := plainLines (s.toList.dropWhile fun c => c = ' ' ∨ c = '\t')
  if '\x00' ∈ cs then none
  else (unindented cs).bind fun cs => inLine (cs.length + 1) 0 cs

end Token

end FiniteGroups
