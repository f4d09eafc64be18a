import FiniteGroups.Text.Name

/-!
# Escapes

In a quotation a backslash and what follows it stand for one character: a letter for a control
character, digits for a code point, and `N` with braces for the character of a name.

* `Escape.unescape` : the code points that the characters of a quotation stand for.

Functions that go through a text take a bound on their steps, for which the length of the text
suffices.
-/

namespace FiniteGroups.Escape

/-- The value of a digit in bases up to sixteen. -/
def digit? (base : Nat) (c : Char) : Option Nat :=
  let n := c.toNat
  let d := if c.isDigit then n - 48 else if 97 ≤ n ∧ n < 103 then n - 87
    else if 65 ≤ n ∧ n < 71 then n - 55 else 16
  if d < base then some d else none

/-- The number with the given digits. -/
def ofDigits (base : Nat) (ds : List Nat) : Nat := ds.foldl (fun n d => base * n + d) 0

/-- The number written by exactly `n` digits in base sixteen at the start of a text. -/
def hexNumber (n : Nat) (cs : List Char) : Option Nat :=
  match (cs.take n).mapM (digit? 16) with
  | some ds => if ds.length = n then some (ofDigits 16 ds) else none
  | none => none

/-- What a letter behind a backslash stands for. -/
def control? (c : Char) : Option Nat :=
  [('\\', 0x5c), ('\x27', 0x27), ('\x22', 0x22), ('a', 7), ('b', 8), ('f', 12), ('n', 10),
    ('r', 13), ('t', 9), ('v', 11)].lookup c

/-- The code point of a name in braces, and how many characters are used for it with the letter in
front. -/
def namedPoint (cs : List Char) : Option (Nat × Nat) :=
  match cs with
  | '\x7b' :: rest => do
    let name := rest.takeWhile (· ≠ '\x7d')
    if rest.length = name.length then none
    else return (← Text.named? (String.ofList name), name.length + 3)
  | _ => none

/-- The code point of an escape by its number or its name, behind the backslash, and how many
characters are used for it. -/
def numbered (isBytes : Bool) (c : Char) (rest : List Char) : Option (Nat × Nat) :=
  match c with
  | 'x' => (hexNumber 2 rest).map (·, 3)
  | 'u' => if isBytes then none else (hexNumber 4 rest).map (·, 5)
  | 'U' =>
    match hexNumber 8 rest with
    | some n => if isBytes ∨ 0x110000 ≤ n then none else some (n, 9)
    | none => none
  | 'N' => if isBytes then none else namedPoint rest
  | c =>
    let ds := ((c :: rest).take 3).takeWhile fun c => (digit? 8 c).isSome
    if ds.isEmpty then none
    else some (ofDigits 8 (ds.filterMap (digit? 8)), ds.length)

/-- Whether a letter begins an escape by a number or a name. -/
def beginsNumber (isBytes : Bool) (c : Char) : Bool :=
  c == 'x' || (!isBytes && (c == 'u' || c == 'U' || c == 'N')) || (digit? 8 c).isSome

/-- The code points that the characters of a quotation stand for. A backslash before a character
that it has no meaning for stands for itself. -/
def unescape (isBytes : Bool) : (fuel : Nat) → List Char → Option (List Nat)
  | 0, _ => none
  | _, [] => some []
  | fuel + 1, '\\' :: c :: rest =>
    if c = '\n' then unescape isBytes fuel rest
    else
      match control? c with
      | some n => (unescape isBytes fuel rest).map (n :: ·)
      | none =>
        if beginsNumber isBytes c then
          match numbered isBytes c rest with
          | some (n, used) => (unescape isBytes fuel ((c :: rest).drop used)).map (n :: ·)
          | none => none
        else (unescape isBytes fuel (c :: rest)).map (0x5c :: ·)
  | fuel + 1, c :: rest => (unescape isBytes fuel rest).map (c.toNat :: ·)

end FiniteGroups.Escape
