import FiniteGroups.Options.Escape

/-!
# Fields of templates

A template is a quotation with fields between braces, as in `{price!r:>{width}}`: an expression,
and behind it, if they are given, an equals sign, a conversion and a specification, which is a
template of its own with fields that have none. Doubled braces stand for themselves.

Only the fields are of interest here, since it depends on their expressions whether a template
may stand in a text at all. In an expression there is neither a backslash nor a sharp sign, and
its brackets and quotes are closed.

* `Field.all` : the expressions in the fields of a template.
-/

namespace FiniteGroups.Field

/-! ## Expressions -/

/-- Whether a bracket closes another one. -/
def closes (opened closed : Char) : Bool :=
  [('(', ')'), ('[', ']'), ('\x7b', '\x7d')].contains (opened, closed)

/-- The largest number of brackets that may be open in an expression. -/
def maxDepth : Nat := 200

/-- The expression at the start of a field up to the mark that ends it, and the rest from the mark
on. The quotes that it is in are given, whether they are tripled, the brackets that are open, and
the characters so far. -/
def expression (quote : Option (Char × Bool)) (opened acc : List Char) :
    List Char → Option (List Char × List Char)
  | [] => none
  | [c] =>
    if quote.isNone && opened.isEmpty && [':', '!', '=', '\x7d'].contains c then
      some (acc.reverse, [c])
    else none
  | c :: c' :: rest =>
    if c = '\\' then none
    else
      match quote with
      | some (q, false) =>
        expression (if c = q then none else quote) opened (c :: acc) (c' :: rest)
      | some (q, true) =>
        if c = q ∧ c' = q ∧ rest.head? = some q then
          expression none opened (q :: q :: q :: acc) (rest.drop 1)
        else expression quote opened (c :: acc) (c' :: rest)
      | none =>
        if c = '\x27' ∨ c = '\x22' then
          if c' = c ∧ rest.head? = some c then
            expression (some (c, true)) opened (c :: c :: c :: acc) (rest.drop 1)
          else expression (some (c, false)) opened (c :: acc) (c' :: rest)
        else if c = '(' ∨ c = '[' ∨ c = '\x7b' then
          if opened.length < maxDepth then
            expression none (c :: opened) (c :: acc) (c' :: rest)
          else none
        else if c = '#' then none
        else if opened.isEmpty && c' = '=' && ['!', '=', '<', '>'].contains c then
          expression none opened ('=' :: c :: acc) rest
        else if opened.isEmpty && [':', '!', '=', '\x7d'].contains c then
          some (acc.reverse, c :: c' :: rest)
        else if c = ')' ∨ c = ']' ∨ c = '\x7d' then
          match opened with
          | o :: opened =>
            if closes o c then expression none opened (c :: acc) (c' :: rest) else none
          | [] => none
        else expression none opened (c :: acc) (c' :: rest)
termination_by cs => cs.length
decreasing_by all_goals simp; try omega

/-- Whether nothing but blanks is there. -/
def isBlank (cs : List Char) : Bool := cs.all [' ', '\t', '\n', '\x0c'].contains

/-! ## What stands between fields -/

/-- What stands before the next brace, whether that is doubled and belongs to it, and the rest.
Braces are only doubled outside of specifications, where a closing brace cannot stand alone. The
braces of a name behind a backslash belong to the name. -/
def literal (isRaw nested : Bool) (acc : List Char) :
    (fuel : Nat) → List Char → Option (List Char × Bool × List Char)
  | 0, _ => none
  | fuel + 1, cs =>
    match cs with
    | [] => some (acc.reverse, false, [])
    | c :: rest =>
      if c = '\x7b' ∨ c = '\x7d' then
        if nested then some (acc.reverse, false, cs)
        else if rest.head? = some c then some ((c :: acc).reverse, true, rest.drop 1)
        else if c = '\x7d' then none
        else some (acc.reverse, false, cs)
      else if c = '\\' ∧ !isRaw then
        match rest with
        | 'N' :: '\x7b' :: rest =>
          let name := rest.takeWhile (· ≠ '\x7d')
          let taken := name ++ (rest.drop name.length).take 1
          literal isRaw nested (taken.reverse ++ '\x7b' :: 'N' :: '\\' :: acc) fuel
            (rest.drop taken.length)
        | '\x7b' :: _ | '\x7d' :: _ | [] => literal isRaw nested (c :: acc) fuel rest
        | c' :: rest => literal isRaw nested (c' :: c :: acc) fuel rest
      else literal isRaw nested (c :: acc) fuel rest

/-! ## Fields -/

/-- The rest behind an equals sign, if there is one, and the blanks that follow it. -/
def afterEquals : List Char → List Char
  | '=' :: rest => rest.dropWhile [' ', '\t', '\n', '\x0b', '\x0c', '\r'].contains
  | rest => rest

/-- The rest behind a conversion, if there is one. -/
def afterConversion : List Char → Option (List Char)
  | '!' :: c :: rest => if ['s', 'r', 'a'].contains c then some rest else none
  | ['!'] => none
  | rest => some rest

/-- How deep fields may be nested in specifications. -/
def maxNesting : Nat := 2

/-- The expressions in the fields of a template, or of the specification of a field up to the brace
that closes it, and the rest. -/
def fields (isRaw : Bool) : (fuel nesting : Nat) → List Char → Option (List String × List Char)
  | 0, _, _ => none
  | fuel + 1, nesting, cs => do
    let (before, doubled, rest) ← literal isRaw (nesting ≠ 0) [] (cs.length + 1) cs
    if !isRaw then
      let _ ← Escape.unescape false (before.length + 1) before
    if doubled then fields isRaw fuel nesting rest
    else
      match rest with
      | '\x7b' :: rest => do
        if maxNesting ≤ nesting then none
        let (x, rest) ← expression none [] [] rest
        if isBlank x then none
        let (inner, rest) ← match ← afterConversion (afterEquals rest) with
          | ':' :: rest => fields isRaw fuel (nesting + 1) rest
          | rest => some ([], rest)
        match rest with
        | '\x7d' :: rest => do
          let (more, rest) ← fields isRaw fuel nesting rest
          return (String.ofList x :: inner ++ more, rest)
        | _ => none
      | [] => if nesting = 0 then some ([], []) else none
      | rest => some ([], rest)

/-- The expressions in the fields of a template with the given characters. -/
def all (isRaw : Bool) (cs : List Char) : Option (List String) :=
  (fields isRaw (cs.length + 1) 0 cs).map Prod.fst

end FiniteGroups.Field
