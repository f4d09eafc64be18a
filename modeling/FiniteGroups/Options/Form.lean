import FiniteGroups.Options.Datum
import FiniteGroups.Options.Token

/-!
# Forms

The form of an expression, as far as literals need it: constants, collections, signs, sums and
calls without arguments are told apart, and so are the names and places that can be a target of
`for`. All other expressions have one form. Which texts are expressions at all matters too, since
a literal that cannot be found by what it stands for is a fault, even before a part that is no
literal, while a text that is no expression is a text.

* `Form.read` : the form of a text;
* `Form.expression` : the form of the expression at the start of a list of tokens.

The functions from `Form.expression` on read a list of tokens from its start and take a bound on
the depth of the calls. A token is read within few calls, so that a multiple of the length of the
text suffices.
-/

namespace FiniteGroups

/-- The forms of expressions. -/
inductive Form where
  | constant (d : Datum)
  | name (s : String)
  | tuple (xs : List Form)
  | list (xs : List Form)
  | set (xs : List Form)
  | mapping (keys values : List Form)
  /-- A form followed by empty brackets. -/
  | call (f : Form)
  | signed (negative : Bool) (x : Form)
  | sum (negative : Bool) (x y : Form)
  /-- An attribute or an entry of something. -/
  | place
  /-- The entries of something, in a list of forms. -/
  | starred (x : Form)
  | other

namespace Form

instance : Inhabited Form := ⟨.other⟩

/-- Takes tokens off the front of a list. -/
abbrev Reader := StateT (List Token) Option

namespace Reader

/-! ## Single tokens -/

/-- Whether the next token is the given one. -/
def isNext (t : Token) : Reader Bool := do return (← get).head? == some t

/-- Takes the next token if it is the given one. -/
def taken (t : Token) : Reader Bool := do
  if ← isNext t then
    modify (·.drop 1)
    return true
  else return false

/-- Takes the next token, which must be the given one. -/
def require (t : Token) : Reader Unit := do if ← taken t then return () else failure

/-- Takes the next token if it is a given mark. -/
def mark (s : String) : Reader Bool := taken (.mark s)

/-- Takes the next token if it is a given word. -/
def word (s : String) : Reader Bool := taken (.name s)

/-- Takes the next token if it is one of the given ones. -/
def anyOf (ts : List Token) : Reader Bool := ts.anyM taken

/-- Takes the next token, which must be a name that is no reserved word. -/
def identifier : Reader Unit
  | .name s :: rest => if Token.reserved.contains s then none else some ((), rest)
  | _ => none

/-- Whether a name and then a mark come next, as in `x := 1`. -/
def isNamed (s : String) : Reader Bool := do
  match ← get with
  | .name x :: .mark t :: _ => return t == s && !Token.reserved.contains x
  | _ => return false

/-! ## Repetitions -/

variable {α : Type}

/-- The items behind a first one up to the closing mark, each behind a comma, and whether there is
a comma at all. The last comma may stand before the mark. -/
def more (item : Reader α) (close : String) : (bound : Nat) → Reader (List α × Bool)
  | 0 => failure
  | bound + 1 => do
    if ← mark close then return ([], false)
    require (.mark ",")
    if ← mark close then return ([], true)
    let x ← item
    return (x :: (← more item close bound).1, true)

/-- The items up to the closing mark with commas between them, and whether there is a comma. -/
def separated (item : Reader α) (close : String) (bound : Nat) : Reader (List α × Bool) := do
  if ← mark close then return ([], false)
  let x ← item
  let (xs, comma) ← more item close bound
  return (x :: xs, comma)

/-- One operand, or several with operators between them. -/
def chain (operand : Reader Form) (operator : Reader Bool) : (bound : Nat) → Reader Form
  | 0 => failure
  | bound + 1 => do
    let x ← operand
    if ← operator then
      let _ ← chain operand operator bound
      return .other
    else return x

/-- As many items as begin with a word. -/
def repeated (s : String) (item : Reader α) : (bound : Nat) → Reader Unit
  | 0 => failure
  | bound + 1 => do
    if ← word s then
      let _ ← item
      repeated s item bound

/-- Items with commas between them up to a word; the last comma may stand before the word. -/
def upTo (s : String) (item : Reader α) : (bound : Nat) → Reader Unit
  | 0 => failure
  | bound + 1 => do
    let _ ← item
    if ← word s then return ()
    require (.mark ",")
    if ← word s then return ()
    upTo s item bound

/-- An item, unless one of the given marks comes next. -/
def unlessNext (marks : List String) (item : Reader α) : Reader Unit := do
  if ← marks.anyM fun s => isNext (.mark s) then return ()
  let _ ← item

/-! ## Operators -/

/-- An operator between operands of `and` and `or`. -/
def logical : Reader Bool := anyOf [.name "and", .name "or"]

/-- An operator of comparison, which may consist of two words. -/
def comparison : Reader Bool := do
  if ← word "not" then
    require (.name "in")
    return true
  if ← word "is" then
    let _ ← word "not"
    return true
  anyOf (.name "in" :: ["<", ">", "==", ">=", "<=", "!="].map .mark)

/-- An operator of arithmetic that makes no sum. -/
def arithmetical : Reader Bool :=
  anyOf (["|", "^", "&", "<<", ">>", "*", "/", "//", "%", "@"].map .mark)

/-! ## Parameters -/

/-- The parameters of a function without a name, up to the colon. The flags tell whether there are
parameters already, a slash, a star, a star that waits for a parameter, and a parameter that may
be left out. -/
def parameters (default : Reader Form) :
    (bound : Nat) → (given slash star bare optional : Bool) → Reader Unit
  | 0, _, _, _, _, _ => failure
  | bound + 1, given, slash, star, bare, optional => do
    let next (slash star bare optional : Bool) : Reader Unit := do
      if ← mark "," then parameters default bound true slash star bare optional
      else require (.mark ":")
    if ← mark ":" then
      if bare then failure
    else if ← mark "**" then
      if bare then failure
      identifier
      let _ ← mark ","
      require (.mark ":")
    else if ← mark "/" then
      if slash || star || !given then failure
      next true star bare optional
    else if ← mark "*" then
      if star then failure
      if ← isNext (.mark ",") then next slash true true optional
      else
        identifier
        next slash true false optional
    else
      identifier
      if ← mark "=" then
        let _ ← default
        next slash star false true
      else
        if optional && !star then failure
        next slash star false optional

end Reader

open Reader

/-! ## Atoms -/

/-- The form of a name. Constants are named in plain letters, other names in letters of any
style. -/
def ofName (s : String) : Form :=
  match s with
  | "None" => .constant .none
  | "True" => .constant (.bool true)
  | "False" => .constant (.bool false)
  | s => .name (Token.plainName s)

/-- A text joined with the texts that follow it, of which none is known if one is a template. -/
def textAfter (points : Option (List Nat)) : List Token → Option (Form × List Token)
  | .text more :: rest => textAfter (points.map (· ++ more)) rest
  | .template _ :: rest => textAfter none rest
  | .bytes _ :: _ => none
  | rest => some ((points.map fun ps => .constant (.text ps)).getD .other, rest)

/-- Bytes joined with the bytes that follow them. -/
def bytesAfter (bs : List UInt8) : List Token → Option (Form × List Token)
  | .bytes more :: rest => bytesAfter (bs ++ more) rest
  | .text _ :: _ | .template _ :: _ => none
  | rest => some (.constant (.bytes bs), rest)

/-- A constant or a name. -/
def simple : Reader Form := fun ts =>
  match ts with
  | .int n :: rest => some (.constant (.int n), rest)
  | .real x :: rest => some (.constant (.real x), rest)
  | .imaginary x :: rest => some (.constant (.complex (.nearest false 0 0) x), rest)
  | .text points :: rest => textAfter (some points) rest
  | .template _ :: rest => textAfter none rest
  | .bytes bs :: rest => bytesAfter bs rest
  | .ellipsis :: rest => some (.constant .ellipsis, rest)
  | .name s :: rest =>
    if Token.reserved.contains s && ¬s ∈ ["None", "True", "False"] then none
    else some (ofName s, rest)
  | _ => none

/-- The expressions in the fields of the templates that come next. -/
def fieldsAhead : List Token → List String
  | .template fields :: rest => fields ++ fieldsAhead rest
  | .text _ :: rest => fieldsAhead rest
  | _ => []

/-- What stands in round brackets: a tuple, if there is a comma or nothing at all. -/
def inRound (xs : List Form) (comma : Bool) : Form :=
  match xs, comma with
  | [x], false => x
  | xs, _ => .tuple xs

mutual

/-- Whether a form can be a target of `for`. -/
def isTarget : Form → Bool
  | .name _ | .place => true
  | .tuple xs | .list xs => areTargets xs
  | .starred x => isTarget x
  | _ => false

/-- Whether all forms of a list can be targets of `for`. -/
def areTargets : List Form → Bool
  | [] => true
  | x :: xs => isTarget x && areTargets xs

end

/-! ## Expressions -/

mutual

/-- An expression. -/
def expression : (bound : Nat) → Reader Form
  | 0 => failure
  | bound + 1 => do
    if ← word "lambda" then
      parameters (expression bound) bound false false false false false
      let _ ← expression bound
      return .other
    let x ← disjunction bound
    if ← word "if" then
      let _ ← disjunction bound
      require (.name "else")
      let _ ← expression bound
      return .other
    return x

/-- An expression that is no function and has no condition. -/
def disjunction : (bound : Nat) → Reader Form
  | 0 => failure
  | bound + 1 => chain (negation bound) logical bound

/-- A comparison, with any number of `not` in front. -/
def negation : (bound : Nat) → Reader Form
  | 0 => failure
  | bound + 1 => do
    if ← word "not" then
      let _ ← negation bound
      return .other
    chain (arithmetic bound) comparison bound

/-- Operands with operators of arithmetic between them. -/
def arithmetic : (bound : Nat) → Reader Form
  | 0 => failure
  | bound + 1 => do terms bound (← operand bound)

/-- A form with the operators and operands that follow it. -/
def terms : (bound : Nat) → Form → Reader Form
  | 0, _ => failure
  | bound + 1, x => do
    if ← mark "+" then terms bound (.sum false x (← operand bound))
    else if ← mark "-" then terms bound (.sum true x (← operand bound))
    else if ← arithmetical then
      let _ ← operand bound
      terms bound .other
    else return x

/-- An operand with its signs and its exponent. -/
def operand : (bound : Nat) → Reader Form
  | 0 => failure
  | bound + 1 => do
    if ← mark "+" then return .signed false (← operand bound)
    if ← mark "-" then return .signed true (← operand bound)
    if ← mark "~" then
      let _ ← operand bound
      return .other
    let awaited ← word "await"
    let x ← trailers bound (← atom bound)
    if ← mark "**" then
      let _ ← operand bound
      return .other
    return if awaited then .other else x

/-- A form with the attributes, calls and selections that follow it. -/
def trailers : (bound : Nat) → Form → Reader Form
  | 0, _ => failure
  | bound + 1, x => do
    if ← mark "." then
      identifier
      trailers bound .place
    else if ← mark "(" then
      if ← mark ")" then trailers bound (.call x)
      else
        arguments bound true 0
        trailers bound .other
    else if ← mark "[" then
      if (← separated (selection bound) "]" bound).1.isEmpty then failure
      trailers bound .place
    else return x

/-- An expression that begins and ends with brackets, a constant or a name. -/
def atom : (bound : Nat) → Reader Form
  | 0 => failure
  | bound + 1 => do
    if ← mark "(" then round bound
    else if ← mark "[" then
      if ← mark "]" then return .list []
      let x ← member bound
      if ← comprehension bound x then
        require (.mark "]")
        return .other
      return .list (x :: (← more (member bound) "]" bound).1)
    else if ← mark "\x7b" then braced bound
    else
      filled bound (fieldsAhead (← get))
      simple

/-- Goes on if all expressions in the fields of a template are expressions. -/
def filled : (bound : Nat) → (fields : List String) → Reader Unit
  | _, [] => return ()
  | 0, _ => failure
  | bound + 1, x :: fields => do
    match (Token.tokens s!"({x})").bind (atom bound).run with
    | some (_, []) => filled bound fields
    | _ => failure

/-- What follows an opening round bracket. -/
def round : (bound : Nat) → Reader Form
  | 0 => failure
  | bound + 1 => do
    if ← mark ")" then return .tuple []
    if ← word "yield" then
      if ← word "from" then
        let _ ← expression bound
        require (.mark ")")
      else
        let _ ← separated (entry bound) ")" bound
      return .other
    let x ← member bound
    if ← comprehension bound x then
      require (.mark ")")
      return .other
    let (xs, comma) ← more (member bound) ")" bound
    match x, comma with
    | .starred _, false => failure
    | x, comma => return inRound (x :: xs) comma

/-- What follows an opening brace. -/
def braced : (bound : Nat) → Reader Form
  | 0 => failure
  | bound + 1 => do
    let ofPairs (ps : List (Form × Form)) : Form := .mapping (ps.map Prod.fst) (ps.map Prod.snd)
    if ← mark "\x7d" then return .mapping [] []
    if ← isNext (.mark "**") then return ofPairs (← separated (pair bound) "\x7d" bound).1
    let named ← isNamed ":="
    let x ← member bound
    if !named && !(x matches .starred _) && (← mark ":") then
      let v ← expression bound
      if ← comprehension bound v then
        require (.mark "\x7d")
        return .other
      return ofPairs ((x, v) :: (← more (pair bound) "\x7d" bound).1)
    if ← comprehension bound x then
      require (.mark "\x7d")
      return .other
    return .set (x :: (← more (member bound) "\x7d" bound).1)

/-- A key and its value, or all pairs of something. -/
def pair : (bound : Nat) → Reader (Form × Form)
  | 0 => failure
  | bound + 1 => do
    if ← mark "**" then return (.other, ← arithmetic bound)
    let k ← expression bound
    require (.mark ":")
    return (k, ← expression bound)

/-- An expression, or the entries of something. -/
def entry : (bound : Nat) → Reader Form
  | 0 => failure
  | bound + 1 => do
    if ← mark "*" then return .starred (← arithmetic bound) else expression bound

/-- An entry, which may be given a name. -/
def member : (bound : Nat) → Reader Form
  | 0 => failure
  | bound + 1 => do
    if ← isNamed ":=" then
      modify (·.drop 2)
      let _ ← expression bound
      return .other
    entry bound

/-- Whether an item is followed by clauses that begin with `for`, which are taken. The entries of
something cannot be followed by any. -/
def comprehension : (bound : Nat) → (item : Form) → Reader Bool
  | 0, _ => failure
  | bound + 1, item => do
    let async ← word "async"
    if ← word "for" then
      if item matches .starred _ then failure
      upTo "in" (target bound) bound
      let _ ← disjunction bound
      repeated "if" (disjunction bound) bound
      let _ ← comprehension bound .other
      return true
    if async then failure
    return false

/-- A target of `for`. -/
def target : (bound : Nat) → Reader Unit
  | 0 => failure
  | bound + 1 => do
    let _ ← mark "*"
    if !(← trailers bound (← atom bound)).isTarget then failure

/-- What stands in square brackets behind a form: an expression or a range. -/
def selection : (bound : Nat) → Reader Unit
  | 0 => failure
  | bound + 1 => do
    if ← mark "*" then
      let _ ← expression bound
    else if ← isNamed ":=" then
      let _ ← member bound
    else
      unlessNext [":"] (expression bound)
      if ← mark ":" then
        unlessNext [":", ",", "]"] (expression bound)
        if ← mark ":" then unlessNext [",", "]"] (expression bound)

/-- The arguments of a call up to the closing bracket. Behind a named argument there are only named
ones and entries of something, and behind all pairs of something only named ones and pairs; the
`stage` tells how far that is. A single argument can be followed by clauses that begin with `for`.
-/
def arguments : (bound : Nat) → (first : Bool) → (stage : Nat) → Reader Unit
  | 0, _, _ => failure
  | bound + 1, first, stage => do
    let stage ← (do
      if ← mark "**" then
        let _ ← expression bound
        return 2
      if ← mark "*" then
        if stage = 2 then failure
        let _ ← expression bound
        return stage
      if ← isNamed "=" then
        modify (·.drop 2)
        let _ ← expression bound
        return max stage 1
      if stage ≠ 0 then failure
      let x ← member bound
      if first then
        if ← comprehension bound x then
          if !(← isNext (.mark ")")) then failure
      return 0)
    if ← mark ")" then return ()
    require (.mark ",")
    if ← mark ")" then return ()
    arguments bound false stage

end

/-- The form of a text. At the outermost level a comma makes a tuple, as in round brackets. -/
def read (s : String) : Option Form := do
  let ts ← Token.tokens s
  let bound := 16 * s.length + 64
  match ← (separated (expression bound) ")" bound).run (ts ++ [.mark ")"]) with
  | ((x :: xs, comma), []) => some (inRound (x :: xs) comma)
  | _ => none

end Form

end FiniteGroups
