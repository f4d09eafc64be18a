import FiniteGroups.Options.Literal
import FiniteGroups.Report
import FiniteGroups.Value.Text

/-!
# Options

The arguments of a program. An argument `name=value` gives an option a value, which is read as a
literal; an argument with dashes in front switches an option on; any other argument is kept in
its place and switches on the option of its name as well. A later value replaces an earlier one.

* `Options.read` : the options in a list of arguments;
* `Options.get?`, `Options.property` : the value of an option;
* `Options.next` : takes the first of the arguments that were kept in place;
* `Options.write` : reports a text, unless the option `silent` is on;
* `Options.calls` : the answers of options to questions of these kinds.
-/

namespace FiniteGroups

/-- The arguments kept in place and the values of the options. -/
structure Options where
  positional : List String
  named : Assignment String Datum

namespace Options

/-- No arguments. -/
def empty : Options := ⟨[], .empty⟩

/-- A text without the dashes in front. -/
def withoutDashes (cs : List Char) : String := String.ofList (cs.dropWhile (· = '-'))

/-- The options with one more argument. -/
def add (o : Options) (arg : String) : Except Fault Options :=
  let cs := arg.toList
  match cs.dropWhile (· ≠ '=') with
  | _ :: value => do
    let name := withoutDashes (cs.takeWhile (· ≠ '='))
    return { o with named := o.named.set name (← Datum.parse (String.ofList value)) }
  | [] =>
    if cs.head? = some '-' then
      .ok { o with named := o.named.set (withoutDashes cs) (.bool true) }
    else .ok ⟨o.positional ++ [arg], o.named.set arg (.bool true)⟩

/-- The text that an argument is. A collection is no argument either, but is asked first whether
there is an equals sign in it. -/
def argument (v : Value) : Except Fault String := do
  match v with
  | .text s => return s
  | v =>
    let _ ← v.contains (.text "=")
    throw .noAttribute

/-- The options in a list of arguments. -/
def read (args : List Value) : Except Fault Options :=
  args.foldlM (fun o arg => do o.add (← argument arg)) empty

/-- The value of an option, if it has one. -/
def get? (o : Options) (name : String) : Option Datum := o.named.get? name

/-- The arguments kept in place as a datum. -/
def args (o : Options) : Datum := .list (o.positional.map .ofString)

/-- The options as a datum. -/
def mapping (o : Options) : Datum :=
  .mapping (o.named.keys.toList.map .ofString) o.named.values.toList

/-- The text of options. -/
def text (o : Options) : Except Fault String := do
  return s!"Argv({← o.args.write}, {← o.mapping.write})"

/-- The text of a question as a function that belongs to the options. -/
def methodText (o : Options) (name : String) : Except Fault String := do
  return s!"<bound method Argv.{name} of {← o.text}>"

/-- The text of an attribute that all options have, by its name: the arguments kept in place, the
options, the questions, and what the kind of options is called. -/
def ownProperty? (o : Options) (name : String) : Option (Except Fault String) :=
  match name with
  | "args" => some o.args.write
  | "kw" => some o.mapping.write
  | "get" | "next" | "__init__" | "__getattr__" | "__str__" => some (o.methodText name)
  | "__repr__" => some (o.methodText "__str__")
  | "__dict__" => some (Datum.mapping [.ofString "args", .ofString "kw"] [o.args, o.mapping]).write
  | "__doc__" | "__weakref__" => some (.ok "None")
  | "__module__" => some (.ok "'fingroup.argv'")
  | "__class__" => some (.ok "<class 'fingroup.argv.Argv'>")
  | _ => none

/-- The text of the attribute of a name: one that all options have, or the value of an option,
which is nothing if there is none. Names with two underscores in front are reserved. -/
def property (o : Options) (name : String) : Except Fault String :=
  match o.ownProperty? name with
  | some found => found
  | none =>
    if name.startsWith "__" then .error .noAttribute else ((o.get? name).getD .none).write

/-- The first of the arguments kept in place, and the options without it. -/
def next (o : Options) : Option String × Options :=
  match o.positional with
  | [] => (none, o)
  | arg :: rest => (some arg, { o with positional := rest })

/-- Reports a value, unless the option `silent` is on. -/
def write (o : Options) (v : Value) : Report Unit := do
  if ((o.get? "silent").getD .none).truthy then return ()
  else Report.say (← v.plain)

/-! ## Questions -/

/-- The answer to the question for the value of an option, with a value that stands for one that
is missing. -/
def answerGet (o : Options) (name default : Value) : Except Fault String := do
  match ← name.keyed with
  | .text s =>
    match o.get? s with
    | some d => d.write
    | none => default.quoted
  | _ => default.quoted

/-- The answer to a question, and the options after it. A missing attribute is answered by the
word for it. -/
def call (o : Options) (question : List Value) : Except Fault (String × Options) := do
  match question with
  | .text "next" :: _ =>
    match o.next with
    | (some arg, o) => return (Text.quote arg, o)
    | (none, o) => return ("None", o)
  | [.text "get", name] => return (← o.answerGet name .none, o)
  | [.text "get", name, default] => return (← o.answerGet name default, o)
  | [.text "attr", .text name] =>
    match o.property name with
    | .error .noAttribute => return ("AttributeError", o)
    | found => return (← found, o)
  | _ => throw .wrongKind

/-- The answers to some questions, between the texts of the options before and after them. -/
def calls (o : Options) (questions : List Value) : Except Fault (List String) := do
  let start ← o.text
  let (answers, o) ← questions.foldlM (fun (answers, o) question => do
    let (answer, o) ← o.call (← question.entries)
    return (answer :: answers, o)) ([start], o)
  return ((← o.text) :: answers).reverse

end Options

end FiniteGroups
