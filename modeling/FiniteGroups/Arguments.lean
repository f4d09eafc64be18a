import FiniteGroups.Report
import FiniteGroups.Value.Collection

/-!
# Arguments

Functions are called with arguments by position and by name. `Arguments.fill` assigns them to
parameters, of which some may be left out; too many arguments, unknown names and missing values
are faults of the wrong kind. A `Function` is what is computed from the values of its parameters.
-/

namespace FiniteGroups

/-- A parameter: its name, and the value that it has if it is left out. -/
structure Parameter where
  name : String
  default : Option Value

/-- The arguments of a call, by position and by name. -/
structure Arguments where
  positional : List Value
  named : List (String × Value)

namespace Arguments

/-- The values of parameters, in their order. -/
def fill (c : Arguments) (parameters : List Parameter) : Except Fault (List Value) := do
  let later := parameters.drop c.positional.length
  let known := c.named.all fun x => later.any fun p => p.name == x.1
  if parameters.length < c.positional.length || !known then throw .wrongKind
  let rest ← later.mapM fun p =>
    match (c.named.lookup p.name).or p.default with
    | some v => Except.ok v
    | none => .error .wrongKind
  return c.positional ++ rest

/-- The call without the names that are not among the given ones, and what belongs to these. -/
def split (c : Arguments) (names : List String) : Arguments × List (String × Value) :=
  let (own, rest) := c.named.partition fun x => names.contains x.1
  (⟨c.positional, own⟩, rest)

end Arguments

/-! ## Functions -/

namespace Parameter

/-- A parameter that must be given. -/
def need (name : String) : Parameter := ⟨name, none⟩

/-- A parameter that may be left out. -/
def may (name : String) (default : Value) : Parameter := ⟨name, some default⟩

/-- A flag that tells whether a search reports its progress. -/
def verbose : Parameter := may "verbose" (.bool false)

/-- Parameters that must be given. -/
def needs (names : List String) : List Parameter := names.map need

end Parameter

/-- A function with its parameters. -/
structure Function where
  parameters : List Parameter
  compute : List Value → Report Value

namespace Function

/-- A function without parameters, computed only when it is called. -/
def nullary (f : Unit → Report Value) : Function := ⟨[], fun _ => f ()⟩

/-- A function of one parameter. -/
def unary (a : String) (f : Value → Report Value) : Function :=
  ⟨Parameter.needs [a], fun
    | [x] => f x
    | _ => throw .wrongKind⟩

/-- A function of two parameters. -/
def binary (a b : String) (f : Value → Value → Report Value) : Function :=
  ⟨Parameter.needs [a, b], fun
    | [x, y] => f x y
    | _ => throw .wrongKind⟩

/-- A function of three parameters. -/
def ternary (a b c : String) (f : Value → Value → Value → Report Value) : Function :=
  ⟨Parameter.needs [a, b, c], fun
    | [x, y, z] => f x y z
    | _ => throw .wrongKind⟩

/-- A function of two parameters, the second of which has a default. -/
def optional (a b : String) (default : Value) (f : Value → Value → Report Value) : Function :=
  ⟨[.need a, .may b default], fun
    | [x, y] => f x y
    | _ => throw .wrongKind⟩

/-- A call of a function. -/
def call (f : Function) (c : Arguments) : Report Value := do
  f.compute (← c.fill f.parameters)

end Function

/-- Leaves the text out unless a flag counts as true. -/
def Report.shown {α : Type} (verbose : Value) (r : Report α) : Report α := do
  if ← verbose.truthy then r else Report.quietly r.outcome

end FiniteGroups
