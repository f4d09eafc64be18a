/-!
# Listings

How a sequence is written: its entries between brackets, with a comma and a blank between
neighbours. In round brackets a single entry keeps a comma behind it, which tells `(1,)` from
an expression in parentheses.
-/

namespace FiniteGroups

/-- The brackets around a listing. -/
inductive Brackets where
  | round
  | square
deriving DecidableEq, Repr

/-- The entries between brackets. -/
def Brackets.enclose : Brackets → List String → String
  | .round, [entry] => "(" ++ entry ++ ",)"
  | .round, entries => "(" ++ ", ".intercalate entries ++ ")"
  | .square, entries => "[" ++ ", ".intercalate entries ++ "]"

end FiniteGroups
