import FiniteGroups.Fault

/-!
# Tables

A square table of integers, row by row. What is looked up in a table may be any integers, so its
entries are an array of the right size and nothing more; `Table.get` says what stands in a row and
a column, and `Table.build` computes it.
-/

namespace FiniteGroups

/-- A square table of integers. -/
structure Table where
  size : Nat
  entries : Array Int
  square : entries.size = size * size
deriving DecidableEq

namespace Table

/-- The entry in a row and a column. -/
def get (t : Table) (i j : Nat) : Int := t.entries.getD (i * t.size + j) 0

/-- The table whose entries are computed from the row and the column. -/
def build (n : Nat) (f : Nat → Nat → Except Fault Int) : Except Fault Table := do
  let entries ← (List.range (n * n)).mapM fun k => f (k / n) (k % n)
  if h : entries.length = n * n then return ⟨n, entries.toArray, by simpa using h⟩
  else throw .failedCheck

end Table

end FiniteGroups
