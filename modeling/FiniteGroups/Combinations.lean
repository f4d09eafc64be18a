/-!
# Combinations

The ways to choose some of the entries of a list, by position, in the order of the positions
chosen.
-/

namespace FiniteGroups

/-- The sublists of a given length, each at its own positions, the earlier positions first. -/
def combinations {α : Type} : List α → Nat → List (List α)
  | _, 0 => [[]]
  | [], _ + 1 => []
  | x :: xs, k + 1 => (combinations xs k).map (x :: ·) ++ combinations xs (k + 1)

/-- The ways to choose `n` entries; there are none for a negative number of them. -/
def choose {α : Type} (xs : List α) (n : Int) : List (List α) :=
  if n < 0 then [] else combinations xs n.toNat

end FiniteGroups
