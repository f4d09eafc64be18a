import FiniteGroups.Proofs.Computation
import FiniteGroups.Value.Arithmetic

/-!
# Integers as values

Integers are compared by size (`before_int`). An integer of more than `Text.maxDigits` digits is not
written (`Writable`), so that a text in which it is to stand is a fault (`plain_of_le`).
-/

namespace FiniteGroups

variable {m : Int}

theorem before_int (m k : Int) : (Value.int m).before (.int k) = .ok (decide (m < k)) := by
  rw [Value.before.eq_def]
  rfl

/-- The integer does not have too many digits to be written. -/
def Writable (m : Int) : Prop := m.natAbs < Nat.pow 10 Text.maxDigits

theorem writable_of_lt (h : m.natAbs < 0x10000000000000000) : Writable m := by
  have hdigits : 20 ≤ Text.maxDigits := by decide
  have hpow : 0x10000000000000000 ≤ Nat.pow 10 20 := by decide
  rw [Writable]
  generalize Text.maxDigits = d at hdigits ⊢
  exact Nat.lt_of_lt_of_le h (Nat.le_trans hpow (Nat.pow_le_pow_right (by decide) hdigits))

theorem Writable.mono {k : Int} (h : Writable m) (hle : k.natAbs ≤ m.natAbs) : Writable k :=
  Nat.lt_of_le_of_lt hle h

theorem ofInt_of_writable (h : Writable m) : Text.ofInt m = .ok (toString m) := by
  rw [Text.ofInt, if_pos]
  rw [Bool.or_eq_true, decide_eq_true_eq, decide_eq_true_eq]
  exact .inr h

theorem ofInt_of_not_writable (h : ¬ Writable m) : Text.ofInt m = .error .badValue := by
  rw [Text.ofInt, if_neg]
  rw [Bool.or_eq_true, decide_eq_true_eq, decide_eq_true_eq, not_or]
  exact ⟨mt writable_of_lt h, h⟩

theorem plain_int (m : Int) : (Value.int m).plain = Text.ofInt m := by
  rw [Value.plain, Value.write]

/-- A number with too many digits is not written. -/
theorem plain_of_le (hm : Nat.pow 10 Text.maxDigits ≤ m.natAbs) :
    (Value.int m).plain = .error .badValue := by
  rw [plain_int]
  exact ofInt_of_not_writable (Nat.not_lt.2 hm)

end FiniteGroups
