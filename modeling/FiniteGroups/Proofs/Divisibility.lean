import FiniteGroups.Proofs.Orders
import FiniteGroups.Value.Counting
import Mathlib.Algebra.Order.BigOperators.GroupWithZero.List

/-!
# Common divisors and common multiples

Repeated remainders come to an end whatever the signs, since each one is smaller by absolute value
than the divisor before it (`reduces_iff`). The divisors of what is left in the end are the common
divisors of the two numbers (`dvd_gcd_iff`). It has the sign of the second number, as all remainders
have (`sign_gcd`), so it need not be positive.

Least common multiples are taken of one number after the other, from `1` on. For positive numbers no
division fails, and what comes out is determined by its multiples and not by the order of the
numbers (`exists_foldlM_lcm`, `IsLcm.unique`).

`Value.exists_gcd_lcm` says both, of integers on their own and as values.
-/

namespace FiniteGroups

/-! ## Repeated remainders -/

/-- A run that goes on from `a` and `b` to `b` and the remainder of `a`, until the second number is
zero, and ends with the first one. There is no bound on its steps. -/
inductive Reduces : (a b g : Int) → Prop
  | stop {a : Int} : Reduces a 0 a
  | step {a b r g : Int} (hne : b ≠ 0) (hr : remainder a b = .ok r) (hrest : Reduces b r g) :
      Reduces a b g

theorem gcd_zero (a : Int) : gcd a 0 = a := by
  rw [gcd, dif_pos rfl]

theorem gcd_of_ne (a : Int) {b : Int} (h : b ≠ 0) : gcd a b = gcd b (a.fmod b) := by
  rw [gcd, dif_neg h]

/-- A run does not end in two ways. -/
theorem Reduces.unique {a b g g' : Int} (h : Reduces a b g) (h' : Reduces a b g') : g = g' := by
  induction h with
  | stop =>
    cases h' with
    | stop => rfl
    | step hne => exact absurd rfl hne
  | step hne hr _ ih =>
    cases h' with
    | stop => exact absurd rfl hne
    | step _ hr' hrest =>
      cases hr.symm.trans hr'
      exact ih hrest

theorem reduces_gcd (a b : Int) : Reduces a b (gcd a b) := by
  induction a, b using gcd.induct with
  | case1 a =>
    rw [gcd_zero]
    exact .stop
  | case2 a b hne ih =>
    rw [gcd_of_ne a hne]
    exact .step hne (if_neg hne) ih

/-- Every run ends, and only with the greatest common divisor. -/
theorem reduces_iff {a b g : Int} : Reduces a b g ↔ g = gcd a b :=
  ⟨fun h => h.unique (reduces_gcd a b), fun h => h ▸ reduces_gcd a b⟩

/-! ## The greatest common divisor -/

theorem dvd_fmod_iff {a b d : Int} (h : d ∣ b) : d ∣ a.fmod b ↔ d ∣ a := by
  rw [Int.fmod_def]
  exact dvd_sub_left (h.mul_right _)

/-- The divisors are the common divisors : a step of the run keeps these. -/
theorem dvd_gcd_iff (a b d : Int) : d ∣ gcd a b ↔ d ∣ a ∧ d ∣ b := by
  induction a, b using gcd.induct with
  | case1 a => rw [gcd_zero, and_iff_left (dvd_zero d)]
  | case2 a b hne ih =>
    rw [gcd_of_ne a hne, ih, and_comm]
    exact and_congr_left dvd_fmod_iff

/-- A remainder other than zero has the sign of the divisor. -/
theorem sign_fmod {a b : Int} (hb : b ≠ 0) (h : a.fmod b ≠ 0) : (a.fmod b).sign = b.sign := by
  rcases Int.lt_or_gt_of_ne hb with hneg | hpos
  · have hle := Int.fmod_nonneg_of_pos (-a) (b := -b) (by omega)
    rw [Int.neg_fmod_neg] at hle
    rw [Int.sign_eq_neg_one_of_neg hneg, Int.sign_eq_neg_one_of_neg (by omega)]
  · have hle := Int.fmod_nonneg_of_pos a hpos
    rw [Int.sign_eq_one_of_pos hpos, Int.sign_eq_one_of_pos (by omega)]

theorem sign_gcd (a : Int) {b : Int} (h : b ≠ 0) : (gcd a b).sign = b.sign := by
  induction a, b using gcd.induct with
  | case1 a => exact absurd rfl h
  | case2 a b hne ih =>
    rw [gcd_of_ne a hne]
    by_cases hr : a.fmod b = 0
    · rw [hr, gcd_zero]
    · rw [ih hr, sign_fmod hne hr]

/-- The number is a greatest common divisor of `a` and `b`, with the sign of `b` unless this is
zero. -/
structure IsGcd (a b g : Int) : Prop where
  dvd_left : g ∣ a
  dvd_right : g ∣ b
  dvd_of_dvd : ∀ d, d ∣ a → d ∣ b → d ∣ g
  sign_eq : b ≠ 0 → g.sign = b.sign

theorem isGcd_gcd (a b : Int) : IsGcd a b (gcd a b) where
  dvd_left := ((dvd_gcd_iff a b _).1 dvd_rfl).1
  dvd_right := ((dvd_gcd_iff a b _).1 dvd_rfl).2
  dvd_of_dvd _ ha hb := (dvd_gcd_iff a b _).2 ⟨ha, hb⟩
  sign_eq := sign_gcd a

/-! ## The least common multiple -/

/-- The number is the least positive common multiple of the list, and its multiples are the common
multiples. -/
structure IsLcm (ms : List Int) (r : Int) : Prop where
  isLeast : IsLeast {k | 0 < k ∧ ∀ m ∈ ms, m ∣ k} r
  dvd_iff : ∀ k, r ∣ k ↔ ∀ m ∈ ms, m ∣ k

theorem IsLcm.of_dvd_iff {ms : List Int} {r : Int} (hpos : 0 < r)
    (h : ∀ k, r ∣ k ↔ ∀ m ∈ ms, m ∣ k) : IsLcm ms r where
  isLeast := ⟨⟨hpos, (h r).1 dvd_rfl⟩, fun k hk => Int.le_of_dvd hk.1 ((h k).2 hk.2)⟩
  dvd_iff := h

/-- The order of a list does not matter. -/
theorem IsLcm.unique {ms ms' : List Int} {r r' : Int} (h : IsLcm ms r) (h' : IsLcm ms' r')
    (hperm : ms'.Perm ms) : r' = r := by
  have hleast := h'.isLeast
  simp only [hperm.mem_iff] at hleast
  exact hleast.unique h.isLeast

/-- Positive numbers have a least common multiple, and it is found. -/
theorem exists_foldlM_lcm {ms : List Int} (hpos : ∀ m ∈ ms, 0 < m) :
    ∃ r, ms.foldlM lcm 1 = .ok r ∧ IsLcm ms r := by
  have hnonneg : ∀ m ∈ ms, 0 ≤ m := fun m hm => (hpos m hm).le
  lift ms to List Nat using hnonneg
  simp only [List.forall_mem_map, Nat.cast_pos] at hpos
  obtain ⟨r, hr, hdvd⟩ := foldlM_lcm hpos Nat.one_pos
  have hmultiples : ∀ k, r ∣ k ↔ ∀ m ∈ ms, m ∣ k := fun k => by
    rw [hdvd, and_iff_right (one_dvd k)]
  -- the product is a common multiple, and so zero is not the least one
  have hrpos : 0 < r :=
    Nat.pos_of_dvd_of_pos ((hmultiples ms.prod).2 fun m hm => List.dvd_prod hm) (List.prod_pos hpos)
  refine ⟨r, hr, .of_dvd_iff (Nat.cast_pos.2 hrpos) fun k => ?_⟩
  simp only [List.forall_mem_map, Int.natCast_dvd, hmultiples]

/-! ## Values -/

namespace Value

theorem lcm_int (a b : Int) : lcm (.int a) (.int b) = Value.int <$> FiniteGroups.lcm a b := by
  simp only [lcm, FiniteGroups.lcm, gcd, multiply, quotient]
  rfl

theorem foldlM_lcm_int (ms : List Int) (k : Int) :
    (ms.map Value.int).foldlM lcm (.int k) = Value.int <$> ms.foldlM FiniteGroups.lcm k := by
  induction ms generalizing k with
  | nil => rfl
  | cons m ms ih =>
    rw [List.map_cons, List.foldlM_cons, List.foldlM_cons, lcm_int]
    cases FiniteGroups.lcm k m with
    | error e => rfl
    | ok r => exact ih r

/-- Integers of any sign have a greatest common divisor, and the run that looks for it ends there.
Positive integers have a least common multiple, which is found in whatever order they come. -/
theorem exists_gcd_lcm :
    (∀ a b : Int, ∃ g, gcd (.int a) (.int b) = .ok (.int g) ∧ (∀ g', Reduces a b g' ↔ g' = g) ∧
      IsGcd a b g) ∧
    ∀ ms : List Int, (∀ m ∈ ms, 0 < m) → ∃ r, IsLcm ms r ∧ ∀ ms' : List Int, ms'.Perm ms →
      ms'.foldlM FiniteGroups.lcm 1 = .ok r ∧
      (ms'.map Value.int).foldlM lcm (.int 1) = .ok (.int r) := by
  refine ⟨fun a b => ⟨FiniteGroups.gcd a b, rfl, fun _ => reduces_iff, isGcd_gcd a b⟩,
    fun ms hpos => ?_⟩
  obtain ⟨r, -, hr⟩ := exists_foldlM_lcm hpos
  refine ⟨r, hr, fun ms' hperm => ?_⟩
  obtain ⟨r', hfold, hr'⟩ := exists_foldlM_lcm fun m hm => hpos m (hperm.mem_iff.1 hm)
  obtain rfl := hr.unique hr' hperm
  exact ⟨hfold, by rw [foldlM_lcm_int, hfold]; rfl⟩

/-- A second number that is negative, and three numbers of which no two are prime to each other. -/
theorem exists_gcd_lcm_mixed :
    gcd (.int 12) (.int (-18)) = .ok (.int (-6)) ∧ IsGcd 12 (-18) (-6) ∧
      (∀ m ∈ [10, 4, 6], (0 : Int) < m) ∧ IsLcm [10, 4, 6] 60 ∧
      [6, 10, 4].foldlM FiniteGroups.lcm 1 = .ok 60 := by
  obtain ⟨hgcd, hlcm⟩ := exists_gcd_lcm
  have hpos : ∀ m ∈ [10, 4, 6], (0 : Int) < m := by decide
  obtain ⟨g, hg, -, hisGcd⟩ := hgcd 12 (-18)
  obtain ⟨r, hisLcm, hfold⟩ := hlcm [10, 4, 6] hpos
  have hsix : gcd (.int 12) (.int (-18)) = .ok (.int (-6)) := by cbv
  have hsixty : [10, 4, 6].foldlM FiniteGroups.lcm 1 = .ok 60 := by cbv
  cases hg.symm.trans hsix
  cases (hfold _ (.refl _)).1.symm.trans hsixty
  exact ⟨hsix, hisGcd, hpos, hisLcm, (hfold _ (by decide)).1⟩

end Value

end FiniteGroups
