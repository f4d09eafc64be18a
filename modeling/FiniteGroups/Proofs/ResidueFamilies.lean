import FiniteGroups.Proofs.Generation
import FiniteGroups.Proofs.Residues
import Mathlib.Algebra.BigOperators.Pi
import Mathlib.GroupTheory.SpecificGroups.Dihedral

/-!
# The families of residues

The cyclic, the dihedral and the elementary abelian family compute with residues, each of which is
written as the least number that has it (`writeResidue`). The cyclic family describes the integers
modulo `n`, the dihedral family the symmetries of a polygon, written as a rotation that follows a
reflection or none (`writeSymmetry`), and the elementary abelian family the tuples of residues
modulo a prime (`writeVector`).
-/

namespace FiniteGroups

open FiniteGroup

variable {n : Nat}

/-! ## Residues as values -/

/-- The least number with the residue. -/
def writeResidue (x : ZMod n) : Value := .int x.val

theorem writeResidue_intCast [NeZero n] (m : Int) :
    writeResidue (m : ZMod n) = .int (m.fmod n) := by
  rw [writeResidue, ZMod.val_intCast, Int.fmod_eq_emod_of_nonneg m (Int.natCast_nonneg n)]

theorem writeResidue_natCast {k : Nat} (hk : k < n) : writeResidue (k : ZMod n) = .int k := by
  rw [writeResidue, ZMod.val_natCast_of_lt hk]

theorem writeResidue_zero : writeResidue (0 : ZMod n) = .int 0 := by
  rw [writeResidue, ZMod.val_zero]
  rfl

theorem writeResidue_injective [NeZero n] {x y : ZMod n}
    (h : (writeResidue x == writeResidue y) = true) : x = y :=
  ZMod.val_injective n (Int.ofNat_inj.1 (beq_int.1 h))

/-- Tuples of integers that are equal have the same entries. -/
theorem eq_of_beq_tuple (xs ys : List Int)
    (h : (Value.tuple (xs.map Value.int) == .tuple (ys.map Value.int)) = true) : xs = ys := by
  have hsame : Value.sameEach (xs.map Value.int) (ys.map Value.int) = true :=
    (Value.same_iff.1 h).2.1
  clear h
  induction xs generalizing ys with
  | nil =>
    cases ys with
    | nil => rfl
    | cons y ys => simp [Value.sameEach] at hsame
  | cons x xs ih =>
    cases ys with
    | nil => simp [Value.sameEach] at hsame
    | cons y ys =>
      rw [List.map_cons, List.map_cons, Value.sameEach, Bool.and_eq_true] at hsame
      rw [beq_int.1 hsame.1, ih _ hsame.2]

theorem isSimple_ints (xs : List Int) : (Value.tuple (xs.map Value.int)).isSimple = true := by
  rw [Value.isSimple]
  induction xs with
  | nil => rfl
  | cons x xs ih => rw [List.map_cons, Value.areSimple, ih, Value.isSimple.eq_def, Bool.and_self]

theorem keyed_ints (xs : List Int) :
    (Value.tuple (xs.map Value.int)).keyed = .ok (.tuple (xs.map Value.int)) := by
  have heach : Value.keyedEach (xs.map Value.int) = .ok (xs.map Value.int) := by
    induction xs with
    | nil => rfl
    | cons x xs ih =>
      have hint : (Value.int x).keyed = .ok (.int x) := rfl
      rw [List.map_cons, Value.keyedEach, hint, ih]
      rfl
  rw [Value.keyed, heach]
  rfl

section

variable [NeZero n]

/-- A remainder is the least number with the residue. -/
theorem mod_intCast (m : Int) : (Value.int m).mod (.int n) = .ok (writeResidue (m : ZMod n)) := by
  rw [mod_int (NeZero.pos n), writeResidue_intCast]

theorem add_residue (x y : ZMod n) : ∃ s, (writeResidue x).add (writeResidue y) = .ok s ∧
    s.mod (.int n) = .ok (writeResidue (x + y)) := by
  refine ⟨.int (x.val + y.val), by rw [writeResidue, writeResidue, Value.add], ?_⟩
  rw [mod_intCast, Int.cast_add, Int.cast_natCast, Int.cast_natCast, ZMod.natCast_zmod_val,
    ZMod.natCast_zmod_val]

theorem sub_residue (x y : ZMod n) : ∃ d, (writeResidue x).sub (writeResidue y) = .ok d ∧
    d.mod (.int n) = .ok (writeResidue (x - y)) := by
  refine ⟨.int (x.val - y.val), rfl, ?_⟩
  rw [mod_intCast, Int.cast_sub, Int.cast_natCast, Int.cast_natCast, ZMod.natCast_zmod_val,
    ZMod.natCast_zmod_val]

theorem negate_residue (x : ZMod n) : ∃ m, (writeResidue x).negate = .ok m ∧
    m.mod (.int n) = .ok (writeResidue (-x)) := by
  refine ⟨.int (-x.val), rfl, ?_⟩
  rw [mod_intCast, Int.cast_neg, Int.cast_natCast, ZMod.natCast_zmod_val]

end

/-! ## The cyclic family -/

section

variable [NeZero n]

theorem writing_cyclic : Writing (fun x : Multiplicative (ZMod n) => writeResidue x.toAdd)
    (.op .addMod [.int n]) (.method 0 (.family 0 .cyclic [.int n]) "inverse") where
  isSimple _ := rfl
  keyed_eq _ := rfl
  injective _ _ h := writeResidue_injective h
  ne_none _ := nofun
  mul_eq x y := by
    obtain ⟨s, hs, hmod⟩ := add_residue x.toAdd y.toAdd
    rw [Value.meaning, Value.meaningWith.eq_def]
    show (do (← (writeResidue x.toAdd).add (writeResidue y.toAdd)).mod (.int n)) = _
    rw [hs, ok_bind, hmod, toAdd_mul]
  inverse_eq x := by
    obtain ⟨m, hm, hmod⟩ := negate_residue x.toAdd
    rw [meaning_method, Value.meaning, Value.meaningWith.eq_def]
    show (do (← (writeResidue x.toAdd).negate).mod (.int n)) = _
    rw [hm, ok_bind, hmod, toAdd_inv]

theorem Family.describes_cyclic : (Family.mk 0 .cyclic [.int n]).Describes
    fun x : Multiplicative (ZMod n) => writeResidue x.toAdd where
  writing := writing_cyclic
  identity_eq := by
    show _ = Except.ok (writeResidue (0 : ZMod n))
    rw [writeResidue_zero]
    rfl
  gens_eq := by
    refine ⟨[Multiplicative.ofAdd 1], ?_, (Subgroup.eq_top_iff' _).2 fun x => ?_⟩
    · have hone : (Value.int 1).mod (.int n) = .ok (writeResidue (1 : ZMod n)) := by
        rw [mod_intCast, Int.cast_one]
      show (do return [← (Value.int 1).mod (.int n)]) = _
      rw [hone]
      rfl
    · have hpow : x = Multiplicative.ofAdd 1 ^ x.toAdd.val := by
        rw [← ofAdd_nsmul, nsmul_one, ZMod.natCast_zmod_val, ofAdd_toAdd]
      rw [hpow]
      exact pow_mem (Subgroup.subset_closure (by simp)) _
  size_eq := .inl rfl

theorem exists_writeResidue (a : Value) :
    (∃ k : Nat, k < n ∧ a = .int k) ↔ ∃ x : Multiplicative (ZMod n), a = writeResidue x.toAdd := by
  constructor
  · rintro ⟨k, hk, rfl⟩
    exact ⟨Multiplicative.ofAdd k, (writeResidue_natCast hk).symm⟩
  · rintro ⟨x, rfl⟩
    exact ⟨x.toAdd.val, ZMod.val_lt _, rfl⟩

/-! ## The dihedral family -/

/-- A rotation, and one after a reflection, as a pair. -/
def writeSymmetry : DihedralGroup n → Value
  | .r i => .tuple [writeResidue i, .int 0]
  | .sr i => .tuple [writeResidue (-i), .int 1]

theorem applyDihedral_residue (x y : ZMod n) (f g : Int) :
    Multiplication.applyDihedral (.int n) (.tuple [writeResidue x, .int f])
        (.tuple [writeResidue y, .int g])
      = .ok (.tuple [writeResidue (if f = 0 then x + y else x - y), .int ((f + g).fmod 2)]) := by
  have hpair (a b : Value) : (Value.tuple [a, b]).pair = .ok (a, b) := rfl
  have hequal : (Value.int f).equal (.int 0) = .ok (decide (f = 0)) := by
    rw [Value.equal_of_isSimple rfl rfl]
    exact congrArg _ (Bool.eq_iff_iff.2 (beq_int.trans decide_eq_true_iff.symm))
  have hadd : (Value.int f).add (.int g) = .ok (.int (f + g)) := by rw [Value.add]
  have hflip : (Value.int (f + g)).mod (.int 2) = .ok (.int ((f + g).fmod 2)) :=
    mod_int (n := 2) (by decide) _
  obtain ⟨s, hs, hsum⟩ := add_residue x y
  obtain ⟨d, hd, hdiff⟩ := sub_residue x y
  rw [Multiplication.applyDihedral]
  obtain rfl | hf := eq_or_ne f 0
  · simp only [hpair, ok_bind, hequal, decide_true, if_true, hs, hsum, hadd, hflip, pure_eq_ok]
  · simp only [hpair, ok_bind, hequal, hf, decide_false, Bool.false_eq_true, if_false, hd, hdiff,
      hadd, hflip, pure_eq_ok]

/-- A symmetry is found in its pair again. -/
theorem eq_of_beq_writeSymmetry {x y : DihedralGroup n}
    (h : (writeSymmetry x == writeSymmetry y) = true) : x = y := by
  have hval {i j : ZMod n} (hij : (i.val : Int) = j.val) : i = j :=
    ZMod.val_injective n (Int.ofNat_inj.1 hij)
  rcases x with i | i <;> rcases y with j | j
  · have heq := eq_of_beq_tuple [i.val, 0] [j.val, 0] h
    rw [hval (List.cons.inj heq).1]
  · have heq := eq_of_beq_tuple [i.val, 0] [(-j).val, 1] h
    exact absurd (List.cons.inj heq).2 (by decide)
  · have heq := eq_of_beq_tuple [(-i).val, 1] [j.val, 0] h
    exact absurd (List.cons.inj heq).2 (by decide)
  · have heq := eq_of_beq_tuple [(-i).val, 1] [(-j).val, 1] h
    rw [neg_injective (hval (List.cons.inj heq).1)]

/-- The formula for pairs multiplies the symmetries. -/
theorem applyDihedral_writeSymmetry (x y : DihedralGroup n) :
    Multiplication.applyDihedral (.int n) (writeSymmetry x) (writeSymmetry y)
      = .ok (writeSymmetry (x * y)) := by
  rcases x with i | i <;> rcases y with j | j
  · exact applyDihedral_residue i j 0 0
  · have h := applyDihedral_residue i (-j) 0 1
    rw [if_pos rfl, ← sub_eq_add_neg, ← neg_sub] at h
    exact h
  · have h := applyDihedral_residue (-i) j 1 0
    rw [if_neg one_ne_zero, ← neg_add'] at h
    exact h
  · have h := applyDihedral_residue (-i) (-j) 1 1
    rw [if_neg one_ne_zero, sub_neg_eq_add, neg_add_eq_sub] at h
    exact h

theorem writing_dihedral : Writing (writeSymmetry (n := n)) (.op .dihedral [.int n])
    (.method 0 (.family 0 .dihedral [.int n]) "inverse") where
  isSimple
    | .r _ => rfl
    | .sr _ => rfl
  keyed_eq
    | .r _ => rfl
    | .sr _ => rfl
  injective _ _ := eq_of_beq_writeSymmetry
  ne_none
    | .r _ => nofun
    | .sr _ => nofun
  mul_eq x y := by
    rw [Value.meaning, Value.meaningWith.eq_def]
    exact applyDihedral_writeSymmetry x y
  inverse_eq x := by
    rw [meaning_method, Value.meaning, Value.meaningWith.eq_def]
    rcases x with i | i
    · obtain ⟨m, hm, hmod⟩ := negate_residue i
      show (do return Value.tuple [← (← (writeResidue i).negate).mod (.int n), .int 0]) = _
      rw [hm, ok_bind, hmod]
      rfl
    · rfl

theorem Family.describes_dihedral :
    (Family.mk 0 .dihedral [.int n]).Describes (writeSymmetry (n := n)) where
  writing := writing_dihedral
  identity_eq := by
    show _ = Except.ok (Value.tuple [writeResidue (0 : ZMod n), .int 0])
    rw [writeResidue_zero]
    rfl
  gens_eq := by
    refine ⟨[.r 1, .sr 0], ?_, (Subgroup.eq_top_iff' _).2 fun x => ?_⟩
    · have hone : (Value.int 1).mod (.int n) = .ok (writeResidue (1 : ZMod n)) := by
        rw [mod_intCast, Int.cast_one]
      have hzero : writeSymmetry (.sr (0 : ZMod n)) = .tuple [.int 0, .int 1] := by
        rw [writeSymmetry, neg_zero, writeResidue_zero]
      show (do return [Value.tuple [← (Value.int 1).mod (.int n), .int 0],
        .tuple [.int 0, .int 1]]) = _
      rw [hone, List.map_cons, List.map_singleton, hzero]
      rfl
    · have hrotation (i : ZMod n) :
          DihedralGroup.r i ∈ Subgroup.closure {x | x ∈ [DihedralGroup.r 1, .sr (0 : ZMod n)]} := by
        have hpow : DihedralGroup.r i = DihedralGroup.r 1 ^ i.val := by
          rw [DihedralGroup.r_one_pow, ZMod.natCast_zmod_val]
        rw [hpow]
        exact pow_mem (Subgroup.subset_closure (by simp)) _
      rcases x with i | i
      · exact hrotation i
      · have hmul : DihedralGroup.sr i = .sr 0 * .r i := by
          rw [DihedralGroup.sr_mul_r, zero_add]
        rw [hmul]
        exact mul_mem (Subgroup.subset_closure (by simp)) (hrotation i)
  size_eq := .inl rfl

theorem exists_writeSymmetry (a : Value) :
    (∃ r f : Nat, r < n ∧ f < 2 ∧ a = .tuple [.int r, .int f]) ↔
      ∃ x : DihedralGroup n, a = writeSymmetry x := by
  constructor
  · rintro ⟨r, f, hr, hf, rfl⟩
    obtain rfl | rfl : f = 0 ∨ f = 1 := by omega
    · exact ⟨.r r, by rw [writeSymmetry, writeResidue_natCast hr]; rfl⟩
    · exact ⟨.sr (-r), by rw [writeSymmetry, neg_neg, writeResidue_natCast hr]; rfl⟩
  · rintro ⟨i | i, rfl⟩
    · exact ⟨i.val, 0, ZMod.val_lt i, by decide, rfl⟩
    · exact ⟨(-i).val, 1, ZMod.val_lt _, by decide, rfl⟩

end

/-! ## The elementary abelian family -/

section

variable {p k : Nat} [NeZero p]

/-- The residues in turn as a tuple. -/
def writeVector (v : Multiplicative (Fin k → ZMod p)) : Value :=
  .tuple ((List.finRange k).map fun i => writeResidue (v.toAdd i))

omit [NeZero p] in
theorem writeVector_eq (v : Multiplicative (Fin k → ZMod p)) : writeVector v
    = .tuple (((List.finRange k).map fun i => ((v.toAdd i).val : Int)).map Value.int) := by
  rw [writeVector, List.map_map]
  rfl

omit [NeZero p] in
theorem entries_writeVector (v : Multiplicative (Fin k → ZMod p)) :
    (writeVector v).entries = .ok ((List.finRange k).map fun i => writeResidue (v.toAdd i)) :=
  rfl

theorem writing_elementaryAbelian : Writing (writeVector (p := p) (k := k))
    (.op .vectorAdd [.int p, .int k])
    (.method 0 (.family 0 .elementaryAbelian [.int p, .int k]) "inverse") where
  isSimple v := by
    rw [writeVector_eq]
    exact isSimple_ints _
  keyed_eq v := by
    rw [writeVector_eq]
    exact keyed_ints _
  injective v w h := by
    rw [writeVector_eq, writeVector_eq] at h
    have hentries := List.map_inj_left.1 (eq_of_beq_tuple _ _ h)
    refine Multiplicative.toAdd.injective (funext fun i => ZMod.val_injective p ?_)
    exact Int.ofNat_inj.1 (hentries i (List.mem_finRange i))
  ne_none _ := nofun
  mul_eq v w := by
    rw [Value.meaning, Value.meaningWith.eq_def]
    show Multiplication.applyVector (.int p) (writeVector v) (writeVector w) = _
    rw [Multiplication.applyVector, entries_writeVector, entries_writeVector, ok_bind, ok_bind,
      List.zip_map', List.mapM_map,
      mapM_eq_map (g := fun i => writeResidue (v.toAdd i + w.toAdd i))]
    · rfl
    · intro i _
      obtain ⟨s, hs, hmod⟩ := add_residue (v.toAdd i) (w.toAdd i)
      show (do (← (writeResidue _).add (writeResidue _)).mod (.int p)) = _
      rw [hs, ok_bind, hmod]
  inverse_eq v := by
    rw [meaning_method, Value.meaning, Value.meaningWith.eq_def]
    show (do return Value.tuple (← (← (writeVector v).entries).mapM fun (x : Value) => do
      (← x.negate).mod (.int p))) = _
    rw [entries_writeVector, ok_bind, List.mapM_map,
      mapM_eq_map (g := fun i => writeResidue (-v.toAdd i))]
    · rfl
    · intro i _
      obtain ⟨m, hm, hmod⟩ := negate_residue (v.toAdd i)
      show (do (← (writeResidue _).negate).mod (.int p)) = _
      rw [hm, ok_bind, hmod]

omit [NeZero p] in
/-- A tuple with a one at one place and zeros elsewhere. -/
theorem writeVector_single (hp : 1 < p) (i : Fin k) :
    writeVector (Multiplicative.ofAdd (Pi.single i (1 : ZMod p)))
      = .tuple ((List.range k).map fun j => .int (if i.1 = j then 1 else 0)) := by
  have hone : (1 : ZMod p).val = 1 := by
    have := Fact.mk hp
    exact ZMod.val_one p
  rw [writeVector, ← List.map_coe_finRange_eq_range, List.map_map]
  refine congrArg Value.tuple (List.map_congr_left fun j _ => ?_)
  rw [toAdd_ofAdd, Pi.single_apply, Function.comp_apply]
  by_cases hij : i = j
  · rw [if_pos hij.symm, if_pos (congrArg Fin.val hij), writeResidue, hone]
    rfl
  · rw [if_neg (Ne.symm hij), if_neg (mt Fin.ext hij), writeResidue_zero]

/-- A tuple is a sum of multiples of those with a single one. -/
theorem closure_single : Subgroup.closure
    (Set.range fun i : Fin k => Multiplicative.ofAdd (Pi.single i (1 : ZMod p))) = ⊤ := by
  refine (Subgroup.eq_top_iff' _).2 fun v => ?_
  have hsum : v = ∏ i, Multiplicative.ofAdd (Pi.single i (1 : ZMod p)) ^ (v.toAdd i).val := by
    calc v = Multiplicative.ofAdd (∑ i, Pi.single i (v.toAdd i)) := by
          rw [Finset.univ_sum_single, ofAdd_toAdd]
      _ = ∏ i, Multiplicative.ofAdd (Pi.single i (v.toAdd i)) := ofAdd_sum _ _
      _ = _ := Finset.prod_congr rfl fun i _ => by
          rw [← ofAdd_nsmul, ← Pi.single_nsmul, nsmul_one, ZMod.natCast_zmod_val]
  rw [hsum]
  exact Subgroup.prod_mem _ fun i _ =>
    Subgroup.pow_mem _ (Subgroup.subset_closure (Set.mem_range_self i)) _

theorem Family.describes_elementaryAbelian (hp : 1 < p) :
    (Family.mk 0 .elementaryAbelian [.int p, .int k]).Describes
      (writeVector (p := p) (k := k)) where
  writing := writing_elementaryAbelian
  identity_eq := by
    show Except.ok (Value.tuple (List.replicate k (.int 0))) = Except.ok (Value.tuple
      ((List.finRange k).map fun _ => writeResidue (0 : ZMod p)))
    rw [writeResidue_zero, List.map_const', List.length_finRange]
  gens_eq := by
    refine ⟨(List.finRange k).map fun i => Multiplicative.ofAdd (Pi.single i (1 : ZMod p)), ?_, ?_⟩
    · show Except.ok ((List.range k).map fun i =>
        Value.tuple ((List.range k).map fun j => .int (if i = j then 1 else 0))) = _
      rw [← List.map_coe_finRange_eq_range, List.map_map, List.map_map]
      refine congrArg Except.ok (List.map_congr_left fun i _ => ?_)
      rw [Function.comp_apply, Function.comp_apply, writeVector_single hp,
        List.map_coe_finRange_eq_range]
    · rw [← closure_single]
      refine congrArg Subgroup.closure (Set.ext fun v => ?_)
      simp
  size_eq := .inl rfl

theorem exists_writeVector (a : Value) :
    (∃ xs : List Nat, xs.length = k ∧ (∀ x ∈ xs, x < p) ∧ a = .tuple (xs.map Value.ofNat)) ↔
      ∃ v : Multiplicative (Fin k → ZMod p), a = writeVector v := by
  constructor
  · rintro ⟨xs, rfl, hxs, rfl⟩
    refine ⟨Multiplicative.ofAdd fun i => (xs.get i : ZMod p), congrArg Value.tuple ?_⟩
    conv_lhs => rw [← List.map_get_finRange xs, List.map_map]
    exact List.map_congr_left fun i _ => (writeResidue_natCast (hxs _ (List.get_mem xs i))).symm
  · rintro ⟨v, rfl⟩
    refine ⟨(List.finRange k).map fun i => (v.toAdd i).val, by simp, fun x hx => ?_, ?_⟩
    · obtain ⟨i, -, rfl⟩ := List.mem_map.1 hx
      exact ZMod.val_lt _
    · rw [writeVector, List.map_map]
      rfl

omit [NeZero p] in
theorem exponent_vector (hk : 0 < k) :
    Monoid.exponent (Multiplicative (Fin k → ZMod p)) = p := by
  refine Nat.dvd_antisymm (Monoid.exponent_dvd_of_forall_pow_eq_one fun v => ?_) ?_
  · refine Multiplicative.toAdd.injective (funext fun i => ?_)
    rw [toAdd_pow, Pi.smul_apply, nsmul_eq_mul, ZMod.natCast_self, zero_mul]
    rfl
  · -- a tuple with a one returns to zero with its entry
    have hpow := Monoid.pow_exponent_eq_one
      (Multiplicative.ofAdd (Pi.single ⟨0, hk⟩ 1 : Fin k → ZMod p))
    have hentry := congrFun (congrArg Multiplicative.toAdd hpow) ⟨0, hk⟩
    rw [toAdd_pow, Pi.smul_apply, toAdd_ofAdd, Pi.single_eq_same, nsmul_one] at hentry
    exact (ZMod.natCast_eq_zero_iff _ p).1 hentry

end

end FiniteGroups
