import FiniteGroups.Proofs.Inverses
import FiniteGroups.Proofs.Residues
import Mathlib.Algebra.Field.ZMod

/-!
# Residues as floating-point numbers

A small number can be written as an integer or as a floating-point number (`Writes`), and it does
not matter for sums and remainders in which way the operands are written (`Writes.add_spec`,
`Writes.mod_spec`). So the residues modulo a small number are multiplied like the elements of a
cyclic group, in whatever way each of them and the modulus are written
(`multiplies_writesResidue`).

It matters for other functions. `machineResidues` are the numbers `0, …, n - 1` as integers with a
modulus that is a floating-point number. They are a valid group, all products are floating-point
numbers, and the inverse is computed with a factor that is too large for these.
-/

set_option linter.unusedSectionVars false

namespace FiniteGroups

open FiniteGroup

/-! ## Numbers in two writings -/

/-- A natural number as a floating-point number. -/
def asReal (n : Nat) : Float := (Decimal.Real.ofInt n).toOption.getD 0

/-- The value is the number `n`, as an integer or as a floating-point number. -/
inductive Writes (n : Nat) : Value → Prop
  | int : Writes n (.int n)
  | real : Writes n (.real (asReal n))

/-- Floating-point numbers compute with small integers as integers do. -/
theorem ofInt_natCast : ∀ n < 18, Decimal.Real.ofInt (n : Nat) = .ok (asReal n) := by
  decide +kernel

theorem isNaN_asReal : ∀ n < 18, (asReal n).isNaN = false := by
  decide +kernel

theorem add_asReal : ∀ m < 9, ∀ n < 9, asReal m + asReal n = asReal (m + n) := by
  decide +kernel

theorem remainder_asReal : ∀ m < 18, ∀ n < 10, 0 < n →
    Decimal.Real.remainder (asReal m) (asReal n) = .ok (asReal (m % n)) := by
  decide +kernel

theorem beq_asReal : ∀ m < 9, ∀ n < 9, (Value.real (asReal m) == .int (n : Nat)) = decide (m = n) ∧
    (Value.real (asReal m) == .real (asReal n)) = decide (m = n) := by
  decide +kernel

theorem ofReal_asReal {n : Nat} (hn : n < 18) (trail : UInt64) :
    Value.ofReal (asReal n) trail = .real (asReal n) := by
  rw [Value.ofReal, isNaN_asReal n hn]
  rfl

namespace Writes

variable {m n : Nat} {a b : Value}

theorem beq_iff (ha : Writes m a) (hb : Writes n b) (hm : m < 9) (hn : n < 9) :
    (a == b) = true ↔ m = n := by
  obtain _ | _ := ha <;> obtain _ | _ := hb
  · rw [beq_int, Int.natCast_inj]
  · rw [BEq.comm, (beq_asReal n hn m hm).1, decide_eq_true_iff, eq_comm]
  · rw [(beq_asReal m hm n hn).1, decide_eq_true_iff]
  · rw [(beq_asReal m hm n hn).2, decide_eq_true_iff]

theorem isSimple (ha : Writes m a) : a.isSimple = true := by
  obtain _ | _ := ha <;> rfl

theorem keyed_eq (ha : Writes m a) : a.keyed = .ok a := by
  obtain _ | _ := ha <;> rfl

/-- Unless both operands are integers, the result is computed in floating-point numbers. -/
theorem compute_eq (ha : Writes m a) (hb : Writes n b) (hm : m < 18) (hn : n < 18)
    (hreal : a = .real (asReal m) ∨ b = .real (asReal n)) {c : Value.Computation} {k : Nat}
    (hk : k < 18) (hc : c.rounded (asReal m) (asReal n) = .ok (asReal k)) :
    Value.compute c a b = .ok (.real (asReal k)) := by
  have hresult : ∀ trail, (do
      let z ← c.rounded (asReal m) (asReal n)
      return Value.ofReal z trail) = .ok (.real (asReal k)) := fun trail => by
    rw [hc, ok_bind, ofReal_asReal hk]
    rfl
  obtain _ | _ := ha <;> obtain _ | _ := hb
  · obtain h | h := hreal <;> cases h
  · show (do
      let x ← Decimal.Real.ofInt (m : Nat)
      let z ← c.rounded x (asReal n)
      return Value.ofReal z _) = _
    rw [ofInt_natCast m hm]
    exact hresult _
  · show (do
      let y ← Decimal.Real.ofInt (n : Nat)
      let z ← c.rounded (asReal m) y
      return Value.ofReal z _) = _
    rw [ofInt_natCast n hn]
    exact hresult _
  · exact hresult _

/-- A sum is the number that it should be. -/
theorem add_spec (ha : Writes m a) (hb : Writes n b) (hm : m < 9) (hn : n < 9) :
    ∃ c, a.add b = .ok c ∧ Writes (m + n) c := by
  have hsum : Value.sums.rounded (asReal m) (asReal n) = .ok (asReal (m + n)) :=
    congrArg Except.ok (add_asReal m hm n hn)
  have hreal := fun h => compute_eq ha hb (by omega) (by omega) h (c := Value.sums) (by omega) hsum
  obtain _ | _ := ha <;> obtain _ | _ := hb
  · exact ⟨.int (m + n), rfl, by exact_mod_cast Writes.int (n := m + n)⟩
  · exact ⟨_, hreal (.inr rfl), .real⟩
  · exact ⟨_, hreal (.inl rfl), .real⟩
  · exact ⟨_, hreal (.inl rfl), .real⟩

/-- A remainder is the number that it should be, and is written as the modulus is. -/
theorem mod_spec (ha : Writes m a) (hb : Writes n b) (hm : m < 18) (hn : n < 10) (hpos : 0 < n) :
    ∃ c, a.mod b = .ok c ∧ Writes (m % n) c ∧
      (b = .real (asReal n) → c = .real (asReal (m % n))) := by
  have hlt := Nat.mod_lt m hpos
  have hreal := fun h => compute_eq ha hb hm (by omega) h (c := Value.remainders) (by omega)
    (remainder_asReal m hm n hn hpos)
  obtain _ | _ := ha <;> obtain _ | _ := hb
  · exact ⟨.int ((m : Int).fmod n), mod_int hpos m, by
      rw [Int.fmod_eq_emod_of_nonneg _ (by omega)]
      exact_mod_cast Writes.int (n := m % n), nofun⟩
  · exact ⟨_, hreal (.inr rfl), .real, fun _ => rfl⟩
  · exact ⟨_, hreal (.inl rfl), .real, nofun⟩
  · exact ⟨_, hreal (.inl rfl), .real, fun _ => rfl⟩

end Writes

/-! ## Residues in two writings -/

/-- A number below `n`, in whatever way it is written, stands for its residue. -/
def WritesResidue (n : Nat) (a : Value) (x : Multiplicative (ZMod n)) : Prop :=
  ∃ k < n, Writes k a ∧ x = Multiplicative.ofAdd (k : ZMod n)

variable {n : Nat}

theorem writesResidue_zero (hn : 0 < n) : WritesResidue n (.int 0) 1 :=
  ⟨0, hn, .int, by simp⟩

theorem writesResidue_of_residue {a : Value} {x : Multiplicative (ZMod n)} (h : Residue n a x) :
    WritesResidue n a x := by
  obtain ⟨m, hm, hmn, rfl, rfl⟩ := h
  lift m to ℕ using hm
  exact ⟨m, by omega, .int, by simp⟩

theorem faithful_writesResidue (hn : n < 10) : Faithful (WritesResidue n) := by
  rintro a b _ _ ⟨j, hj, ha, rfl⟩ ⟨k, hk, hb, rfl⟩
  rw [ha.beq_iff hb (by omega) (by omega), Multiplicative.ofAdd.injective.eq_iff,
    ZMod.natCast_eq_natCast_iff', Nat.mod_eq_of_lt hj, Nat.mod_eq_of_lt hk]

theorem call_addMod (a b modulus : Value) :
    (Value.op .addMod [modulus]).meaning.call₂ a b = (do (← a.add b).mod modulus) := by
  show (Value.op .addMod [modulus]).meaning.call [a, b] = _
  rw [Value.meaning, Value.meaningWith.eq_def]
  rfl

/-- Sums modulo a number are those of the residues, and they are written as the modulus is. -/
theorem add_writesResidue (hpos : 0 < n) (hn : n < 10) {modulus : Value} (hm : Writes n modulus)
    {a b : Value} {x y : Multiplicative (ZMod n)} (ha : WritesResidue n a x)
    (hb : WritesResidue n b y) :
    ∃ c, (Value.op .addMod [modulus]).meaning.call₂ a b = .ok c ∧ WritesResidue n c (x * y) ∧
      (modulus = .real (asReal n) → ∃ z, c = .real z) := by
  obtain ⟨j, hj, ha, rfl⟩ := ha
  obtain ⟨k, hk, hb, rfl⟩ := hb
  obtain ⟨s, hs, hsum⟩ := ha.add_spec hb (by omega) (by omega)
  obtain ⟨c, hc, hmod, hreal⟩ := hsum.mod_spec hm (by omega) hn hpos
  refine ⟨c, by rw [call_addMod, hs, ok_bind, hc], ⟨(j + k) % n, Nat.mod_lt _ hpos, hmod, ?_⟩,
    fun h => ⟨_, hreal h⟩⟩
  rw [ZMod.natCast_mod, Nat.cast_add, ofAdd_add]

theorem multiplies_writesResidue (hpos : 0 < n) (hn : n < 10) {modulus : Value}
    (hm : Writes n modulus) :
    Multiplies (WritesResidue n) (Value.op .addMod [modulus]).meaning.call₂ where
  mul_eq _ _ _ _ ha hb := by
    obtain ⟨c, hc, hxy, -⟩ := add_writesResidue hpos hn hm ha hb
    exact ⟨c, hc, hxy⟩
  faithful := faithful_writesResidue hn
  keyed_eq := by
    rintro a x ⟨k, hk, ha, rfl⟩
    exact ⟨a, ha.keyed_eq, k, hk, ha, rfl⟩

theorem equal_writesResidue {a b : Value} {x y : Multiplicative (ZMod n)}
    (ha : WritesResidue n a x) (hb : WritesResidue n b y) : a.equal b = .ok (a == b) := by
  obtain ⟨j, -, ha, -⟩ := ha
  obtain ⟨k, -, hb, -⟩ := hb
  exact Value.equal_of_isSimple ha.isSimple hb.isSimple

/-! ## Residues that are listed as integers -/

/-- The numbers `0, …, n - 1` as integers with addition modulo a number and a given inverse. -/
def rangeResidues (n : Nat) (modulus inv : Value) : FiniteGroup :=
  ofRoster (.ofList ((List.range n).map Value.ofNat)) (.op .addMod [modulus]) (.int 0) inv .none
    .none

/-- They are a group if integers are inverted, whatever is taken for the inverse of
floating-point numbers. -/
theorem realizes_rangeResidues (hpos : 0 < n) (hn : n < 10) {modulus inv : Value}
    (hm : Writes n modulus) (hinv : ∀ k : Nat, k < n →
      (rangeResidues n modulus inv).inverse (.int k) = .ok (.int ((-(k : Int)).fmod n))) :
    (rangeResidues n modulus inv).Realizes (WritesResidue n) where
  toMultiplies := multiplies_writesResidue hpos hn hm
  intact := intact_ofRoster _ _ _ _ _ (Or.inl rfl)
  equal_eq _ _ _ _ := equal_writesResidue
  standing a ha := by
    obtain ⟨k, hk, rfl⟩ := (mem_residues hpos).1 ha
    exact ⟨_, k, hk, .int, rfl⟩
  surjective x := by
    have := NeZero.of_pos hpos
    have hlt := ZMod.val_lt x.toAdd
    exact ⟨.int x.toAdd.val, (mem_residues hpos).2 ⟨_, hlt, rfl⟩, x.toAdd.val, hlt, .int, by simp⟩
  one := writesResidue_zero hpos
  inverse_eq a x ha hx := by
    obtain ⟨k, hk, rfl⟩ := (mem_residues hpos).1 ha
    obtain rfl := (faithful_writesResidue hn).unique hx ⟨k, hk, .int, rfl⟩
    refine ⟨_, hinv k hk, ?_, by simp⟩
    have h := writesResidue_of_residue (residue_fmod hpos (-k))
    rwa [Int.cast_neg, Int.cast_natCast, ofAdd_neg] at h
  inverse_keyed a k ha hk := by
    obtain ⟨m, -, rfl⟩ := (mem_residues hpos).1 ha
    rw [← Except.ok.inj hk]

/-! ## An inverse that goes wrong for floating-point numbers -/

/-- The numbers `0`, `1` and `2` with a function that inverts them as integers. Its constant is
rounded when it is added to a floating-point number. -/
def skewResidues : FiniteGroup :=
  rangeResidues 3 (.int 3) (.rule 0 .affine [.int 2, .int 9007199254740993, .int 3])

theorem inverse_skewResidues (a : Value) : skewResidues.inverse a = (do
    (← (← (Value.int 2).times a).add (.int 9007199254740993)).mod (.int 3)) := by
  show (Value.rule 0 .affine [.int 2, .int 9007199254740993, .int 3]).meaning.call [a] = _
  rw [Value.meaning, Value.meaningWith.eq_def]
  rfl

theorem inverse_skewResidues_int (k : Int) :
    skewResidues.inverse (.int k) = .ok (.int ((-k).fmod 3)) := by
  rw [inverse_skewResidues]
  show (Value.int (2 * k + 9007199254740993)).mod (.int (3 : Nat)) = _
  rw [mod_int (by decide), Int.fmod_eq_emod_of_nonneg _ (by decide),
    Int.fmod_eq_emod_of_nonneg _ (by decide), Except.ok.injEq, Value.int.injEq]
  omega

/-- The identity is inverted as if it were `1`. -/
theorem inverse_skewResidues_real :
    skewResidues.inverse (.real (asReal 0)) = .ok (.real (asReal 2)) := by
  rw [inverse_skewResidues]
  rfl

theorem realizes_skewResidues : skewResidues.Realizes (WritesResidue 3) :=
  realizes_rangeResidues (by decide) (by decide) (.int (n := 3)) fun k _ =>
    inverse_skewResidues_int k

/-- They are a valid group. -/
def validSkewResidues : ValidGroup :=
  .ofRealizes realizes_skewResidues

/-! ## A modulus that is a floating-point number -/

/-- An integer of too many digits is too large to be a floating-point number. -/
theorem ofInt_of_le {m : Int} {d : Nat} (hd : 310 ≤ d) (h : Nat.pow 10 d ≤ m.natAbs) :
    Decimal.Real.ofInt m = .error .overflow := by
  have hlength : d < (Nat.repr m.natAbs).length :=
    Nat.lt_of_not_le fun hle =>
      Nat.not_lt.2 h ((Nat.length_repr_le_iff (by omega : 0 < d)).1 hle)
  have hpos : 0 < m.natAbs := (Nat.pow_pos (by omega : 0 < 10)).trans_le h
  have hnear : Decimal.Extended.nearest (decide (m < 0)) m.natAbs 0 =
      .infinite (decide (m < 0)) := by
    rw [Decimal.Extended.nearest]
    dsimp only
    rw [if_neg (by omega), if_pos (by omega)]
  rw [Decimal.Real.ofInt, hnear]

/-- The numbers `0, …, n - 1` as integers with addition modulo a floating-point number. The inverse
is the product with a factor `c`. -/
def machineResidues (n : Nat) (c : Int) : FiniteGroup :=
  ofRoster (.ofList ((List.range n).map Value.ofNat)) (.op .addMod [.real (asReal n)]) (.int 0)
    (.rule 0 .affine [.int c, .int 0, .int n]) .none .none

variable {c : Int}

theorem inverse_machineResidues (a : Value) : (machineResidues n c).inverse a = (do
    (← (← (Value.int c).times a).add (.int 0)).mod (.int n)) := by
  show (Value.rule 0 .affine [.int c, .int 0, .int n]).meaning.call [a] = _
  rw [Value.meaning, Value.meaningWith.eq_def]
  rfl

/-- A factor that is `-1` modulo `n` inverts integers. -/
theorem inverse_int (hpos : 0 < n) (hc : (n : Int) ∣ c + 1) (k : Int) :
    (machineResidues n c).inverse (.int k) = .ok (.int ((-k).fmod n)) := by
  have hmod : (c * k).fmod n = (-k).fmod n := by
    rw [Int.fmod_eq_emod_of_nonneg _ (by omega), Int.fmod_eq_emod_of_nonneg _ (by omega)]
    refine Int.modEq_iff_dvd.2 ?_
    have h := dvd_neg.2 (hc.mul_right k)
    rwa [add_one_mul, neg_add_rev, ← sub_eq_add_neg] at h
  rw [inverse_machineResidues]
  show (Value.int (c * k + 0)).mod (.int n) = _
  rw [mod_int hpos, add_zero, hmod]

/-- A factor that is too large for floating-point numbers inverts none of these. -/
theorem inverse_real (hc : Decimal.Real.ofInt c = .error .overflow) (x : Float) :
    (machineResidues n c).inverse (.real x) = .error .overflow := by
  rw [inverse_machineResidues]
  show (do
    let y ← (do
      let y ← Decimal.Real.ofInt c
      let z ← Value.products.rounded y x
      return Value.ofReal z _)
    _) = _
  rw [hc]
  rfl

theorem realizes_machineResidues (hpos : 0 < n) (hn : n < 10) (hc : (n : Int) ∣ c + 1) :
    (machineResidues n c).Realizes (WritesResidue n) :=
  realizes_rangeResidues hpos hn .real fun k _ => inverse_int hpos hc k

/-- Integers are inverted, and floating-point numbers are not. -/
theorem inverse_cases (hpos : 0 < n) (hc : (n : Int) ∣ c + 1)
    (hlarge : Decimal.Real.ofInt c = .error .overflow) {a : Value} {x : Multiplicative (ZMod n)}
    (ha : WritesResidue n a x) :
    (a ∈ (machineResidues n c).els ∧ ∃ b, (machineResidues n c).inverse a = .ok b) ∨
      (machineResidues n c).inverse a = .error .overflow := by
  obtain ⟨k, hk, hwrites, -⟩ := ha
  obtain _ | _ := hwrites
  · exact .inl ⟨(mem_residues hpos).2 ⟨k, hk, rfl⟩, _, inverse_int hpos hc k⟩
  · exact .inr (inverse_real hlarge _)

/-- Values of which one is a floating-point number are not inverted. -/
theorem mapM_inverse_real (hpos : 0 < n) (hc : (n : Int) ∣ c + 1)
    (hlarge : Decimal.Real.ofInt c = .error .overflow) {gens : List Value}
    (hgens : Standing (WritesResidue n) gens) (hreal : ∃ z, .real z ∈ gens) :
    gens.mapM (machineResidues n c).inverse = .error .overflow := by
  obtain ⟨z, hz⟩ := hreal
  refine mapM_eq_error (fun g hg => ?_) ⟨.real z, hz, inverse_real hlarge z⟩
  obtain ⟨x, hx⟩ := hgens g hg
  exact (inverse_cases hpos hc hlarge hx).imp_left And.right

/-- Nothing is spanned by values of which one is a floating-point number. -/
theorem span_real (hpos : 0 < n) (hn : n < 10) (hc : (n : Int) ∣ c + 1)
    (hlarge : Decimal.Real.ofInt c = .error .overflow) {gens : List Value}
    (hgens : Standing (WritesResidue n) gens) (hreal : ∃ z, .real z ∈ gens) :
    (machineResidues n c).span gens = .error .overflow := by
  have hmembers := (realizes_machineResidues hpos hn hc).requireMembers_eq hgens
  have hinverses := mapM_inverse_real hpos hc hlarge hgens hreal
  simp [span, generated, spanned, hmembers, seeds, hinverses]

/-- More digits than a floating-point number has. -/
def manyDigits : Nat := 400

/-- A factor that inverts integers modulo `n` and is too large for floating-point numbers. -/
def largeFactor (n : Nat) : Int := n * Nat.pow 10 manyDigits + (n - 1)

theorem dvd_largeFactor (n : Nat) : (n : Int) ∣ largeFactor n + 1 := by
  refine ⟨Nat.pow 10 manyDigits + 1, ?_⟩
  rw [largeFactor, mul_add, mul_one]
  omega

theorem ofInt_largeFactor (hpos : 0 < n) :
    Decimal.Real.ofInt (largeFactor n) = .error .overflow := by
  have hle : Nat.pow 10 manyDigits ≤ n * Nat.pow 10 manyDigits := Nat.le_mul_of_pos_left _ hpos
  have hcast : largeFactor n = (n * Nat.pow 10 manyDigits + (n - 1) : Nat) := by
    rw [largeFactor, Nat.cast_add, Nat.cast_mul, Nat.cast_sub hpos, Nat.cast_one]
  refine ofInt_of_le (by decide : 310 ≤ manyDigits) ?_
  rw [hcast, Int.natAbs_natCast]
  exact hle.trans (Nat.le_add_right _ _)

/-- The numbers `0, …, n - 1` as a valid group whose products are floating-point numbers, which
cannot be inverted. -/
def validMachineResidues (hpos : 0 < n) (hn : n < 10) : ValidGroup :=
  .ofRealizes (realizes_machineResidues hpos hn (dvd_largeFactor n))

end FiniteGroups
