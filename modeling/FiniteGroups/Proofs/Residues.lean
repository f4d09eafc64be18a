import FiniteGroups.Proofs.Valid
import Mathlib.Data.ZMod.Basic

/-!
# The residues modulo a number

The numbers `0, …, n - 1` with addition modulo `n`, inverted as the cyclic family inverts them,
realize the additive group of integers modulo `n` (`realizes_residues`), so they are a valid group
(`validResidues`).
-/

namespace FiniteGroups

open FiniteGroup

/-- The numbers `0, …, n - 1` with addition modulo `n`. -/
def residues (n : Nat) : FiniteGroup :=
  ofRoster (.ofList ((List.range n).map Value.ofNat)) (.op .addMod [.int n]) (.int 0)
    (.method 0 (.family 0 .cyclic [.int n]) "inverse") .none .none

/-- A number stands for its residue. -/
def Residue (n : Nat) (a : Value) (x : Multiplicative (ZMod n)) : Prop :=
  ∃ m : Int, 0 ≤ m ∧ m < n ∧ a = .int m ∧ x = Multiplicative.ofAdd (m : ZMod n)

theorem beq_int {m k : Int} : ((Value.int m == Value.int k) = true) ↔ m = k := by
  show Value.same (.int m) (.int k) = true ↔ _
  simp [Value.same]

variable {n : Nat}

theorem faithful_residue : Faithful (Residue n) := by
  rintro _ _ _ _ ⟨m, hm, hmn, rfl, rfl⟩ ⟨k, hk, hkn, rfl, rfl⟩
  rw [beq_int, Multiplicative.ofAdd.injective.eq_iff, ZMod.intCast_eq_intCast_iff]
  constructor
  · rintro rfl
    rfl
  · intro h
    rwa [Int.ModEq, Int.emod_eq_of_lt hm hmn, Int.emod_eq_of_lt hk hkn] at h

/-- A remainder stands for the residue of the number. -/
theorem residue_fmod (hn : 0 < n) (m : Int) :
    Residue n (.int (m.fmod n)) (Multiplicative.ofAdd (m : ZMod n)) := by
  have hn : (0 : Int) < n := by omega
  refine ⟨m.fmod n, Int.fmod_nonneg_of_pos m hn, Int.fmod_lt_of_pos m hn, rfl, ?_⟩
  rw [Int.fmod_eq_emod_of_nonneg m hn.le, ZMod.intCast_mod]

theorem mod_int (hn : 0 < n) (m : Int) :
    (Value.int m).mod (.int n) = .ok (.int (m.fmod n)) := by
  have hne : (n : Int) ≠ 0 := by omega
  rw [Value.mod, remainder, if_neg hne]
  rfl

theorem mul_residues (hn : 0 < n) (m k : Int) :
    (residues n).mul (.int m) (.int k) = .ok (.int ((m + k).fmod n)) := by
  have hadd : (Value.int m).add (.int k) = .ok (.int (m + k)) := by rw [Value.add]
  show (Value.op .addMod [.int n]).meaning.call [.int m, .int k] = _
  rw [Value.meaning, Value.meaningWith.eq_def]
  show (do ((← (Value.int m).add (.int k)).mod (← Multiplication.datum [.int n] 0))) = _
  rw [hadd]
  exact mod_int hn (m + k)

theorem inverse_residues (hn : 0 < n) (m : Int) :
    (residues n).inverse (.int m) = .ok (.int ((-m).fmod n)) := by
  have hneg : (Value.int m).negate = .ok (.int (-m)) := by
    simp [Value.negate, Value.number, Value.number?]
  show (Value.method 0 (.family 0 .cyclic [.int n]) "inverse").meaning.call [.int m] = _
  rw [FiniteGroup.meaning_method, Value.meaning, Value.meaningWith.eq_def]
  show (do (← (Value.int m).negate).mod (.int n)) = _
  rw [hneg]
  exact mod_int hn (-m)

theorem pairwise_range (n : Nat) :
    ((List.range n).map Value.ofNat).Pairwise fun a b => (a == b) = false := by
  rw [List.pairwise_map]
  refine List.nodup_range.imp fun {i j} hij => ?_
  rw [← Bool.not_eq_true, Value.ofNat, Value.ofNat, beq_int]
  omega

theorem els_residues (hn : 0 < n) : (residues n).els = (List.range n).map Value.ofNat := by
  obtain ⟨k, rfl⟩ := Nat.exists_eq_succ_of_ne_zero hn.ne'
  have hlist := Roster.toList_ofList (pairwise_range (k + 1))
  have hzero : (Roster.ofList ((List.range (k + 1)).map Value.ofNat)).contains (.int 0) = true :=
    Roster.contains_ofList.2 ⟨.int 0, List.mem_map.2 ⟨0, by simp, rfl⟩, BEq.rfl⟩
  show (Roster.promote _ _).toList = _
  rw [Roster.toList_promote hzero, hlist]
  have hpair := pairwise_range (k + 1)
  rw [List.range_succ_eq_map, List.map_cons] at hpair ⊢
  -- zero is in front already
  have hkeep : ((List.range k).map Nat.succ).map Value.ofNat =
      (((List.range k).map Nat.succ).map Value.ofNat).filter fun b => !(Value.int 0 == b) := by
    refine (List.filter_eq_self.2 fun b hb => ?_).symm
    rw [show (Value.int 0 == b) = false from (List.pairwise_cons.1 hpair).1 b hb]
    rfl
  rw [List.filter_cons_of_neg (by simp [Value.ofNat]), ← hkeep]
  rfl

theorem mem_residues (hn : 0 < n) {a : Value} : a ∈ (residues n).els ↔ ∃ k < n, a = .int k := by
  rw [els_residues hn, List.mem_map]
  simp [Value.ofNat, eq_comm]

/-- The numbers are realized by the residues of integers. -/
theorem realizes_residues (hn : 0 < n) : (residues n).Realizes (Residue n) where
  faithful := faithful_residue
  mul_eq := by
    rintro _ _ _ _ ⟨m, -, -, rfl, rfl⟩ ⟨k, -, -, rfl, rfl⟩
    refine ⟨.int ((m + k).fmod n), mul_residues hn m k, ?_⟩
    have h := residue_fmod hn (m + k)
    rwa [Int.cast_add, ofAdd_add] at h
  keyed_eq := by
    rintro _ x ⟨m, hm, hmn, rfl, rfl⟩
    exact ⟨.int m, rfl, m, hm, hmn, rfl, rfl⟩
  intact := intact_ofRoster _ _ _ _ _ (Or.inl rfl)
  equal_eq := by
    rintro _ _ _ _ ⟨m, -, -, rfl, rfl⟩ ⟨k, -, -, rfl, rfl⟩
    exact Value.equal_of_isSimple rfl rfl
  standing a ha := by
    obtain ⟨k, hk, rfl⟩ := (mem_residues hn).1 ha
    exact ⟨_, k, by omega, by omega, rfl, rfl⟩
  surjective x := by
    have := NeZero.of_pos hn
    have hlt := ZMod.val_lt x.toAdd
    exact ⟨.int x.toAdd.val, (mem_residues hn).2 ⟨_, hlt, rfl⟩, x.toAdd.val, by omega, by omega,
      rfl, by simp⟩
  one := ⟨0, le_rfl, by omega, rfl, by simp⟩
  inverse_eq := by
    rintro _ _ - ⟨m, -, -, rfl, rfl⟩
    refine ⟨.int ((-m).fmod n), inverse_residues hn m, ?_, by simp⟩
    have h := residue_fmod hn (-m)
    rwa [Int.cast_neg, ofAdd_neg] at h
  inverse_keyed a k ha hk := by
    obtain ⟨m, -, rfl⟩ := (mem_residues hn).1 ha
    rw [← Except.ok.inj hk]

/-- The residues as a valid group, of as many elements as a list can have. -/
def validResidues (hn : 0 < n) (_hbound : n ≤ 2 ^ 63) : ValidGroup :=
  .ofRealizes (realizes_residues hn)

section

variable {hn : 0 < n} {hbound : n ≤ 2 ^ 63}

/-- A number below `n` is an element. -/
def residue (hn : 0 < n) (hbound : n ≤ 2 ^ 63) (k : Nat) (hk : k < n) :
    (validResidues hn hbound).Element :=
  ⟨.int k, (mem_residues hn).2 ⟨k, hk, rfl⟩⟩

theorem mul_residue {j k l : Nat} {hj : j < n} {hk : k < n} (hl : l < n)
    (h : ((j : Int) + k).fmod n = l) :
    residue hn hbound j hj * residue hn hbound k hk = residue hn hbound l hl := by
  have hmul : (validResidues hn hbound).mul (.int j) (.int k) = .ok (.int l) :=
    (mul_residues hn j k).trans (by rw [h])
  exact ValidGroup.faithful.unique (ValidGroup.realizes.mul_of_eq (ValidGroup.stands_self _)
    (ValidGroup.stands_self _) hmul) (ValidGroup.stands_self (residue hn hbound l hl))

theorem one_residue : (1 : (validResidues hn hbound).Element) = residue hn hbound 0 hn :=
  ValidGroup.faithful.unique ValidGroup.unit_stands
    (ValidGroup.stands_self (residue hn hbound 0 hn))

theorem order_validResidues : (validResidues hn hbound).order = n := by
  show (residues n).els.length = n
  rw [els_residues hn, List.length_map, List.length_range]

theorem mul_comm_residues (x y : (validResidues hn hbound).Element) : x * y = y * x := by
  obtain ⟨a, ha⟩ := x
  obtain ⟨b, hb⟩ := y
  obtain ⟨j, hj, rfl⟩ := (mem_residues hn).1 ha
  obtain ⟨k, hk, rfl⟩ := (mem_residues hn).1 hb
  have hstands : ∀ j k : Nat, ∀ hj hk,
      (validResidues hn hbound).Stands (.int (((j : Int) + k).fmod n))
        (residue hn hbound j hj * residue hn hbound k hk) :=
    fun j k hj hk => ValidGroup.realizes.mul_of_eq (ValidGroup.stands_self _)
      (ValidGroup.stands_self _) (mul_residues hn j k)
  have hswap := hstands k j hk hj
  rw [add_comm] at hswap
  exact ValidGroup.faithful.unique (hstands j k hj hk) hswap

theorem normalizer_residues (S : Set (validResidues hn hbound).Element) :
    Subgroup.normalizer S = ⊤ := by
  refine top_le_iff.1 fun x _ => Subgroup.mem_set_normalizer_iff.2 fun y => ?_
  rw [mul_comm_residues x y, mul_inv_cancel_right]

theorem normal_residues (N : Subgroup (validResidues hn hbound).Element) : N.Normal :=
  ⟨fun x hx y => by rwa [mul_comm_residues y x, mul_inv_cancel_right]⟩

end

end FiniteGroups
