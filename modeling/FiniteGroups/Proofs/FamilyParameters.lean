import FiniteGroups.Proofs.Commuting
import FiniteGroups.Proofs.Orders
import FiniteGroups.Proofs.ResidueFamilies
import FiniteGroups.Proofs.Subsets

/-!
# The parameters of the families of residues

The families of residues accept the parameters that have a group and refuse the others
(`Family.Refuses`); whether a number is prime is told by its divisors (`Family.isPrime_iff`). What
is built of the parameters that are accepted has the elements, the inverses and the exponent that
the family promises.
-/

namespace FiniteGroups

open FiniteGroup

variable {n : Nat}

/-! ## Parameters that are refused -/

namespace Family

/-- Exactly the primes have no divisors but `1` and themselves. -/
theorem isPrime_iff {p : Int} : isPrime p = true ↔ ∃ q : Nat, p = q ∧ q.Prime := by
  rw [isPrime, Bool.and_eq_true, decide_eq_true_eq, beq_iff_eq]
  constructor
  · rintro ⟨hp, hdivisors⟩
    obtain ⟨q, rfl⟩ := Int.eq_ofNat_of_zero_le (by omega : 0 ≤ p)
    refine ⟨q, rfl, Nat.prime_def.2 ⟨by omega, fun m hm => ?_⟩⟩
    have hmem := (mem_divisors (by omega)).2 hm
    rw [hdivisors] at hmem
    simpa using hmem
  · rintro ⟨q, rfl, hq⟩
    have hnone : (List.range' 2 (q - 2)).filter (q % · == 0) = [] := by
      refine List.filter_eq_nil_iff.2 fun m hm hmod => ?_
      rw [List.mem_range'_1] at hm
      have hdvd := Nat.dvd_of_mod_eq_zero (beq_iff_eq.1 hmod)
      have := (Nat.dvd_prime hq).1 hdvd
      omega
    have htwo := hq.two_le
    refine ⟨by omega, ?_⟩
    rw [divisors, if_pos (by omega), Int.toNat_natCast, hnone]
    rfl

/-- A parameter is refused: as a violated precondition, or because the number cannot be written in
the message. -/
def Refuses {α : Type} (x : Except Fault α) (m : Int) : Prop :=
  (Writable m ∧ ∃ fault, x = .error fault ∧ fault.category = .precondition) ∨
    (¬ Writable m ∧ x = .error .badValue)

theorem refuses_throw {α : Type} {m : Int} {fault : String → Fault}
    (h : ∀ s, (fault s).category = .precondition) :
    Refuses (do throw (fault (← (Value.int m).plain)) : Except Fault α) m := by
  rw [plain_int]
  by_cases hm : Writable m
  · refine .inl ⟨hm, fault (toString m), ?_, h _⟩
    rw [ofInt_of_writable hm]
    rfl
  · refine .inr ⟨hm, ?_⟩
    rw [ofInt_of_not_writable hm]
    rfl

theorem Refuses.bind {α β : Type} {x : Except Fault α} {m : Int} (h : Refuses x m)
    (f : α → Except Fault β) : Refuses (x >>= f) m := by
  rcases h with ⟨hm, fault, rfl, hfault⟩ | ⟨hm, rfl⟩
  · exact .inl ⟨hm, fault, rfl, hfault⟩
  · exact .inr ⟨hm, rfl⟩

theorem refuses_checkLeast {least : Nat} {m : Int} (h : m < least) (family : String) :
    Refuses (checkLeast family least (.int m)) m := by
  rw [checkLeast, before_int, ok_bind, decide_eq_true h]
  exact refuses_throw fun _ => rfl

theorem refuses_checkPrime {p : Int} (h : ¬ ∃ q : Nat, p = q ∧ q.Prime) :
    Refuses (checkPrime (.int p)) p := by
  have hindex : (Value.int p).index = .ok p := rfl
  rw [checkPrime, before_int, ok_bind, hindex, ok_bind, Bool.eq_false_iff.2 (mt isPrime_iff.1 h)]
  split <;> exact refuses_throw fun _ => rfl

theorem checkPrime_eq {p : Nat} (hp : p.Prime) : checkPrime (.int p) = .ok () := by
  have hindex : (Value.int p).index = .ok (p : Int) := rfl
  have htwo := hp.two_le
  rw [checkPrime, before_int, ok_bind, hindex, ok_bind, isPrime_iff.2 ⟨p, rfl, hp⟩,
    decide_eq_false (by omega)]
  rfl

theorem make_cyclic (m : Int) : (1 ≤ m → make .cyclic [.int m] = .ok ⟨0, .cyclic, [.int m]⟩) ∧
    (m < 1 → Refuses (make .cyclic [.int m]) m) := by
  constructor
  · intro hm
    have hleast : checkLeast "cyclic" 1 (.int m) = .ok () := checkLeast_eq hm _
    rw [make, makeUpTo, hleast]
    rfl
  · intro hm
    have hleast : Refuses (checkLeast "cyclic" 1 (.int m)) m := refuses_checkLeast hm _
    exact hleast.bind _

theorem make_dihedral (m : Int) :
    (2 ≤ m → make .dihedral [.int m] = .ok ⟨0, .dihedral, [.int m]⟩) ∧
      (m < 2 → Refuses (make .dihedral [.int m]) m) := by
  constructor
  · intro hm
    have hleast : checkLeast "dihedral" 2 (.int m) = .ok () := checkLeast_eq hm _
    rw [make, makeUpTo, hleast]
    rfl
  · intro hm
    have hleast : Refuses (checkLeast "dihedral" 2 (.int m)) m := refuses_checkLeast hm _
    exact hleast.bind _

/-- The number of entries is looked at after the prime. -/
theorem make_elementaryAbelian_of_prime {q : Nat} (hq : q.Prime) (k : Int) :
    make .elementaryAbelian [.int q, .int k] =
      if k < 1 then do throw (.rankTooSmall (← (Value.int k).plain))
      else if maxLength < k then .error .overflow
      else .ok ⟨0, .elementaryAbelian, [.int q, .int k]⟩ := by
  have hindex : (Value.int k).index = .ok k := rfl
  rw [make, makeUpTo, checkPrime_eq hq, ok_bind, before_int, ok_bind]
  by_cases hk : k < 1
  · rw [if_pos hk, if_pos (decide_eq_true hk), plain_int]
    cases Text.ofInt k <;> rfl
  · rw [if_neg hk, if_neg (by simpa using hk), hindex]
    by_cases hmost : maxLength < k
    · rw [if_pos hmost, ok_bind, if_pos hmost]
      rfl
    · rw [if_neg hmost, ok_bind, if_neg hmost]
      rfl

theorem make_elementaryAbelian (p k : Int) :
    ((∃ q : Nat, p = q ∧ q.Prime) → 1 ≤ k → k ≤ maxLength →
        make .elementaryAbelian [.int p, .int k] = .ok ⟨0, .elementaryAbelian, [.int p, .int k]⟩) ∧
      ((¬ ∃ q : Nat, p = q ∧ q.Prime) → Refuses (make .elementaryAbelian [.int p, .int k]) p) ∧
      ((∃ q : Nat, p = q ∧ q.Prime) → k < 1 →
        Refuses (make .elementaryAbelian [.int p, .int k]) k) ∧
      ((∃ q : Nat, p = q ∧ q.Prime) → maxLength < k →
        make .elementaryAbelian [.int p, .int k] = .error .overflow) := by
  refine ⟨?_, fun hp => (refuses_checkPrime hp).bind _, ?_, ?_⟩
  · rintro ⟨q, rfl, hq⟩ hk hmost
    rw [make_elementaryAbelian_of_prime hq, if_neg (not_lt.2 hk), if_neg (not_lt.2 hmost)]
  · rintro ⟨q, rfl, hq⟩ hk
    rw [make_elementaryAbelian_of_prime hq, if_pos hk]
    exact refuses_throw fun _ => rfl
  · rintro ⟨q, rfl, hq⟩ hmost
    have hpos : 1 ≤ maxLength := by decide
    rw [make_elementaryAbelian_of_prime hq, if_neg (not_lt.2 (hpos.trans hmost.le)), if_pos hmost]

/-! ## What the families build -/

theorem builds_cyclic (hn : 1 ≤ n) : (Family.mk 0 .cyclic [.int n]).Builds n
    (fun a => ∃ k : Nat, k < n ∧ a = .int k) fun G => G.exponent = .ok (n : Int) := by
  have := NeZero.of_pos (show 0 < n from hn)
  refine describes_cyclic.builds (fun e => name_error (by simp)) exists_writeResidue fun G hG => ?_
  rw [hG.exponent_eq, Monoid.exponent_multiplicative, ZMod.exponent]

theorem builds_dihedral (hn : 2 ≤ n) : (Family.mk 0 .dihedral [.int n]).Builds n
    (fun a => ∃ r f : Nat, r < n ∧ f < 2 ∧ a = .tuple [.int r, .int f]) fun G =>
      G.exponent = .ok (Nat.lcm n 2 : Int) ∧
        ∃ answer, G.isAbelian = .ok answer ∧ (answer = true ↔ n = 2) := by
  have := NeZero.of_pos (show 0 < n by omega)
  refine describes_dihedral.builds (fun e => name_error (by simp)) exists_writeSymmetry
    fun G hG => ⟨?_, ?_⟩
  · rw [hG.exponent_eq, DihedralGroup.exponent]
    rfl
  · obtain ⟨answer, hanswer, hiff⟩ := hG.isAbelian_spec
    refine ⟨answer, hanswer, hiff.trans ?_⟩
    have hcommutative := DihedralGroup.commutative_iff (n := n)
    rw [or_iff_right (by omega)] at hcommutative
    rw [← hcommutative]
    exact ⟨fun h => ⟨⟨h⟩⟩, fun h x y => h.is_comm.comm x y⟩

theorem builds_elementaryAbelian {p k : Nat} (hp : p.Prime) (hk : 1 ≤ k) (hmost : k ≤ maxLength) :
    (Family.mk 0 .elementaryAbelian [.int p, .int k]).Builds p
      (fun a => ∃ xs : List Nat, xs.length = k ∧ (∀ x ∈ xs, x < p) ∧
        a = .tuple (xs.map Value.ofNat)) fun G => G.exponent = .ok (p : Int) := by
  have := NeZero.of_pos hp.pos
  refine (describes_elementaryAbelian hp.one_lt).builds (fun e he => ?_) exists_writeVector
    fun G hG => ?_
  · have hwritable : Writable k := writable_of_lt (by rw [maxLength] at hmost; omega)
    have hwrite : (Family.mk 0 .elementaryAbelian [.int p, .int k]).name = do
        return s!"E{← Text.ofInt p}^{← Text.ofInt k}" := rfl
    rw [hwrite, ofInt_of_writable hwritable] at he
    by_cases hp : Writable p
    · rw [ofInt_of_writable hp] at he
      cases he
    · rw [ofInt_of_not_writable hp] at he
      exact ⟨(Except.error.inj he).symm, hp⟩
  · rw [hG.exponent_eq, exponent_vector hk]

/-! ## The families of residues -/

theorem group_eq {kind : Kind} {data : List Value} {F : Family} (h : make kind data = .ok F) :
    group kind data = (F.build .none).outcome := by
  rw [group, h]
  rfl

/-- The families of residues accept just the parameters that have a group, and build the numbers
below `n`, the pairs of a rotation and a flip, and the tuples of numbers below `p`, with their
exponents. A parameter that is refused must be written for that, and more entries than a tuple can
have are an overflow. -/
theorem build_residues :
    (∀ n : Nat, 1 ≤ n → ∃ F, make .cyclic [.int n] = .ok F ∧
      group .cyclic [.int n] = (F.build .none).outcome ∧
      F.Builds n (fun a => ∃ k : Nat, k < n ∧ a = .int k) fun G => G.exponent = .ok (n : Int)) ∧
    (∀ n : Int, n < 1 → Refuses (make .cyclic [.int n]) n) ∧
    (∀ n : Nat, 2 ≤ n → ∃ F, make .dihedral [.int n] = .ok F ∧
      group .dihedral [.int n] = (F.build .none).outcome ∧
      F.Builds n (fun a => ∃ r f : Nat, r < n ∧ f < 2 ∧ a = .tuple [.int r, .int f]) fun G =>
        G.exponent = .ok (Nat.lcm n 2 : Int) ∧
          ∃ answer, G.isAbelian = .ok answer ∧ (answer = true ↔ n = 2)) ∧
    (∀ n : Int, n < 2 → Refuses (make .dihedral [.int n]) n) ∧
    (∀ p k : Nat, p.Prime → 1 ≤ k → k ≤ maxLength →
      ∃ F, make .elementaryAbelian [.int p, .int k] = .ok F ∧
        group .elementaryAbelian [.int p, .int k] = (F.build .none).outcome ∧
        F.Builds p (fun a => ∃ xs : List Nat, xs.length = k ∧ (∀ x ∈ xs, x < p) ∧
          a = .tuple (xs.map Value.ofNat)) fun G => G.exponent = .ok (p : Int)) ∧
    (∀ p k : Int, (¬ ∃ q : Nat, p = q ∧ q.Prime) →
      Refuses (make .elementaryAbelian [.int p, .int k]) p) ∧
    ∀ (p : Nat) (k : Int), p.Prime →
      (k < 1 → Refuses (make .elementaryAbelian [.int p, .int k]) k) ∧
      (maxLength < k → make .elementaryAbelian [.int p, .int k] = .error .overflow) := by
  refine ⟨fun n hn => ?_, fun n => (make_cyclic n).2, fun n hn => ?_, fun n => (make_dihedral n).2,
    fun p k hp hk hmost => ?_, fun p k => (make_elementaryAbelian p k).2.1, fun p k hp => ?_⟩
  · have hmake := (make_cyclic n).1 (by omega)
    exact ⟨_, hmake, group_eq hmake, builds_cyclic hn⟩
  · have hmake := (make_dihedral n).1 (by omega)
    exact ⟨_, hmake, group_eq hmake, builds_dihedral hn⟩
  · have hmake := (make_elementaryAbelian p k).1 ⟨p, rfl, hp⟩ (by omega) hmost
    exact ⟨_, hmake, group_eq hmake, builds_elementaryAbelian hp hk hmost⟩
  · exact (make_elementaryAbelian p k).2.2.imp (fun h => h ⟨p, rfl, hp⟩) fun h => h ⟨p, rfl, hp⟩

/-- The residues modulo `4`, the symmetries of a segment with two sides, and the pairs of residues
modulo `3`. -/
theorem build_residues_small :
    (∃ F G, make .cyclic [.int 4] = .ok F ∧ (F.build (.text "C")).outcome = .ok G ∧
      G.exponent = .ok 4) ∧
    (∃ F G, make .dihedral [.int 2] = .ok F ∧ (F.build (.text "D")).outcome = .ok G ∧
      G.isAbelian = .ok true) ∧
    (∃ F G, make .elementaryAbelian [.int 3, .int 2] = .ok F ∧
      (F.build (.text "E")).outcome = .ok G ∧ G.exponent = .ok 3) ∧
    Refuses (make .cyclic [.int 0]) 0 ∧ Refuses (make .dihedral [.int 1]) 1 ∧
    Refuses (make .elementaryAbelian [.int (-2), .int 2]) (-2) ∧
    Refuses (make .elementaryAbelian [.int 3, .int 0]) 0 := by
  obtain ⟨hcyclic, hcyclic', hdihedral, hdihedral', hvector, hprime, hrank⟩ := build_residues
  obtain ⟨F, hF, -, hbuilds⟩ := hcyclic 4 (by decide)
  obtain ⟨F', hF', -, hbuilds'⟩ := hdihedral 2 (by decide)
  obtain ⟨F'', hF'', -, hbuilds''⟩ := hvector 3 2 (by decide) (by decide) (by decide)
  have hnamed {F : Family} {m : Int} {IsElement : Value → Prop} {P : FiniteGroup → Prop}
      (h : F.Builds m IsElement P) (s : String) :
      ∃ G, (F.build (.text s)).outcome = .ok G ∧ P G := by
    obtain ⟨G, hG, -, hP⟩ | ⟨hnone, -⟩ := h (.text s) (.inr ⟨s, rfl⟩)
    · exact ⟨G, hG, hP⟩
    · cases hnone
  obtain ⟨G, hG, hexponent⟩ := hnamed hbuilds "C"
  obtain ⟨G', hG', -, answer, hanswer, hiff⟩ := hnamed hbuilds' "D"
  obtain ⟨G'', hG'', hexponent'⟩ := hnamed hbuilds'' "E"
  obtain rfl : answer = true := hiff.2 rfl
  refine ⟨⟨F, G, hF, hG, hexponent⟩, ⟨F', G', hF', hG', hanswer⟩,
    ⟨F'', G'', hF'', hG'', hexponent'⟩, hcyclic' 0 (by decide), hdihedral' 1 (by decide),
    hprime (-2) 2 ?_, (hrank 3 0 (by decide)).1 (by decide)⟩
  rintro ⟨q, hq, -⟩
  omega

theorem group_cyclic_of_not_writable {m : Int} (hm : 1 ≤ m) (h : ¬ Writable m) :
    group .cyclic [.int m] = .error .badValue := by
  have hname : (Family.mk 0 .cyclic [.int m]).name = .error .badValue := by
    have hwrite : (Family.mk 0 .cyclic [.int m]).name = do return s!"C{← Text.ofInt m}" := rfl
    rw [hwrite, ofInt_of_not_writable h]
    rfl
  rw [group_eq ((make_cyclic m).1 hm)]
  simp [build, hname]

/-- A number of too many digits has no name for its group and no message for its refusal, and of too
many entries there is no tuple. -/
theorem not_build_residues :
    let n : Nat := Nat.pow 10 Text.maxDigits
    (1 ≤ n ∧ group .cyclic [.int n] = .error .badValue) ∧
    ((-n : Int) < 1 ∧
      ∃ e, make .cyclic [.int (-n)] = .error e ∧ e.category ≠ .precondition) ∧
    (Nat.Prime 2 ∧ 1 ≤ maxLength + 1 ∧
      group .elementaryAbelian [.int 2, .int (maxLength + 1)] = .error .overflow) := by
  have hlarge {m : Int} (hm : m.natAbs = Nat.pow 10 Text.maxDigits) : ¬ Writable m :=
    not_lt.2 hm.ge
  have hpow : ∀ d, 1 ≤ Nat.pow 10 d := fun d => Nat.pow_pos (by decide)
  have hpos := hpow Text.maxDigits
  generalize Nat.pow 10 Text.maxDigits = n at hlarge hpos ⊢
  refine ⟨⟨hpos, ?_⟩, ⟨by omega, .badValue, ?_, by decide⟩, Nat.prime_two, by decide, ?_⟩
  · exact group_cyclic_of_not_writable (by omega) (hlarge (Int.natAbs_natCast n))
  · rcases (make_cyclic (-n)).2 (by omega) with ⟨hwritable, -⟩ | ⟨-, herror⟩
    · exact absurd hwritable (hlarge (by rw [Int.natAbs_neg, Int.natAbs_natCast]))
    · exact herror
  · have hmake := (make_elementaryAbelian 2 (maxLength + 1)).2.2.2 ⟨2, rfl, Nat.prime_two⟩
      (by omega)
    rw [group, hmake]
    rfl

end Family

end FiniteGroups
