import FiniteGroups.Proofs.Generation
import FiniteGroups.Proofs.Orders
import FiniteGroups.Proofs.PermGroups
import Mathlib.GroupTheory.Perm.ClosureSwap
import Mathlib.GroupTheory.SpecificGroups.Alternating

/-!
# The families of permutations

The symmetric family lists all permutations of `1, …, n`, as exchanges of neighbours generate them
all (`eq_top_of_exchange_mem`). The alternating family lists those of sign `1`: an even permutation
is a product of an even number of exchanges, and a product of two exchanges is one of cycles of
three neighbours (`mem_of_sign_eq_one`).
-/

namespace FiniteGroups

open FiniteGroup

variable {n : Nat}

/-! ## Exchanges of neighbours -/

/-- Exchanges a point and the next one, if there are such points. -/
def exchange (n i : Nat) : Equiv.Perm (Point n) :=
  if h : 1 ≤ i ∧ i + 1 ≤ n then
    Equiv.swap ⟨i, Finset.mem_Icc.2 (by omega)⟩ ⟨i + 1, Finset.mem_Icc.2 (by omega)⟩
  else 1

theorem exchange_mul_self (n i : Nat) : exchange n i * exchange n i = 1 := by
  rw [exchange]
  split
  · exact Equiv.swap_mul_self _ _
  · exact one_mul 1

theorem exchange_inv (n i : Nat) : (exchange n i)⁻¹ = exchange n i :=
  inv_eq_of_mul_eq_one_left (exchange_mul_self n i)

theorem sign_exchange {i : Nat} (hi : 1 ≤ i) (hin : i + 1 ≤ n) :
    Equiv.Perm.sign (exchange n i) = -1 := by
  rw [exchange, dif_pos ⟨hi, hin⟩]
  exact Equiv.Perm.sign_swap fun h => by simpa using congrArg Subtype.val h

variable {H : Subgroup (Equiv.Perm (Point n))}

/-- Exchanges of neighbours generate all permutations. -/
theorem eq_top_of_exchange_mem (hH : ∀ i, 1 ≤ i → i + 1 ≤ n → exchange n i ∈ H) : H = ⊤ := by
  have hmem (d : Nat) : ∀ a b : Point n, a.1 + d = b.1 → Equiv.swap a b ∈ H := by
    induction d with
    | zero =>
      intro a b hab
      obtain rfl : a = b := Subtype.ext hab
      rw [Equiv.swap_self]
      exact H.one_mem
    | succ d ih =>
      intro a b hab
      have ha := Finset.mem_Icc.1 a.2
      have hb := Finset.mem_Icc.1 b.2
      have hlast := hH (a.1 + d) (by omega) (by omega)
      rw [exchange, dif_pos ⟨by omega, by omega⟩] at hlast
      have hnext : (⟨a.1 + d + 1, Finset.mem_Icc.2 (by omega)⟩ : Point n) = b := Subtype.ext hab
      rw [hnext] at hlast
      exact SubmonoidClass.swap_mem_trans H (ih a _ rfl) hlast
  rw [eq_top_iff, ← Equiv.Perm.closure_isSwap, Subgroup.closure_le]
  rintro _ ⟨a, b, -, rfl⟩
  rcases Nat.le_total a.1 b.1 with hab | hab
  · exact hmem _ a b (Nat.add_sub_of_le hab)
  · rw [Equiv.swap_comm]
    exact hmem _ b a (Nat.add_sub_of_le hab)

/-- Any two exchanges are a product of exchanges that follow each other. -/
theorem exchange_mul_mem
    (hH : ∀ i, 1 ≤ i → i + 2 ≤ n → exchange n i * exchange n (i + 1) ∈ H) {i j : Nat}
    (hi : 1 ≤ i) (hin : i + 1 ≤ n) (hj : 1 ≤ j) (hjn : j + 1 ≤ n) :
    exchange n i * exchange n j ∈ H := by
  have hle {i j : Nat} (hi : 1 ≤ i) (hij : i ≤ j) :
      j + 1 ≤ n → exchange n i * exchange n j ∈ H := by
    induction j, hij using Nat.le_induction with
    | base =>
      intro _
      rw [exchange_mul_self]
      exact H.one_mem
    | succ j hij ih =>
      intro hjn
      have hstep := H.mul_mem (ih (by omega)) (hH j (by omega) hjn)
      rwa [mul_assoc, ← mul_assoc (exchange n j), exchange_mul_self, one_mul] at hstep
  rcases Nat.le_total i j with hij | hij
  · exact hle hi hij hjn
  · have hinv := H.inv_mem (hle hj hij hin)
    rwa [mul_inv_rev, exchange_inv, exchange_inv] at hinv

/-- Cycles of three neighbours generate all even permutations. -/
theorem mem_of_sign_eq_one
    (hH : ∀ i, 1 ≤ i → i + 2 ≤ n → exchange n i * exchange n (i + 1) ∈ H)
    {σ : Equiv.Perm (Point n)} (hσ : Equiv.Perm.sign σ = 1) : σ ∈ H := by
  have hgenerate : Subgroup.closure {τ | ∃ i, 1 ≤ i ∧ i + 1 ≤ n ∧ exchange n i = τ} = ⊤ :=
    eq_top_of_exchange_mem fun i hi hin => Subgroup.subset_closure ⟨i, hi, hin, rfl⟩
  -- one more exchange makes an odd permutation a member
  suffices h : ∀ σ ∈ Subgroup.closure {τ | ∃ i, 1 ≤ i ∧ i + 1 ≤ n ∧ exchange n i = τ},
      (Equiv.Perm.sign σ = 1 → σ ∈ H) ∧
        (Equiv.Perm.sign σ = -1 → ∀ i, 1 ≤ i → i + 1 ≤ n → exchange n i * σ ∈ H) from
    (h σ (hgenerate ▸ Subgroup.mem_top σ)).1 hσ
  have hstep {i : Nat} (hi : 1 ≤ i) (hin : i + 1 ≤ n) {σ : Equiv.Perm (Point n)}
      (h : (Equiv.Perm.sign σ = 1 → σ ∈ H) ∧
        (Equiv.Perm.sign σ = -1 → ∀ i, 1 ≤ i → i + 1 ≤ n → exchange n i * σ ∈ H)) :
      (Equiv.Perm.sign (exchange n i * σ) = 1 → exchange n i * σ ∈ H) ∧
        (Equiv.Perm.sign (exchange n i * σ) = -1 →
          ∀ j, 1 ≤ j → j + 1 ≤ n → exchange n j * (exchange n i * σ) ∈ H) := by
    rw [Equiv.Perm.sign_mul, sign_exchange hi hin, neg_one_mul]
    refine ⟨fun hodd => h.2 (neg_eq_iff_eq_neg.1 hodd) i hi hin, fun heven j hj hjn => ?_⟩
    rw [← mul_assoc]
    exact H.mul_mem (exchange_mul_mem hH hj hjn hi hin) (h.1 (neg_inj.1 heven))
  intro σ hmem
  induction hmem using Subgroup.closure_induction_left with
  | one => exact ⟨fun _ => H.one_mem, fun h => absurd h (by simp)⟩
  | mul_left τ hτ σ _ ih =>
    obtain ⟨i, hi, hin, rfl⟩ := hτ
    exact hstep hi hin ih
  | inv_mul_cancel τ hτ σ _ ih =>
    obtain ⟨i, hi, hin, rfl⟩ := hτ
    rw [exchange_inv]
    exact hstep hi hin ih

/-! ## Permutations as values -/

/-- The permutation that moves the points as a bijection does. -/
noncomputable def Perm.ofEquiv (hn : 0 < n) (σ : Equiv.Perm (Point n)) : Perm :=
  (Perm.exists_of_equiv hn σ).choose

theorem Perm.moves_ofEquiv (hn : 0 < n) (σ : Equiv.Perm (Point n)) :
    (Perm.ofEquiv hn σ).Moves σ :=
  (Perm.exists_of_equiv hn σ).choose_spec

theorem Perm.Moves.eq_ofEquiv {p : Perm} {σ : Equiv.Perm (Point n)} (hp : p.Moves σ)
    (hn : 0 < n) : p = Perm.ofEquiv hn σ :=
  hp.ext (Perm.moves_ofEquiv hn σ)

section

variable {M : Type} [Group M] (hn : 0 < n) (ρ : M →* Equiv.Perm (Point n))

/-- The permutation that moves the points as the element does, as a value. -/
noncomputable def writePerm (x : M) : Value := .perm (Perm.ofEquiv hn (ρ x))

variable {hn ρ}

theorem writing_perm (hρ : Function.Injective ρ) {F : Family}
    (hkind : F.kind = .symmetric ∨ F.kind = .alternating) :
    Writing (writePerm hn ρ) (.op .compose [.int n]) (.method 0 F.value "inverse") where
  isSimple _ := rfl
  keyed_eq _ := rfl
  injective x y h := by
    have heq := beq_perm.1 h
    exact hρ ((Perm.moves_ofEquiv hn _).unique (heq ▸ Perm.moves_ofEquiv hn _))
  ne_none _ := nofun
  mul_eq x y := by
    obtain ⟨r, hr, hmoves⟩ := (Perm.moves_ofEquiv hn (ρ x)).mul (Perm.moves_ofEquiv hn (ρ y))
    rw [← map_mul] at hmoves
    have hcall : (Value.op .compose [.int n]).meaning.call [writePerm hn ρ x, writePerm hn ρ y]
        = Value.perm <$> (Perm.ofEquiv hn (ρ x)).mul (Perm.ofEquiv hn (ρ y)) := by
      rw [Value.meaning, Value.meaningWith.eq_def]
      rfl
    rw [hcall, hr, hmoves.eq_ofEquiv hn]
    rfl
  inverse_eq x := by
    have hmoves := (Perm.moves_ofEquiv hn (ρ x)).inverse
    rw [← map_inv] at hmoves
    have hinverse : F.inverse (writePerm hn ρ x)
        = .ok (.perm (Perm.ofEquiv hn (ρ x)).inverse) := by
      obtain ⟨place, kind, data⟩ := F
      rw [Family.inverse, Family.value, Value.meaning, Value.meaningWith.eq_def]
      obtain rfl | rfl := hkind <;> rfl
    rw [F.call_inverse, hinverse, hmoves.eq_ofEquiv hn]
    rfl

end

/-! ## Generators -/

theorem transposition_exchange (hn : 0 < n) {i : Nat} (hi : 1 ≤ i) (hin : i + 1 ≤ n) :
    Value.transposition (.int i) (.int (i + 1)) (.int n)
      = .ok (Perm.ofEquiv hn (exchange n i)) := by
  have hne : (⟨i, Finset.mem_Icc.2 (by omega)⟩ : Point n)
      ≠ ⟨i + 1, Finset.mem_Icc.2 (by omega)⟩ := fun h => by simpa using congrArg Subtype.val h
  obtain ⟨p, hp, hmoves⟩ := Value.transposition_spec hne
  rw [exchange, dif_pos ⟨hi, hin⟩, ← hmoves.eq_ofEquiv hn]
  exact hp

theorem cycle_exchange (hn : 0 < n) {i : Nat} (hi : 1 ≤ i) (hin : i + 2 ≤ n) :
    Value.cycle [.int i, .int (i + 1), .int (i + 2)] (.int n)
      = .ok (Perm.ofEquiv hn (exchange n i * exchange n (i + 1))) := by
  let pts : List (Point n) := [⟨i, Finset.mem_Icc.2 (by omega)⟩,
    ⟨i + 1, Finset.mem_Icc.2 (by omega)⟩, ⟨i + 2, Finset.mem_Icc.2 (by omega)⟩]
  have hspells : List.Forall₂ Value.Spells [.tuple (pts.map fun j => Value.ofNat j.1)] [pts] :=
    .cons (Value.spells_tuple pts) .nil
  have hlisted : (Value.tuple [.tuple (pts.map fun j => Value.ofNat j.1)]).entries
      = .ok [.tuple (pts.map fun j => Value.ofNat j.1)] := rfl
  obtain ⟨p, hp, hmoves⟩ := Value.permOfCycles_spec hn hlisted hspells (by simp [pts])
  have hprod : ([pts].map List.formPerm).prod = exchange n i * exchange n (i + 1) := by
    rw [List.map_singleton, List.prod_singleton, List.formPerm_cons_cons, List.formPerm_pair,
      exchange, exchange, dif_pos ⟨hi, by omega⟩, dif_pos ⟨by omega, hin⟩]
  rw [← hprod, ← hmoves.eq_ofEquiv hn]
  exact hp

/-- The places of generators are those of points that have enough points after them. -/
theorem mem_below {m : Nat} {i : Int} :
    i ∈ Family.below m ↔ ∃ k : Nat, i = k ∧ 1 ≤ k ∧ k + 1 ≤ m := by
  rw [Family.below, List.mem_map]
  constructor
  · rintro ⟨k, hk, rfl⟩
    rw [List.mem_range'_1] at hk
    exact ⟨k, rfl, by omega, by omega⟩
  · rintro ⟨k, rfl, hk, hkm⟩
    exact ⟨k, List.mem_range'_1.2 (by omega), rfl⟩

namespace Family

theorem identity_perm (hn : 0 < n) {M : Type} [Group M] {ρ : M →* Equiv.Perm (Point n)} {F : Family}
    (hF : F.value = .family 0 .symmetric [.int n] ∨ F.value = .family 0 .alternating [.int n]) :
    F.identity = .ok (writePerm hn ρ 1) := by
  obtain ⟨e, he, hmoves⟩ := Perm.exists_identity hn
  rw [← map_one ρ] at hmoves
  have hidentity : F.identity = Value.perm <$> Perm.identity n := by
    rw [identity]
    obtain hF | hF := hF <;> rw [hF] <;> rfl
  rw [hidentity, he, hmoves.eq_ofEquiv hn]
  rfl

/-- The symmetric family describes the group of all permutations. -/
theorem describes_symmetric (hn : 0 < n) :
    (Family.mk 0 .symmetric [.int n]).Describes (writePerm hn (MonoidHom.id _)) where
  writing := writing_perm Function.injective_id (.inl rfl)
  identity_eq := identity_perm hn (.inl rfl)
  gens_eq := by
    obtain ⟨xs, hxs, hall⟩ := exists_mapM_write (writePerm hn (MonoidHom.id _))
      (f := fun i => do return .perm (← Value.transposition (.int i) (.int (i + 1)) (.int n)))
      (P := fun i σ => ∃ k : Nat, i = k ∧ exchange n k = σ) (below n) fun i hi => by
        obtain ⟨k, rfl, hk, hkn⟩ := mem_below.1 hi
        refine ⟨exchange n k, ?_, k, rfl, rfl⟩
        rw [transposition_exchange hn hk hkn]
        rfl
    refine ⟨xs, hxs, eq_top_of_exchange_mem fun k hk hkn => ?_⟩
    obtain ⟨σ, hσ, l, hl, rfl⟩ := hall k (mem_below.2 ⟨k, rfl, hk, hkn⟩)
    obtain rfl := Int.ofNat_inj.1 hl
    exact Subgroup.subset_closure hσ
  size_eq := .inr (by rw [Perm.card_points]; rfl)

theorem card_alternatingGroup (hn : 0 < n) :
    Nat.card (alternatingGroup (Point n)) = Nat.max 1 (factorial n / 2) := by
  rcases Nat.eq_or_lt_of_le (Nat.succ_le_of_lt hn) with rfl | hn
  · -- there is nothing to exchange
    have : Subsingleton (Point 1) := ⟨fun i j => Subtype.ext (by
      have hi := Finset.mem_Icc.1 i.2
      have hj := Finset.mem_Icc.1 j.2
      omega)⟩
    exact Nat.card_of_subsingleton 1
  · have : Nontrivial (Point n) := ⟨⟨1, Finset.mem_Icc.2 (by omega)⟩,
      ⟨2, Finset.mem_Icc.2 (by omega)⟩, fun h => by simpa using congrArg Subtype.val h⟩
    have hcard : Nat.card (Point n) = n := by
      rw [Nat.card_eq_fintype_card, Fintype.card_coe, Nat.card_Icc, Nat.add_sub_cancel]
    have hfactorial := Nat.self_le_factorial n
    rw [nat_card_alternatingGroup, hcard, Perm.factorial_eq]
    exact (Nat.max_eq_right (by omega)).symm

/-- The alternating family describes the group of the even permutations. -/
theorem describes_alternating (hn : 0 < n) :
    (Family.mk 0 .alternating [.int n]).Describes
      (writePerm hn (alternatingGroup (Point n)).subtype) where
  writing := writing_perm Subtype.val_injective (.inr rfl)
  identity_eq := identity_perm hn (.inr rfl)
  gens_eq := by
    obtain ⟨xs, hxs, hall⟩ := exists_mapM_write
      (writePerm hn (alternatingGroup (Point n)).subtype)
      (f := fun i => do return .perm (← Value.cycle [.int i, .int (i + 1), .int (i + 2)] (.int n)))
      (P := fun i σ => ∃ k : Nat, i = k ∧ exchange n k * exchange n (k + 1) = σ.1)
      (below (n - 1)) fun i hi => by
        rw [show ((n : Int) - 1) = ((n - 1 : Nat) : Int) by omega] at hi
        obtain ⟨k, rfl, hk, hkn⟩ := mem_below.1 hi
        have heven : exchange n k * exchange n (k + 1) ∈ alternatingGroup (Point n) := by
          rw [Equiv.Perm.mem_alternatingGroup, Equiv.Perm.sign_mul, sign_exchange hk (by omega),
            sign_exchange (by omega) (by omega), neg_one_mul, neg_neg]
        refine ⟨⟨_, heven⟩, ?_, k, rfl, rfl⟩
        rw [cycle_exchange hn hk (by omega)]
        rfl
    refine ⟨xs, hxs, (Subgroup.eq_top_iff' _).2 fun σ => ?_⟩
    have hcycle : ∀ k, 1 ≤ k → k + 2 ≤ n → exchange n k * exchange n (k + 1)
        ∈ (Subgroup.closure {σ | σ ∈ xs}).map (alternatingGroup (Point n)).subtype := by
      intro k hk hkn
      have hbelow : (k : Int) ∈ below (n - 1) := by
        rw [show ((n : Int) - 1) = ((n - 1 : Nat) : Int) by omega]
        exact mem_below.2 ⟨k, rfl, hk, by omega⟩
      obtain ⟨σ, hσ, l, hl, hmul⟩ := hall k hbelow
      obtain rfl := Int.ofNat_inj.1 hl
      exact ⟨σ, Subgroup.subset_closure hσ, hmul.symm⟩
    obtain ⟨τ, hτ, heq⟩ := mem_of_sign_eq_one hcycle (Equiv.Perm.mem_alternatingGroup.1 σ.2)
    exact Subtype.ext heq ▸ hτ
  size_eq := .inr (by rw [card_alternatingGroup hn]; rfl)

/-- No permutations of too many points are asked for. -/
theorem checkDegree_eq (hn : 0 < n) {most : Int} (hmost : n ≤ most) :
    checkDegree most (.int n) = .ok () := by
  obtain ⟨e, he, -⟩ := Perm.exists_identity hn
  have hleast : checkLeast "symmetric" 1 (.int n) = .ok () := checkLeast_eq (by omega) _
  have hidentity : Value.identityPerm (.int n) = .ok e := by
    rw [Value.identityPerm, before_int, ok_bind, decide_eq_false (by omega)]
    exact he
  rw [checkDegree, hleast, ok_bind, before_int, ok_bind, decide_eq_false (by omega), hidentity]
  rfl

theorem exists_writePerm_symmetric (hn : 0 < n) (a : Value) :
    (∃ p, a = .perm p ∧ p.degree = n) ↔ ∃ σ, a = writePerm hn (MonoidHom.id _) σ := by
  constructor
  · rintro ⟨p, rfl, hp⟩
    obtain ⟨σ, hmoves⟩ := Perm.exists_moves hp
    exact ⟨σ, congrArg Value.perm (hmoves.eq_ofEquiv hn)⟩
  · rintro ⟨σ, rfl⟩
    exact ⟨_, rfl, (Perm.moves_ofEquiv hn σ).1⟩

theorem exists_writePerm_alternating (hn : 0 < n) (a : Value) :
    (∃ p, a = .perm p ∧ p.degree = n ∧ p.sign = 1) ↔
      ∃ σ, a = writePerm hn (alternatingGroup (Point n)).subtype σ := by
  constructor
  · rintro ⟨p, rfl, hp, hsign⟩
    obtain ⟨σ, hmoves⟩ := Perm.exists_moves hp
    rw [hmoves.sign_eq, Units.val_eq_one] at hsign
    exact ⟨⟨σ, Equiv.Perm.mem_alternatingGroup.2 hsign⟩,
      congrArg Value.perm (hmoves.eq_ofEquiv hn)⟩
  · rintro ⟨σ, rfl⟩
    have hmoves := Perm.moves_ofEquiv hn σ.1
    have hsign : (Perm.ofEquiv hn σ.1).sign = 1 := by
      rw [hmoves.sign_eq, Equiv.Perm.mem_alternatingGroup.1 σ.2, Units.val_one]
    exact ⟨_, rfl, hmoves.1, hsign⟩

/-- The symmetric family builds the group of all permutations of `1, …, n`, and the alternating
family that of the permutations of sign `1`. -/
theorem build_permutations (hn : 1 ≤ n) {most : Int} (hmost : n ≤ most) :
    ∃ S A, makeUpTo most .symmetric [.int n] = .ok S ∧
      makeUpTo most .alternating [.int n] = .ok A ∧
      S.Builds n (fun a => ∃ p, a = .perm p ∧ p.degree = n) (fun G => G.order = n.factorial) ∧
      A.Builds n (fun a => ∃ p, a = .perm p ∧ p.degree = n ∧ p.sign = 1)
        fun G => G.order = max 1 (n.factorial / 2) := by
  have hmake (kind : Kind) (hkind : kind = .symmetric ∨ kind = .alternating) :
      makeUpTo most kind [.int n] = .ok ⟨0, kind, [.int n]⟩ := by
    obtain rfl | rfl := hkind <;> rw [makeUpTo, checkDegree_eq hn hmost] <;> rfl
  refine ⟨_, _, hmake .symmetric (.inl rfl), hmake .alternating (.inr rfl), ?_, ?_⟩
  · refine (describes_symmetric hn).builds (fun e => name_error (by simp))
      (exists_writePerm_symmetric hn) fun G hG => ?_
    rw [hG.order_eq, Perm.card_points, Perm.factorial_eq]
  · refine (describes_alternating hn).builds (fun e => name_error (by simp))
      (exists_writePerm_alternating hn) fun G hG => ?_
    rw [hG.order_eq, card_alternatingGroup hn, Perm.factorial_eq]

/-- Of three points there are six permutations, three of them even. -/
theorem build_permutations_three :
    ∃ S A, makeUpTo maxDegree .symmetric [.int 3] = .ok S ∧
      makeUpTo maxDegree .alternating [.int 3] = .ok A ∧
      (∃ G, (S.build (.text "S")).outcome = .ok G ∧ G.order = 6) ∧
      ∃ G, (A.build (.text "A")).outcome = .ok G ∧ G.order = 3 := by
  obtain ⟨S, A, hS, hA, hsymmetric, halternating⟩ :=
    build_permutations (n := 3) (by decide) (by decide : _ ≤ maxDegree)
  obtain ⟨G, hG, -, horder⟩ | ⟨hnone, -⟩ := hsymmetric (.text "S") (.inr ⟨"S", rfl⟩)
  · obtain ⟨K, hK, -, horder'⟩ | ⟨hnone, -⟩ := halternating (.text "A") (.inr ⟨"A", rfl⟩)
    · exact ⟨S, A, hS, hA, ⟨G, hG, horder⟩, K, hK, horder'⟩
    · cases hnone
  · cases hnone

end Family

end FiniteGroups
