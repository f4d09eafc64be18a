import FiniteGroups.Group.Powers
import FiniteGroups.Proofs.InnerAutomorphisms

/-!
# Powers

A power is computed by repeated squaring. What is left to compute is always `h * g ^ k` for the
product `h` of the factors that were taken already and a square `g` (`Computes.mulPow_spec`). A
negative exponent asks for an inverse first (`FiniteGroup.Realizes.pow_spec`).

So powers obey the laws of exponents (`ValidGroup.IsPower`), as far as powers can be inverted: a
power need not be written as the element that it is equal to, and only the elements as they are
listed are known to be inverted (`exists_pow_error`). Powers of permutations are what multiplying
one factor at a time gives (`ValidGroup.exists_powers`).
-/

set_option linter.unusedSectionVars false

namespace FiniteGroups

open FiniteGroup

/-! ## Repeated squaring -/

section

variable {mul : Value → Value → Except Fault Value} {inverse : Value → Except Fault Value}
  {e g h : Value}

/-- A factor is taken if the exponent is odd. -/
theorem mulPow_of_ne_zero {k : Nat} (hk : k ≠ 0) : mulPow mul h g k =
    (if k % 2 = 1 then mul h g else .ok h) >>= fun h' =>
      mul g g >>= fun s => mulPow mul h' s (k / 2) := by
  rw [mulPow, dif_neg hk]
  dsimp only
  split <;> rfl

theorem powerOf_eq {k : Int} : powerOf mul inverse e g k =
    (if k < 0 then inverse g else .ok g) >>= fun b => mulPow mul e b k.natAbs := by
  rw [powerOf]
  split <;> rfl

end

namespace Computes

variable {M : Type} {R : Value → M → Prop} {mul : Value → Value → Except Fault Value}

/-- The product of a power with what was there before. -/
theorem mulPow_spec [Monoid M] (hmul : Computes R mul) {h g : Value} {x y : M} (hh : R h x)
    (hg : R g y) (k : Nat) : ∃ c, mulPow mul h g k = .ok c ∧ R c (x * y ^ k) := by
  induction k using Nat.strong_induction_on generalizing h g x y with
  | _ k ih =>
    obtain rfl | hne := Nat.eq_zero_or_pos k
    · rw [mulPow, dif_pos rfl, pow_zero, mul_one]
      exact ⟨h, rfl, hh⟩
    · obtain ⟨s, hs, hsquare⟩ := hmul.mul_eq hg hg
      have hfactor : ∃ h', (if k % 2 = 1 then mul h g else .ok h) = .ok h' ∧
          R h' (x * y ^ (k % 2)) := by
        rcases Nat.mod_two_eq_zero_or_one k with heven | hodd
        · rw [heven, if_neg Nat.zero_ne_one, pow_zero, mul_one]
          exact ⟨h, rfl, hh⟩
        · rw [hodd, if_pos rfl, pow_one]
          exact hmul.mul_eq hh hg
      obtain ⟨h', hh', htaken⟩ := hfactor
      obtain ⟨c, hc, hpow⟩ := ih (k / 2) (by omega) htaken hsquare
      refine ⟨c, by rw [mulPow_of_ne_zero hne.ne', hh', ok_bind, hs, ok_bind, hc], ?_⟩
      rwa [mul_assoc, ← pow_two, ← pow_mul, ← pow_add, Nat.mod_add_div] at hpow

/-- An inverse is only asked for if the exponent is negative. -/
theorem powerOf_spec [Group M] (hmul : Computes R mul) {inverse : Value → Except Fault Value}
    {e g : Value} {y : M} (he : R e 1) (hg : R g y) {k : Int}
    (hk : 0 ≤ k ∨ ∃ b, inverse g = .ok b ∧ R b y⁻¹) :
    ∃ c, powerOf mul inverse e g k = .ok c ∧ R c (y ^ k) := by
  have hbase : ∃ b z, (if k < 0 then inverse g else .ok g) = .ok b ∧ R b z ∧
      z ^ k.natAbs = y ^ k := by
    rcases lt_or_ge k 0 with hneg | hpos
    · obtain ⟨b, hb, hby⟩ := hk.resolve_left (Int.not_le.2 hneg)
      refine ⟨b, y⁻¹, by rw [if_pos hneg, hb], hby, ?_⟩
      rw [← zpow_natCast, Int.ofNat_natAbs_of_nonpos hneg.le, inv_zpow, zpow_neg, inv_inv]
    · refine ⟨g, y, if_neg (Int.not_lt.2 hpos), hg, ?_⟩
      rw [← zpow_natCast, Int.natAbs_of_nonneg hpos]
  obtain ⟨b, z, hb, hbz, hz⟩ := hbase
  obtain ⟨c, hc, hpow⟩ := hmul.mulPow_spec he hbz k.natAbs
  refine ⟨c, by rw [powerOf_eq, hb, ok_bind, hc], ?_⟩
  rwa [one_mul, hz] at hpow

end Computes

/-- Powers stand for powers. -/
theorem FiniteGroup.Realizes.pow_spec {M : Type} [Group M] {R : Value → M → Prop}
    {G : FiniteGroup} (hG : G.Realizes R) {a : Value} {x : M} (ha : R a x) {k : Int}
    (hk : 0 ≤ k ∨ G.Invertible R a) : ∃ b, G.pow a k = .ok b ∧ R b (x ^ k) := by
  refine hG.toComputes.powerOf_spec hG.one ha (hk.imp_right ?_)
  rintro ⟨y, b, hy, hb, hby⟩
  exact ⟨b, hb, hG.faithful.unique hy ha ▸ hby⟩

namespace ValidGroup

variable (G : ValidGroup)

/-! ## Laws of exponents -/

/-- `x` is the power of `g` with the exponent `a`, and the laws of exponents hold of it. -/
structure IsPower (g : Value) (a : Int) (x : Value) : Prop where
  pow_eq : G.pow g a = .ok x
  one : a = 1 → x.equal g = .ok true
  add : ∀ b : Int, ∃ y s c, G.pow g b = .ok y ∧ G.pow g (a + b) = .ok s ∧ G.mul x y = .ok c ∧
    s.equal c = .ok true
  /-- A power with a negative exponent asks for the inverse of `x`. -/
  mul : ∀ b : Int, 0 ≤ b ∨ G.Invertible G.Stands x →
    ∃ y s, G.pow x b = .ok y ∧ G.pow g (a * b) = .ok s ∧ y.equal s = .ok true
  neg : G.Invertible G.Stands x →
    ∃ y i, G.pow g (-a) = .ok y ∧ G.inverse x = .ok i ∧ y.equal i = .ok true

variable {G}

theorem exists_isPower {g : Value} (hg : g ∈ G.els) (a : Int) : ∃ x, G.IsPower g a x := by
  have hG := G.realizes
  obtain ⟨z, hz⟩ := hG.standing g hg
  have hpow : ∀ k : Int, ∃ b, G.pow g k = .ok b ∧ G.Stands b (z ^ k) := fun k =>
    hG.pow_spec hz (.inr (hG.invertible_of_mem hg))
  obtain ⟨x, hx, hxz⟩ := hpow a
  refine ⟨x, hx, ?_, fun b => ?_, fun b hb => ?_, fun hinv => ?_⟩
  · rintro rfl
    exact (hG.equal_iff hxz hz).2 (zpow_one z)
  · obtain ⟨y, hy, hyz⟩ := hpow b
    obtain ⟨s, hs, hsz⟩ := hpow (a + b)
    obtain ⟨c, hc, hcz⟩ := hG.mul_eq hxz hyz
    exact ⟨y, s, c, hy, hs, hc, (hG.equal_iff hsz hcz).2 (zpow_add z a b)⟩
  · obtain ⟨y, hy, hyz⟩ := hG.pow_spec hxz hb
    obtain ⟨s, hs, hsz⟩ := hpow (a * b)
    exact ⟨y, s, hy, hs, (hG.equal_iff hyz hsz).2 (zpow_mul z a b).symm⟩
  · obtain ⟨y, hy, hyz⟩ := hpow (-a)
    obtain ⟨w, i, hw, hi, hiw⟩ := hinv
    obtain rfl := faithful.unique hw hxz
    exact ⟨y, i, hy, hi, (hG.equal_iff hyz hiw).2 (zpow_neg z a)⟩

/-! ## Powers of permutations -/

variable (G) in
/-- The elements are permutations, which are multiplied and inverted as such. -/
structure IsPermGroup : Prop where
  op_eq : ∃ data, G.op = .op .compose data
  exists_perm : ∀ a ∈ G.els, ∃ p, a = .perm p
  identity_eq : ∃ n e, Perm.identity n = .ok e ∧ G.identity = .perm e
  inverse_eq : ∀ p : Perm, .perm p ∈ G.els → G.inverse (.perm p) = .ok (.perm p.inverse)

namespace IsPermGroup

variable (h : G.IsPermGroup)
include h

theorem mul_eq (p q : Perm) : G.mul (.perm p) (.perm q) = Value.perm <$> p.mul q := by
  obtain ⟨data, hop⟩ := h.op_eq
  rw [← G.intact.call_op, hop, call_compose]

theorem computes (n : Nat) : Computes (IsPerm n) G.mul where
  mul_eq := by
    rintro _ _ σ τ ⟨p, rfl, hp⟩ ⟨q, rfl, hq⟩
    obtain ⟨r, hr, hmoves⟩ := hp.mul hq
    exact ⟨.perm r, by rw [h.mul_eq, hr]; rfl, r, rfl, hmoves⟩

/-- All permutations of the group have the points of the identity. -/
theorem exists_degree : ∃ n, IsPerm n G.identity 1 ∧ ∀ p : Perm, .perm p ∈ G.els → p.degree = n := by
  obtain ⟨_, e, he, hidentity⟩ := h.identity_eq
  obtain ⟨n, hone⟩ := Perm.exists_moves_of_identity he
  refine ⟨n, ⟨e, hidentity, hone⟩, fun p hp => ?_⟩
  obtain ⟨x, hx⟩ := G.realizes.standing _ hp
  obtain ⟨c, hc, -⟩ := G.realizes.mul_eq G.realizes.one hx
  rw [hidentity, h.mul_eq] at hc
  -- the identity could not be multiplied with a permutation of other points
  obtain ⟨r, hr, -⟩ := bind_eq_ok.1 hc
  exact (Perm.degree_eq_of_mul hr).trans hone.1

/-- Repeated squaring gives what multiplying one factor at a time gives. -/
theorem pow_eq {p : Perm} (hp : .perm p ∈ G.els) (k : Int) :
    G.pow (.perm p) k = .ok (.perm (p.zpow k)) := by
  obtain ⟨n, hone, hdegree⟩ := h.exists_degree
  obtain ⟨σ, hσ⟩ := Perm.exists_moves (hdegree p hp)
  obtain ⟨c, hc, r, rfl, hr⟩ := (h.computes n).powerOf_spec hone ⟨p, rfl, hσ⟩ (k := k)
    (.inr ⟨_, h.inverse_eq p hp, p.inverse, rfl, hσ.inverse⟩)
  rw [FiniteGroup.pow, hc, hr.ext (hσ.zpow k)]

end IsPermGroup

/-- Powers obey the laws of exponents, and in a group of permutations they are the powers of the
permutations. -/
theorem exists_powers (G : ValidGroup) :
    (∀ g ∈ G.els, ∀ a : Int, ∃ x, G.IsPower g a x) ∧
      (G.IsPermGroup → ∀ p : Perm, .perm p ∈ G.els → ∀ k : Int,
        G.pow (.perm p) k = .ok (.perm (p.zpow k))) :=
  ⟨fun _ hg => exists_isPower hg, fun h _ hp => h.pow_eq hp⟩

theorem isPermGroup_validPerms {n : Nat} (hn : 0 < n) : (validPerms hn).IsPermGroup where
  op_eq := ⟨[.int n], rfl⟩
  exists_perm a ha := by
    obtain ⟨-, p, rfl, -⟩ := (realizes_allPerms hn).standing a ha
    exact ⟨p, rfl⟩
  identity_eq := by
    obtain ⟨e, he, hone⟩ := Perm.exists_identity hn
    exact ⟨n, e, he, congrArg _ ((Perm.moves_ofEquiv hn 1).ext hone)⟩
  inverse_eq p _ := inverse_permGroup p

/-- The permutations of three points. -/
theorem exists_powers_validPerms :
    let G := validPerms (n := 3) (by decide)
    G.IsPermGroup ∧ (∃ p : Perm, .perm p ∈ G.els) ∧
      (∀ g ∈ G.els, ∀ a : Int, ∃ x, G.IsPower g a x) ∧
      ∀ p : Perm, .perm p ∈ G.els → ∀ k : Int, G.pow (.perm p) k = .ok (.perm (p.zpow k)) := by
  have h := isPermGroup_validPerms (n := 3) (by decide)
  obtain ⟨-, e, -, he⟩ := h.identity_eq
  obtain ⟨hlaws, hperms⟩ := exists_powers (validPerms (n := 3) (by decide))
  exact ⟨h, ⟨e, he ▸ (validPerms (by decide)).realizes.identity_mem⟩, hlaws, hperms h⟩

end ValidGroup

/-- A valid group in which an element has powers with all exponents, but the first one is not
inverted as it is written. -/
theorem exists_pow_error :
    let G := validMachineResidues (n := 1) (by decide) (by decide)
    .int 0 ∈ G.els ∧ ∃ x y, G.pow (.int 0) 1 = .ok x ∧ G.pow (.int 0) (-1) = .ok y ∧
      G.pow x (-1) = .error .overflow ∧ G.inverse x = .error .overflow := by
  intro G
  have hG := realizes_machineResidues (n := 1) (by decide) (by decide) (dvd_largeFactor 1)
  have hzero : .int 0 ∈ G.els := (mem_residues (by decide)).2 ⟨0, by decide, rfl⟩
  obtain ⟨x, hx⟩ := hG.standing _ hzero
  obtain ⟨y, hy, -⟩ := hG.pow_spec hx (k := -1) (.inr (hG.invertible_of_mem hzero))
  -- the product with the identity is a floating-point number
  obtain ⟨c, hc, -, hreal⟩ := add_writesResidue (by decide) (by decide) .real
    (writesResidue_zero (n := 1) (by decide)) (writesResidue_zero (by decide))
  obtain ⟨z, rfl⟩ := hreal rfl
  have hmul : G.mul (.int 0) (.int 0) = .ok (.real z) := hc
  have hinverse : G.inverse (.real z) = .error .overflow :=
    inverse_real (ofInt_largeFactor (by decide)) z
  have hpow : G.pow (.int 0) 1 = .ok (.real z) := by
    have hidentity : G.identity = .int 0 := rfl
    rw [FiniteGroup.pow, powerOf_eq, hidentity]
    simp [mulPow, hmul]
  refine ⟨hzero, _, y, hpow, hy, ?_, hinverse⟩
  rw [FiniteGroup.pow, powerOf_eq, if_pos (by decide), hinverse, error_bind]

end FiniteGroups
