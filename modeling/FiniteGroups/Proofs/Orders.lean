import FiniteGroups.Group.Powers
import FiniteGroups.Proofs.Bijections
import FiniteGroups.Proofs.Realizes
import Mathlib.Data.Fintype.Perm
import Mathlib.GroupTheory.OrderOfElement
import Mathlib.GroupTheory.SpecificGroups.Cyclic

/-!
# Orders

The order of a permutation is found by multiplying until the identity comes up, and so is that of
an element of a group. Both searches end where they should: exactly the multiples of what they
find are exponents that lead back to the identity (`Perm.Moves.pow_eq_one_iff`,
`FiniteGroup.Realizes.elementOrder_spec`). The least common multiple of the orders of all elements
is the exponent of the group (`FiniteGroup.Realizes.exponent_eq`).
-/

namespace FiniteGroups

/-- The exponents that lead back to the identity are the multiples of one number. -/
theorem exists_order {M : Type} [Group M] [Finite M] (x : M) :
    ∃ m, 0 < m ∧ m ≤ Nat.card M ∧ ∀ k, x ^ k = 1 ↔ m ∣ k :=
  ⟨_, orderOf_pos x, orderOf_le_card, fun _ => orderOf_dvd_iff_pow_eq_one.symm⟩

/-- What is said of natural exponents holds for all integers. -/
theorem zpow_eq_one_iff {M : Type} [Group M] {x : M} {m : Nat} (hm : ∀ k : Nat, x ^ k = 1 ↔ m ∣ k)
    (k : Int) : x ^ k = 1 ↔ (m : Int) ∣ k := by
  rw [← Nat.dvd_right_iff_eq.1 fun k => orderOf_dvd_iff_pow_eq_one.trans (hm k)]
  exact orderOf_dvd_iff_zpow_eq_one.symm

/-- A group is cyclic if the exponents of some element are the multiples of the order of the
group. -/
theorem isCyclic_iff_exists_order {M : Type} [Group M] [Finite M] :
    IsCyclic M ↔ ∃ x : M, ∀ k, x ^ k = 1 ↔ Nat.card M ∣ k := by
  rw [isCyclic_iff_exists_orderOf_eq_natCard]
  refine exists_congr fun x => ?_
  rw [← Nat.dvd_right_iff_eq]
  simp only [orderOf_dvd_iff_pow_eq_one]

/-! ## Permutations -/

namespace Perm

variable {n : Nat} {p : Perm} {σ : Equiv.Perm (Point n)}

theorem factorial_eq (n : Nat) : factorial n = n.factorial := by
  induction n with
  | zero => rfl
  | succ n ih => rw [factorial, ih, Nat.factorial_succ]

/-- As many steps are taken at most as there are permutations. -/
theorem card_points (n : Nat) : Nat.card (Equiv.Perm (Point n)) = factorial n := by
  rw [Nat.card_eq_fintype_card, Fintype.card_perm, Fintype.card_coe, Nat.card_Icc,
    Nat.add_sub_cancel, factorial_eq]

/-- The powers of a permutation are at the identity after as many factors as are left. -/
theorem Moves.countdown_eq (hp : p.Moves σ) {m : Nat} (hm : ∀ k, σ ^ k = 1 ↔ m ∣ k)
    {fuel j : Nat} (hj : 0 < j) (hle : j ≤ m) (hfuel : m ≤ j + fuel) {q : Perm}
    (hq : q.Moves (σ ^ j)) (h : q.degree = p.degree) : countdown p fuel q h = m - j := by
  -- `q` is the power after `j` factors, and the search stops early only where `m` divides `j`
  induction fuel generalizing j q with
  | zero =>
    rw [countdown]
    omega
  | succ fuel ih =>
    rw [countdown]
    split
    · next hone =>
      have hback := Nat.le_of_dvd hj ((hm j).1 (hq.isIdentity_iff.1 hone))
      omega
    · next hone =>
      have hne : j ≠ m := by
        rintro rfl
        exact hone (hq.isIdentity_iff.2 ((hm j).2 dvd_rfl))
      have hnext := hp.comp hq h
      rw [← pow_succ'] at hnext
      rw [ih (by omega) (by omega) (by omega) hnext]
      omega

/-- The exponents that lead back to the identity are the multiples of the order. -/
theorem Moves.pow_eq_one_iff (hp : p.Moves σ) (k : Nat) : σ ^ k = 1 ↔ p.order ∣ k := by
  obtain ⟨m, hpos, hle, hm⟩ := exists_order σ
  rw [card_points, ← hp.1] at hle
  have hfirst : p.Moves (σ ^ 1) := by rwa [pow_one]
  have horder : p.order = m := by
    rw [order, hp.countdown_eq hm Nat.one_pos hpos (by omega) hfirst]
    omega
  rw [horder]
  exact hm k

end Perm

/-! ## Least common multiples -/

/-- Repeated remainders lead to the greatest common divisor. -/
theorem gcd_natCast (m n : Nat) : gcd m n = (m.gcd n : Nat) := by
  induction n using Nat.strong_induction_on generalizing m with
  | _ n ih =>
    rw [gcd]
    split
    · next hzero =>
      rw [Int.natCast_eq_zero.1 hzero, Nat.gcd_zero_right]
    · next hne =>
      have hpos : 0 < n := by omega
      rw [Int.fmod_eq_emod_of_nonneg _ (by omega), ← Int.natCast_mod, ih _ (Nat.mod_lt m hpos),
        Nat.gcd_comm, ← Nat.gcd_rec, Nat.gcd_comm]

theorem lcm_natCast {m n : Nat} (hm : 0 < m) : lcm m n = .ok (m.lcm n : Nat) := by
  have hpos : 0 < m.gcd n := Nat.gcd_pos_of_pos_left n hm
  rw [lcm, gcd_natCast, if_neg (by omega), Int.fdiv_eq_ediv_of_nonneg _ (by omega),
    Nat.lcm_eq_mul_div]
  norm_cast

/-- The multiples of what comes out are the common multiples. -/
theorem foldlM_lcm {orders : List Nat} (hpos : ∀ m ∈ orders, 0 < m) {s : Nat} (hs : 0 < s) :
    ∃ r : Nat, (orders.map Int.ofNat).foldlM lcm (s : Int) = .ok (r : Int) ∧
      ∀ k, r ∣ k ↔ s ∣ k ∧ ∀ m ∈ orders, m ∣ k := by
  induction orders generalizing s with
  | nil => exact ⟨s, rfl, by simp⟩
  | cons m orders ih =>
    obtain ⟨hm, hrest⟩ := List.forall_mem_cons.1 hpos
    obtain ⟨r, hr, hdvd⟩ := ih hrest (Nat.lcm_pos hs hm)
    refine ⟨r, ?_, fun k => ?_⟩
    · rw [List.map_cons, List.foldlM_cons]
      show (lcm (s : Int) (m : Int) >>= _) = _
      rw [lcm_natCast hs, ok_bind, hr]
    · rw [hdvd, Nat.lcm_dvd_iff, List.forall_mem_cons, and_assoc]

/-! ## Elements of groups -/

namespace FiniteGroup.Realizes

variable {M : Type} [Group M] {R : Value → M → Prop} {G : FiniteGroup} (hG : G.Realizes R)
include hG

/-- The same count for an element, which asks whether a power is equal to the identity. -/
theorem stepsToIdentity_eq {a : Value} {x : M} (ha : R a x) {m : Nat}
    (hm : ∀ k, x ^ k = 1 ↔ m ∣ k) {left j : Nat} (hj : 0 < j) (hle : j ≤ m)
    (hleft : m ≤ j + left) {b : Value} (hb : R b (x ^ j)) :
    stepsToIdentity G.mul G.identity a left b = .ok (m - j + 1) := by
  induction left generalizing j b with
  | zero =>
    obtain rfl : j = m := by omega
    have hone := (hG.faithful hb hG.one).2 ((hm j).2 dvd_rfl)
    rw [stepsToIdentity, hG.equal_eq hb hG.one, hone, ok_bind, if_pos rfl, Nat.sub_self]
    rfl
  | succ left ih =>
    rw [stepsToIdentity, hG.equal_eq hb hG.one, ok_bind]
    split
    · next hone =>
      have hback := Nat.le_of_dvd hj ((hm j).1 ((hG.faithful hb hG.one).1 hone))
      rw [show m - j = 0 by omega]
      rfl
    · next hone =>
      have hne : j ≠ m := by
        rintro rfl
        exact hone ((hG.faithful hb hG.one).2 ((hm j).2 dvd_rfl))
      obtain ⟨c, hc, hnext⟩ := hG.mul_eq hb ha
      rw [← pow_succ] at hnext
      rw [hc, ok_bind]
      show (do return (← stepsToIdentity G.mul G.identity a left c) + 1) = _
      rw [ih (by omega) (by omega) (by omega) hnext, ok_bind,
        show m - (j + 1) + 1 = m - j by omega]
      rfl

/-- The order of an element is found, and its multiples are the exponents that lead back to the
identity. -/
theorem elementOrder_spec {a : Value} {x : M} (ha : R a x) :
    ∃ m, G.elementOrder a = .ok m ∧ ∀ k, x ^ k = 1 ↔ m ∣ k := by
  have := hG.finite
  obtain ⟨m, hpos, hle, hm⟩ := exists_order x
  rw [← hG.order_eq] at hle
  have hfirst : R a (x ^ 1) := by rwa [pow_one]
  refine ⟨m, ?_, hm⟩
  rw [elementOrder, orderOf, hG.stepsToIdentity_eq ha hm Nat.one_pos hpos (by omega) hfirst,
    Nat.sub_add_cancel hpos]

/-- A group is found to be cyclic exactly if it is. -/
theorem isCyclic_spec : ∃ answer, G.isCyclic = .ok answer ∧ (answer = true ↔ IsCyclic M) := by
  have := hG.finite
  obtain ⟨answer, hanswer, hiff⟩ := exists_anyM_iff G.els
      (f := fun g => do return (← G.elementOrder g) == G.order)
      (P := fun g => ∃ x : M, R g x ∧ ∀ k, x ^ k = 1 ↔ Nat.card M ∣ k) fun g hg => by
    obtain ⟨x, hx⟩ := hG.standing g hg
    obtain ⟨m, hm, hpow⟩ := hG.elementOrder_spec hx
    refine ⟨m == G.order, by rw [hm]; rfl, ?_⟩
    rw [beq_iff_eq, hG.order_eq]
    constructor
    · rintro rfl
      exact ⟨x, hx, hpow⟩
    · rintro ⟨y, hy, hcard⟩
      obtain rfl := hG.faithful.unique hx hy
      exact Nat.dvd_right_iff_eq.1 fun k => (hpow k).symm.trans (hcard k)
  refine ⟨answer, hanswer, hiff.trans ?_⟩
  rw [isCyclic_iff_exists_order]
  constructor
  · rintro ⟨g, -, x, -, hx⟩
    exact ⟨x, hx⟩
  · rintro ⟨x, hx⟩
    obtain ⟨g, hg, hgx⟩ := hG.surjective x
    exact ⟨g, hg, x, hgx, hx⟩

/-- The exponent is found. -/
theorem exponent_eq : G.exponent = .ok (Monoid.exponent M : Int) := by
  have := hG.finite
  obtain ⟨orders, horders, hall⟩ := exists_mapM G.els (f := G.elementOrder)
      (P := fun g m => ∃ x : M, R g x ∧ ∀ k, x ^ k = 1 ↔ m ∣ k) fun g hg => by
    obtain ⟨x, hx⟩ := hG.standing g hg
    obtain ⟨m, hm, hpow⟩ := hG.elementOrder_spec hx
    exact ⟨m, hm, x, hx, hpow⟩
  have hpos : ∀ m ∈ orders, 0 < m := fun m hm => by
    obtain ⟨g, -, x, -, hpow⟩ := exists_of_forall₂ hall hm
    exact Nat.pos_of_dvd_of_pos ((hpow _).1 pow_card_eq_one') Nat.card_pos
  obtain ⟨r, hr, hdvd⟩ := foldlM_lcm hpos Nat.one_pos
  have hiff (k : Nat) : r ∣ k ↔ Monoid.exponent M ∣ k := by
    rw [hdvd, Monoid.exponent_dvd_iff_forall_pow_eq_one, and_iff_right (one_dvd k)]
    constructor
    · intro h x
      obtain ⟨g, hg, hgx⟩ := hG.surjective x
      obtain ⟨m, hm, y, hgy, hpow⟩ := exists_of_forall₂ hall.flip hg
      rw [hG.faithful.unique hgx hgy]
      exact (hpow k).2 (h m hm)
    · intro h m hm
      obtain ⟨g, -, x, -, hpow⟩ := exists_of_forall₂ hall hm
      exact (hpow k).1 (h x)
  rw [exponent, horders, ok_bind, ← Nat.dvd_right_iff_eq.1 hiff]
  exact hr

end FiniteGroup.Realizes

end FiniteGroups
