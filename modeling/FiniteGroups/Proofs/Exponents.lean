import FiniteGroups.Proofs.Orders
import FiniteGroups.Proofs.Powers
import Mathlib.Data.ZMod.QuotientGroup
import Mathlib.GroupTheory.Exponent
import Mathlib.Order.Bounds.Basic

/-!
# Orders and the exponent

The order of an element is searched for by multiplying, which stops without an answer after as many
factors as there are elements, and its powers are computed by repeated squaring. The two agree: the
order is the least exponent for which the power is the identity (`ValidGroup.IsOrder`). The exponent
of the group is the least one that serves for all elements, and it tells which of the abelian groups
are cyclic (`ValidGroup.exists_orders`).
-/

set_option linter.unusedSectionVars false

namespace FiniteGroups

open FiniteGroup

variable {M : Type} [Group M]

/-- A finite abelian group is cyclic if some element has the order that the exponent allows. -/
theorem isCyclic_iff_exponent_eq [Finite M] (h : ∀ x y : M, Commute x y) :
    IsCyclic M ↔ Monoid.exponent M = Nat.card M := by
  let : CommGroup M := { ‹Group M› with mul_comm := fun x y => (h x y).eq }
  exact IsCyclic.iff_exponent_eq_card

variable (M) in
/-- The exponent is the least number of factors that lead back to the identity everywhere. -/
theorem isLeast_exponent [Finite M] :
    IsLeast {k : Nat | 1 ≤ k ∧ ∀ x : M, x ^ k = 1} (Monoid.exponent M) :=
  ⟨⟨Nat.pos_of_ne_zero Monoid.exponent_ne_zero_of_finite, Monoid.pow_exponent_eq_one⟩,
    fun k hk => Monoid.exponent_min' k hk.1 hk.2⟩

section

variable {x : M} {m : Nat} (hm : ∀ k : Nat, x ^ k = 1 ↔ m ∣ k)
include hm

theorem card_zpowers_eq : Nat.card (Subgroup.zpowers x) = m := by
  rw [Nat.card_zpowers]
  exact Nat.dvd_right_iff_eq.1 fun k => orderOf_dvd_iff_pow_eq_one.trans (hm k)

theorem dvd_natCard [Finite M] : m ∣ Nat.card M :=
  (hm _).1 pow_card_eq_one'

theorem isLeast_of_pow_eq_one_iff [Finite M] : IsLeast {k : Nat | 0 < k ∧ x ^ k = 1} m :=
  ⟨⟨Nat.pos_of_dvd_of_pos (dvd_natCard hm) Nat.card_pos, (hm m).2 dvd_rfl⟩,
    fun k hk => Nat.le_of_dvd hk.1 ((hm k).1 hk.2)⟩

end

namespace FiniteGroup.Realizes

variable {R : Value → M → Prop} {G : FiniteGroup} (hG : G.Realizes R)
include hG

/-- An element generates its powers. -/
theorem order_span_singleton {a : Value} {x : M} (ha : R a x) (hinv : G.Invertible R a) :
    ∃ H, G.span [a] = .ok H ∧ H.order = Nat.card (Subgroup.zpowers x) := by
  obtain ⟨H, hH, hconsists⟩ := hG.span_singleton_spec ha hinv
  refine ⟨H, hH, ?_⟩
  rw [hconsists.order_eq hG.faithful, ← Subgroup.zpowers_eq_closure, ← Nat.card_coe_set_eq]
  rfl

end FiniteGroup.Realizes

namespace ValidGroup

variable (G : ValidGroup)

/-- The power of `g` with the exponent `k` is found to be the identity. -/
def Returns (g : Value) (k : Int) : Prop :=
  ∃ b, G.pow g k = .ok b ∧ b.equal G.identity = .ok true

/-- What there is to say about the order `m` of `g`. -/
structure IsOrder (g : Value) (m : Nat) : Prop where
  elementOrder_eq : G.elementOrder g = .ok m
  isLeast : IsLeast {k : Nat | 0 < k ∧ G.Returns g k} m
  pow_iff : ∀ k : Int, ∃ b answer, G.pow g k = .ok b ∧ b.equal G.identity = .ok answer ∧
    (answer = true ↔ (m : Int) ∣ k)
  generated : ∃ H, (G.toFiniteGroup.generated [g]).outcome = .ok H ∧ H.order = m
  dvd_order : m ∣ G.order

/-- What there is to say about the exponent `e`. -/
structure IsExponent (e : Nat) : Prop where
  exponent_eq : G.exponent = .ok (e : Int)
  isLeast : IsLeast {k : Nat | 1 ≤ k ∧ ∀ g ∈ G.els, G.Returns g k} e
  dvd_order : e ∣ G.order
  /-- An abelian group is found to be cyclic if and only if the exponent is its order. -/
  isCyclic_iff : G.isAbelian = .ok true →
    ∃ answer, G.isCyclic = .ok answer ∧ (answer = true ↔ e = G.order)

variable {G}

theorem returns_iff {g : Value} {x : G.Element} (hg : g ∈ G.els) (hx : G.Stands g x) (k : Nat) :
    G.Returns g k ↔ x ^ k = 1 := by
  have hG := G.realizes
  obtain ⟨b, hb, hbx⟩ := hG.pow_spec hx (.inr (hG.invertible_of_mem hg)) (k := k)
  rw [← zpow_natCast, ← hG.equal_iff hbx hG.one]
  constructor
  · rintro ⟨c, hc, h⟩
    rwa [Except.ok.inj (hb.symm.trans hc)]
  · exact fun h => ⟨b, hb, h⟩

theorem exists_isOrder {g : Value} (hg : g ∈ G.els) : ∃ m, G.IsOrder g m := by
  have hG := G.realizes
  have := hG.finite
  obtain ⟨x, hx⟩ := hG.standing g hg
  have hinv := hG.invertible_of_mem hg
  obtain ⟨m, hm, hpow⟩ := hG.elementOrder_spec hx
  refine ⟨m, hm, ?_, fun k => ?_, ?_, ?_⟩
  · simp only [returns_iff hg hx]
    exact isLeast_of_pow_eq_one_iff hpow
  · obtain ⟨b, hb, hbx⟩ := hG.pow_spec hx (.inr hinv) (k := k)
    refine ⟨b, _, hb, hG.equal_eq hbx hG.one, ?_⟩
    rw [hG.faithful hbx hG.one, zpow_eq_one_iff hpow]
  · rw [← card_zpowers_eq hpow]
    exact hG.order_span_singleton hx hinv
  · rw [hG.order_eq]
    exact dvd_natCard hpow

theorem forall_returns_iff (k : Nat) :
    (∀ g ∈ G.els, G.Returns g k) ↔ ∀ x : G.Element, x ^ k = 1 := by
  constructor
  · intro h x
    exact (returns_iff x.mem (stands_self x) k).1 (h x.val x.mem)
  · intro h g hg
    exact (returns_iff hg (stands_self ⟨g, hg⟩) k).2 (h _)

theorem exists_isExponent (G : ValidGroup) : ∃ e, G.IsExponent e := by
  have hG := G.realizes
  have := hG.finite
  refine ⟨Monoid.exponent G.Element, hG.exponent_eq, ?_, ?_, fun habelian => ?_⟩
  · simp only [forall_returns_iff]
    exact isLeast_exponent G.Element
  · rw [hG.order_eq]
    exact Group.exponent_dvd_nat_card
  · obtain ⟨answer, hanswer, hiff⟩ := hG.isCyclic_spec
    refine ⟨answer, hanswer, ?_⟩
    rw [hiff, hG.order_eq]
    exact isCyclic_iff_exponent_eq ((eq_ok_true_iff hG.isAbelian_spec).1 habelian)

/-- Each element has an order and the group has an exponent, which are what powers tell. -/
theorem exists_orders (G : ValidGroup) :
    (∀ g ∈ G.els, ∃ m, G.IsOrder g m) ∧ ∃ e, G.IsExponent e :=
  ⟨fun _ hg => exists_isOrder hg, exists_isExponent G⟩

end ValidGroup

end FiniteGroups
