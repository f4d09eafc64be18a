import FiniteGroups.Proofs.Laws
import FiniteGroups.Proofs.Realizes

/-!
# Groups in which nothing is found

The check of the axioms finds nothing in a group that realizes a group in the sense of group
theory (`Realizes.verify_eq`). Conversely, where nothing is found the laws hold (`Verified.laws`).
-/

set_option linter.unusedSectionVars false

namespace FiniteGroups

namespace FiniteGroup

variable {G : FiniteGroup}

/-- The check of the axioms finds nothing. -/
def Verified (G : FiniteGroup) : Prop :=
  ∃ v, G.verify maxErrors = .ok v ∧ v.ok = true

namespace Verified

variable (h : G.Verified)
include h

theorem laws (hG : G.Indexed) : G.Laws := by
  obtain ⟨v, hv, hok⟩ := h
  exact hG.laws_of_verify rfl (by decide : (0 : Int) < 20) hv hok

/-- An inverse is not missing, even if what is missing is an element. -/
theorem exists_inverse {a : Value} (ha : a ∈ G.els) : ∃ b, G.inverse a = .ok b ∧ b ≠ .none ∧
    G.contains b = .ok true ∧ G.IsProduct a b G.identity ∧ G.IsProduct b a G.identity := by
  obtain ⟨v, hv, hok⟩ := h
  obtain ⟨-, -, hinverse, -⟩ := lists_eq_nil rfl (by decide : (0 : Int) < 20) hv hok
  exact inverseViolations_eq_nil_iff.1 hinverse a ha

end Verified

/-! ## Groups that realize a group -/

namespace Realizes

variable {M : Type} [Group M] {R : Value → M → Prop} (hG : G.Realizes R)
include hG

theorem equal_eq_true {a b : Value} {x : M} (ha : R a x) (hb : R b x) :
    a.equal b = .ok true := by
  rw [hG.equal_eq ha hb, (hG.faithful ha hb).2 rfl]

theorem isProduct {a b c : Value} {x y z : M} (ha : R a x) (hb : R b y) (hc : R c z)
    (h : x * y = z) : G.IsProduct a b c := by
  obtain ⟨d, hd, hdxy⟩ := hG.mul_eq ha hb
  exact ⟨d, hd, hG.equal_eq_true (h ▸ hdxy) hc⟩

/-- The element that a product is equal to stands for the product. -/
theorem stands_of_gives {a b p : Value} {x y : M} (ha : R a x) (hb : R b y)
    (h : G.Gives a b p) : R p (x * y) := by
  obtain ⟨hp, c, hc, hpc⟩ := h
  obtain ⟨z, hz⟩ := hG.standing p hp
  rwa [← (hG.faithful hz (hG.mul_of_eq ha hb hc)).1 hpc]

theorem laws : G.Laws where
  els_ne := by
    obtain ⟨a, ha, -⟩ := hG.surjective 1
    exact List.ne_nil_of_mem ha
  contains_identity := hG.contains_eq hG.one
  identity_mul a ha := by
    obtain ⟨x, hx⟩ := hG.standing a ha
    exact ⟨hG.isProduct hG.one hx hx (one_mul x), hG.isProduct hx hG.one hx (mul_one x)⟩
  mul_mem a ha b hb := by
    obtain ⟨x, hx⟩ := hG.standing a ha
    obtain ⟨y, hy⟩ := hG.standing b hb
    obtain ⟨c, hc, hxy⟩ := hG.mul_eq hx hy
    exact ⟨c, hc, hG.contains_eq hxy⟩
  inverse_mul a ha := by
    obtain ⟨x, hx⟩ := hG.standing a ha
    obtain ⟨b, hb, hbx, -⟩ := hG.inverse_eq ha hx
    exact ⟨b, hb, hG.contains_eq hbx, hG.isProduct hx hbx hG.one (mul_inv_cancel x),
      hG.isProduct hbx hx hG.one (inv_mul_cancel x)⟩
  mul_assoc a b c d f p q ha hb hc hd hf hp hq := by
    obtain ⟨x, hx⟩ := hG.standing a ha
    obtain ⟨y, hy⟩ := hG.standing b hb
    obtain ⟨z, hz⟩ := hG.standing c hc
    have hpx := hG.stands_of_gives (hG.stands_of_gives hx hy hd) hz hp
    have hqx := hG.stands_of_gives hx (hG.stands_of_gives hy hz hf) hq
    exact hG.eq_of_stands hp.1 hq.1 hpx (mul_assoc x y z ▸ hqx)

/-- What is missing is no element, as it would be the inverse of one. -/
theorem none_not_mem : Value.none ∉ G.els := by
  intro hnone
  obtain ⟨x, hx⟩ := hG.standing _ hnone
  obtain ⟨a, ha, hax⟩ := hG.surjective x⁻¹
  obtain ⟨b, hb, hbx, hne⟩ := hG.inverse_eq ha hax
  rw [inv_inv] at hbx
  exact hne (Value.eq_none_of_beq ((hG.faithful hbx hx).2 rfl))

theorem exists_table : ∃ t, G.table = .ok t :=
  hG.intact.indexed.exists_table fun a ha b hb => by
    obtain ⟨x, hx⟩ := hG.standing a ha
    obtain ⟨y, hy⟩ := hG.standing b hb
    obtain ⟨k, hk, -⟩ := hG.keyedProduct.mul_eq hx hy
    exact ⟨k, hk⟩

/-- Nothing is found in a group that realizes one. -/
theorem verify_eq {most : Value} {m : Int} (hmost : most.index = .ok m) :
    G.verify most = .ok ⟨[]⟩ := by
  obtain ⟨t, ht⟩ := hG.exists_table
  exact hG.laws.verify_eq hG.intact.indexed hG.none_not_mem ht hmost

end Realizes

end FiniteGroup

end FiniteGroups
