import FiniteGroups.Group.Powers
import FiniteGroups.Proofs.Assignment
import FiniteGroups.Proofs.Realizes
import FiniteGroups.Subgroup.Normal
import Mathlib.Data.List.Nodup
import Mathlib.Data.List.ProdSigma
import Mathlib.GroupTheory.GroupAction.CardCommute

/-!
# Commuting elements

For a group that realizes `M`, two values commute exactly if what they stand for commutes
(`Realizes.commute_spec`). So the group is found to be abelian exactly if `M` is
(`Realizes.isAbelian_spec`), and centralizers consist of what they should
(`Realizes.centralizer_spec`, `Realizes.elementCentralizer_spec`, `Realizes.center_spec`).

There are as many pairs of commuting elements as classes of conjugates for each element
(`Realizes.commutingPairs_spec`).
-/

set_option linter.unusedSectionVars false

namespace FiniteGroups.FiniteGroup.Realizes

variable {M : Type} [Group M] {R : Value → M → Prop} {G H : FiniteGroup} (hG : G.Realizes R)
include hG

theorem commute_spec {a b : Value} {x y : M} (ha : R a x) (hb : R b y) :
    ∃ answer, G.commute a b = .ok answer ∧ (answer = true ↔ Commute x y) := by
  obtain ⟨c, hc, hxy⟩ := hG.mul_eq ha hb
  obtain ⟨d, hd, hyx⟩ := hG.mul_eq hb ha
  exact ⟨_, by rw [commute, hc, ok_bind, hd, ok_bind, hG.equal_eq hxy hyx], hG.faithful hxy hyx⟩

/-! ## Abelian groups -/

/-- Whether the elements of a list commute is found out by asking for each pair once. -/
theorem allCommute_spec {xs : List Value} (hxs : Standing R xs) :
    ∃ answer, G.allCommute xs = .ok answer ∧
      (answer = true ↔ ∀ x ∈ extent R xs, ∀ y ∈ extent R xs, Commute x y) := by
  induction xs with
  | nil => exact ⟨true, rfl, by simp⟩
  | cons a xs ih =>
    have hrest := hxs.mono fun b hb => List.mem_cons_of_mem a hb
    obtain ⟨x, hx⟩ := hxs a (by simp)
    obtain ⟨first, hfirst, hall⟩ := hG.faithful.exists_allM hrest
      fun b _ y hy => hG.commute_spec hx hy
    obtain ⟨answer, hanswer, hiff⟩ := exists_ite_false hall (ih hrest)
    refine ⟨answer, by rw [allCommute, hfirst, ok_bind]; exact hanswer, hiff.trans ?_⟩
    rw [hG.faithful.extent_cons hx]
    simp only [Set.forall_mem_insert]
    constructor
    · rintro ⟨hx, hxs⟩
      exact ⟨⟨Commute.refl x, hx⟩, fun y hy => ⟨(hx y hy).symm, hxs y hy⟩⟩
    · rintro ⟨⟨-, hx⟩, hxs⟩
      exact ⟨hx, fun y hy => (hxs y hy).2⟩

/-- A group is found to be abelian exactly if it is. -/
theorem isAbelian_spec : ∃ answer, G.isAbelian = .ok answer ∧
    (answer = true ↔ ∀ x y : M, Commute x y) := by
  obtain ⟨answer, hanswer, hiff⟩ := hG.allCommute_spec hG.standing
  refine ⟨answer, hanswer, hiff.trans ?_⟩
  simp [hG.extent_els]

/-! ## Centralizers -/

theorem centralizes_spec {T : Set M} (hH : Consists R H T) {a : Value} {x : M} (ha : R a x) :
    ∃ answer, Candidate.centralizes G.mul H.candidate a = .ok answer ∧
      (answer = true ↔ x ∈ Subgroup.centralizer T) := by
  obtain ⟨answer, hanswer, hiff⟩ := hG.faithful.exists_allM hH.standing_els
      (f := fun b => do (← G.mul a b).equal (← G.mul b a)) fun b _ y hy => hG.commute_spec ha hy
  refine ⟨answer, hanswer, hiff.trans ?_⟩
  rw [hH.els_eq, hH.extent_eq, Subgroup.mem_centralizer_iff]
  exact forall₂_congr fun y _ => eq_comm

/-- The elements that are found to commute with a set are its centralizer before they are closed. -/
theorem exists_centralizing {T : Set M} (hH : Consists R H T) : ∃ found,
    G.els.filterM (Candidate.centralizes G.mul H.candidate) = .ok found ∧ found ⊆ G.els ∧
      extent R found = Subgroup.centralizer T ∧
      G.candidate.centralizer H.candidate = G.span found := by
  obtain ⟨found, hfound, hsub, hextent⟩ := hG.faithful.exists_filterM hG.standing
    fun a _ x hx => hG.centralizes_spec hH hx
  refine ⟨found, hfound, hsub.subset, ?_, ?_⟩
  · rw [hextent, hG.extent_els]
    ext x
    simp
  · show (do
      let found ← G.els.filterM (Candidate.centralizes G.mul H.candidate)
      G.span found) = _
    rw [hfound, ok_bind]

/-- The centralizer of a set of elements is found. -/
theorem centralizer_spec {T : Set M} (hH : Consists R H T) :
    ∃ C, G.candidate.centralizer H.candidate = .ok C ∧
      Consists R C (Subgroup.centralizer T : Set M) := by
  obtain ⟨found, -, hsub, hextent, hrun⟩ := hG.exists_centralizing hH
  rw [hrun]
  exact hG.span_of_subgroup (fun a ha => hG.invertible_of_mem (hsub ha)) hextent

/-- In the place of an element there are its powers. -/
theorem elementCentralizer_eq {a : Value} {x : M} (ha : R a x) (hinv : G.Invertible R a) :
    ∃ P, Consists R P (Subgroup.closure {x} : Set M) ∧
      G.candidate.elementCentralizer a = G.candidate.centralizer P.candidate := by
  obtain ⟨P, hP, hpowers⟩ := hG.span_singleton_spec ha hinv
  refine ⟨P, hpowers, ?_⟩
  show (do G.candidate.centralizer (← G.span [a]).candidate) = _
  rw [hP, ok_bind]

/-- The centralizer of an element is that of its powers. -/
theorem elementCentralizer_spec {a : Value} {x : M} (ha : R a x) (hinv : G.Invertible R a) :
    ∃ C, G.candidate.elementCentralizer a = .ok C ∧
      Consists R C (Subgroup.centralizer {x} : Set M) := by
  obtain ⟨P, hpowers, hrun⟩ := hG.elementCentralizer_eq ha hinv
  rw [hrun, ← Subgroup.centralizer_closure]
  exact hG.centralizer_spec hpowers

/-- The center is found. -/
theorem center_spec : ∃ Z, G.candidate.center = .ok Z ∧
    Consists R Z (Subgroup.center M : Set M) := by
  obtain ⟨Z, hZ, hconsists⟩ := hG.centralizer_spec hG.consists
  rw [Subgroup.centralizer_univ] at hconsists
  exact ⟨Z, hZ, hconsists⟩

/-! ## Pairs of commuting elements -/

/-- Pairs of elements stand for all pairs. -/
theorem extent_pairs : Standing (Paired R R) (G.els ×ˢ G.els) ∧
    extent (Paired R R) (G.els ×ˢ G.els) = Set.univ := by
  constructor
  · rintro ⟨a, b⟩ hab
    obtain ⟨ha, hb⟩ := List.mem_product.1 hab
    obtain ⟨x, hx⟩ := hG.standing a ha
    obtain ⟨y, hy⟩ := hG.standing b hb
    exact ⟨(x, y), hx, hy⟩
  · refine Set.eq_univ_of_forall ?_
    rintro ⟨x, y⟩
    obtain ⟨a, ha, hx⟩ := hG.surjective x
    obtain ⟨b, hb, hy⟩ := hG.surjective y
    exact ⟨(a, b), List.mem_product.2 ⟨ha, hb⟩, hx, hy⟩

/-- Pairs of elements that are equal stand for the same, so they are one. -/
theorem pairwise_pairs : (G.els ×ˢ G.els).Pairwise fun p q => (p == q) = false := by
  refine (hG.nodup_els.product hG.nodup_els).imp_of_mem ?_
  rintro ⟨a, b⟩ ⟨c, d⟩ hab hcd hne
  obtain ⟨ha, hb⟩ := List.mem_product.1 hab
  obtain ⟨hc, hd⟩ := List.mem_product.1 hcd
  obtain ⟨⟨x, y⟩, hx, hy⟩ := hG.extent_pairs.1 _ hab
  obtain ⟨⟨u, v⟩, hu, hv⟩ := hG.extent_pairs.1 _ hcd
  rw [← Bool.not_eq_true]
  intro heq
  have hsame := (hG.faithful.paired hG.faithful ⟨hx, hy⟩ ⟨hu, hv⟩).1 heq
  obtain ⟨rfl, rfl⟩ := Prod.mk.inj hsame
  exact hne (by rw [hG.eq_of_stands ha hc hx hu, hG.eq_of_stands hb hd hy hv])

/-- There are as many pairs of commuting elements as there are classes for each element. -/
theorem commutingPairs_spec : ∃ pairs,
    (G.els ×ˢ G.els).filterM (fun p => G.commute p.1 p.2) = .ok pairs ∧
      pairs.length = Nat.card (ConjClasses M) * G.order := by
  have hpaired := hG.faithful.paired hG.faithful
  obtain ⟨hstand, hextent⟩ := hG.extent_pairs
  obtain ⟨pairs, hpairs, hsub, hcommuting⟩ := hpaired.exists_filterM hstand
    (f := fun p => G.commute p.1 p.2) (P := fun z => Commute z.1 z.2)
    fun p _ z hz => hG.commute_spec hz.1 hz.2
  refine ⟨pairs, hpairs, ?_⟩
  rw [← hpaired.ncard_extent_of_pairwise (hstand.mono fun p hp => hsub.subset hp)
    (hG.pairwise_pairs.sublist hsub), hcommuting, hextent, hG.order_eq,
    ← card_comm_eq_card_conjClasses_mul_card]
  simp only [Set.mem_univ, true_and]
  exact (Nat.card_coe_set_eq {z : M × M | Commute z.1 z.2}).symm

end FiniteGroups.FiniteGroup.Realizes
