import FiniteGroups.Proofs.Closure
import Mathlib.Algebra.Group.Prod
import Mathlib.Algebra.Group.Subgroup.Finite

/-!
# Graphs of homomorphisms

Images of generators are a set `Γ` of pairs. The products of these pairs are the graph of a
function exactly if some homomorphism sends each generator to its image (`functional_closure_iff`),
and then they are the graph of that homomorphism (`closure_eq_graph`). So a search that forms
products of pairs finds out whether there is a homomorphism, and finds it.

The homomorphism is one of the subgroup `L` that the generators generate.
-/

set_option linter.unusedSectionVars false

namespace FiniteGroups

/-- The pairs are the graph of a function. -/
def Functional {M N : Type} (T : Set (M × N)) : Prop :=
  ∀ ⦃x y y'⦄, (x, y) ∈ T → (x, y') ∈ T → y = y'

theorem Functional.mono {M N : Type} {T U : Set (M × N)} (h : Functional U) (hTU : T ⊆ U) :
    Functional T :=
  fun _ _ _ hy hy' => h (hTU hy) (hTU hy')

variable {M N : Type} [Group M] [Group N] {Γ : Set (M × N)} {L : Subgroup M}

/-- The homomorphism sends each generator to its image. -/
def Extends (Γ : Set (M × N)) (φ : L →* N) : Prop :=
  ∀ z ∈ Γ, ∀ hz : z.1 ∈ L, φ ⟨z.1, hz⟩ = z.2

/-- The graph of a homomorphism of a subgroup. -/
def graph (φ : L →* N) : Set (M × N) :=
  Set.range fun x : L => (x.1, φ x)

theorem eq_of_mem_graph {φ : L →* N} {x : M} {y : N} (hx : x ∈ L) (h : (x, y) ∈ graph φ) :
    φ ⟨x, hx⟩ = y := by
  obtain ⟨x', hx'⟩ := h
  obtain ⟨rfl, rfl⟩ := Prod.mk.inj hx'
  rfl

theorem functional_graph (φ : L →* N) : Functional (graph φ) := by
  intro x y y' hy hy'
  obtain ⟨⟨x', hx⟩, heq⟩ := id hy
  obtain ⟨rfl, -⟩ := Prod.mk.inj heq
  exact (eq_of_mem_graph hx hy).symm.trans (eq_of_mem_graph hx hy')

theorem image_fst_graph (φ : L →* N) : Prod.fst '' graph φ = L := by
  ext x
  constructor
  · rintro ⟨_, ⟨x', rfl⟩, rfl⟩
    exact x'.2
  · exact fun hx => ⟨_, ⟨⟨x, hx⟩, rfl⟩, rfl⟩

theorem graph_bot (φ : (⊥ : Subgroup M) →* N) : graph φ = {(1, 1)} := by
  have hone : (default : (⊥ : Subgroup M)) = 1 := Subsingleton.elim _ _
  rw [graph, Set.range_unique, hone, map_one, Subgroup.coe_one]

section

variable (hL : Subgroup.closure (Prod.fst '' Γ) = L)
include hL

/-- Products of pairs stay in the graph of a homomorphism. -/
theorem closure_subset_graph {φ : L →* N} (h : Extends Γ φ) :
    (Subsemigroup.closure Γ : Set (M × N)) ⊆ graph φ := by
  let T : Subsemigroup (M × N) :=
    { carrier := graph φ
      mul_mem' := by
        rintro _ _ ⟨x, rfl⟩ ⟨y, rfl⟩
        exact ⟨x * y, by simp⟩ }
  have hle : Subsemigroup.closure Γ ≤ T := by
    refine Subsemigroup.closure_le.2 fun z hz => ?_
    have hmem : z.1 ∈ L := hL ▸ Subgroup.subset_closure ⟨z, hz, rfl⟩
    exact ⟨⟨z.1, hmem⟩, by simp [h z hz hmem]⟩
  exact hle

variable [Finite M] [Finite N]

/-- Every product of generators is there with some image. -/
theorem exists_mem_closure (hΓ : Γ.Nonempty) {x : M} (hx : x ∈ L) :
    ∃ y, (x, y) ∈ Subsemigroup.closure Γ := by
  have hmap : (Subgroup.closure Γ).map (MonoidHom.fst M N) = L := by
    rw [MonoidHom.map_closure, ← hL]
    rfl
  rw [← hmap] at hx
  obtain ⟨⟨x', y⟩, hz, rfl⟩ := hx
  refine ⟨y, ?_⟩
  rwa [← SetLike.mem_coe, coe_closure_eq hΓ]

/-- The products of pairs are the graph of the homomorphism. -/
theorem closure_eq_graph (hΓ : Γ.Nonempty) {φ : L →* N} (h : Extends Γ φ) :
    (Subsemigroup.closure Γ : Set (M × N)) = graph φ := by
  refine (closure_subset_graph hL h).antisymm ?_
  rintro _ ⟨x, rfl⟩
  obtain ⟨y, hxy⟩ := exists_mem_closure hL hΓ x.2
  have hy := eq_of_mem_graph x.2 (closure_subset_graph hL h hxy)
  rw [← hy] at hxy
  exact hxy

/-- Products of pairs that are the graph of a function are that of a homomorphism. -/
theorem exists_extends (h : Functional (Subsemigroup.closure Γ : Set (M × N))) :
    ∃ φ : L →* N, Extends Γ φ := by
  rcases Γ.eq_empty_or_nonempty with rfl | hΓ
  · exact ⟨1, fun z hz => hz.elim⟩
  have hone : ((1 : M), (1 : N)) ∈ (Subsemigroup.closure Γ : Set (M × N)) := by
    rw [coe_closure_eq hΓ]
    exact (Subgroup.closure Γ).one_mem
  choose f hf using fun x : L => exists_mem_closure hL hΓ x.2
  refine ⟨{ toFun := f, map_one' := h (hf 1) hone, map_mul' := fun x y => ?_ }, fun z hz hz' => ?_⟩
  · exact h (hf (x * y)) (mul_mem (hf x) (hf y))
  · exact h (hf ⟨z.1, hz'⟩) (Subsemigroup.subset_closure hz)

/-- Products of pairs are the graph of a function exactly if there is a homomorphism. -/
theorem functional_closure_iff :
    Functional (Subsemigroup.closure Γ : Set (M × N)) ↔ ∃ φ : L →* N, Extends Γ φ :=
  ⟨exists_extends hL, fun ⟨φ, h⟩ => (functional_graph φ).mono (closure_subset_graph hL h)⟩

end

end FiniteGroups
