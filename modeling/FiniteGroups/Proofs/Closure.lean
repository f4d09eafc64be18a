import FiniteGroups.Closure
import FiniteGroups.Proofs.Computation
import FiniteGroups.Proofs.Extent
import Mathlib.GroupTheory.OrderOfElement

/-!
# What the closure finds

A multiplication of values that computes the one of a finite semigroup (`Computes`) is closed in
rounds that multiply by seeds on the right only. That this is enough is a matter of
associativity: a set that contains the seeds and takes in its own products with seeds contains
every product (`closure_subset_of_mul_right`). `Explored` is what holds between two rounds:
nothing but products of seeds was found, and the products of what lies before the boundary with
seeds were found. It does not say on which side the seeds stand, since other searches multiply by
them on the left. Each round that goes on moves the boundary, so there are at most as many rounds
as elements, and at the end `closure_spec` says that the search has found the subsemigroup that
the seeds generate.
-/

set_option linter.unusedSectionVars false

namespace FiniteGroups

/-! ## Closed sets -/

section Semigroup

variable {M : Type} [Semigroup M] {S T : Set M}

/-- What contains the seeds and takes in its products with seeds on the right contains all
products. -/
theorem closure_subset_of_mul_right (hseeds : S ⊆ T) (hmul : ∀ x ∈ T, ∀ s ∈ S, x * s ∈ T) :
    (Subsemigroup.closure S : Set M) ⊆ T := by
  suffices h : ∀ y ∈ Subsemigroup.closure S, y ∈ T ∧ ∀ x ∈ T, x * y ∈ T from
    fun y hy => (h y hy).1
  intro y hy
  -- along with `y` itself, multiplication by `y` must be carried through the induction
  induction hy using Subsemigroup.closure_induction with
  | mem s hs => exact ⟨hseeds hs, fun x hx => hmul x hx s hs⟩
  | mul y z _ _ ihy ihz =>
    refine ⟨ihz.2 y ihy.1, fun x hx => ?_⟩
    rw [← mul_assoc]
    exact ihz.2 _ (ihy.2 x hx)

/-- The same for products with seeds on the left. -/
theorem closure_subset_of_mul_left (hseeds : S ⊆ T) (hmul : ∀ s ∈ S, ∀ x ∈ T, s * x ∈ T) :
    (Subsemigroup.closure S : Set M) ⊆ T := by
  suffices h : ∀ y ∈ Subsemigroup.closure S, y ∈ T ∧ ∀ x ∈ T, y * x ∈ T from
    fun y hy => (h y hy).1
  intro y hy
  induction hy using Subsemigroup.closure_induction with
  | mem s hs => exact ⟨hseeds hs, hmul s hs⟩
  | mul y z _ _ ihy ihz =>
    refine ⟨ihy.2 z ihz.1, fun x hx => ?_⟩
    rw [mul_assoc]
    exact ihy.2 _ (ihz.2 x hx)

end Semigroup

/-- In a finite group inverses are products, and so is the identity. -/
theorem coe_closure_eq {M : Type} [Group M] [Finite M] {S : Set M} (hS : S.Nonempty) :
    (Subsemigroup.closure S : Set M) = Subgroup.closure S := by
  have hpow : ∀ x ∈ S, ∀ n, x ^ (n + 1) ∈ Subsemigroup.closure S := by
    intro x hx n
    induction n with
    | zero => simpa using Subsemigroup.subset_closure hx
    | succ n ih =>
      rw [pow_succ]
      exact mul_mem ih (Subsemigroup.subset_closure hx)
  have hone : (1 : M) ∈ Subsemigroup.closure S := by
    obtain ⟨x, hx⟩ := hS
    have h := hpow x hx (orderOf x - 1)
    rwa [Nat.sub_add_cancel (orderOf_pos x), pow_orderOf_eq_one] at h
  refine Set.Subset.antisymm ?_ ?_
  · exact Subsemigroup.closure_le (S := (Subgroup.closure S).toSubmonoid.toSubsemigroup).2
      Subgroup.subset_closure
  · have hle : Submonoid.closure S ≤
        { Subsemigroup.closure S with one_mem' := hone } :=
      Submonoid.closure_le.2 Subsemigroup.subset_closure
    rw [← Subgroup.closure_toSubmonoid_of_finite] at hle
    exact hle

/-! ## What a round adds -/

section Adds

variable {α M : Type} {R : α → M → Prop}

/-- `next` continues `found` by values that stand for the elements of `T`, as far as these are
new. -/
structure Adds (R : α → M → Prop) (found next : List α) (T : Set M) : Prop where
  continues : found <+: next
  standing : Standing R next
  extent_eq : extent R next = extent R found ∪ T

namespace Adds

variable {found next last : List α} {T U : Set M}

theorem refl (h : Standing R found) (hT : T ⊆ extent R found) : Adds R found found T :=
  ⟨List.prefix_rfl, h, (Set.union_eq_self_of_subset_right hT).symm⟩

theorem trans (h : Adds R found next T) (h' : Adds R next last U) :
    Adds R found last (T ∪ U) where
  continues := h.continues.trans h'.continues
  standing := h'.standing
  extent_eq := by rw [h'.extent_eq, h.extent_eq, Set.union_assoc]

theorem concat [BEq α] [EquivBEq α] (hR : Faithful R) (h : Standing R found) {c : α} {z : M}
    (hc : R c z) : Adds R found (found ++ [c]) {z} where
  continues := List.prefix_append _ _
  standing := h.append (standing_singleton hc)
  extent_eq := by rw [extent_append, hR.extent_singleton hc]

end Adds

/-- The state between two rounds, where the boundary begins at `start`. A round forms the products
`op x s` of the boundary with the seeds. -/
structure Explored [Semigroup M] (op : M → M → M) (R : α → M → Prop) (seeds : List α)
    (start : Nat) (found : List α) : Prop where
  continues : seeds <+: found
  standing : Standing R found
  start_le : start ≤ found.length
  /-- Nothing but products of seeds was found. -/
  within : extent R found ⊆ (Subsemigroup.closure (extent R seeds) : Set M)
  /-- What lies before the boundary was multiplied by all seeds. -/
  explored : ∀ x ∈ extent R (found.take start), ∀ s ∈ extent R seeds, op x s ∈ extent R found

namespace Explored

variable [Semigroup M] {op : M → M → M} {seeds : List α} {start : Nat} {found next : List α}

theorem standing_seeds (h : Explored op R seeds start found) : Standing R seeds :=
  h.standing.mono fun _ ha => h.continues.subset ha

theorem standing_drop (h : Explored op R seeds start found) : Standing R (found.drop start) :=
  h.standing.mono fun _ ha => List.mem_of_mem_drop ha

theorem drop_within (h : Explored op R seeds start found) :
    extent R (found.drop start) ⊆ (Subsemigroup.closure (extent R seeds) : Set M) :=
  (extent_mono fun _ ha => List.mem_of_mem_drop ha).trans h.within

/-- At the beginning everything is boundary. -/
theorem initial (h : Standing R seeds) : Explored op R seeds 0 seeds where
  continues := List.prefix_rfl
  standing := h
  start_le := Nat.zero_le _
  within := Subsemigroup.subset_closure
  explored := by simp

/-- A round moves the boundary behind what was found before it. -/
theorem round (h : Explored op R seeds start found)
    (hop : ∀ x ∈ Subsemigroup.closure (extent R seeds),
      ∀ s ∈ Subsemigroup.closure (extent R seeds), op x s ∈ Subsemigroup.closure (extent R seeds))
    (hadds : Adds R found next (Set.image2 op (extent R (found.drop start)) (extent R seeds))) :
    Explored op R seeds found.length next where
  continues := h.continues.trans hadds.continues
  standing := hadds.standing
  start_le := hadds.continues.length_le
  within := by
    rw [hadds.extent_eq]
    refine Set.union_subset h.within ?_
    rintro z ⟨x, hx, s, hs, rfl⟩
    exact hop x (h.drop_within hx) s (Subsemigroup.subset_closure hs)
  explored := by
    intro x hx s hs
    rw [hadds.extent_eq]
    -- what was found before the round lies before the old boundary or in it
    rw [← List.prefix_iff_eq_take.1 hadds.continues, ← List.take_append_drop start found,
      extent_append] at hx
    rcases hx with hx | hx
    · exact Or.inl (h.explored x hx s hs)
    · exact Or.inr ⟨x, hx, s, hs, rfl⟩

/-- When the boundary is empty, what was found takes in its products with seeds. -/
theorem op_mem (h : Explored op R seeds found.length found) :
    ∀ x ∈ extent R found, ∀ s ∈ extent R seeds, op x s ∈ extent R found := by
  intro x hx
  refine h.explored x ?_
  rwa [List.take_length]

theorem seeds_subset (h : Explored op R seeds start found) : extent R seeds ⊆ extent R found :=
  extent_mono fun _ ha => h.continues.subset ha

end Explored

end Adds

/-! ## The rounds of the closure -/

variable {α M : Type} {R : α → M → Prop}

/-- `mul` computes the multiplication of `M` on the values that stand for elements of `M`. -/
structure Computes [Mul M] (R : α → M → Prop) (mul : α → α → Except Fault α) : Prop where
  mul_eq : ∀ ⦃a b x y⦄, R a x → R b y → ∃ c, mul a b = .ok c ∧ R c (x * y)

theorem Computes.mul_of_eq [Mul M] {mul : α → α → Except Fault α} (h : Computes R mul)
    {a b c : α} {x y : M} (ha : R a x) (hb : R b y) (hc : mul a b = .ok c) : R c (x * y) := by
  obtain ⟨c', hc', hxy⟩ := h.mul_eq ha hb
  rw [hc] at hc'
  rwa [Except.ok.inj hc']

variable [BEq α] [Hashable α] [EquivBEq α] [LawfulHashable α]

variable [Semigroup M] {mul : α → α → Except Fault α}

/-- Multiplying `a` by the seeds adds the products. -/
theorem extendBy_spec (hR : Faithful R) (hmul : Computes R mul) {a : α} {x : M} (ha : R a x)
    {seeds : List α} (hseeds : Standing R seeds) {found : Roster α}
    (hfound : Standing R found.toList) :
    ∃ next, extendBy mul unlimited a seeds found = .ok (.going next) ∧
      Adds R found.toList next.toList ((x * ·) '' extent R seeds) := by
  induction seeds generalizing found with
  | nil => exact ⟨found, rfl, .refl hfound (by simp)⟩
  | cons b seeds ih =>
    obtain ⟨y, hb⟩ := hseeds b (by simp)
    obtain ⟨c, hc, hz⟩ := hmul.mul_eq ha hb
    have hrest : Standing R seeds := hseeds.mono fun s hs => List.mem_cons_of_mem b hs
    obtain ⟨step, hstep, hrun⟩ : ∃ step, Adds R found.toList step.toList {x * y} ∧
        extendBy mul unlimited a (b :: seeds) found = extendBy mul unlimited a seeds step := by
      rw [extendBy, hc, ok_bind]
      by_cases new : found.contains c = false
      · refine ⟨found.push c new, ?_, by simp [new, unlimited]⟩
        rw [Roster.toList_push]
        exact .concat hR hfound hz
      · have hmem := (hR.contains_iff hfound hz).1 (by simpa using new)
        exact ⟨found, .refl hfound (by simpa using hmem), by simp [new]⟩
    obtain ⟨next, hnext, hadds⟩ := ih hrest hstep.standing
    refine ⟨next, hrun.trans hnext, ?_⟩
    rw [hR.extent_cons hb, Set.image_insert_eq, ← Set.singleton_union]
    exact hstep.trans hadds

/-- A round adds the products of the boundary with the seeds. -/
theorem sweep_spec (hR : Faithful R) (hmul : Computes R mul) {seeds boundary : List α}
    (hseeds : Standing R seeds) (hboundary : Standing R boundary) {found : Roster α}
    (hfound : Standing R found.toList) :
    ∃ next, sweep mul unlimited seeds boundary found = .ok (.going next) ∧
      Adds R found.toList next.toList
        (Set.image2 (· * ·) (extent R boundary) (extent R seeds)) := by
  induction boundary generalizing found with
  | nil => exact ⟨found, rfl, .refl hfound (by simp)⟩
  | cons a boundary ih =>
    obtain ⟨x, ha⟩ := hboundary a (by simp)
    obtain ⟨step, hstep, hadds⟩ := extendBy_spec hR hmul ha hseeds hfound
    obtain ⟨next, hnext, hadds'⟩ :=
      ih (hboundary.mono fun b hb => List.mem_cons_of_mem a hb) hadds.standing
    refine ⟨next, by rw [sweep, hstep, ok_bind]; exact hnext, ?_⟩
    rw [hR.extent_cons ha, Set.image2_insert_left]
    exact hadds.trans hadds'

variable [Finite M]

/-- From any state the rounds come to an end, and then the closure was found. -/
theorem Roster.rounds_spec (hR : Faithful R) (hmul : Computes R mul) {seeds : List α}
    (text : String) {start : Nat} {found : Roster α}
    (h : Explored (· * ·) R seeds start found.toList) :
    ∃ report last, found.rounds mul unlimited seeds text start = some ⟨report, .ok last⟩ ∧
      Explored (· * ·) R seeds last.toList.length last.toList := by
  -- the boundary moves on in each round, and there are at most as many values as elements of `M`
  induction hn : Nat.card M - start using Nat.strong_induction_on
    generalizing start found text with
  | _ n ih =>
    rw [Roster.rounds]
    by_cases hend : start = found.size
    · subst hend
      exact ⟨_, found, if_pos rfl, h⟩
    · obtain ⟨next, hnext, hadds⟩ :=
        sweep_spec hR hmul h.standing_seeds h.standing_drop h.standing
      have hsize := hR.size_le_card h.standing
      have hstart := h.start_le
      rw [Roster.length_toList] at hstart
      rw [if_neg hend, Roster.since_eq_drop, hnext]
      exact ih _ (by omega) _ (h.round (fun x hx s hs => mul_mem hx hs) hadds) rfl

/-- The closure of values that stand for elements of a finite semigroup is found. It begins with
the generators and stands for the subsemigroup that they generate. -/
theorem closure_spec (hR : Faithful R) (hmul : Computes R mul) {gens : Roster α}
    (hgens : Standing R gens.toList) :
    ∃ found, (closure gens mul unlimited).outcome = .ok found ∧
      gens.toList <+: found.toList ∧ Standing R found.toList ∧
      extent R found.toList = (Subsemigroup.closure (extent R gens.toList) : Set M) := by
  obtain ⟨report, found, hrun, h⟩ := Roster.rounds_spec hR hmul "" (.initial hgens)
  refine ⟨found, ?_, h.continues, h.standing, ?_⟩
  · rw [closure, hrun]
    rfl
  · exact h.within.antisymm (closure_subset_of_mul_right h.seeds_subset h.op_mem)

end FiniteGroups
