import FiniteGroups.Group.Basic
import FiniteGroups.Proofs.Closure
import FiniteGroups.Proofs.Key

/-!
# What generators span

Values that multiply like the elements of a finite semigroup (`Multiplies`) and can be elements of
a group have a closure. `Multiplies.spanned_spec` says what the search for it finds: a list that
begins with the distinct seeds and stands for the subsemigroup that the seeds generate, which in a
finite group is a subgroup (`Multiplies.spanned_subgroup`). Inverses do not enlarge it
(`Faithful.exists_seeds`). Without seeds the identity alone is spanned, and must be known then
(`spanned_nil`).
-/

namespace FiniteGroups

open FiniteGroup

variable {M : Type} {R : Value → M → Prop} {mul : Value → Value → Except Fault Value}

/-- The distinct values of a list stand for what the list stands for. -/
theorem Faithful.exists_distinct (hR : Faithful R)
    (hkeyed : ∀ ⦃a x⦄, R a x → ∃ k, a.keyed = .ok k ∧ R k x) {xs : List Value}
    (hxs : Standing R xs) :
    ∃ r, Value.distinct xs = .ok r ∧ Standing R r.toList ∧ extent R r.toList = extent R xs := by
  obtain ⟨ks, hks, hstand, hextent⟩ := hR.exists_images hR (φ := id) hxs fun a _ x hx => hkeyed hx
  refine ⟨Roster.ofList ks, by rw [Value.distinct, hks]; rfl,
    hstand.mono fun a => Roster.mem_of_mem_ofList, ?_⟩
  rw [hR.extent_ofList hstand, hextent, Set.image_id]

/-- The distinct keys of what the members of a list are sent to stand for the image. -/
theorem Faithful.exists_keyed_images {N : Type} {S : Value → N → Prop} (hR : Faithful R)
    (hS : Faithful S) (hkeyed : ∀ ⦃b y⦄, S b y → ∃ k, b.keyed = .ok k ∧ S k y)
    {f : Value → Except Fault Value} {φ : M → N} {xs : List Value} (hxs : Standing R xs)
    (h : ∀ a ∈ xs, ∀ x, R a x → ∃ b, f a = .ok b ∧ S b (φ x)) :
    ∃ ks, (xs.mapM fun a => do (← f a).keyed) = .ok ks ∧ Standing S (Roster.ofList ks).toList ∧
      extent S (Roster.ofList ks).toList = φ '' extent R xs := by
  obtain ⟨ks, hks, hstand, hextent⟩ := hR.exists_images hS (φ := φ) hxs
      (f := fun a => do (← f a).keyed) fun a ha x hx => by
    obtain ⟨b, hb, hbx⟩ := h a ha x hx
    rw [hb]
    exact hkeyed hbx
  exact ⟨ks, hks, hstand.mono fun k => Roster.mem_of_mem_ofList,
    (hS.extent_ofList hstand).trans hextent⟩

/-! ## Values that multiply like the elements of a semigroup -/

/-- The values that stand for elements of `M` can be elements of a group, and `mul` multiplies
them. -/
structure Multiplies [Mul M] (R : Value → M → Prop) (mul : Value → Value → Except Fault Value) :
    Prop extends Computes R mul where
  faithful : Faithful R
  keyed_eq : ∀ ⦃a x⦄, R a x → ∃ k, a.keyed = .ok k ∧ R k x

namespace Multiplies

/-- A value and its key stand for the same. -/
theorem stands_of_keyed [Mul M] (h : Multiplies R mul) {a k : Value} {x : M} (ha : R a x)
    (hk : a.keyed = .ok k) : R k x := by
  obtain ⟨k', hk', hkx⟩ := h.keyed_eq ha
  rwa [Except.ok.inj (hk.symm.trans hk')]

theorem keyedProduct [Mul M] (h : Multiplies R mul) : Computes R (keyedProduct mul) where
  mul_eq a b x y ha hb := by
    obtain ⟨c, hc, hz⟩ := h.mul_eq ha hb
    obtain ⟨k, hk, hkz⟩ := h.keyed_eq hz
    exact ⟨k, by rw [FiniteGroup.keyedProduct, hc, ok_bind, hk], hkz⟩

/-- What all products have, and keys keep, can be asked of the values. -/
theorem of_products [Mul M] (h : Multiplies R mul) {P : Value → M → Prop}
    (hmul : ∀ ⦃a b c x y⦄, R a x → R b y → mul a b = .ok c → P c (x * y))
    (hkey : ∀ ⦃a k x⦄, R a x → P a x → a.keyed = .ok k → P k x) :
    Multiplies (fun a x => R a x ∧ P a x) mul where
  mul_eq := by
    rintro a b x y ⟨ha, -⟩ ⟨hb, -⟩
    obtain ⟨c, hc, hxy⟩ := h.mul_eq ha hb
    exact ⟨c, hc, hxy, hmul ha hb hc⟩
  faithful _ _ _ _ ha hb := h.faithful ha.1 hb.1
  keyed_eq := by
    rintro a x ⟨ha, hP⟩
    obtain ⟨k, hk, hkx⟩ := h.keyed_eq ha
    exact ⟨k, hk, hkx, hkey ha hP hk⟩

theorem distinct_spec [Mul M] (h : Multiplies R mul) {xs : List Value} (hxs : Standing R xs) :
    ∃ r, Value.distinct xs = .ok r ∧ Standing R r.toList ∧ extent R r.toList = extent R xs :=
  h.faithful.exists_distinct h.keyed_eq hxs

/-- What is spanned begins with the distinct seeds and stands for the subsemigroup that the seeds
generate. -/
theorem spanned_spec [Semigroup M] [Finite M] (h : Multiplies R mul) {gens seed : List Value}
    {inv : Option (Value → Except Fault Value)} (hseed : seeds gens inv = .ok seed)
    (hne : seed ≠ []) (hstand : Standing R seed) (identity : Value) :
    ∃ first found : Roster Value, Value.distinct seed = .ok first ∧
      (spanned gens mul inv identity unlimited).outcome = .ok found.toList ∧
      first.toList <+: found.toList ∧ Standing R found.toList ∧
      extent R found.toList = (Subsemigroup.closure (extent R seed) : Set M) := by
  obtain ⟨first, hfirst, hstand', hextent⟩ := h.distinct_spec hstand
  obtain ⟨found, hfound, hcont, hall, heq⟩ := closure_spec h.faithful h.keyedProduct hstand'
  refine ⟨first, found, hfirst, ?_, hcont, hall, by rw [heq, hextent]⟩
  simp [spanned, hseed, hne, hfirst, hfound]

/-- In a group the subsemigroup is a subgroup. -/
theorem spanned_subgroup [Group M] [Finite M] (h : Multiplies R mul) {gens seed : List Value}
    {inv : Option (Value → Except Fault Value)} (hseed : seeds gens inv = .ok seed)
    (hne : seed ≠ []) (hstand : Standing R seed) (identity : Value) :
    ∃ found : Roster Value, (spanned gens mul inv identity unlimited).outcome = .ok found.toList ∧
      Standing R found.toList ∧
      extent R found.toList = (Subgroup.closure (extent R seed) : Set M) := by
  obtain ⟨-, found, -, hfound, -, hall, hextent⟩ := h.spanned_spec hseed hne hstand identity
  obtain ⟨a, ha⟩ := List.exists_mem_of_ne_nil seed hne
  obtain ⟨x, hx⟩ := hstand a ha
  exact ⟨found, hfound, hall, hextent.trans (coe_closure_eq ⟨x, a, ha, hx⟩)⟩

end Multiplies

/-! ## Values that are inverted like the elements of a group -/

section

variable [Group M] {inverse : Value → Except Fault Value} {gens : List Value}
  (hgens : ∀ g ∈ gens, ∃ x b, R g x ∧ inverse g = .ok b ∧ R b x⁻¹)
include hgens

theorem standing_of_inverts : Standing R gens := by
  intro g hg
  obtain ⟨x, -, hx, -⟩ := hgens g hg
  exact ⟨x, hx⟩

theorem Faithful.exists_inverses (hR : Faithful R) :
    ∃ inverses, gens.mapM inverse = .ok inverses ∧ Standing R inverses ∧
      extent R inverses = (·⁻¹) '' extent R gens :=
  hR.exists_images hR (standing_of_inverts hgens) fun g hg x hx => by
    obtain ⟨y, b, hy, hb, hby⟩ := hgens g hg
    exact ⟨b, hb, hR.unique hy hx ▸ hby⟩

/-- Inverses do not enlarge what values generate. -/
theorem Faithful.exists_seeds (hR : Faithful R) :
    ∃ seed, seeds gens (some inverse) = .ok seed ∧ gens ⊆ seed ∧ Standing R seed ∧
      Subgroup.closure (extent R seed) = Subgroup.closure (extent R gens) := by
  obtain ⟨inverses, hrun, hstand, hextent⟩ := hR.exists_inverses hgens
  refine ⟨gens ++ inverses, by rw [seeds, hrun]; rfl, List.subset_append_left _ _,
    (standing_of_inverts hgens).append hstand, ?_⟩
  rw [extent_append, hextent]
  refine le_antisymm ((Subgroup.closure_le _).2 (Set.union_subset Subgroup.subset_closure ?_))
    (Subgroup.closure_mono Set.subset_union_left)
  rintro _ ⟨x, hx, rfl⟩
  exact inv_mem (Subgroup.subset_closure hx)

end

/-- Nothing spans the identity, which must be known. -/
theorem spanned_of_seeds_nil {gens : List Value} {inv : Option (Value → Except Fault Value)}
    (hseed : seeds gens inv = .ok []) (mul : Value → Value → Except Fault Value)
    (identity : Value) :
    (spanned gens mul inv identity unlimited).outcome =
      match identity with
      | .none => .error .emptyClosure
      | e => .ok [e] := by
  cases identity <;> simp only [spanned, hseed, Report.outcome_bind, outcome_liftM, ok_bind] <;>
    rfl

theorem spanned_nil (mul : Value → Value → Except Fault Value)
    (inv : Option (Value → Except Fault Value)) (identity : Value) :
    (spanned [] mul inv identity unlimited).outcome =
      match identity with
      | .none => .error .emptyClosure
      | e => .ok [e] :=
  spanned_of_seeds_nil (by cases inv <;> rfl) mul identity

end FiniteGroups
