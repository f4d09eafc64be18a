import FiniteGroups.Proofs.Residues

/-!
# Products of seeds

An `AssociativeOperation` is what a closure may be computed of: values that can be elements of a
group, finitely many up to `==`, and an operation that stays among them, respects `==` and is
associative. Its values stand for the elements of a finite semigroup, so that the search for their
closure comes to an end. `AssociativeOperation.spanned_eq_products` says what it finds: a list
without repetitions, at whose beginning the distinct seeds stand, and whose members are the
products of seeds (`Product`) and nothing else.
-/

set_option linter.unusedSectionVars false

namespace FiniteGroups

open FiniteGroup

/-- A search without a limit is not stopped. -/
theorem stopAt_none : stopAt .none = unlimited :=
  rfl

/-- Generators have seeds among the values to which they and their inverses belong. -/
theorem exists_seeds_within {D : Value → Prop} {gens : List Value} (hgens : ∀ g ∈ gens, D g)
    (hne : gens ≠ []) {inv : Option (Value → Except Fault Value)}
    (hinv : ∀ f ∈ inv, ∀ g ∈ gens, ∃ h, f g = .ok h ∧ D h) :
    ∃ seed, seeds gens inv = .ok seed ∧ seed ≠ [] ∧ ∀ a ∈ seed, D a := by
  cases inv with
  | none => exact ⟨gens, rfl, hne, hgens⟩
  | some f =>
    obtain ⟨inverses, hrun, -⟩ :=
      exists_mapM (P := fun _ h => D h) _ fun g hg => hinv f rfl g hg
    refine ⟨gens ++ inverses, by rw [seeds, hrun]; rfl, by simp [hne], fun a ha => ?_⟩
    rcases List.mem_append.1 ha with ha | ha
    · exact hgens a ha
    · obtain ⟨g, hg, hga⟩ := exists_of_mem_mapM hrun ha
      obtain ⟨h, hgh, hdom⟩ := hinv f rfl g hg
      rw [hga] at hgh
      cases hgh
      exact hdom

/-! ## Associative operations on finite sets -/

/-- An associative operation on values that can be elements of a group. There are finitely many of
them up to `==`, which the operation respects. -/
structure AssociativeOperation where
  Domain : Value → Prop
  mul : Value → Value → Except Fault Value
  keyed_eq : ∀ ⦃a⦄, Domain a → ∃ k, a.keyed = .ok k ∧ Domain k
  mul_eq : ∀ ⦃a b⦄, Domain a → Domain b → ∃ c, mul a b = .ok c ∧ Domain c
  mul_congr : ∀ ⦃a a' b b' c c'⦄, Domain a → Domain a' → Domain b → Domain b' →
    (a == a') = true → (b == b') = true → mul a b = .ok c → mul a' b' = .ok c' →
    (c == c') = true
  assoc : ∀ ⦃a b c ab bc l r⦄, Domain a → Domain b → Domain c → mul a b = .ok ab →
    mul ab c = .ok l → mul b c = .ok bc → mul a bc = .ok r → (l == r) = true
  finite : ∃ us : List Value, ∀ a, Domain a → ∃ u ∈ us, (u == a) = true

/-- The values that are products of some seeds: the least set of values that contains the seeds
and is closed under the operation. -/
inductive Product (mul : Value → Value → Except Fault Value) (seed : List Value) : Value → Prop
  | seed {a : Value} : a ∈ seed → Product mul seed a
  | mul {a b c : Value} : Product mul seed a → Product mul seed b → mul a b = .ok c →
      Product mul seed c

namespace AssociativeOperation

variable (A : AssociativeOperation)

/-- Values in the domain are the same element when they are equal. -/
instance setoid : Setoid {a // A.Domain a} where
  r a b := (a.1 == b.1) = true
  iseqv := ⟨fun _ => BEq.rfl, BEq.symm, BEq.trans⟩

/-- What the values in the domain stand for. -/
def Element : Type :=
  Quotient A.setoid

/-- The value `a` stands for `x`. -/
def Stands (a : Value) (x : A.Element) : Prop :=
  ∃ h : A.Domain a, Quotient.mk A.setoid ⟨a, h⟩ = x

theorem stands_mk {a : Value} (h : A.Domain a) : A.Stands a (Quotient.mk A.setoid ⟨a, h⟩) :=
  ⟨h, rfl⟩

theorem faithful : Faithful A.Stands := by
  rintro a b x y ⟨ha, rfl⟩ ⟨hb, rfl⟩
  exact ⟨fun h => Quotient.sound h, fun h => Quotient.exact h⟩

/-- The product of two values in the domain. -/
noncomputable def product (a b : {a // A.Domain a}) : {a // A.Domain a} :=
  ⟨_, (A.mul_eq a.2 b.2).choose_spec.2⟩

theorem mul_eq_product (a b : {a // A.Domain a}) : A.mul a.1 b.1 = .ok (A.product a b).1 :=
  (A.mul_eq a.2 b.2).choose_spec.1

noncomputable instance : Semigroup A.Element where
  mul := Quotient.map₂ A.product fun a a' ha b b' hb =>
    A.mul_congr a.2 a'.2 b.2 b'.2 ha hb (A.mul_eq_product a b) (A.mul_eq_product a' b')
  mul_assoc := by
    rintro ⟨a⟩ ⟨b⟩ ⟨c⟩
    exact Quotient.sound (A.assoc a.2 b.2 c.2 (A.mul_eq_product a b)
      (A.mul_eq_product _ c) (A.mul_eq_product b c) (A.mul_eq_product a _))

instance : Finite A.Element := by
  obtain ⟨us, hus⟩ := A.finite
  have := us.finite_toSet.to_subtype
  choose u hu using fun a : {a // A.Domain a} => hus a.1 a.2
  refine Finite.of_injective (β := {v | v ∈ us}) (fun x => ⟨u x.out, (hu x.out).1⟩) ?_
  intro x y hxy
  have hout : (x.out.1 == y.out.1) = true := by
    refine BEq.trans (BEq.symm (hu x.out).2) ?_
    rw [Subtype.mk.inj hxy]
    exact (hu y.out).2
  rw [← x.out_eq, ← y.out_eq]
  exact Quotient.sound hout

theorem multiplies : Multiplies A.Stands A.mul where
  faithful := A.faithful
  mul_eq := by
    rintro a b x y ⟨ha, rfl⟩ ⟨hb, rfl⟩
    exact ⟨_, A.mul_eq_product ⟨a, ha⟩ ⟨b, hb⟩, A.stands_mk _⟩
  keyed_eq := by
    rintro a x ⟨ha, rfl⟩
    obtain ⟨k, hk, hdom⟩ := A.keyed_eq ha
    exact ⟨k, hk, hdom, Quotient.sound (Value.beq_of_keyed hk)⟩

/-- Products of values in the domain are in the domain. -/
theorem domain_of_product {seed : List Value} (hseed : ∀ a ∈ seed, A.Domain a) {a : Value}
    (h : Product A.mul seed a) : A.Domain a := by
  induction h with
  | seed ha => exact hseed _ ha
  | mul _ _ hc iha ihb =>
    obtain ⟨c', hc', hdom⟩ := A.mul_eq iha ihb
    rw [hc] at hc'
    cases hc'
    exact hdom

/-- The subsemigroup generated by seeds consists of what products of seeds stand for. -/
theorem mem_closure_iff {seed : List Value} (hseed : ∀ a ∈ seed, A.Domain a) {x : A.Element} :
    x ∈ Subsemigroup.closure (extent A.Stands seed) ↔
      ∃ a, Product A.mul seed a ∧ A.Stands a x := by
  constructor
  · intro hx
    induction hx using Subsemigroup.closure_induction with
    | mem x hx =>
      obtain ⟨a, ha, hax⟩ := hx
      exact ⟨a, .seed ha, hax⟩
    | mul x y _ _ ihx ihy =>
      obtain ⟨a, ha, hax⟩ := ihx
      obtain ⟨b, hb, hby⟩ := ihy
      obtain ⟨c, hc, hz⟩ := A.multiplies.mul_eq hax hby
      exact ⟨c, .mul ha hb hc, hz⟩
  · rintro ⟨a, ha, hax⟩
    induction ha generalizing x with
    | seed ha => exact Subsemigroup.subset_closure ⟨_, ha, hax⟩
    | mul ha hb hc iha ihb =>
      have hsa := A.stands_mk (A.domain_of_product hseed ha)
      have hsb := A.stands_mk (A.domain_of_product hseed hb)
      obtain ⟨c', hc', hz⟩ := A.multiplies.mul_eq hsa hsb
      rw [hc] at hc'
      cases hc'
      rw [A.faithful.unique hax hz]
      exact mul_mem (iha hsa) (ihb hsb)

/-- Generators have seeds in the domain. -/
theorem exists_seeds {gens : List Value} (hgens : ∀ g ∈ gens, A.Domain g) (hne : gens ≠ [])
    {inv : Option (Value → Except Fault Value)}
    (hinv : ∀ f ∈ inv, ∀ g ∈ gens, ∃ h, f g = .ok h ∧ A.Domain h) :
    ∃ seed, seeds gens inv = .ok seed ∧ seed ≠ [] ∧ ∀ a ∈ seed, A.Domain a :=
  exists_seeds_within hgens hne hinv

/-- The operation of a group that realizes some group, on the values that stand for something. -/
def ofRealizes {M : Type} [Group M] {R : Value → M → Prop} {G : FiniteGroup}
    (hG : G.Realizes R) : AssociativeOperation where
  Domain a := ∃ x, R a x
  mul := G.mul
  keyed_eq := hG.exists_keyed
  mul_eq := by
    rintro a b ⟨x, hx⟩ ⟨y, hy⟩
    obtain ⟨c, hc, hxy⟩ := hG.mul_eq hx hy
    exact ⟨c, hc, _, hxy⟩
  mul_congr := by
    rintro a a' b b' c c' ⟨x, hx⟩ ⟨x', hx'⟩ ⟨y, hy⟩ ⟨y', hy'⟩ ha hb hc hc'
    obtain rfl := (hG.faithful hx hx').1 ha
    obtain rfl := (hG.faithful hy hy').1 hb
    exact (hG.faithful (hG.mul_of_eq hx hy hc) (hG.mul_of_eq hx' hy' hc')).2 rfl
  assoc := by
    rintro a b c ab bc l r ⟨x, hx⟩ ⟨y, hy⟩ ⟨z, hz⟩ hab hl hbc hr
    refine (hG.faithful (hG.mul_of_eq (hG.mul_of_eq hx hy hab) hz hl)
      (hG.mul_of_eq hx (hG.mul_of_eq hy hz hbc) hr)).2 ?_
    exact mul_assoc x y z
  finite := by
    refine ⟨G.els, fun a => ?_⟩
    rintro ⟨x, hx⟩
    obtain ⟨b, hb, hbx⟩ := hG.surjective x
    exact ⟨b, hb, (hG.faithful hbx hx).2 rfl⟩

/-- What generators span: the identity alone, if there are none and it is known; otherwise a list
without repetitions that begins with the distinct seeds, the generators and their inverses, and
whose members are the products of seeds. -/
theorem spanned_eq_products {gens : List Value} (hgens : ∀ g ∈ gens, A.Domain g)
    {inv : Option (Value → Except Fault Value)}
    (hinv : ∀ f ∈ inv, ∀ g ∈ gens, ∃ h, f g = .ok h ∧ A.Domain h) (identity : Value) :
    (gens = [] → (spanned gens A.mul inv identity (stopAt .none)).outcome =
      match identity with
      | .none => .error .emptyClosure
      | e => .ok [e]) ∧
    (gens ≠ [] → ∃ seed first found, seeds gens inv = .ok seed ∧
      Value.distinct seed = .ok first ∧
      (spanned gens A.mul inv identity (stopAt .none)).outcome = .ok found ∧
      first.toList <+: found ∧
      (found.Pairwise fun a b => (a == b) = false) ∧
      ∀ a, (∃ b ∈ found, (b == a) = true) ↔ ∃ b, Product A.mul seed b ∧ (b == a) = true) := by
  rw [stopAt_none]
  refine ⟨?_, fun hne => ?_⟩
  · rintro rfl
    exact spanned_nil A.mul inv identity
  · obtain ⟨seed, hseed, hseedne, hdom⟩ := A.exists_seeds hgens hne hinv
    have hstand : Standing A.Stands seed := fun a ha => ⟨_, A.stands_mk (hdom a ha)⟩
    obtain ⟨first, found, hfirst, hfound, hcont, hall, hextent⟩ :=
      A.multiplies.spanned_spec hseed hseedne hstand identity
    refine ⟨seed, first, found.toList, hseed, hfirst, hfound, hcont, found.pairwise_toList,
      fun a => ⟨?_, ?_⟩⟩
    · rintro ⟨b, hb, hba⟩
      obtain ⟨x, hbx⟩ := hall b hb
      obtain ⟨c, hc, hcx⟩ := (A.mem_closure_iff hdom).1 (hextent.subset ⟨b, hb, hbx⟩)
      exact ⟨c, hc, BEq.trans ((A.faithful hcx hbx).2 rfl) hba⟩
    · rintro ⟨b, hb, hba⟩
      have hbx := A.stands_mk (A.domain_of_product hdom hb)
      obtain ⟨c, hc, hcx⟩ := hextent.superset ((A.mem_closure_iff hdom).2 ⟨b, hb, hbx⟩)
      exact ⟨c, hc, BEq.trans ((A.faithful hcx hbx).2 rfl) hba⟩

/-- What `1` and its inverse span among the residues modulo `3`. -/
theorem spanned_residue_one : ∃ seed first found,
    seeds [.int 1] (some (residues 3).inverse) = .ok seed ∧
    Value.distinct seed = .ok first ∧
    (spanned [.int 1] (residues 3).mul (some (residues 3).inverse) (.int 0)
      (stopAt .none)).outcome = .ok found ∧
    first.toList <+: found ∧
    (found.Pairwise fun a b => (a == b) = false) ∧
    ∀ a, (∃ b ∈ found, (b == a) = true) ↔
      ∃ b, Product (residues 3).mul seed b ∧ (b == a) = true := by
  have hG := realizes_residues (n := 3) (by decide)
  have hone : Residue 3 (.int 1) (Multiplicative.ofAdd 1) :=
    ⟨1, by decide, by decide, rfl, rfl⟩
  have hgens : ∀ g ∈ [Value.int 1], (ofRealizes hG).Domain g := by
    intro g hg
    rw [List.mem_singleton.1 hg]
    exact ⟨_, hone⟩
  have hinv : ∀ f ∈ some (residues 3).inverse, ∀ g ∈ [Value.int 1],
      ∃ h, f g = .ok h ∧ (ofRealizes hG).Domain h := by
    rintro f ⟨⟩ g hg
    rw [List.mem_singleton.1 hg]
    exact ⟨_, inverse_residues (by decide) 1, _, residue_fmod (by decide) (-1)⟩
  exact ((ofRealizes hG).spanned_eq_products hgens hinv _).2 (by simp)

end AssociativeOperation

end FiniteGroups
