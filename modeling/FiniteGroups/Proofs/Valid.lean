import FiniteGroups.Proofs.Verification

/-!
# Valid groups

A `ValidGroup` is a finite group in which the check of the axioms finds nothing and whose operation
respects the equality of elements. Elements can be written in several ways, of which the list of
elements holds one; `ValidGroup.Domain` says which values are used as elements at all. They can be
compared and can be keys, and the operation respects `==` on them.

The elements in the list are a group in the sense of group theory (`ValidGroup.Element`), and a
valid group realizes it : a value stands for the element that it is equal to
(`ValidGroup.realizes`). Every group that realizes some group is valid (`ValidGroup.ofRealizes`).
-/

set_option linter.unusedSectionVars false

namespace FiniteGroups

/-- A finite group that satisfies the axioms and whose operation respects the equality of
elements. -/
structure ValidGroup extends FiniteGroup where
  intact : toFiniteGroup.Intact
  /-- The values that are used as elements. -/
  Domain : Value → Prop
  domain_of_mem : ∀ ⦃a⦄, a ∈ els → Domain a
  domain_identity : Domain identity
  domain_inverse : ∀ ⦃a b⦄, a ∈ els → inverse a = .ok b → Domain b
  inverse_keyed : ∀ ⦃a k⦄, a ∈ els → a.keyed = .ok k → inverse k = inverse a
  keyed_eq : ∀ ⦃a⦄, Domain a → ∃ k, a.keyed = .ok k ∧ Domain k
  equal_eq : ∀ ⦃a b⦄, Domain a → Domain b → a.equal b = .ok (a == b)
  mul_congr : ∀ ⦃a a' b b' c⦄, Domain a → Domain a' → Domain b → Domain b' →
    (a == a') = true → (b == b') = true → mul a b = .ok c →
    ∃ c', mul a' b' = .ok c' ∧ Domain c' ∧ (c == c') = true
  verified : toFiniteGroup.Verified

namespace ValidGroup

variable (G : ValidGroup)

/-- An element of the list. -/
@[ext] structure Element where
  val : Value
  mem : val ∈ G.els

/-- The value `a` is equal to the element `x`. -/
def Stands (a : Value) (x : G.Element) : Prop :=
  G.Domain a ∧ (a == x.1) = true

variable {G}

theorem stands_self (x : G.Element) : G.Stands x.1 x :=
  ⟨G.domain_of_mem x.2, BEq.rfl⟩

theorem faithful : Faithful G.Stands := by
  rintro a b x y ⟨-, hx⟩ ⟨-, hy⟩
  have hmem : ∀ z : G.Element, z.1 ∈ G.elements.toList := fun z => G.intact.els_eq ▸ z.2
  constructor
  · intro hab
    refine Element.ext (Roster.eq_of_beq (hmem x) (hmem y) ?_)
    exact BEq.trans (BEq.symm hx) (BEq.trans hab hy)
  · rintro rfl
    exact BEq.trans hx (BEq.symm hy)

theorem exists_of_contains {a : Value} (ha : G.Domain a) (h : G.contains a = .ok true) :
    ∃ x, G.Stands a x := by
  obtain ⟨k, hk, h⟩ := bind_eq_ok.1 h
  obtain ⟨k', hk', -⟩ := G.keyed_eq ha
  rw [Value.sought_of_keyed hk'] at hk
  cases hk
  obtain ⟨b, hb, hbk⟩ := Roster.contains_iff.1 (Except.ok.inj h)
  refine ⟨⟨b, G.intact.els_eq ▸ hb⟩, ha, ?_⟩
  exact BEq.symm (BEq.trans hbk (Value.beq_of_keyed hk'))

/-! ## The group of the elements -/

theorem laws : G.toFiniteGroup.Laws :=
  G.verified.laws G.intact.indexed

theorem exists_mul (x y : G.Element) : ∃ z : G.Element, ∃ c, G.mul x.1 y.1 = .ok c ∧
    G.Stands c z := by
  obtain ⟨c, hc, hcontains⟩ := G.laws.mul_mem x.1 x.2 y.1 y.2
  have hx := G.domain_of_mem x.2
  have hy := G.domain_of_mem y.2
  obtain ⟨c', hc', hdom, -⟩ := G.mul_congr hx hx hy hy BEq.rfl BEq.rfl hc
  rw [hc] at hc'
  obtain rfl := Except.ok.inj hc'
  obtain ⟨z, hz⟩ := exists_of_contains hdom hcontains
  exact ⟨z, c, hc, hz⟩

theorem exists_one : ∃ e, G.Stands G.identity e :=
  exists_of_contains G.domain_identity G.laws.contains_identity

theorem exists_inv (x : G.Element) : ∃ y : G.Element, ∃ b, G.inverse x.1 = .ok b ∧ b ≠ .none ∧
    G.Stands b y := by
  obtain ⟨b, hb, hne, hcontains, -⟩ := G.verified.exists_inverse x.2
  obtain ⟨y, hy⟩ := exists_of_contains (G.domain_inverse x.2 hb) hcontains
  exact ⟨y, b, hb, hne, hy⟩

/-- The element that the product of two elements is equal to. -/
noncomputable def product (x y : G.Element) : G.Element :=
  (exists_mul x y).choose

/-- The element that the identity is equal to. -/
noncomputable def unit : G.Element :=
  (exists_one (G := G)).choose

/-- The element that the inverse of an element is equal to. -/
noncomputable def invert (x : G.Element) : G.Element :=
  (exists_inv x).choose

theorem product_stands (x y : G.Element) :
    ∃ c, G.mul x.1 y.1 = .ok c ∧ G.Stands c (product x y) :=
  (exists_mul x y).choose_spec

theorem unit_stands : G.Stands G.identity (unit (G := G)) :=
  (exists_one (G := G)).choose_spec

theorem invert_stands (x : G.Element) :
    ∃ b, G.inverse x.1 = .ok b ∧ b ≠ .none ∧ G.Stands b (invert x) :=
  (exists_inv x).choose_spec

/-- Products of values that stand for elements stand for the products of these. -/
theorem exists_product {a b : Value} {x y : G.Element} (ha : G.Stands a x) (hb : G.Stands b y) :
    ∃ c, G.mul a b = .ok c ∧ G.Stands c (product x y) := by
  obtain ⟨c, hc, hxy⟩ := product_stands x y
  obtain ⟨c', hc', hdom, hcc'⟩ := G.mul_congr (G.domain_of_mem x.2) ha.1 (G.domain_of_mem y.2)
    hb.1 (BEq.symm ha.2) (BEq.symm hb.2) hc
  exact ⟨c', hc', hdom, BEq.trans (BEq.symm hcc') hxy.2⟩

/-- A product that is found equal to a value stands for what the value stands for. -/
theorem product_eq {a b c d : Value} {x y z : G.Element} (ha : G.Stands a x) (hb : G.Stands b y)
    (hc : G.mul a b = .ok c) (hd : G.Stands d z) (h : c.equal d = .ok true) :
    product x y = z := by
  obtain ⟨c', hc', hxy⟩ := exists_product ha hb
  rw [hc] at hc'
  obtain rfl := Except.ok.inj hc'
  rw [G.equal_eq hxy.1 hd.1] at h
  exact (faithful hxy hd).1 (Except.ok.inj h)

theorem gives_product (x y : G.Element) : G.Gives x.1 y.1 (product x y).1 := by
  obtain ⟨c, hc, hxy⟩ := product_stands x y
  exact ⟨(product x y).2, c, hc, BEq.symm hxy.2⟩

theorem product_assoc (x y z : G.Element) :
    product (product x y) z = product x (product y z) :=
  Element.ext (G.laws.mul_assoc x.2 y.2 z.2 (gives_product x y) (gives_product y z)
    (gives_product (product x y) z) (gives_product x (product y z)))

noncomputable instance : Group G.Element where
  mul := product
  one := unit
  inv := invert
  mul_assoc := product_assoc
  one_mul x := by
    obtain ⟨⟨b, hb, hequal⟩, -⟩ := G.laws.identity_mul x.1 x.2
    exact product_eq unit_stands (stands_self x) hb (stands_self x) hequal
  mul_one x := by
    obtain ⟨-, b, hb, hequal⟩ := G.laws.identity_mul x.1 x.2
    exact product_eq (stands_self x) unit_stands hb (stands_self x) hequal
  inv_mul_cancel x := by
    obtain ⟨b, hb, -, -, c, hc, hequal⟩ := G.laws.inverse_mul x.1 x.2
    obtain ⟨b', hb', -, hbx⟩ := invert_stands x
    rw [hb] at hb'
    obtain rfl := Except.ok.inj hb'
    exact product_eq hbx (stands_self x) hc unit_stands hequal

theorem realizes : G.toFiniteGroup.Realizes G.Stands where
  faithful := faithful
  mul_eq _ _ _ _ := exists_product
  keyed_eq a x ha := by
    obtain ⟨k, hk, hdom⟩ := G.keyed_eq ha.1
    exact ⟨k, hk, hdom, BEq.trans (Value.beq_of_keyed hk) ha.2⟩
  intact := G.intact
  equal_eq _ _ _ _ ha hb := G.equal_eq ha.1 hb.1
  standing a ha := ⟨⟨a, ha⟩, stands_self ⟨a, ha⟩⟩
  surjective x := ⟨x.1, x.2, stands_self x⟩
  one := unit_stands
  inverse_eq a x ha hax := by
    obtain ⟨b, hb, hne, hbx⟩ := invert_stands ⟨a, ha⟩
    obtain rfl : (⟨a, ha⟩ : G.Element) = x := faithful.unique (stands_self _) hax
    exact ⟨b, hb, hbx, hne⟩
  inverse_keyed := G.inverse_keyed

/-- The check of the axioms finds nothing in a valid group, however long its list of violations may
get. -/
theorem verify_eq {most : Value} {m : Int} (hmost : most.index = .ok m) :
    G.verify most = .ok ⟨[]⟩ :=
  realizes.verify_eq hmost

/-- A group that realizes a group is valid. Its elements may be written in all the ways that stand
for something. -/
def ofRealizes {M : Type} [Group M] {R : Value → M → Prop} {H : FiniteGroup}
    (hH : H.Realizes R) : ValidGroup where
  toFiniteGroup := H
  intact := hH.intact
  Domain a := ∃ x, R a x
  domain_of_mem := hH.standing
  domain_identity := ⟨1, hH.one⟩
  domain_inverse a b ha hb := by
    obtain ⟨x, hx⟩ := hH.standing a ha
    obtain ⟨b', hb', hbx, -⟩ := hH.inverse_eq ha hx
    rw [hb] at hb'
    obtain rfl := Except.ok.inj hb'
    exact ⟨_, hbx⟩
  inverse_keyed := hH.inverse_keyed
  keyed_eq := hH.exists_keyed
  equal_eq := by
    rintro a b ⟨x, hx⟩ ⟨y, hy⟩
    exact hH.equal_eq hx hy
  mul_congr := by
    rintro a a' b b' c ⟨x, hx⟩ ⟨x', hx'⟩ ⟨y, hy⟩ ⟨y', hy'⟩ ha hb hc
    obtain rfl := (hH.faithful hx hx').1 ha
    obtain rfl := (hH.faithful hy hy').1 hb
    obtain ⟨c₁, hc₁, hxy⟩ := hH.mul_eq hx hy
    obtain ⟨c', hc', hxy'⟩ := hH.mul_eq hx' hy'
    rw [hc] at hc₁
    obtain rfl := Except.ok.inj hc₁
    exact ⟨c', hc', ⟨_, hxy'⟩, (hH.faithful hxy hxy').2 rfl⟩
  verified := ⟨⟨[]⟩, hH.verify_eq rfl, rfl⟩

/-- What stands for something stands for an element. -/
theorem standing_of_realizes {M : Type} [Group M] {R : Value → M → Prop} {H : FiniteGroup}
    (hH : H.Realizes R) {xs : List Value} (hxs : Standing R xs) :
    Standing (ofRealizes hH).Stands xs := by
  intro a ha
  obtain ⟨x, hx⟩ := hxs a ha
  obtain ⟨b, hb, hbx⟩ := hH.surjective x
  exact ⟨⟨b, hb⟩, ⟨x, hx⟩, (hH.faithful hx hbx).2 rfl⟩

end ValidGroup

end FiniteGroups
