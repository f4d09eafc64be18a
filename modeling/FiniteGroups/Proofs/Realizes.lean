import FiniteGroups.Proofs.Intact
import FiniteGroups.Proofs.Span

/-!
# Groups that realize a group

A finite group as data says how values are multiplied and inverted. It realizes a group `M` if
every element of `M` is the element that some of its values stand for, equality, product, inverse
and identity of values being those of `M` (`FiniteGroup.Realizes`). The values that stand for
something need not be elements of the data as they are written there: `1.0` may stand for what
`1` stands for.

For a group that realizes `M` no computation fails, and each result stands for what group theory
says. The closure of generators is the subgroup that they generate (`Realizes.spanned_spec`), and
a set of elements becomes a group that `Consists` of what the set stands for
(`Realizes.subgroup_spec`).

Most searches do not ask for inverses. What they find depends on products only, so that it is said
of every group that `Carries` `M`, which a group within a group does even if it does not invert its
elements as they are written.
-/

set_option linter.unusedSectionVars false

namespace FiniteGroups

namespace FiniteGroup

variable {M : Type} [Group M] {R : Value → M → Prop} {G : FiniteGroup}

/-- Values stand for the elements of `M` in such a way that `G` computes in `M`. -/
structure Realizes (G : FiniteGroup) (R : Value → M → Prop) : Prop
    extends Multiplies R G.mul where
  intact : G.Intact
  equal_eq : ∀ ⦃a b x y⦄, R a x → R b y → a.equal b = .ok (a == b)
  standing : Standing R G.els
  surjective : ∀ x, ∃ a ∈ G.els, R a x
  one : R G.identity 1
  /-- An inverse must not look like one that was not found. -/
  inverse_eq : ∀ ⦃a x⦄, a ∈ G.els → R a x → ∃ b, G.inverse a = .ok b ∧ R b x⁻¹ ∧ b ≠ .none
  inverse_keyed : ∀ ⦃a k⦄, a ∈ G.els → a.keyed = .ok k → G.inverse k = G.inverse a

/-- The value is inverted as what it stands for. Elements are, and their keys. -/
def Invertible (G : FiniteGroup) (R : Value → M → Prop) (a : Value) : Prop :=
  ∃ x b, R a x ∧ G.inverse a = .ok b ∧ R b x⁻¹

/-- The elements of `H` stand for those of `T`. -/
structure Consists (R : Value → M → Prop) (H : FiniteGroup) (T : Set M) : Prop where
  els_eq : H.els = H.elements.toList
  standing : Standing R H.elements.toList
  extent_eq : extent R H.elements.toList = T

/-- `K` is a group of the elements of `T` : it multiplies values as they multiply in `M`, and it
inverts its elements. -/
structure Forms (R : Value → M → Prop) (K : FiniteGroup) (T : Subgroup M) : Prop
    extends Consists R K T, Multiplies R K.mul where
  invertible : ∀ a ∈ K.els, K.Invertible R a

/-- `G` consists of all of `M` and multiplies values as they multiply in `M`. Nothing is known of
its inverses. -/
structure Carries (G : FiniteGroup) (R : Value → M → Prop) : Prop
    extends Consists R G Set.univ, Multiplies R G.mul where
  equal_eq : ∀ ⦃a b x y⦄, R a x → R b y → a.equal b = .ok (a == b)
  one : R G.identity 1

/-! ## An identity in a list -/

section

variable {els : List Value} {e k : Value}

theorem exists_occurs (h : ∀ a ∈ els, ∃ answer, a.equal e = .ok answer) :
    ∃ answer, Value.occurs els e = .ok answer := by
  refine exists_anyM fun a ha => ?_
  rw [Value.coincide]
  split
  · exact ⟨true, rfl⟩
  · exact h a ha

/-- An identity that can be compared and can be a key is not refused. -/
theorem requireIdentity_of_equal (h : ∀ a ∈ els, ∃ answer, a.equal e = .ok answer)
    (hk : e.keyed = .ok k) : requireIdentity e els = .ok () := by
  obtain ⟨answer, hanswer⟩ := exists_occurs h
  rw [requireIdentity, hanswer, ok_bind, hk]
  cases answer <;> rfl

end

namespace Consists

variable {H K : FiniteGroup} {S T : Set M}

theorem order_eq (hR : Faithful R) (h : Consists R H T) : H.order = T.ncard := by
  rw [order, h.els_eq, Roster.length_toList, ← hR.ncard_extent h.standing, h.extent_eq]

theorem sameSet_iff (hR : Faithful R) (hH : Consists R H S) (hK : Consists R K T) :
    H.elements.sameSet K.elements = true ↔ S = T := by
  rw [hR.sameSet_iff hH.standing hK.standing, hH.extent_eq, hK.extent_eq]

theorem subset_iff (hR : Faithful R) (hH : Consists R H S) (hK : Consists R K T) :
    H.elements.subset K.elements = true ↔ S ⊆ T := by
  rw [hR.subset_iff hH.standing hK.standing, hH.extent_eq, hK.extent_eq]

theorem standing_els (h : Consists R H T) : Standing R H.els :=
  h.els_eq ▸ h.standing

theorem extent_els (h : Consists R H T) : extent R H.els = T :=
  h.els_eq ▸ h.extent_eq

theorem mem_iff (h : Consists R H T) {x : M} : x ∈ T ↔ ∃ a ∈ H.els, R a x := by
  rw [← h.extent_eq, ← h.els_eq]
  rfl

/-- Elements that stand for the same are one. -/
theorem eq_of_stands (hR : Faithful R) (h : Consists R H T) {a b : Value} (ha : a ∈ H.els)
    (hb : b ∈ H.els) {x : M} (hax : R a x) (hbx : R b x) : a = b := by
  rw [h.els_eq] at ha hb
  exact Roster.eq_of_beq ha hb ((hR hax hbx).2 rfl)

end Consists

namespace Carries

variable (hG : G.Carries R)
include hG

theorem finite : Finite M := by
  have := hG.faithful.finite_extent hG.standing
  rw [hG.extent_eq] at this
  exact Set.finite_univ_iff.1 this

theorem order_eq : G.order = Nat.card M := by
  rw [hG.toConsists.order_eq hG.faithful, Set.ncard_univ]

theorem requireIdentity_eq {els : List Value} (hels : Standing R els) :
    requireIdentity G.identity els = .ok () := by
  obtain ⟨k, hk, -⟩ := hG.keyed_eq hG.one
  refine requireIdentity_of_equal (fun a ha => ?_) hk
  obtain ⟨x, hx⟩ := hels a ha
  exact ⟨_, hG.equal_eq hx hG.one⟩

/-- A set of elements as a group consists of what the set stands for. -/
theorem consists_subgroupOf {els : Roster Value} (hels : Standing R els.toList)
    (gens name : Value) : Consists R (G.subgroupOf els gens name) (extent R els.toList) := by
  obtain ⟨hstand, hextent⟩ := hG.faithful.extent_promote hels hG.one
  exact ⟨rfl, hstand, hextent⟩

theorem subgroup_spec {els : List Value} (hels : Standing R els) (gens name : Value) :
    ∃ r : Roster Value, G.subgroup els gens name = .ok (G.subgroupOf r gens name) ∧
      Standing R r.toList ∧ extent R r.toList = extent R els := by
  obtain ⟨r, hr, hstand, hextent⟩ := hG.distinct_spec hels
  refine ⟨r, ?_, hstand, hextent⟩
  rw [subgroup, hr, ok_bind, hG.requireIdentity_eq hstand]
  rfl

end Carries

namespace Realizes

variable (hG : G.Realizes R)
include hG

theorem extent_els : extent R G.els = Set.univ :=
  Set.eq_univ_of_forall hG.surjective

theorem consists : Consists R G Set.univ where
  els_eq := hG.intact.els_eq
  standing := by
    rw [← hG.intact.els_eq]
    exact hG.standing
  extent_eq := by
    rw [← hG.intact.els_eq]
    exact hG.extent_els

theorem carries : G.Carries R :=
  { hG.consists, hG with }

theorem finite : Finite M :=
  hG.carries.finite

theorem order_eq : G.order = Nat.card M :=
  hG.carries.order_eq

theorem order_pos : 0 < G.order := by
  have := hG.finite
  rw [hG.order_eq]
  exact Nat.card_pos

/-- Elements that stand for the same are one. -/
theorem eq_of_stands {a b : Value} (ha : a ∈ G.els) (hb : b ∈ G.els) {x : M} (hax : R a x)
    (hbx : R b x) : a = b :=
  hG.consists.eq_of_stands hG.faithful ha hb hax hbx

theorem pairwise_els : G.els.Pairwise fun a b => (a == b) = false :=
  hG.intact.els_eq ▸ G.elements.pairwise_toList

theorem nodup_els : G.els.Nodup :=
  hG.intact.els_eq ▸ G.elements.nodup_toList

/-- What stands for something has a key that does. -/
theorem exists_keyed : ∀ ⦃a⦄, (∃ x, R a x) → ∃ k, a.keyed = .ok k ∧ ∃ x, R k x := by
  rintro a ⟨x, hx⟩
  obtain ⟨k, hk, hkx⟩ := hG.keyed_eq hx
  exact ⟨k, hk, x, hkx⟩

/-- A value that stands for something is looked for as one that stands for the same. -/
theorem sought_eq {a : Value} {x : M} (ha : R a x) : ∃ k, a.sought = .ok k ∧ R k x := by
  obtain ⟨k, hk, hkx⟩ := hG.keyed_eq ha
  exact ⟨k, Value.sought_of_keyed hk, hkx⟩

/-- Whether what stands for something is an element of a group that consists of `T`. -/
theorem contains_spec {H : FiniteGroup} {T : Set M} (hH : Consists R H T) {a : Value} {x : M}
    (ha : R a x) : ∃ answer, H.contains a = .ok answer ∧ (answer = true ↔ x ∈ T) := by
  obtain ⟨k, hk, hkx⟩ := hG.sought_eq ha
  refine ⟨_, by rw [contains, hk, ok_bind, pure_eq_ok], ?_⟩
  rw [hG.faithful.contains_iff hH.standing hkx, hH.extent_eq]

theorem contains_iff {H : FiniteGroup} {T : Set M} (hH : Consists R H T) {a : Value} {x : M}
    (ha : R a x) : H.contains a = .ok true ↔ x ∈ T :=
  eq_ok_true_iff (hG.contains_spec hH ha)

theorem contains_eq_false_iff {H : FiniteGroup} {T : Set M} (hH : Consists R H T) {a : Value}
    {x : M} (ha : R a x) : H.contains a = .ok false ↔ x ∉ T := by
  obtain ⟨answer, hanswer, hiff⟩ := hG.contains_spec hH ha
  rw [hanswer, Except.ok.injEq, ← Bool.not_eq_true, hiff]

theorem contains_eq {a : Value} {x : M} (ha : R a x) : G.contains a = .ok true :=
  (hG.contains_iff hG.consists ha).2 (Set.mem_univ x)

/-- What stands for something is admitted as a generator. -/
theorem requireMembers_eq {gens : List Value} (hgens : Standing R gens) :
    gens.forM (m := Except Fault) G.requireMember = .ok () := by
  refine forM_eq_ok fun g hg => ?_
  obtain ⟨x, hx⟩ := hgens g hg
  rw [requireMember, hG.contains_eq hx]
  rfl

/-- A group that is read from its value realizes what the group does. -/
theorem reread : G.reread.Realizes R :=
  { hG with intact := hG.intact.reread }

/-- What stands for something has the place of the element that stands for it. -/
theorem position_spec {a : Value} {x : M} (ha : R a x) :
    ∃ p, ∃ hp : p < G.els.length, G.position a = .ok (Value.ofNat p) ∧ R G.els[p] x := by
  obtain ⟨k, hk, hkx⟩ := hG.keyed_eq ha
  obtain ⟨b, hb, hbx⟩ := hG.surjective x
  rw [hG.intact.els_eq] at hb
  obtain ⟨p, hp, rfl⟩ := List.getElem_of_mem hb
  have hfind := Roster.find?_eq_some_iff.2 ⟨hp, (hG.faithful hbx hkx).2 rfl⟩
  refine ⟨p, hG.intact.els_eq ▸ hp, ?_, ?_⟩
  · rw [position, hG.intact.position_eq, hk, ok_bind, hfind]
    rfl
  · rwa [List.getElem_of_eq hG.intact.els_eq]

/-- Two values that stand for something are found equal exactly if they stand for the same. -/
theorem equal_iff {a b : Value} {x y : M} (ha : R a x) (hb : R b y) :
    a.equal b = .ok true ↔ x = y := by
  rw [hG.equal_eq ha hb, Except.ok.injEq, hG.faithful ha hb]

theorem equal_eq_false_iff {a b : Value} {x y : M} (ha : R a x) (hb : R b y) :
    a.equal b = .ok false ↔ x ≠ y := by
  rw [hG.equal_eq ha hb, Except.ok.injEq, ← Bool.not_eq_true, hG.faithful ha hb]

/-- What the listed elements other than the identity satisfy, all members of `M` but `1` do. -/
theorem forall_ne_identity_iff {p : Value → Prop} {P : M → Prop}
    (h : ∀ ⦃a x⦄, a ∈ G.els → R a x → a.equal G.identity = .ok false → (p a ↔ P x)) :
    (∀ a ∈ G.els, a.equal G.identity = .ok false → p a) ↔ ∀ x, x ≠ 1 → P x := by
  constructor
  · intro hall x hx
    obtain ⟨a, ha, hax⟩ := hG.surjective x
    have hne := (hG.equal_eq_false_iff hax hG.one).2 hx
    exact (h ha hax hne).1 (hall a ha hne)
  · intro hall a ha hne
    obtain ⟨x, hax⟩ := hG.standing a ha
    exact (h ha hax hne).2 (hall x ((hG.equal_eq_false_iff hax hG.one).1 hne))

/-- The identity stands in front of the elements as it is written. -/
theorem head?_els : G.els.head? = some G.identity := by
  refine hG.intact.head?_eq ((hG.faithful.contains_iff hG.consists.standing hG.one).2 ?_)
  rw [hG.consists.extent_eq]
  exact Set.mem_univ 1

theorem identity_mem : G.identity ∈ G.els :=
  List.mem_of_mem_head? hG.head?_els

/-! ## Subgroups -/

theorem consists_subgroupOf {els : Roster Value} (hels : Standing R els.toList)
    (gens name : Value) : Consists R (G.subgroupOf els gens name) (extent R els.toList) :=
  hG.carries.consists_subgroupOf hels gens name

theorem subgroup_spec {els : List Value} (hels : Standing R els) (gens name : Value) :
    ∃ r : Roster Value, G.subgroup els gens name = .ok (G.subgroupOf r gens name) ∧
      Standing R r.toList ∧ extent R r.toList = extent R els :=
  hG.carries.subgroup_spec hels gens name

/-! ## Closure -/

/-- The products of some elements are those of the subgroup that they generate. -/
theorem spanned_spec {gens seed : List Value} {inv : Option (Value → Except Fault Value)}
    (hseed : seeds gens inv = .ok seed) (hne : seed ≠ []) (hstand : Standing R seed)
    (identity : Value) :
    ∃ found : Roster Value, (spanned gens G.mul inv identity unlimited).outcome = .ok found.toList ∧
      Standing R found.toList ∧
      extent R found.toList = (Subgroup.closure (extent R seed) : Set M) := by
  have := hG.finite
  exact hG.toMultiplies.spanned_subgroup hseed hne hstand identity

theorem invertible_of_keyed {a k : Value} (ha : a ∈ G.els) (hk : a.keyed = .ok k) :
    G.Invertible R k := by
  obtain ⟨x, hx⟩ := hG.standing a ha
  obtain ⟨b, hb, hbx, -⟩ := hG.inverse_eq ha hx
  exact ⟨x, b, hG.stands_of_keyed hx hk, (hG.inverse_keyed ha hk).trans hb, hbx⟩

theorem invertible_of_mem {a : Value} (ha : a ∈ G.els) : G.Invertible R a := by
  obtain ⟨x, hx⟩ := hG.standing a ha
  obtain ⟨b, hb, hbx, -⟩ := hG.inverse_eq ha hx
  exact ⟨x, b, hx, hb, hbx⟩

/-- Elements span what they generate together with what is taken for their inverses. -/
theorem span_of_seeds {gens seed : List Value} (hgens : Standing R gens)
    (hseed : seeds gens (some G.inverse) = .ok seed) (hstand : Standing R seed)
    (hne : seed ≠ []) :
    ∃ H, G.span gens = .ok H ∧ Consists R H (Subgroup.closure (extent R seed) : Set M) := by
  obtain ⟨found, hfound, hall, hextent⟩ := hG.spanned_spec hseed hne hstand G.identity
  obtain ⟨r, hr, hrstand, hrextent⟩ := hG.subgroup_spec hall (.list 0 gens) .none
  refine ⟨G.subgroupOf r (.list 0 gens) .none, ?_, ?_⟩
  · simp [span, generated, hG.requireMembers_eq hgens, hfound, hr]
  · rw [← hextent, ← hrextent]
    exact hG.consists_subgroupOf hrstand _ _

/-- Elements that are inverted span the subgroup that they generate. -/
theorem span_spec {gens : List Value} (hgens : ∀ g ∈ gens, G.Invertible R g)
    (hne : gens ≠ []) :
    ∃ H, G.span gens = .ok H ∧ Consists R H (Subgroup.closure (extent R gens) : Set M) := by
  obtain ⟨seed, hseed, hsub, hstand, hclosure⟩ := hG.faithful.exists_seeds hgens
  rw [← hclosure]
  exact hG.span_of_seeds (standing_of_inverts hgens) hseed hstand
    fun h => hne (List.subset_nil.1 (h ▸ hsub))

/-- An element that is inverted spans what it generates. -/
theorem span_singleton_spec {a : Value} {x : M} (ha : R a x) (hinv : G.Invertible R a) :
    ∃ H, G.span [a] = .ok H ∧ Consists R H (Subgroup.closure {x} : Set M) := by
  obtain ⟨H, hH, hconsists⟩ := hG.span_spec (by simpa using hinv) (List.cons_ne_nil a [])
  rw [hG.faithful.extent_singleton ha] at hconsists
  exact ⟨H, hH, hconsists⟩

/-- Elements that make up a subgroup span it. -/
theorem span_of_subgroup {gens : List Value} (hgens : ∀ g ∈ gens, G.Invertible R g)
    {K : Subgroup M} (hK : extent R gens = K) :
    ∃ H, G.span gens = .ok H ∧ Consists R H (K : Set M) := by
  have hne : gens ≠ [] := by
    obtain ⟨a, ha, -⟩ := hK.superset K.one_mem
    exact List.ne_nil_of_mem ha
  obtain ⟨H, hH, hconsists⟩ := hG.span_spec hgens hne
  rw [hK, Subgroup.closure_eq] at hconsists
  exact ⟨H, hH, hconsists⟩

theorem forms : Forms R G (⊤ : Subgroup M) where
  toConsists := hG.consists
  toMultiplies := hG.toMultiplies
  invertible _ := hG.invertible_of_mem

/-- Of elements that make up a subgroup only their own keys are left beside their inverses. -/
theorem distinct_seeds_spec {gens : List Value} (hgens : gens ⊆ G.els) {K : Subgroup M}
    (hK : extent R gens = K) :
    ∃ seed first, seeds gens (some G.inverse) = .ok seed ∧ Standing R seed ∧
      extent R seed = K ∧ Value.distinct seed = .ok first ∧
      ∀ k ∈ first.toList, ∃ g ∈ gens, g.keyed = .ok k := by
  have hinvert : ∀ g ∈ gens, ∃ x b, R g x ∧ G.inverse g = .ok b ∧ R b x⁻¹ := fun g hg =>
    hG.invertible_of_mem (hgens hg)
  have hstand := standing_of_inverts hinvert
  obtain ⟨inverses, hrun, hstand', hextent⟩ := hG.faithful.exists_inverses hinvert
  obtain ⟨keys, hkeys, hkeyed⟩ := exists_mapM (P := fun a k => a.keyed = .ok k ∧ ∃ x, R a x ∧ R k x)
      gens fun g hg => by
    obtain ⟨x, hx⟩ := hstand g hg
    obtain ⟨k, hk, hkx⟩ := hG.keyed_eq hx
    exact ⟨k, hk, hk, x, hx, hkx⟩
  obtain ⟨keys', hkeys', hkeyed'⟩ := exists_mapM (P := fun a k => ∃ x, R a x ∧ R k x)
      inverses fun b hb => by
    obtain ⟨y, hy⟩ := hstand' b hb
    obtain ⟨k, hk, hky⟩ := hG.keyed_eq hy
    exact ⟨k, hk, y, hy, hky⟩
  have hinside : extent R inverses ⊆ extent R gens := by
    rw [hextent, hK]
    rintro _ ⟨x, hx, rfl⟩
    exact inv_mem hx
  -- the key of an inverse is equal to that of the element that it stands for
  have hold : ∀ l ∈ keys', ∃ k ∈ keys, (k == l) = true := by
    intro l hl
    obtain ⟨b, hb, y, hby, hly⟩ := exists_of_forall₂ hkeyed' hl
    obtain ⟨g, hg, hgy⟩ := hinside ⟨b, hb, hby⟩
    obtain ⟨k, hk, -, x, hgx, hkx⟩ := exists_of_forall₂ hkeyed.flip hg
    exact ⟨k, hk, (hG.faithful hkx hly).2 (hG.faithful.unique hgx hgy)⟩
  refine ⟨gens ++ inverses, .ofList keys, by rw [seeds, hrun]; rfl, hstand.append hstand',
    ?_, ?_, fun k hk => ?_⟩
  · rw [extent_append, Set.union_eq_left.2 hinside, hK]
  · rw [Value.distinct, List.mapM_append, hkeys, ok_bind, hkeys', ok_bind, pure_eq_ok, ok_bind,
      Roster.ofList_append hold]
    rfl
  · obtain ⟨g, hg, hk, -⟩ := exists_of_forall₂ hkeyed (Roster.mem_of_mem_ofList hk)
    exact ⟨g, hg, hk⟩

/-- What some elements span when they make up a subgroup : their own keys, since the closure adds
nothing to them. -/
theorem spanned_of_subgroup {gens : List Value} (hgens : gens ⊆ G.els) {K : Subgroup M}
    (hK : extent R gens = K) :
    ∃ first : Roster Value, (spanned gens G.mul (some G.inverse) G.identity unlimited).outcome =
      .ok first.toList ∧ ∀ k ∈ first.toList, ∃ g ∈ gens, g.keyed = .ok k := by
  have := hG.finite
  obtain ⟨seed, first, hseed, hstand, hextent, hfirst, hkeys⟩ := hG.distinct_seeds_spec hgens hK
  have hne : seed ≠ [] := by
    obtain ⟨a, ha, -⟩ := hextent.superset K.one_mem
    exact List.ne_nil_of_mem ha
  obtain ⟨first', found, hfirst', hfound, hbegins, hall, hspan⟩ :=
    hG.toMultiplies.spanned_spec hseed hne hstand G.identity
  obtain ⟨r, hr, hrstand, hrextent⟩ := hG.distinct_spec hstand
  obtain rfl := Except.ok.inj (hfirst.symm.trans hfirst')
  obtain rfl := Except.ok.inj (hfirst.symm.trans hr)
  have hclosed : (Subsemigroup.closure (extent R seed) : Set M) = extent R seed := by
    rw [coe_closure_eq ⟨1, hextent.superset K.one_mem⟩, hextent, Subgroup.closure_eq]
  -- what is found is as large as what it begins with
  have hsame : first.toList = found.toList := by
    refine List.IsPrefix.eq_of_length hbegins ?_
    rw [Roster.length_toList, Roster.length_toList, ← hG.faithful.ncard_extent hrstand,
      ← hG.faithful.ncard_extent hall, hspan, hclosed, hrextent]
  exact ⟨first, hsame ▸ hfound, hkeys⟩

/-- Elements that make up a subgroup span a group of the elements of the subgroup. -/
theorem forms_span {gens : List Value} (hgens : gens ⊆ G.els) {K : Subgroup M}
    (hK : extent R gens = K) : ∃ H, G.span gens = .ok H ∧ Forms R H K := by
  obtain ⟨H, hH, hconsists⟩ :=
    hG.span_of_subgroup (fun g hg => hG.invertible_of_mem (hgens hg)) hK
  obtain ⟨first, hfirst, hkeys⟩ := hG.spanned_of_subgroup hgens hK
  obtain ⟨found, r, hfound, hr, rfl⟩ := exists_of_span hH
  obtain rfl := Except.ok.inj (hfirst.symm.trans hfound)
  refine ⟨_, hH, hconsists, hG.toMultiplies, fun a ha => ?_⟩
  rcases Roster.mem_of_mem_promote ha with rfl | ha
  · exact hG.invertible_of_mem hG.identity_mem
  · -- a key stays as it is when it becomes a member
    obtain ⟨k, hk, hka⟩ := Value.exists_of_mem_distinct hr ha
    obtain ⟨g, hg, hgk⟩ := hkeys k hk
    obtain rfl := Except.ok.inj ((Value.keyed_of_keyed g hgk).symm.trans hka)
    exact hG.invertible_of_keyed (hgens hg) hgk

end Realizes

end FiniteGroup

end FiniteGroups
