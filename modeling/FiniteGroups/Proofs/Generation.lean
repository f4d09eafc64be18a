import FiniteGroups.Group.Family
import FiniteGroups.Proofs.Numbers
import FiniteGroups.Proofs.Verification

/-!
# Groups that are generated

An operation, an inverse and an identity that compute in a finite group `M` (`Recipe`) make any
generators of `M` generate all of `M` : the closure finds a group that realizes `M`
(`Recipe.generate_spec`). If there is one value for each element (`Writing`), the elements of the
group are exactly the values that are written for those of `M`. A family of this kind builds its
group, unless its name cannot be written (`Family.Describes.build_spec`).
-/

namespace FiniteGroups

open FiniteGroup

variable {M : Type} [Group M] {R : Value → M → Prop} {op inv identity : Value}

/-! ## The closure as a group -/

section

variable (hmul : Multiplies R op.meaning.call₂)
  (hequal : ∀ ⦃a b x y⦄, R a x → R b y → a.equal b = .ok (a == b)) (hone : R identity 1)
  (hne : identity ≠ .none)
include hmul hequal hone hne

omit hequal in
/-- Generators span everything. If there are none, the identity is everything. -/
theorem exists_spanned [Finite M] {gens seed : List Value}
    {inverse : Option (Value → Except Fault Value)} (hseed : seeds gens inverse = .ok seed)
    (hstand : Standing R seed) (hall : Subgroup.closure (extent R seed) = ⊤) :
    ∃ found : List Value,
      (spanned gens op.meaning.call₂ inverse identity unlimited).outcome = .ok found ∧
        Standing R found ∧ extent R found = Set.univ := by
  obtain rfl | hseeds := eq_or_ne seed []
  · have htrivial : ∀ y : M, y = 1 := by
      simpa [Subgroup.eq_top_iff', Subgroup.mem_bot] using hall
    refine ⟨[identity], ?_, standing_singleton hone, ?_⟩
    · rw [spanned_of_seeds_nil hseed]
      cases identity <;> first | rfl | exact absurd rfl hne
    · rw [hmul.faithful.extent_singleton hone]
      exact Set.eq_univ_of_forall htrivial
  · obtain ⟨found, hfound, hstand, hextent⟩ := hmul.spanned_subgroup hseed hseeds hstand identity
    exact ⟨found.toList, hfound, hstand, by rw [hextent, hall, Subgroup.coe_top]⟩

/-- What generators generate is a list of everything, whatever is taken for the inverses of what is
found on the way. -/
theorem exists_generate [Finite M] (hinv : inv ≠ .none) {gens seed : List Value}
    (hseed : seeds gens (some fun a => inv.meaning.call [a]) = .ok seed)
    (hstand : Standing R seed) (hall : Subgroup.closure (extent R seed) = ⊤) (name : Value) :
    ∃ els : Roster Value,
      (generate gens op identity inv name).outcome
        = .ok (ofRoster els op identity inv (.list 0 gens) name) ∧
      Standing R els.toList ∧ extent R els.toList = Set.univ ∧
      ∀ a ∈ els.toList, a.keyed = .ok a := by
  obtain ⟨found, hfound, hstand, hextent⟩ :=
    exists_spanned hmul hone hne hseed hstand hall
  have hcompare : ∀ els, Standing R els → ∀ a ∈ els, ∃ answer, a.equal identity = .ok answer := by
    intro els hels a ha
    obtain ⟨x, hx⟩ := hels a ha
    exact ⟨_, hequal hx hone⟩
  obtain ⟨answer, hanswer⟩ := exists_occurs (hcompare found hstand)
  obtain ⟨els, hels, hstand', hextent'⟩ : ∃ els,
      (if answer then found else found ++ [identity]) = els ∧ Standing R els ∧
        extent R els = Set.univ := by
    refine ⟨_, rfl, ?_⟩
    cases answer with
    | true => exact ⟨hstand, hextent⟩
    | false =>
      refine ⟨hstand.append (standing_singleton hone), Set.eq_univ_of_univ_subset ?_⟩
      rw [← hextent]
      exact extent_mono fun a ha => List.mem_append_left _ ha
  obtain ⟨r, hr, hrstand, hrextent⟩ := hmul.distinct_spec hstand'
  obtain ⟨k, hk, -⟩ := hmul.keyed_eq hone
  have hrequire := requireIdentity_of_equal (hcompare _ hrstand) hk
  refine ⟨r, ?_, hrstand, hrextent.trans hextent', fun a => Value.keyed_of_mem_distinct hr⟩
  rw [generate]
  · simp only [Report.outcome_bind, outcome_liftM, hfound, hanswer, ok_bind, hels, hr, hrequire]
    rfl
  · exact hinv

omit hequal hne in
/-- A list of everything is a group of as many elements as there should be. -/
theorem order_ofRoster {els : Roster Value} (hels : Standing R els.toList)
    (hall : extent R els.toList = Set.univ) (gens name : Value) :
    (ofRoster els op identity inv gens name).order = Nat.card M := by
  obtain ⟨hstand, hextent⟩ := hmul.faithful.extent_promote hels hone
  show (els.promote identity).toList.length = _
  rw [Roster.length_toList, ← hmul.faithful.ncard_extent hstand, hextent, hall, Set.ncard_univ]

end

/-! ## Recipes -/

/-- The operation, the inverse and the identity are those of `M`. -/
structure Recipe (R : Value → M → Prop) (op inv identity : Value) : Prop
    extends Multiplies R op.meaning.call₂ where
  equal_eq : ∀ ⦃a b x y⦄, R a x → R b y → a.equal b = .ok (a == b)
  ne_none : ∀ ⦃a x⦄, R a x → a ≠ .none
  one : R identity 1
  inverse_eq : ∀ ⦃a x⦄, R a x → ∃ b, inv.meaning.call [a] = .ok b ∧ R b x⁻¹
  /-- The identity need not be a key as it is. -/
  inverse_keyed : ∀ ⦃k⦄, identity.keyed = .ok k →
    inv.meaning.call [k] = inv.meaning.call [identity]

namespace Recipe

variable (h : Recipe R op inv identity) (hinv : inv ≠ .none)
include h hinv

/-- A list of everything as a group. -/
theorem realizes_ofRoster {els : Roster Value} (hels : Standing R els.toList)
    (hall : extent R els.toList = Set.univ) (hkeys : ∀ a ∈ els.toList, a.keyed = .ok a)
    (gens : Value) {name : Value} (hname : Nameable name) :
    (ofRoster els op identity inv gens name).Realizes R := by
  obtain ⟨hstand, hextent⟩ := h.faithful.extent_promote hels h.one
  have hinverse (a : Value) : (ofRoster els op identity inv gens name).inverse a
      = inv.meaning.call [a] := by
    show inverseBy inv inv.meaning _ a = _
    rw [inverseBy.eq_def]
    cases inv <;> first | rfl | exact absurd rfl hinv
  exact {
    toMultiplies := h.toMultiplies
    intact := intact_ofRoster _ _ _ _ _ hname
    equal_eq := h.equal_eq
    standing := hstand
    surjective := fun x => (hextent.trans hall).superset (Set.mem_univ x)
    one := h.one
    inverse_eq := by
      intro a x _ hx
      obtain ⟨b, hb, hbx⟩ := h.inverse_eq hx
      exact ⟨b, (hinverse a).trans hb, hbx, h.ne_none hbx⟩
    inverse_keyed := by
      intro a k ha hk
      rw [hinverse, hinverse]
      obtain rfl | ha := Roster.mem_of_mem_promote ha
      · exact h.inverse_keyed hk
      · rw [← Except.ok.inj ((hkeys a ha).symm.trans hk)] }

/-- Generators generate a group that realizes `M`. -/
theorem generate_spec [Finite M] {gens : List Value} (hgens : Standing R gens)
    (hall : Subgroup.closure (extent R gens) = ⊤) {name : Value} (hname : Nameable name) :
    ∃ G : FiniteGroup, (generate gens op identity inv name).outcome = .ok G ∧ G.Realizes R := by
  have hinvert : ∀ g ∈ gens, ∃ x b, R g x ∧ inv.meaning.call [g] = .ok b ∧ R b x⁻¹ := by
    intro g hg
    obtain ⟨x, hx⟩ := hgens g hg
    obtain ⟨b, hb, hbx⟩ := h.inverse_eq hx
    exact ⟨x, b, hx, hb, hbx⟩
  obtain ⟨seed, hseed, -, hstand, hclosure⟩ := h.faithful.exists_seeds hinvert
  obtain ⟨els, hels, hstand, hextent, hkeys⟩ := exists_generate h.toMultiplies h.equal_eq h.one
    (h.ne_none h.one) hinv hseed hstand (hclosure.trans hall) name
  exact ⟨_, hels, h.realizes_ofRoster hinv hstand hextent hkeys _ hname⟩

end Recipe

/-! ## Elements that are written in one way -/

variable {write : M → Value}

/-- The value is the one that is written for the element. -/
def IsWritten (write : M → Value) (a : Value) (x : M) : Prop := a = write x

/-- A list of written values is that of elements. -/
theorem exists_mapM_write {β : Type} {f : β → Except Fault Value} (write : M → Value)
    {P : β → M → Prop} (l : List β) (h : ∀ i ∈ l, ∃ x, f i = .ok (write x) ∧ P i x) :
    ∃ xs : List M, l.mapM f = .ok (xs.map write) ∧ ∀ i ∈ l, ∃ x ∈ xs, P i x := by
  choose! g hg using h
  refine ⟨l.map g, ?_, fun i hi => ⟨g i, List.mem_map_of_mem hi, (hg i hi).2⟩⟩
  rw [List.map_map]
  exact mapM_eq_map fun i hi => (hg i hi).1

/-- Each element of `M` is written by a value of its own, and the values are multiplied and inverted
as the elements are. -/
structure Writing (write : M → Value) (op inv : Value) : Prop where
  isSimple : ∀ x, (write x).isSimple = true
  keyed_eq : ∀ x, (write x).keyed = .ok (write x)
  injective : ∀ ⦃x y⦄, (write x == write y) = true → x = y
  ne_none : ∀ x, write x ≠ .none
  mul_eq : ∀ x y, op.meaning.call [write x, write y] = .ok (write (x * y))
  inverse_eq : ∀ x, inv.meaning.call [write x] = .ok (write x⁻¹)

namespace Writing

variable (h : Writing write op inv)
include h

theorem recipe : Recipe (IsWritten write) op inv (write 1) where
  mul_eq := by
    rintro _ _ x y rfl rfl
    exact ⟨_, h.mul_eq x y, rfl⟩
  faithful := by
    rintro _ _ x y rfl rfl
    exact ⟨fun heq => h.injective heq, by rintro rfl; exact BEq.rfl⟩
  keyed_eq := by
    rintro _ x rfl
    exact ⟨_, h.keyed_eq x, rfl⟩
  equal_eq := by
    rintro _ _ x y rfl rfl
    exact Value.equal_of_isSimple (h.isSimple x) (h.isSimple y)
  ne_none := by
    rintro _ x rfl
    exact h.ne_none x
  one := rfl
  inverse_eq := by
    rintro _ x rfl
    exact ⟨_, h.inverse_eq x, rfl⟩
  inverse_keyed k hk := by
    rw [← Except.ok.inj ((h.keyed_eq 1).symm.trans hk)]

omit h [Group M] in
theorem standing_map (xs : List M) : Standing (IsWritten write) (xs.map write) := by
  intro a ha
  obtain ⟨x, -, rfl⟩ := List.mem_map.1 ha
  exact ⟨x, rfl⟩

theorem extent_map (xs : List M) : extent (IsWritten write) (xs.map write) = {x | x ∈ xs} := by
  ext x
  rw [mem_extent]
  constructor
  · rintro ⟨_, ha, hx⟩
    obtain ⟨y, hy, rfl⟩ := List.mem_map.1 ha
    rwa [Set.mem_ofPred_eq, ← h.injective (hx ▸ BEq.rfl : (write y == write x) = true)]
  · exact fun hx => ⟨_, List.mem_map_of_mem hx, rfl⟩

/-- Generators generate a group of all the written values. -/
theorem generate_spec [Finite M] {xs : List M} (hxs : Subgroup.closure {x | x ∈ xs} = ⊤)
    (hinv : inv ≠ .none) {name : Value} (hname : Nameable name) :
    ∃ G : FiniteGroup, (generate (xs.map write) op (write 1) inv name).outcome = .ok G ∧
      G.Realizes (IsWritten write) :=
  h.recipe.generate_spec hinv (standing_map xs) (by rw [h.extent_map, hxs]) hname

end Writing

/-! ## Families -/

namespace Family

variable {F : Family} {G : FiniteGroup}

/-- The group of a family is what its generators generate, unless it has another order than it
should have. -/
theorem build_of_generate {gens : List Value} {identity name : Value} (hgens : F.gens = .ok gens)
    (hidentity : F.identity = .ok identity)
    (hG : (generate gens F.op identity (.method 0 F.value "inverse") name).outcome = .ok G)
    (hsize : F.size? = .ok none ∨ F.size? = .ok (some G.order)) (hgiven : name ≠ .none) :
    (F.build name).outcome = .ok G := by
  rw [build]
  · simp only [Report.outcome_pure, Report.outcome_bind, outcome_liftM, hgens, hidentity, ok_bind,
      hG]
    rcases hsize with hsize | hsize <;> rw [hsize, ok_bind]
    · rfl
    · exact congrArg Report.outcome (if_pos rfl)
  · exact hgiven

/-- Without a name a group has the name of its family. -/
theorem build_none {s : String} (hname : F.name = .ok s) :
    (F.build .none).outcome = (F.build (.text s)).outcome := by
  simp [build, hname]

/-- The recipe computes in `M` and its generators generate `M`. -/
structure Describes (F : Family) (write : M → Value) : Prop where
  writing : Writing write F.op (.method 0 F.value "inverse")
  identity_eq : F.identity = .ok (write 1)
  gens_eq : ∃ xs : List M, F.gens = .ok (xs.map write) ∧ Subgroup.closure {x | x ∈ xs} = ⊤
  size_eq : F.size? = .ok none ∨ F.size? = .ok (some (Nat.card M))

/-- The group is what the family promises: it consists of the values that are elements, each listed
once, the formula of the family gives the inverses, and the axioms hold. -/
structure Promises (F : Family) (G : FiniteGroup) (IsElement : Value → Prop) : Prop where
  mem_els : ∀ a, a ∈ G.els ↔ IsElement a
  nodup_els : G.els.Nodup
  inverse_eq : ∀ a ∈ G.els, ∃ b ∈ G.els, F.inverse a = .ok b ∧ G.inverse a = .ok b ∧
    G.mul a b = .ok G.identity ∧ G.mul b a = .ok G.identity
  laws : G.Laws
  verify_eq : ∀ (most : Value) (m : Int), most.index = .ok m → G.verify most = .ok ⟨[]⟩

/-- Whatever the name, the group that is built is what the family promises, and has a further
property. Only where no name is given and the parameter `m` of the family cannot be written, that is
the fault. -/
def Builds (F : Family) (m : Int) (IsElement : Value → Prop) (P : FiniteGroup → Prop) : Prop :=
  ∀ name, Nameable name →
    (∃ G, (F.build name).outcome = .ok G ∧ F.Promises G IsElement ∧ P G) ∨
      name = .none ∧ ¬ Writable m ∧ (F.build name).outcome = .error .badValue

theorem call_inverse (F : Family) (a : Value) :
    (Value.method 0 F.value "inverse").meaning.call [a] = F.inverse a := by
  rw [meaning_method, inverse, value, Value.meaning, Value.meaningWith.eq_def]
  rfl

theorem checkLeast_eq {least : Nat} {m : Int} (h : least ≤ m) (family : String) :
    checkLeast family least (.int m) = .ok () := by
  rw [checkLeast, before_int, decide_eq_false (by omega)]
  rfl

/-- The families with a number are named by a letter and the number. -/
theorem name_error {kind : Kind} (hkind : kind ∈ [.cyclic, .dihedral, .symmetric, .alternating])
    {m : Int} {e : Fault} (h : (Family.mk 0 kind [.int m]).name = .error e) :
    e = .badValue ∧ ¬ Writable m := by
  obtain ⟨letter, hletter⟩ : ∃ letter, (Family.mk 0 kind [.int m]).name = do
      return letter ++ (← Text.ofInt m) := by
    simp only [List.mem_cons, List.not_mem_nil, or_false] at hkind
    obtain rfl | rfl | rfl | rfl := hkind
    · exact ⟨"C", rfl⟩
    · exact ⟨"D", rfl⟩
    · exact ⟨"S", rfl⟩
    · exact ⟨"A", rfl⟩
  rw [hletter] at h
  by_cases hwrite : Writable m
  · rw [ofInt_of_writable hwrite] at h
    cases h
  · rw [ofInt_of_not_writable hwrite] at h
    exact ⟨(Except.error.inj h).symm, hwrite⟩

namespace Describes

variable (h : F.Describes write)
include h

/-- The group that is built realizes the group that is described. Nothing can fail but the
writing of a name that is not given. -/
theorem build_spec [Finite M] {name : Value} (hname : Nameable name) :
    (∃ G, (F.build name).outcome = .ok G ∧ G.Realizes (IsWritten write)) ∨
      name = .none ∧ ∃ e, F.name = .error e ∧ (F.build name).outcome = .error e := by
  obtain ⟨xs, hgens, hxs⟩ := h.gens_eq
  have hbuild {named : Value} (hnamed : Nameable named) (hgiven : named ≠ .none) :
      ∃ G, (F.build named).outcome = .ok G ∧ G.Realizes (IsWritten write) := by
    obtain ⟨G, hG, hrealizes⟩ := h.writing.generate_spec hxs (by simp) hnamed
    refine ⟨G, build_of_generate hgens h.identity_eq hG ?_ hgiven, hrealizes⟩
    rw [hrealizes.order_eq]
    exact h.size_eq
  rcases hname with rfl | ⟨s, rfl⟩
  · cases hname : F.name with
    | error e => exact .inr ⟨rfl, e, rfl, by simp [build, hname]⟩
    | ok s =>
      rw [build_none hname]
      exact .inl (hbuild (.inr ⟨s, rfl⟩) (by simp))
  · exact .inl (hbuild (.inr ⟨s, rfl⟩) (by simp))

theorem promises (hG : G.Realizes (IsWritten write)) {IsElement : Value → Prop}
    (hiff : ∀ a, IsElement a ↔ ∃ x, a = write x) : F.Promises G IsElement where
  mem_els a := by
    rw [hiff]
    refine ⟨fun ha => hG.standing a ha, ?_⟩
    rintro ⟨x, rfl⟩
    obtain ⟨b, hb, rfl⟩ := hG.surjective x
    exact hb
  nodup_els := hG.nodup_els
  inverse_eq a ha := by
    obtain ⟨x, rfl⟩ := hG.standing a ha
    obtain ⟨b, hb, hbx⟩ := hG.surjective x⁻¹
    obtain ⟨c, hc, rfl, -⟩ := hG.inverse_eq ha rfl
    have hone : G.identity = write 1 := hG.one
    have hself (y : M) : IsWritten write (write y) y := rfl
    obtain ⟨d, hd, hdx⟩ := hG.mul_eq (hself x) (hself x⁻¹)
    obtain ⟨e, he, hex⟩ := hG.mul_eq (hself x⁻¹) (hself x)
    rw [IsWritten] at hbx hdx hex
    rw [mul_inv_cancel] at hdx
    rw [inv_mul_cancel] at hex
    refine ⟨_, hbx ▸ hb, ?_, hc, ?_, ?_⟩
    · rw [← F.call_inverse, h.writing.inverse_eq]
    · rw [hd, hdx, hone]
    · rw [he, hex, hone]
  laws := hG.laws
  verify_eq most m hmost := hG.verify_eq hmost

theorem builds [Finite M] {m : Int}
    (hname : ∀ e, F.name = .error e → e = .badValue ∧ ¬ Writable m) {IsElement : Value → Prop}
    (hiff : ∀ a, IsElement a ↔ ∃ x, a = write x) {P : FiniteGroup → Prop}
    (hP : ∀ G : FiniteGroup, G.Realizes (IsWritten write) → P G) : F.Builds m IsElement P := by
  intro name hnameable
  refine (h.build_spec hnameable).imp ?_ ?_
  · rintro ⟨G, hG, hrealizes⟩
    exact ⟨G, hG, h.promises hrealizes hiff, hP G hrealizes⟩
  · rintro ⟨rfl, e, he, herror⟩
    obtain ⟨rfl, hlarge⟩ := hname e he
    exact ⟨rfl, hlarge, herror⟩

end Describes

end Family

end FiniteGroups
