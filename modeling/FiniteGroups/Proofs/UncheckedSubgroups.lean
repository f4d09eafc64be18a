import FiniteGroups.Proofs.Actions
import FiniteGroups.Proofs.Centralizers
import FiniteGroups.Proofs.Commutators
import FiniteGroups.Proofs.FirstIsomorphism
import FiniteGroups.Proofs.SubgroupSearches

/-!
# Subgroups that are not checked

All functions that give a subgroup of a group make it without a check. Some collect elements of the
group as they are listed, which make up a subgroup already: `ValidGroup.MakesSubgroups` says that
what they make of them is one. Others span a subgroup by values or form products, so that elements
of the result may be written in another way than in the group. They make subgroups if the group
inverts all values that are equal to elements (`ValidGroup.SpansSubgroups`).

`ValidGroup.makesSubgroups` says that it is so, and `commutatorSubgroup_not_subset` that without
this condition a result need not even be a subset of the group.
-/

set_option linter.unusedSectionVars false

namespace FiniteGroups

open FiniteGroup
open scoped commutatorElement

namespace ValidGroup

variable (G : ValidGroup)

/-- What is made of elements as they are listed is a subgroup. -/
structure MakesSubgroups : Prop where
  trivial : ∃ H, G.trivial = .ok H ∧ G.IsSubgroup H
  intersect : ∀ ⦃H K : FiniteGroup⦄, G.IsSubgroup H → G.IsSubgroup K →
    ∃ I, H.intersect K G.toFiniteGroup = .ok I ∧ G.IsSubgroup I
  bruteSubgroups : ∀ ⦃limit⦄, Permits limit G.order →
    ∃ found, (G.candidate.bruteSubgroups limit).outcome = .ok found ∧
      ∀ H ∈ found, G.IsSubgroup H
  normalizer : ∀ ⦃H : FiniteGroup⦄, G.IsSubgroup H →
    ∃ N, G.candidate.normalizer H.candidate = .ok N ∧ G.IsSubgroup N
  centralizer : ∀ ⦃H : FiniteGroup⦄, G.IsSubgroup H →
    ∃ C, G.candidate.centralizer H.candidate = .ok C ∧ G.IsSubgroup C
  /-- The kernel of a homomorphism. -/
  kernel : ∀ (K : ValidGroup) ⦃f : GroupMap⦄, f.Between G.toFiniteGroup K.toFiniteGroup →
    Standing K.Stands f.send.values.toList → f.isHom = .ok true →
    ∃ N, f.kernel = .ok N ∧ G.IsSubgroup N
  /-- The stabilizer of an item under an action that satisfies the laws. -/
  stabilizer : ∀ (A : ValidAction G) ⦃a x⦄, A.Stands a x →
    ∃ S, A.stabilizer a = .ok S ∧ G.IsSubgroup S

/-- What is spanned by values that are equal to elements, or made of products, is a subgroup. -/
structure SpansSubgroups : Prop where
  generated : ∀ ⦃gens⦄, Standing G.Stands gens →
    ∃ H, (G.toFiniteGroup.generated gens).outcome = .ok H ∧ G.IsSubgroup H
  genSubgroups : ∀ ⦃k limit⦄, (k = .none ∨ ∃ i, k.index = .ok i) → Permits limit G.order →
    ∃ found, (G.candidate.genSubgroups k limit).outcome = .ok found ∧
      ∀ H ∈ found, G.IsSubgroup H
  cyclicSubgroups : ∃ found, G.candidate.cyclicSubgroups = .ok found ∧
    ∀ H ∈ found, G.IsSubgroup H
  joinSubgroups : ∀ ⦃limit⦄, Permits limit G.order →
    ∃ found, (G.candidate.joinSubgroups limit).outcome = .ok found ∧
      ∀ H ∈ found, G.IsSubgroup H
  conjugateSubgroup : ∀ ⦃H : FiniteGroup⦄, G.IsSubgroup H → ∀ ⦃g x⦄, G.Stands g x →
    ∃ C, G.candidate.conjugateSubgroup H.candidate g = .ok C ∧ G.IsSubgroup C
  commutatorSubgroup : ∃ D, G.candidate.commutatorSubgroup = .ok D ∧ G.IsSubgroup D
  /-- The Frattini subgroup, of whatever subgroups it is computed. -/
  frattini : ∀ ⦃subs : List FiniteGroup⦄, (∀ H ∈ subs, G.IsSubgroup H) →
    ∃ F, G.candidate.frattini (subs.map FiniteGroup.candidate) = .ok F ∧ G.IsSubgroup F
  allSubgroups : G.order ≤ 200 →
    ∃ subs, (G.candidate.allSubgroups .cyclic .none).outcome = .ok subs ∧
      ∀ H ∈ subs, G.IsSubgroup H
  /-- The kernel of a map, which need not be a homomorphism. -/
  kernel : ∀ (K : ValidGroup) ⦃f : GroupMap⦄, f.Between G.toFiniteGroup K.toFiniteGroup →
    Standing K.Stands f.send.values.toList → ∃ N, f.kernel = .ok N ∧ G.IsSubgroup N
  /-- The image of a map, which need not be a homomorphism. -/
  image : ∀ (K : ValidGroup) ⦃f : GroupMap⦄, f.Between K.toFiniteGroup G.toFiniteGroup →
    Standing G.Stands f.send.values.toList → ∃ I, f.image = .ok I ∧ G.IsSubgroup I
  /-- The stabilizer of anything, whether or not the laws of an action hold. -/
  stabilizer : ∀ ⦃A : GroupAction⦄, A.group = G.toFiniteGroup → ∀ ⦃x⦄,
    (∀ g ∈ G.els, ∃ answer, A.fixes g x = .ok answer) →
    ∃ S, A.stabilizer x = .ok S ∧ G.IsSubgroup S

variable {G}

/-! ## Elements that were chosen -/

/-- Elements that are chosen because they are in a subgroup span a subgroup. -/
theorem exists_span_chosen {f : Value → Except Fault Bool} {N : Subgroup G.Element}
    (h : ∀ a ∈ G.els, ∀ x, G.Stands a x → ∃ b, f a = .ok b ∧ (b = true ↔ x ∈ N)) :
    ∃ found H, G.els.filterM f = .ok found ∧ G.span found = .ok H ∧ G.IsSubgroup H := by
  have hG := G.realizes
  obtain ⟨found, hfound, hsub, hextent⟩ := hG.faithful.exists_filterM hG.standing h
  have hN : extent G.Stands found = N := by
    rw [hextent, hG.extent_els]
    ext x
    simp
  obtain ⟨H, hH, hforms⟩ := hG.forms_span hsub.subset hN
  exact ⟨found, H, hfound, hH, isSubgroup_of_forms (isWithin_of_span hH) hforms⟩

/-- Elements that are chosen in any way span a subgroup if `G` inverts what is equal to an
element. -/
theorem exists_span_any (hinv : G.Inverts) {f : Value → Except Fault Bool}
    (h : ∀ a ∈ G.els, ∃ b, f a = .ok b) :
    ∃ found H, G.els.filterM f = .ok found ∧ G.span found = .ok H ∧ G.IsSubgroup H := by
  have hfound : G.els.filterM f =
      .ok (G.els.filter fun a => (f a).toOption.getD false) :=
    filterM_eq_filter fun a ha => by
      obtain ⟨b, hb⟩ := h a ha
      rw [hb]
      rfl
  obtain ⟨H, hH, hsubgroup⟩ := exists_span hinv
    (G.realizes.standing.mono fun a ha => (List.mem_filter.1 ha).1)
  exact ⟨_, H, hfound, hH, hsubgroup⟩

/-! ## What is made of elements as they are listed -/

theorem isSubgroup_trivial : ∃ H, G.trivial = .ok H ∧ G.IsSubgroup H := by
  have hG := G.realizes
  obtain ⟨r, hr, -, -⟩ := hG.subgroup_spec (standing_singleton hG.one) .none .none
  refine ⟨_, hr, isSubgroup_of_makesOf (makesOf_of_subgroup (.inl rfl) hr) (N := ⊥)
    (fun a ha => List.mem_singleton.1 ha ▸ hG.identity_mem) ?_⟩
  rw [faithful.extent_singleton hG.one, Subgroup.coe_bot]

/-- What stands for an element is found in another group exactly if the element is. -/
theorem contains_eq_of_stands (K : FiniteGroup) {a : Value} {x : G.Element} (ha : G.Stands a x) :
    K.contains a = K.contains x.1 := by
  obtain ⟨k, hk, hkx⟩ := G.realizes.sought_eq ha
  obtain ⟨l, hl, hlx⟩ := G.realizes.sought_eq (stands_self x)
  have hkl : (k == l) = true := (faithful hkx hlx).2 rfl
  rw [contains, contains, hk, hl, ok_bind, ok_bind, K.elements.contains_congr hkl]

/-- The elements that are found in two groups. -/
def shared (G : ValidGroup) (H K : FiniteGroup) : Set G.Element :=
  {x | H.contains x.1 = .ok true ∧ K.contains x.1 = .ok true}

/-- What a subgroup and any group have in common is inverted as it is written in the subgroup. -/
theorem exists_intersect {H : FiniteGroup} (hH : G.IsSubgroup H) (K : FiniteGroup) :
    ∃ I, H.intersect K G.toFiniteGroup = .ok I ∧ G.IsWithin I ∧
      (∀ a ∈ I.els, G.Invertible G.Stands a) ∧ Consists G.Stands I (G.shared H K) := by
  have hG := G.realizes
  obtain ⟨N, hN⟩ := hH.exists_consists
  obtain ⟨found, hfound, hsub, hextent⟩ := faithful.exists_filterM hN.standing_els
      (f := K.contains) (P := fun x => K.contains x.1 = .ok true) fun a _ x hx => by
    obtain ⟨k, hk, -⟩ := hG.sought_eq hx
    have hanswer : K.contains a = .ok (K.elements.contains k) := by rw [contains, hk]; rfl
    exact ⟨_, hanswer, by rw [← contains_eq_of_stands K hx, hanswer, Except.ok.injEq]⟩
  have hstand : Standing G.Stands found := hN.standing_els.mono fun a ha => hsub.subset ha
  obtain ⟨r, hr, -, -⟩ := hG.subgroup_spec hstand .none .none
  have hmakes := makesOf_of_subgroup (.inl rfl) hr
  refine ⟨_, by rw [FiniteGroup.intersect, hfound, ok_bind, hr], ⟨_, hmakes⟩,
    hG.invertible_of_makesOf hmakes fun a ha k hk =>
      hG.invertible_of_keyed_mem hH.isWithin hN hH.invertible (hsub.subset ha) hk, ?_⟩
  convert hG.consists_of_makesOf hmakes hstand
  rw [hextent, hN.els_eq, hN.extent_eq]
  ext x
  exact and_congr_left' (hG.contains_iff hN (stands_self x))

/-- What two subgroups have in common is a subgroup. -/
theorem isSubgroup_intersect {H K : FiniteGroup} (hH : G.IsSubgroup H) (hK : G.IsSubgroup K) :
    ∃ I, H.intersect K G.toFiniteGroup = .ok I ∧ G.IsSubgroup I := by
  obtain ⟨N, hN⟩ := hH.exists_consists
  obtain ⟨L, hL⟩ := hK.exists_consists
  obtain ⟨I, hI, hwithin, hinv, hconsists⟩ := exists_intersect hH K
  have hshared : G.shared H K = (N ⊓ L : Subgroup G.Element) := by
    ext x
    exact and_congr (G.realizes.contains_iff hN (stands_self x))
      (G.realizes.contains_iff hL (stands_self x))
  exact ⟨I, hI, isSubgroup_of_consists hwithin (hshared ▸ hconsists) hinv⟩

theorem isSubgroup_normalizer {H : FiniteGroup} (hH : G.IsSubgroup H) :
    ∃ N, G.candidate.normalizer H.candidate = .ok N ∧ G.IsSubgroup N := by
  obtain ⟨N, hN⟩ := hH.exists_consists
  obtain ⟨K, hK, -, hforms⟩ := G.realizes.normalizer_spec hN
  exact ⟨K, hK, isSubgroup_of_forms (isWithin_of_normalizer hK) hforms⟩

theorem isSubgroup_centralizer {H : FiniteGroup} (hH : G.IsSubgroup H) :
    ∃ C, G.candidate.centralizer H.candidate = .ok C ∧ G.IsSubgroup C := by
  obtain ⟨N, hN⟩ := hH.exists_consists
  obtain ⟨C, hC, hwithin, hforms⟩ := G.realizes.forms_centralizer hN
  exact ⟨C, hC, isSubgroup_of_forms hwithin hforms⟩

section

variable {K : ValidGroup} {f : GroupMap}

/-- Whether an element is sent to the identity. -/
theorem exists_sent {φ : G.Element → K.Element} (h : f.Sends G.Stands K.Stands φ) {a : Value}
    {x : G.Element} (hx : G.Stands a x) :
    ∃ b, (do (← f.apply a).equal f.tgt.identity) = .ok b ∧ (b = true ↔ φ x = 1) := by
  obtain ⟨b, hb, hbx⟩ := h.apply_spec hx
  obtain ⟨answer, hanswer, hiff⟩ := h.equal_spec hbx h.tgt.one
  exact ⟨answer, by rw [hb, ok_bind, hanswer], hiff⟩

theorem isSubgroup_kernel_of_isHom (hf : f.Between G.toFiniteGroup K.toFiniteGroup)
    (hvalues : Standing K.Stands f.send.values.toList) (hhom : f.isHom = .ok true) :
    ∃ N, f.kernel = .ok N ∧ G.IsSubgroup N := by
  obtain ⟨φ, hφ⟩ := hf.exists_monoidHom G.realizes K.realizes hvalues hhom
  obtain ⟨found, N, hfound, hN, hsubgroup⟩ := exists_span_chosen (N := φ.ker)
    fun a _ x hx => exists_sent hφ hx
  exact ⟨N, by rw [GroupMap.kernel, hf.src_eq, hfound, ok_bind, hN], hsubgroup⟩

theorem isSubgroup_kernel (hinv : G.Inverts) (hf : f.Between G.toFiniteGroup K.toFiniteGroup)
    (hvalues : Standing K.Stands f.send.values.toList) :
    ∃ N, f.kernel = .ok N ∧ G.IsSubgroup N := by
  obtain ⟨φ, hφ⟩ := hf.exists_sends G.realizes K.realizes hvalues
  obtain ⟨found, N, hfound, hN, hsubgroup⟩ := exists_span_any hinv fun a ha => by
    obtain ⟨x, hx⟩ := G.realizes.standing a ha
    obtain ⟨b, hb, -⟩ := exists_sent hφ hx
    exact ⟨b, hb⟩
  exact ⟨N, by rw [GroupMap.kernel, hf.src_eq, hfound, ok_bind, hN], hsubgroup⟩

theorem isSubgroup_image (hinv : G.Inverts) (hf : f.Between K.toFiniteGroup G.toFiniteGroup)
    (hvalues : Standing G.Stands f.send.values.toList) :
    ∃ I, f.image = .ok I ∧ G.IsSubgroup I := by
  obtain ⟨r, hr, hstand, -⟩ := G.realizes.distinct_spec hvalues
  obtain ⟨I, hI, hsubgroup⟩ := exists_span hinv hstand
  exact ⟨I, by rw [GroupMap.image, hr, ok_bind, hf.tgt_eq, hI], hsubgroup⟩

end

theorem isSubgroup_stabilizer_of_valid (A : ValidAction G) {a : Value} {x : A.Item}
    (hx : A.Stands a x) : ∃ S, A.stabilizer a = .ok S ∧ G.IsSubgroup S := by
  obtain ⟨found, S, hfound, hS, hsubgroup⟩ := exists_span_chosen
    (f := fun g => A.fixes g a) (N := MulAction.stabilizer G.Element x)
    fun g _ y hy => A.realizes.fixes_spec hy hx
  exact ⟨S, by rw [GroupAction.stabilizer, A.group_eq, hfound, ok_bind, hS], hsubgroup⟩

theorem isSubgroup_stabilizer (hinv : G.Inverts) {A : GroupAction} (hA : A.group = G.toFiniteGroup)
    {x : Value} (hx : ∀ g ∈ G.els, ∃ answer, A.fixes g x = .ok answer) :
    ∃ S, A.stabilizer x = .ok S ∧ G.IsSubgroup S := by
  obtain ⟨found, S, hfound, hS, hsubgroup⟩ := exists_span_any hinv hx
  exact ⟨S, by rw [GroupAction.stabilizer, hA, hfound, ok_bind, hS], hsubgroup⟩

/-! ## What is spanned -/

open Pointwise in
theorem isSubgroup_conjugateSubgroup (hinv : G.Inverts) {H : FiniteGroup} (hH : G.IsSubgroup H)
    {g : Value} {y : G.Element} (hy : G.Stands g y) :
    ∃ C, G.candidate.conjugateSubgroup H.candidate g = .ok C ∧ G.IsSubgroup C := by
  have hG := G.realizes
  obtain ⟨N, hN⟩ := hH.exists_consists
  obtain ⟨y', i, hy', hi, hiy⟩ := hinv hy
  obtain rfl := faithful.unique hy' hy
  obtain ⟨found, hfound, hstand, hextent⟩ := conjugates_spec hG.toMultiplies hN hy hi hiy
  obtain ⟨r, hr, -, -⟩ := hG.subgroup_spec hstand .none .none
  have hmakes := makesOf_of_subgroup (.inl rfl) hr
  have hconsists := hG.consists_of_makesOf hmakes hstand
  rw [hextent] at hconsists
  refine ⟨_, ?_, isSubgroup_of_inverts hinv (N := N.map (MulAut.conj y').toMonoidHom) ⟨_, hmakes⟩
    hconsists⟩
  rw [Candidate.conjugateSubgroup, hfound]
  exact hr

theorem isSubgroup_commutatorSubgroup (hinv : G.Inverts) :
    ∃ D, G.candidate.commutatorSubgroup = .ok D ∧ G.IsSubgroup D := by
  obtain ⟨found, hfound, hstand, -⟩ := G.realizes.commutators_spec
  obtain ⟨D, hD, hsubgroup⟩ := exists_span hinv hstand
  refine ⟨D, ?_, hsubgroup⟩
  show (do
    let found ← G.candidate.commutators
    G.span found.toList) = _
  rw [hfound, ok_bind, hD]

/-- What the maximal ones of some subgroups share spans a subgroup. -/
theorem isSubgroup_frattini (hinv : G.Inverts) {subs : List FiniteGroup}
    (hsubs : ∀ H ∈ subs, G.IsSubgroup H) :
    ∃ F, G.candidate.frattini (subs.map FiniteGroup.candidate) = .ok F ∧ G.IsSubgroup F := by
  rw [Realizes.frattini_candidates]
  cases hlist : maximalOf G.order subs with
  | nil => exact isSubgroup_trivial
  | cons H rest =>
    have hH := hsubs H (mem_of_mem_maximalOf (hlist ▸ List.mem_cons_self))
    refine exists_span hinv ((hH.isWithin.intact G.intact).els_eq ▸ hH.standing |>.mono ?_)
    exact fun a ha => (List.mem_filter.1 ha).1

theorem isSubgroup_allSubgroups (hinv : G.Inverts) (horder : G.order ≤ 200) :
    ∃ subs, (G.candidate.allSubgroups .cyclic .none).outcome = .ok subs ∧
      ∀ H ∈ subs, G.IsSubgroup H := by
  obtain ⟨joins, hjoins, hcollects⟩ := G.realizes.allJoins_spec
  refine ⟨_, G.realizes.allSubgroups_eq (before_maxSearch horder) hcollects (.inl ⟨rfl, hjoins⟩),
    fun H hH => ?_⟩
  have hH := List.mem_mergeSort.1 hH
  obtain ⟨N, -, hN⟩ := hcollects.consists H hH
  exact isSubgroup_of_inverts hinv (allWithin_allJoins hjoins H hH) hN

/-- All subgroups that are made of a valid group without a check are subgroups. Where they need not
be made of elements as they are listed, the group must invert whatever is equal to an element. -/
theorem makesSubgroups (G : ValidGroup) : G.MakesSubgroups ∧ (G.Inverts → G.SpansSubgroups) where
  left := {
    trivial := isSubgroup_trivial
    intersect := fun _ _ => isSubgroup_intersect
    bruteSubgroups := fun _ => exists_bruteSubgroups
    normalizer := fun _ => isSubgroup_normalizer
    centralizer := fun _ => isSubgroup_centralizer
    kernel := fun _ _ => isSubgroup_kernel_of_isHom
    stabilizer := fun A _ _ => isSubgroup_stabilizer_of_valid A }
  right hinv := {
    generated := fun _ => exists_span hinv
    genSubgroups := fun _ _ => exists_genSubgroups hinv
    cyclicSubgroups := exists_cyclicSubgroups hinv
    joinSubgroups := fun _ => exists_joinSubgroups hinv
    conjugateSubgroup := fun _ hH _ _ => isSubgroup_conjugateSubgroup hinv hH
    commutatorSubgroup := isSubgroup_commutatorSubgroup hinv
    frattini := fun _ => isSubgroup_frattini hinv
    allSubgroups := isSubgroup_allSubgroups hinv
    kernel := fun _ _ => isSubgroup_kernel hinv
    image := fun _ _ => isSubgroup_image hinv
    stabilizer := fun _ hA _ => isSubgroup_stabilizer hinv hA }

/-- The residues modulo six, with the map to their parities and the action on themselves. -/
theorem makesSubgroups_residues :
    let G := validResidues (n := 6) (by decide) (by decide)
    let K := validResidues (n := 2) (by decide) (by decide)
    G.Inverts ∧ G.MakesSubgroups ∧ G.SpansSubgroups ∧
    (∃ H I, (G.toFiniteGroup.generated [.int 2]).outcome = .ok H ∧ G.IsSubgroup H ∧
      H.intersect H G.toFiniteGroup = .ok I ∧ G.IsSubgroup I) ∧
    (∃ found, (G.candidate.bruteSubgroups maxBrute).outcome = .ok found ∧
      ∀ H ∈ found, G.IsSubgroup H) ∧
    (∃ found, (G.candidate.joinSubgroups maxSearch).outcome = .ok found ∧
      ∀ H ∈ found, G.IsSubgroup H) ∧
    (∃ N, parityMap.kernel = .ok N ∧ G.IsSubgroup N) ∧
    (∃ I, parityMap.image = .ok I ∧ K.IsSubgroup I) ∧
    ∃ A : ValidAction G, GroupAction.leftMul G.candidate = .ok A.toGroupAction ∧
      ∃ a ∈ A.items, ∃ S, A.stabilizer a = .ok S ∧ G.IsSubgroup S := by
  intro G K
  obtain ⟨hmakes, hspans⟩ := makesSubgroups G
  have hG := hspans inverts_residues
  have hK := (makesSubgroups K).2 inverts_residues
  have hvalues : Standing K.Stands parityMap.send.values.toList := fun b hb =>
    K.realizes.standing b (mem_values_parityMap hb)
  have hhom : parityMap.isHom = .ok true := sends_parityMap.1.isHom_eq
  have hgens : Standing G.Stands [.int 2] := by
    refine G.realizes.standing.mono fun a ha => ?_
    rw [List.mem_singleton.1 ha]
    exact (mem_residues (by decide)).2 ⟨2, by decide, rfl⟩
  have horder : G.order = 6 := order_validResidues
  have hbrute : Permits maxBrute G.order := .inr (by rw [horder, maxBrute]; exact before_int ..)
  obtain ⟨H, hH, hsubgroup⟩ := hG.generated hgens
  obtain ⟨I, hI, hmeet⟩ := hmakes.intersect hsubgroup hsubgroup
  obtain ⟨A, hA, -⟩ := G.isTransitive_leftMul
  obtain ⟨a, ha⟩ := List.exists_mem_of_ne_nil _ A.items_ne
  exact ⟨inverts_residues, hmakes, hG, ⟨H, I, hH, hsubgroup, hI, hmeet⟩,
    hmakes.bruteSubgroups hbrute, hG.joinSubgroups (.inr (before_maxSearch (by omega))),
    hmakes.kernel K between_parityMap hvalues hhom, hK.image G between_parityMap hvalues, A, hA, a,
    ha, hmakes.stabilizer A (ValidAction.stands_self ⟨a, ha⟩)⟩

end ValidGroup

/-! ## A result that is no subset -/

/-- The number `0` with addition modulo three. The modulus is a floating-point number, and so are
the sums. The inverse is right for `0` as it is listed, but not as a floating-point number. -/
def roundedZero : FiniteGroup :=
  rangeResidues 1 (.real (asReal 3)) (.rule 0 .affine [.int 2, .int 9007199254740993, .int 3])

theorem mem_roundedZero {a : Value} (ha : a ∈ roundedZero.els) : a = .int 0 := by
  obtain ⟨k, hk, rfl⟩ := (mem_residues (n := 1) (by decide)).1 ha
  rw [Nat.lt_one_iff.1 hk]
  rfl

theorem inverse_roundedZero (a : Value) : roundedZero.inverse a = skewResidues.inverse a :=
  rfl

/-- A sum of zeros is zero as a floating-point number. -/
theorem mul_roundedZero {a b : Value} {x y : Multiplicative (ZMod 1)} (ha : WritesResidue 1 a x)
    (hb : WritesResidue 1 b y) : roundedZero.mul a b = .ok (.real (asReal 0)) := by
  obtain ⟨j, hj, ha, -⟩ := ha
  obtain ⟨k, hk, hb, -⟩ := hb
  obtain rfl := Nat.lt_one_iff.1 hj
  obtain rfl := Nat.lt_one_iff.1 hk
  obtain ⟨s, hs, hsum⟩ := ha.add_spec hb (by decide) (by decide)
  obtain ⟨c, hc, -, hreal⟩ := hsum.mod_spec (n := 3) .real (by decide) (by decide) (by decide)
  show (Value.op .addMod [.real (asReal 3)]).meaning.call₂ a b = _
  rw [call_addMod, hs, ok_bind, hc, hreal rfl]

theorem writesResidue_of_zero {a : Value} (ha : Writes 0 a) (x : Multiplicative (ZMod 1)) :
    WritesResidue 1 a x :=
  ⟨0, by decide, ha, Subsingleton.elim _ _⟩

theorem realizes_roundedZero : roundedZero.Realizes (WritesResidue 1) where
  mul_eq _ _ x y ha hb := ⟨_, mul_roundedZero ha hb, writesResidue_of_zero .real _⟩
  faithful := faithful_writesResidue (by decide)
  keyed_eq := (multiplies_writesResidue (n := 1) (by decide) (by decide) .int).keyed_eq
  intact := intact_ofRoster _ _ _ _ _ (.inl rfl)
  equal_eq _ _ _ _ := equal_writesResidue
  standing a ha := by
    rw [mem_roundedZero ha]
    exact ⟨1, writesResidue_of_zero .int 1⟩
  surjective x :=
    ⟨.int 0, (mem_residues (by decide)).2 ⟨0, by decide, rfl⟩, writesResidue_of_zero .int x⟩
  one := writesResidue_of_zero .int 1
  inverse_eq a x ha _ := by
    rw [mem_roundedZero ha, inverse_roundedZero, inverse_skewResidues_int]
    exact ⟨_, rfl, writesResidue_of_zero .int _, by simp⟩
  inverse_keyed a k ha hk := by
    rw [mem_roundedZero ha] at hk ⊢
    rw [← Except.ok.inj hk]

/-- It is a valid group of one element. -/
def validRoundedZero : ValidGroup :=
  .ofRealizes realizes_roundedZero

/-- What zero spans as a floating-point number are residues modulo three. Among them is the value
that is taken for the inverse of zero. -/
theorem exists_span_roundedZero {gens : List Value} (hgens : ∀ g ∈ gens, g = .real (asReal 0))
    (hne : gens ≠ []) : ∃ D, roundedZero.span gens = .ok D ∧
      ∃ a ∈ D.els, WritesResidue 3 a (Multiplicative.ofAdd 2) := by
  have hmul : Multiplies (WritesResidue 3) roundedZero.mul :=
    multiplies_writesResidue (n := 3) (by decide) (by decide) .real
  have htwo : WritesResidue 3 (.real (asReal 2)) (Multiplicative.ofAdd 2) :=
    ⟨2, by decide, .real, rfl⟩
  have hzero : Standing (WritesResidue 1) gens := fun g hg =>
    ⟨1, hgens g hg ▸ writesResidue_of_zero .real 1⟩
  have hmembers := realizes_roundedZero.requireMembers_eq hzero
  obtain ⟨inverses, hinverses, hall⟩ := exists_mapM (f := roundedZero.inverse)
      (P := fun _ b => b = .real (asReal 2)) gens fun g hg => by
    rw [hgens g hg, inverse_roundedZero, inverse_skewResidues_real]
    exact ⟨_, rfl, rfl⟩
  have hseeds : seeds gens (some roundedZero.inverse) = .ok (gens ++ inverses) := by
    rw [seeds, hinverses]
    rfl
  have hstand : Standing (WritesResidue 3) (gens ++ inverses) := by
    refine Standing.append (fun g hg => ⟨1, hgens g hg ▸ ⟨0, by decide, .real, by simp⟩⟩)
      fun b hb => ?_
    obtain ⟨-, -, rfl⟩ := exists_of_forall₂ hall hb
    exact ⟨_, htwo⟩
  obtain ⟨-, found, -, hfound, -, hstand', hextent⟩ := hmul.spanned_spec hseeds (by simp [hne])
    hstand roundedZero.identity
  obtain ⟨r, hr, hrstand, hrextent⟩ := hmul.distinct_spec hstand'
  have hidentity : requireIdentity roundedZero.identity r.toList = .ok () :=
    requireIdentity_of_equal (k := .int 0) (fun a ha => by
      obtain ⟨x, hx⟩ := hrstand a ha
      exact ⟨_, equal_writesResidue hx (writesResidue_zero (by decide))⟩) rfl
  refine ⟨roundedZero.subgroupOf r (.list 0 gens) .none, ?_, ?_⟩
  · simp [span, generated, subgroup, hmembers, hfound, hr, hidentity]
  · -- the value that is taken for an inverse is a seed
    obtain ⟨g, hg⟩ := List.exists_mem_of_ne_nil gens hne
    obtain ⟨b, hb, rfl⟩ := exists_of_forall₂ hall.flip hg
    have hspan : Multiplicative.ofAdd 2 ∈ extent (WritesResidue 3) r.toList := by
      rw [hrextent, hextent]
      exact Subsemigroup.subset_closure ⟨_, List.mem_append_right _ hb, htwo⟩
    exact (hmul.faithful.extent_promote hrstand (writesResidue_zero (by decide))).2.superset hspan

/-- The commutator subgroup of a valid group of one element that is no subset of the group. -/
theorem commutatorSubgroup_not_subset : ∃ D,
    validRoundedZero.candidate.commutatorSubgroup = .ok D ∧
    (∃ a ∈ D.els, validRoundedZero.contains a = .ok false) ∧
    validRoundedZero.checkSubgroup D.els ≠ .ok () := by
  have hG := realizes_roundedZero
  obtain ⟨found, hfound, hstand, hextent⟩ := hG.commutators_spec
  have hall : ∀ g ∈ found.toList, g = .real (asReal 0) := fun g hg => by
    obtain ⟨a, ha, b, hb, hg⟩ := exists_of_mem_commutators hfound hg
    obtain ⟨x, hx⟩ := hG.standing a ha
    obtain ⟨y, hy⟩ := hG.standing b hb
    obtain ⟨p, q, hp, hq, hpq⟩ := hG.commutator_eq ha hx hb hy
    rw [hpq, mul_roundedZero hp hq, ok_bind] at hg
    exact (Except.ok.inj hg).symm
  have hne : found.toList ≠ [] := by
    obtain ⟨a, ha, -⟩ := hextent.superset (one_mem_commutatorSet _)
    exact List.ne_nil_of_mem ha
  obtain ⟨D, hD, a, ha, htwo⟩ := exists_span_roundedZero hall hne
  have hout : roundedZero.elements.contains a = false := by
    rw [← Bool.not_eq_true, Roster.contains_iff]
    rintro ⟨b, hb, hba⟩
    rw [← hG.intact.els_eq] at hb
    rw [mem_roundedZero hb] at hba
    have hzero : (1 : Multiplicative (ZMod 3)) = Multiplicative.ofAdd 2 :=
      (faithful_writesResidue (by decide) (writesResidue_zero (by decide)) htwo).1 hba
    exact absurd hzero (by decide)
  have hkeyed : a.keyed = .ok a := by
    obtain ⟨k, -, hk, -⟩ := htwo
    exact hk.keyed_eq
  refine ⟨D, ?_, ⟨a, ha, ?_⟩, fun hcheck => ?_⟩
  · show (do
      let found ← roundedZero.candidate.commutators
      roundedZero.span found.toList) = _
    rw [hfound, ok_bind, hD]
  · show roundedZero.contains a = _
    rw [contains, Value.sought_of_keyed hkeyed, ok_bind, hout]
    rfl
  · have hcheck : roundedZero.checkSubgroup D.els = .ok () := hcheck
    rw [contains_of_checkSubgroup hcheck ha hkeyed] at hout
    exact Bool.noConfusion hout

end FiniteGroups
