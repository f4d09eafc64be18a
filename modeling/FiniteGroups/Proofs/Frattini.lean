import FiniteGroups.Proofs.AllSubgroups
import FiniteGroups.Proofs.Cosets
import FiniteGroups.Proofs.CyclicSearch
import FiniteGroups.Proofs.Inverses
import FiniteGroups.Proofs.MaximalSubgroups
import FiniteGroups.Proofs.RealResidues
import Mathlib.GroupTheory.Frattini
import Mathlib.Order.Atoms.Finite

/-!
# The Frattini subgroup

The subgroup that the maximal subgroups have in common is spanned by what their lists of elements
have in common (`Realizes.frattini_spec`). These values stand for elements and need not be the
elements as they are listed in the group, so they must be inverted for what they stand for.

`ValidGroup.exists_frattini` says that it is what group theory says, and that its elements are
those that are of no use among generators.
-/

set_option linter.unusedSectionVars false

namespace FiniteGroups

open FiniteGroup

variable {M : Type} [Group M]

/-! ## The Frattini subgroup of a group -/

theorem mem_frattini_iff {x : M} : x ∈ frattini M ↔ ∀ K : Subgroup M, IsCoatom K → x ∈ K := by
  simp [frattini, Order.radical, Subgroup.mem_iInf]

/-- Without maximal subgroups a finite group is trivial. -/
theorem eq_bot_of_no_coatom [Finite M] (h : ∀ K : Subgroup M, ¬IsCoatom K) (N : Subgroup M) :
    N = ⊥ := by
  have htop : (⊥ : Subgroup M) = ⊤ :=
    (eq_top_or_exists_le_coatom ⊥).resolve_right fun ⟨K, hK, _⟩ => h K hK
  exact le_bot_iff.1 (htop ▸ le_top)

/-- The elements of the Frattini subgroup are those that are of no use among generators. -/
theorem mem_frattini_iff_nongenerator [Finite M] {x : M} : x ∈ frattini M ↔
    ∀ K : Subgroup M, K ⊔ Subgroup.zpowers x = ⊤ → K = ⊤ := by
  constructor
  · intro hx K hK
    have hle : Subgroup.zpowers x ≤ frattini M := by rwa [Subgroup.zpowers_le]
    exact frattini_nongenerating (top_le_iff.1 (hK ▸ sup_le_sup_left hle K))
  · intro h
    rw [mem_frattini_iff]
    intro K hK
    by_contra hx
    -- with `x` a maximal subgroup that does not contain it is everything
    have hlt : K < K ⊔ Subgroup.zpowers x :=
      left_lt_sup.2 fun hle => hx (Subgroup.zpowers_le.1 hle)
    exact hK.1 (h K (hK.2 _ hlt))

namespace FiniteGroup.Realizes

variable {R : Value → M → Prop} {G : FiniteGroup} (hG : G.Realizes R)
include hG

/-! ## What elements generate -/

/-- The identity is inverted, so it is not missing. -/
theorem identity_ne_none : G.identity ≠ .none := by
  intro hnone
  obtain ⟨a, ha, hone⟩ := hG.surjective 1
  obtain ⟨b, -, hb, hne⟩ := hG.inverse_eq ha hone
  rw [inv_one] at hb
  refine hne (Value.eq_none_of_beq ?_)
  rw [← hnone]
  exact (hG.faithful hb hG.one).2 rfl

theorem subgroup_identity_spec (gens name : Value) :
    ∃ T, G.subgroup [G.identity] gens name = .ok T ∧ Consists R T ((⊥ : Subgroup M) : Set M) := by
  obtain ⟨r, hr, hstand, hextent⟩ := hG.subgroup_spec (standing_singleton hG.one) gens name
  have hconsists := hG.consists_subgroupOf hstand gens name
  rw [hextent, hG.faithful.extent_singleton hG.one, ← Subgroup.coe_bot] at hconsists
  exact ⟨_, hr, hconsists⟩

/-- The closure of elements is what they generate, and that of nothing is the identity. -/
theorem exists_closure {gens : List Value} (hgens : ∀ g ∈ gens, G.Invertible R g) :
    ∃ found els,
      (spanned gens G.mul (some G.inverse) G.identity unlimited).outcome = .ok found ∧
      Value.distinct found = .ok els ∧ Standing R els.toList ∧
      extent R els.toList = (Subgroup.closure (extent R gens) : Set M) := by
  obtain ⟨found, hfound, hstand, hextent⟩ : ∃ found,
      (spanned gens G.mul (some G.inverse) G.identity unlimited).outcome = .ok found ∧
      Standing R found ∧ extent R found = (Subgroup.closure (extent R gens) : Set M) := by
    by_cases hne : gens = []
    · subst hne
      refine ⟨[G.identity], ?_, standing_singleton hG.one, ?_⟩
      · have hid := hG.identity_ne_none
        rw [spanned_nil]
        split
        · next h => exact absurd h hid
        · rfl
      · rw [hG.faithful.extent_singleton hG.one, extent_nil, Subgroup.closure_empty,
          Subgroup.coe_bot]
    · obtain ⟨seed, hseed, hsub, hstand, hclosure⟩ := hG.faithful.exists_seeds hgens
      obtain ⟨found, hfound, hall, hextent⟩ := hG.spanned_spec hseed
        (fun h => hne (List.subset_nil.1 (h ▸ hsub))) hstand G.identity
      exact ⟨found.toList, hfound, hall, hextent.trans (congrArg _ hclosure)⟩
  obtain ⟨els, hels, hstand', hextent'⟩ := hG.distinct_spec hstand
  exact ⟨found, els, hfound, hels, hstand', hextent'.trans hextent⟩

/-- Elements span what they generate, and nothing spans the identity. -/
theorem span_spec_all {gens : List Value} (hgens : ∀ g ∈ gens, G.Invertible R g) :
    ∃ H, G.span gens = .ok H ∧ Consists R H (Subgroup.closure (extent R gens) : Set M) := by
  obtain ⟨found, els, hfound, hels, hstand, hextent⟩ := hG.exists_closure hgens
  refine ⟨G.subgroupOf els (.list 0 gens) .none, ?_, ?_⟩
  · simp [span, generated, subgroup, hG.requireMembers_eq (standing_of_inverts hgens), hfound,
      hels, hG.carries.requireIdentity_eq hstand]
  · rw [← hextent]
    exact hG.consists_subgroupOf hstand _ _

/-! ## What the maximal subgroups have in common -/

omit hG in
/-- What is spanned in the end. -/
theorem frattini_candidates (subs : List FiniteGroup) :
    G.candidate.frattini (subs.map candidate) = match maximalOf G.order subs with
      | [] => G.trivial
      | H :: rest => G.span (H.shared rest) := by
  have hmaximal : G.candidate.maximal (subs.map candidate) =
      .ok ((maximalOf G.order subs).map candidate) := maximalAmong_candidates G.order subs
  rw [Candidate.frattini, hmaximal, ok_bind]
  cases maximalOf G.order subs with
  | nil => rfl
  | cons H rest =>
    show (do G.span (← Candidate.common H.candidate (rest.map candidate))) = _
    rw [common_candidates, ok_bind]

/-- The groups of the list are the maximal ones. -/
theorem exists_coatom_of_mem {subs : List FiniteGroup}
    (hcons : ∀ H ∈ subs, ∃ K : Subgroup M, Consists R H K)
    (hall : ∀ K : Subgroup M, ∃ H ∈ subs, Consists R H K) :
    (∀ H ∈ maximalOf G.order subs, H ∈ subs ∧ ∃ K : Subgroup M, IsCoatom K ∧ Consists R H K) ∧
      ∀ K : Subgroup M, IsCoatom K → ∃ H ∈ maximalOf G.order subs, Consists R H K := by
  constructor
  · intro H hH
    have hmem := mem_of_mem_maximalOf hH
    obtain ⟨K, hHK⟩ := hcons H hmem
    exact ⟨hmem, K, (hG.carries.mem_maximalOf_iff hcons hall hmem hHK).1 hH, hHK⟩
  · intro K hK
    obtain ⟨H, hH, hHK⟩ := hall K
    exact ⟨H, (hG.carries.mem_maximalOf_iff hcons hall hH hHK).2 hK, hHK⟩

/-- What all maximal subgroups share is the Frattini subgroup. -/
theorem extent_shared_eq {subs : List FiniteGroup}
    (hcons : ∀ H ∈ subs, ∃ K : Subgroup M, Consists R H K)
    (hall : ∀ K : Subgroup M, ∃ H ∈ subs, Consists R H K) {H : FiniteGroup}
    {rest : List FiniteGroup} (hlist : maximalOf G.order subs = H :: rest) :
    Standing R (H.shared rest) ∧ extent R (H.shared rest) = frattini M := by
  obtain ⟨hsub, hcoatom⟩ := hG.exists_coatom_of_mem hcons hall
  rw [hlist] at hsub hcoatom
  obtain ⟨-, K, hK, hHK⟩ := hsub H (by simp)
  have hrest : ∀ H' ∈ rest, ∃ L : Subgroup M, IsCoatom L ∧ Consists R H' L := fun H' hH' =>
    (hsub H' (List.mem_cons_of_mem H hH')).2
  refine ⟨hHK.standing.mono fun a ha => (List.mem_filter.1 ha).1, ?_⟩
  rw [hG.carries.extent_shared hHK fun H' hH' => (hrest H' hH').imp fun L hL => hL.2]
  ext x
  rw [SetLike.mem_coe, mem_frattini_iff]
  constructor
  · rintro ⟨hxK, hx⟩ L hL
    obtain ⟨H', hH', hHL⟩ := hcoatom L hL
    obtain rfl | hH' := List.mem_cons.1 hH'
    · exact hHL.unique hHK ▸ hxK
    · exact hx H' hH' L hHL
  · intro hx
    refine ⟨hx K hK, fun H' hH' L hHL => ?_⟩
    obtain ⟨L', hL', hHL'⟩ := hrest H' hH'
    exact hx L (hHL'.unique hHL ▸ hL')

/-- The Frattini subgroup is found if whatever stands for an element is inverted. -/
theorem frattini_spec (hinv : ∀ ⦃a x⦄, R a x → G.Invertible R a) {subs : List FiniteGroup}
    (hcons : ∀ H ∈ subs, ∃ K : Subgroup M, Consists R H K)
    (hall : ∀ K : Subgroup M, ∃ H ∈ subs, Consists R H K) :
    ∃ F, G.candidate.frattini (subs.map candidate) = .ok F ∧
      Consists R F (frattini M : Set M) := by
  have := hG.finite
  obtain ⟨-, hcoatom⟩ := hG.exists_coatom_of_mem hcons hall
  rw [frattini_candidates]
  cases hlist : maximalOf G.order subs with
  | nil =>
    rw [hlist] at hcoatom
    rw [eq_bot_of_no_coatom (fun K hK => by simpa using hcoatom K hK) (frattini M)]
    exact hG.subgroup_identity_spec .none .none
  | cons H rest =>
    obtain ⟨hstand, hextent⟩ := hG.extent_shared_eq hcons hall hlist
    refine hG.span_of_subgroup (fun a ha => ?_) hextent
    obtain ⟨x, hx⟩ := hstand a ha
    exact hinv hx

end FiniteGroup.Realizes

/-! ## Valid groups -/

namespace ValidGroup

variable (G : ValidGroup)

/-- The values span the whole group. -/
def Generates (gens : List Value) : Prop :=
  ∃ H, G.span gens = .ok H ∧ H.elements.sameSet G.elements = true

/-- What there is to say about the Frattini subgroup of a group. -/
structure IsFrattini (F : FiniteGroup) : Prop where
  exists_normal : ∃ K : Subgroup G.Element, Consists G.Stands F K ∧ K.Normal
  isNormal_eq : G.candidate.isNormal F.candidate = .ok true
  /-- Its elements are those of all maximal subgroups. -/
  contains_iff : ∀ ⦃a x⦄, G.Stands a x →
    (F.contains a = .ok true ↔ ∀ K : Subgroup G.Element, IsCoatom K → x ∈ K)
  /-- Its elements are those that are of no use among generators. -/
  contains_iff_nongenerator : ∀ ⦃a x⦄, G.Stands a x → (F.contains a = .ok true ↔
    ∀ gens, Standing G.Stands gens → G.Generates (gens ++ [a]) → G.Generates gens)

variable {G}

/-- What is inverted spans the whole group if it generates it. -/
theorem generates_iff_closure {gens : List Value}
    (hgens : ∀ g ∈ gens, G.Invertible G.Stands g) :
    G.Generates gens ↔ Subgroup.closure (extent G.Stands gens) = ⊤ := by
  have hG := G.realizes
  obtain ⟨H, hH, hconsists⟩ := hG.span_spec_all hgens
  have hsame : H.elements.sameSet G.elements = true ↔
      Subgroup.closure (extent G.Stands gens) = ⊤ := by
    rw [hconsists.sameSet_iff faithful hG.consists, ← Subgroup.coe_top, SetLike.coe_set_eq]
  rw [← hsame]
  constructor
  · rintro ⟨H', hH', h⟩
    obtain rfl := Except.ok.inj (hH.symm.trans hH')
    exact h
  · exact fun h => ⟨H, hH, h⟩

theorem generates_iff (hinv : G.Inverts) {gens : List Value} (hgens : Standing G.Stands gens) :
    G.Generates gens ↔ Subgroup.closure (extent G.Stands gens) = ⊤ :=
  generates_iff_closure fun g hg => by
    obtain ⟨x, hx⟩ := hgens g hg
    exact hinv hx

/-- To be of no use among generators is to be in all maximal subgroups. -/
theorem nongenerator_iff (hinv : G.Inverts) {a : Value} {x : G.Element} (ha : G.Stands a x) :
    (∀ gens, Standing G.Stands gens → G.Generates (gens ++ [a]) → G.Generates gens) ↔
      x ∈ frattini G.Element := by
  have hG := G.realizes
  have := hG.finite
  have hadded : ∀ {gens}, Standing G.Stands gens → (G.Generates (gens ++ [a]) ↔
      Subgroup.closure (extent G.Stands gens) ⊔ Subgroup.zpowers x = ⊤) := fun hgens => by
    rw [generates_iff hinv (hgens.append (standing_singleton ha)), extent_append,
      faithful.extent_singleton ha, Subgroup.closure_union, Subgroup.zpowers_eq_closure]
  rw [mem_frattini_iff_nongenerator]
  constructor
  · intro h K hK
    -- the elements of a subgroup generate it
    classical
    let gens := G.els.filter fun b => decide (∃ y ∈ K, G.Stands b y)
    have hgens : Standing G.Stands gens := hG.standing.mono fun b hb => (List.mem_filter.1 hb).1
    have hextent : extent G.Stands gens = K := by
      rw [extent_filter (P := (· ∈ K)) fun b _ y hy => by
        rw [decide_eq_true_iff]
        exact ⟨fun ⟨z, hz, hbz⟩ => faithful.unique hy hbz ▸ hz, fun hyK => ⟨y, hyK, hy⟩⟩]
      ext y
      simp [hG.surjective y, mem_extent]
    have hclosure : Subgroup.closure (extent G.Stands gens) = K := by
      rw [hextent, Subgroup.closure_eq]
    rw [← hclosure, ← generates_iff hinv hgens]
    exact h gens hgens ((hadded hgens).2 (hclosure.symm ▸ hK))
  · intro h gens hgens hgenerates
    exact (generates_iff hinv hgens).2 (h _ ((hadded hgens).1 hgenerates))

/-- What all maximal subgroups have in common is the Frattini subgroup. -/
theorem isFrattini_of_consists (hinv : G.Inverts) {F : FiniteGroup}
    (hF : Consists G.Stands F (frattini G.Element : Set G.Element)) : G.IsFrattini F := by
  have hG := G.realizes
  have hcontains : ∀ ⦃a x⦄, G.Stands a x → (F.contains a = .ok true ↔ x ∈ frattini G.Element) :=
    fun a x ha => hG.contains_iff hF ha
  obtain ⟨answer, hanswer, hiff⟩ := hG.isNormal_spec hF
  refine ⟨⟨_, hF, inferInstance⟩, ?_, fun a x ha => (hcontains ha).trans mem_frattini_iff,
    fun a x ha => (hcontains ha).trans (nongenerator_iff hinv ha).symm⟩
  rw [hanswer, hiff.2 inferInstance]

/-- The Frattini subgroup of a valid group that is small enough for the search and inverts all
values that are equal to elements is found. -/
theorem exists_frattini (G : ValidGroup) (hinv : G.Inverts) (horder : G.order ≤ 200) :
    ∃ subs F, (G.candidate.allSubgroups .cyclic .none).outcome = .ok subs ∧
      G.candidate.frattini (subs.map FiniteGroup.candidate) = .ok F ∧ G.IsFrattini F := by
  obtain ⟨subs, hsubs, hcollects⟩ := G.realizes.allSubgroups_spec horder
  obtain ⟨F, hF, hconsists⟩ := G.realizes.frattini_spec hinv
    (fun H hH => (hcollects.consists H hH).imp fun K hK => hK.2)
    fun K => hcollects.complete K (Set.mem_univ K)
  exact ⟨subs, F, hsubs, hF, isFrattini_of_consists hinv hconsists⟩

/-- The residues modulo six have a Frattini subgroup. -/
theorem exists_frattini_residues :
    (validResidues (n := 6) (by decide) (by decide)).Inverts ∧
    (validResidues (n := 6) (by decide) (by decide)).order ≤ 200 ∧
    ∃ subs F, ((validResidues (n := 6) (by decide) (by decide)).candidate.allSubgroups .cyclic
        .none).outcome = .ok subs ∧
      (validResidues (n := 6) (by decide) (by decide)).candidate.frattini
        (subs.map FiniteGroup.candidate) = .ok F ∧
      (validResidues (n := 6) (by decide) (by decide)).IsFrattini F := by
  have horder : (validResidues (n := 6) (by decide) (by decide)).order ≤ 200 := by
    rw [order_validResidues]
    omega
  exact ⟨inverts_residues, horder, exists_frattini _ inverts_residues horder⟩

end ValidGroup

/-! ## Elements that are not inverted -/

/-- The residues modulo nine. -/
abbrev NineResidues : Type := Multiplicative (ZMod 9)

/-- The maximal subgroup of the residues modulo nine consists of the multiples of three. -/
theorem eq_ker_of_isCoatom {K : Subgroup NineResidues} (hK : IsCoatom K) :
    K = (powMonoidHom 3).ker := by
  have hcases : ∀ x : NineResidues, x ^ 3 = 1 ∨ ∃ k < 9, x ^ k = Multiplicative.ofAdd 1 := by
    decide
  have hpowers : ∀ y : NineResidues, ∃ k < 9, Multiplicative.ofAdd 1 ^ k = y := by
    decide
  have hone : ¬(Multiplicative.ofAdd 1 : NineResidues) ^ 3 = 1 := by
    decide
  have hle : K ≤ (powMonoidHom 3).ker := by
    intro x hx
    -- all other elements are generators
    obtain hx3 | ⟨k, -, hk⟩ := hcases x
    · exact hx3
    · refine absurd ((Subgroup.eq_top_iff' K).2 fun y => ?_) hK.1
      obtain ⟨j, -, rfl⟩ := hpowers y
      exact K.pow_mem (hk ▸ K.pow_mem hx k) j
  refine ((hK.le_iff.1 hle).resolve_left fun htop => hone ?_).symm
  have hmem : Multiplicative.ofAdd 1 ∈ (powMonoidHom 3 : NineResidues →* NineResidues).ker :=
    htop ▸ Subgroup.mem_top _
  exact hmem

theorem exists_isCoatom_nineResidues : ∃ K : Subgroup NineResidues, IsCoatom K := by
  have : Nontrivial NineResidues := ⟨1, Multiplicative.ofAdd 1, by decide⟩
  obtain ⟨K, hK, -⟩ := (eq_top_or_exists_le_coatom (⊥ : Subgroup NineResidues)).resolve_left
    bot_ne_top
  exact ⟨K, hK⟩

theorem mem_frattini_nineResidues {x : NineResidues} (hx : x ^ 3 = 1) :
    x ∈ frattini NineResidues :=
  mem_frattini_iff.2 fun _ hK => eq_ker_of_isCoatom hK ▸ hx

section

variable {n : Nat} {c : Int} (hpos : 0 < n) (hn : n < 10)
include hpos hn

/-- What residues span are products, which are floating-point numbers, and the seeds themselves. -/
theorem real_of_mem_spanned {gens seed : List Value}
    {inv : Option (Value → Except Fault Value)} (hseed : seeds gens inv = .ok seed)
    (hne : seed ≠ []) (hstand : Standing (WritesResidue n) seed) {identity : Value}
    {found : List Value} {els : Roster Value}
    (hfound : (spanned gens (machineResidues n c).mul inv identity unlimited).outcome = .ok found)
    (hels : Value.distinct found = .ok els) :
    ∀ a ∈ els.toList, a ∈ seed ∨ ∃ z, a = .real z := by
  have hreal : Multiplies (fun a y => WritesResidue n a y ∧ (a ∈ seed ∨ ∃ z, a = .real z))
      (machineResidues n c).mul := by
    refine (multiplies_writesResidue hpos hn .real).of_products ?_ ?_
    · intro a b d y y' ha hb hd
      obtain ⟨d', hd', -, hz⟩ := add_writesResidue hpos hn .real ha hb
      obtain rfl := Except.ok.inj (hd.symm.trans hd')
      exact .inr (hz rfl)
    · rintro a k y ⟨j, -, hwrites, -⟩ hform hk
      rwa [← Except.ok.inj (hwrites.keyed_eq.symm.trans hk)]
  have hseeds : Standing (fun a y => WritesResidue n a y ∧ (a ∈ seed ∨ ∃ z, a = .real z)) seed :=
    fun a ha => (hstand a ha).imp fun _ hy => ⟨hy, .inl ha⟩
  have := NeZero.of_pos hpos
  obtain ⟨-, found', -, hfound', -, hall, -⟩ := hreal.spanned_spec hseed hne hseeds identity
  obtain ⟨els', hels', hform, -⟩ := hreal.distinct_spec hall
  obtain rfl := Except.ok.inj (hfound.symm.trans hfound')
  obtain rfl := Except.ok.inj (hels.symm.trans hels')
  intro a ha
  obtain ⟨-, -, hform⟩ := hform a ha
  exact hform

end

/-- The list of elements of the maximal subgroup holds three numbers : the identity, the residue
that spans it, and a floating-point number. -/
theorem exists_real_of_spannedByElement {c : Int} (hc : ((9 : Nat) : Int) ∣ c + 1) {H : FiniteGroup}
    (hH : (machineResidues 9 c).SpannedByElement H) {items : List Value}
    (hitems : ∀ a ∈ items, a ∈ H.elements.toList)
    (hextent : ∀ x : NineResidues, x ^ 3 = 1 → x ∈ extent (WritesResidue 9) items) :
    ∃ z, .real z ∈ items := by
  have hG := realizes_machineResidues (n := 9) (by decide) (by decide) hc
  obtain ⟨g, hg, powers, els, hpowers, hels, helements⟩ := hH
  obtain ⟨x, hx⟩ := hG.standing g hg
  have hthree : ∀ x : NineResidues, ∃ y : NineResidues, y ^ 3 = 1 ∧ y ≠ 1 ∧ y ≠ x := by
    decide
  obtain ⟨y, hy, hne, hnex⟩ := hthree x
  obtain ⟨b, hb, hby⟩ := hextent y hy
  have hmem := hitems b hb
  rw [helements] at hmem
  obtain rfl | hmem := Roster.mem_of_mem_promote hmem
  · exact absurd (hG.faithful.unique hby hG.one) hne
  · have hseeds : seeds [g] none = .ok [g] := rfl
    obtain hseed | ⟨z, rfl⟩ := real_of_mem_spanned (by decide) (by decide) hseeds (by simp)
      (standing_singleton hx) hpowers hels b hmem
    · obtain rfl := List.mem_singleton.1 hseed
      exact absurd (hG.faithful.unique hby hx) hnex
    · exact ⟨z, hb⟩

/-- What the maximal subgroups share is not inverted. -/
theorem frattini_machineResidues {c : Int} (hc : ((9 : Nat) : Int) ∣ c + 1)
    (hlarge : Decimal.Real.ofInt c = .error .overflow) {subs : List FiniteGroup}
    (hcons : ∀ H ∈ subs, ∃ K : Subgroup NineResidues, Consists (WritesResidue 9) H K)
    (hall : ∀ K : Subgroup NineResidues, ∃ H ∈ subs, Consists (WritesResidue 9) H K)
    (hspanned : ∀ H ∈ subs, (machineResidues 9 c).SpannedByElement H) :
    (machineResidues 9 c).candidate.frattini (subs.map candidate) = .error .overflow := by
  have hG := realizes_machineResidues (n := 9) (by decide) (by decide) hc
  obtain ⟨hsub, hcoatom⟩ := hG.exists_coatom_of_mem hcons hall
  rw [Realizes.frattini_candidates]
  cases hlist : maximalOf (machineResidues 9 c).order subs with
  | nil =>
    obtain ⟨K, hK⟩ := exists_isCoatom_nineResidues
    rw [hlist] at hcoatom
    simpa using hcoatom K hK
  | cons H rest =>
    obtain ⟨hstand, hextent⟩ := hG.extent_shared_eq hcons hall hlist
    have hmem : H ∈ subs := (hsub H (by rw [hlist]; simp)).1
    exact span_real (by decide) (by decide) hc hlarge hstand <|
      exists_real_of_spannedByElement hc (hspanned H hmem)
        (fun a ha => (List.mem_filter.1 ha).1) fun x hx =>
          hextent.superset (mem_frattini_nineResidues hx)

/-- A valid group that is small enough for the search, without a Frattini subgroup. -/
theorem frattini_error :
    (validMachineResidues (n := 9) (by decide) (by decide)).order ≤ 200 ∧
    ∃ subs, ((validMachineResidues (n := 9) (by decide) (by decide)).candidate.allSubgroups .cyclic
        .none).outcome = .ok subs ∧
      (validMachineResidues (n := 9) (by decide) (by decide)).candidate.frattini
        (subs.map FiniteGroup.candidate) = .error .overflow := by
  have hc := dvd_largeFactor 9
  have hG := realizes_machineResidues (n := 9) (by decide) (by decide) hc
  have horder : (validMachineResidues (n := 9) (by decide) (by decide)).order ≤ 200 := by
    refine hG.order_eq.trans_le ?_
    rw [Nat.card_congr Multiplicative.toAdd, Nat.card_zmod]
    omega
  -- all subgroups are cyclic, so the search lists those that single elements span
  obtain ⟨cyclic, hcyclic, hjoins⟩ := hG.allJoins_of_cyclic fun K =>
    K.isCyclic_iff_exists_zpowers_eq_top.1 inferInstance
  obtain ⟨found, hfound, hcollects⟩ := hG.allJoins_spec
  obtain rfl := Except.ok.inj (hjoins.symm.trans hfound)
  refine ⟨horder, _, hG.allSubgroups_eq (before_maxSearch horder) hcollects
    (.inl ⟨rfl, hjoins⟩), frattini_machineResidues hc (ofInt_largeFactor (by decide)) ?_ ?_ ?_⟩
  · intro H hH
    obtain ⟨K, -, hHK⟩ := hcollects.consists H (List.mem_mergeSort.1 hH)
    exact ⟨K, hHK⟩
  · intro K
    obtain ⟨H, hH, hHK⟩ := hcollects.complete K (Set.mem_univ K)
    exact ⟨H, List.mem_mergeSort.2 hH, hHK⟩
  · exact fun H hH => exists_generator hcyclic H (List.mem_mergeSort.1 hH)

end FiniteGroups
