import FiniteGroups.Proofs.Commuting
import FiniteGroups.Proofs.Conjugates
import FiniteGroups.Proofs.Quotients
import FiniteGroups.Proofs.Within

/-!
# Centralizers

The elements that commute with some values are collected and handed to the closure, which adds
nothing to them (`ValidGroup.IsCommutant`). A subgroup is given by all its elements, a single
element by the subgroup that it spans: what commutes with a generator commutes with all that it
generates.

`ValidGroup.IsCentralizer` says how the centralizers of subgroups are related to each other and to
the normalizer, `ValidGroup.exists_centralizer` that they are what they should be, for elements and
for the center as well.
-/

set_option linter.unusedSectionVars false

namespace FiniteGroups

open FiniteGroup

variable {M : Type} [Group M]

theorem le_centralizer_centralizer (N : Subgroup M) :
    N ≤ Subgroup.centralizer (Subgroup.centralizer (N : Set M) : Set M) :=
  Subgroup.le_centralizer_iff.1 le_rfl

/-- Of three centralizers the first one is left. -/
theorem centralizer_centralizer_centralizer (N : Subgroup M) :
    Subgroup.centralizer (Subgroup.centralizer (Subgroup.centralizer (N : Set M) : Set M) : Set M) =
      Subgroup.centralizer (N : Set M) :=
  le_antisymm (Subgroup.centralizer_le (le_centralizer_centralizer N))
    (le_centralizer_centralizer _)

/-- What normalizes a set normalizes its centralizer. -/
theorem normalizer_le_normalizer_centralizer (S : Set M) :
    Subgroup.normalizer S ≤ Subgroup.normalizer (Subgroup.centralizer S : Set M) :=
  Subgroup.normal_subgroupOf_iff_le_normalizer (Subgroup.centralizer_le_normalizer S) |>.1
    inferInstance

namespace FiniteGroup.Realizes

variable {R : Value → M → Prop} {G H : FiniteGroup} (hG : G.Realizes R)
include hG

/-- The elements that commute with a set span a group of these elements and no others. -/
theorem forms_centralizer {T : Set M} (hH : Consists R H T) : ∃ C,
    G.candidate.centralizer H.candidate = .ok C ∧ G.IsWithin C ∧
      Forms R C (Subgroup.centralizer T) := by
  obtain ⟨found, -, hsub, hextent, hrun⟩ := hG.exists_centralizing hH
  obtain ⟨C, hC, hforms⟩ := hG.forms_span hsub hextent
  exact ⟨C, hrun.trans hC, isWithin_of_span hC, hforms⟩

/-- Whether an element commutes with all of a list. -/
theorem allM_commute_spec {xs : List Value} (hxs : Standing R xs) {g : Value} {y : M}
    (hg : R g y) : ∃ answer, (xs.allM fun a => G.commute g a) = .ok answer ∧
      (answer = true ↔ y ∈ Subgroup.centralizer (extent R xs)) := by
  obtain ⟨answer, hanswer, hiff⟩ := hG.faithful.exists_allM hxs fun a _ x hx => hG.commute_spec hg hx
  refine ⟨answer, hanswer, hiff.trans ?_⟩
  rw [Subgroup.mem_centralizer_iff]
  exact forall₂_congr fun x _ => eq_comm

end FiniteGroup.Realizes

/-- A normalizer is made within the group. -/
theorem FiniteGroup.isWithin_of_normalizer {G H K : FiniteGroup}
    (h : G.candidate.normalizer H.candidate = .ok K) : G.IsWithin K := by
  have hrun : (do G.span (← G.els.filterM (G.candidate.normalizes H.candidate H.elements))) =
    .ok K := h
  obtain ⟨found, -, hspan⟩ := bind_eq_ok.1 hrun
  exact isWithin_of_span hspan

namespace ValidGroup

variable {G : ValidGroup}

/-- A subgroup passes the check of a set that is to become a subgroup in each subgroup that
includes it. -/
theorem IsSubgroup.checkSubgroup_of_le {H K : FiniteGroup} (hH : G.IsSubgroup H)
    (hK : G.IsSubgroup K) {N L : Subgroup G.Element} (hN : Consists G.Stands H N)
    (hL : Consists G.Stands K L) (hle : N ≤ L) : K.checkSubgroup H.els = .ok () := by
  have hrealizes := G.realizes.restrict hK.isWithin hL hK.invertible
  have hconsists : Consists (fun a (x : L) => G.Stands a x) H (N.subgroupOf L) := by
    refine ⟨hN.els_eq, fun a ha => ?_, ?_⟩
    · obtain ⟨x, hx⟩ := hN.standing a ha
      exact ⟨⟨x, hle (hN.extent_eq.subset ⟨a, ha, hx⟩)⟩, hx⟩
    · ext x
      exact Set.ext_iff.1 hN.extent_eq x
  refine hrealizes.checkSubgroup_of_invertible hconsists.standing_els hconsists.extent_els
    fun a ha k hk => ?_
  obtain ⟨x, b, hx, hb, hbx⟩ :=
    G.realizes.invertible_of_keyed_mem hH.isWithin hN hH.invertible ha hk
  obtain ⟨y, hy⟩ := hconsists.standing_els a ha
  -- the key stands for what the element stands for
  obtain rfl := faithful.unique hx (G.realizes.stands_of_keyed hy hk)
  exact ⟨y, b, hx, hK.isWithin.inverse_eq ▸ hb, hbx⟩

variable (G)

/-- `C` is a subgroup that has exactly the elements of `G` that commute with all of `xs`. -/
structure IsCommutant (xs : List Value) (C : FiniteGroup) : Prop where
  isSubgroup : G.IsSubgroup C
  subset : C.elements.subset G.elements = true
  contains_iff : ∀ g ∈ G.els, ∃ answer, C.contains g = .ok answer ∧
    (answer = true ↔ ∀ a ∈ xs, G.commute g a = .ok true)
  /-- It is the set of what is found to commute. -/
  filterM_eq : ∃ found, (G.els.filterM fun g => xs.allM fun a => G.commute g a) = .ok found ∧
    C.elements.sameSet (.ofList found) = true

/-- The groups have the same elements, and they are found equal if `G` as a value is equal to
itself. -/
structure Coincide (K L : FiniteGroup) : Prop where
  sameSet : K.elements.sameSet L.elements = true
  equal_eq : G.value.equal G.value = .ok true → K.value.equal L.value = .ok true

/-- What there is to say about the centralizer `C` of `H`. -/
structure IsCentralizer (H C : FiniteGroup) : Prop extends G.IsCommutant H.els C where
  /-- Larger subgroups have smaller centralizers. -/
  antitone : ∀ ⦃K : FiniteGroup⦄ ⦃L : Subgroup G.Element⦄, Consists G.Stands K L →
    H.elements.subset K.elements = true →
    ∃ D, G.candidate.centralizer K.candidate = .ok D ∧ D.elements.subset C.elements = true
  /-- The centralizer of the centralizer includes the subgroup and has the same centralizer. -/
  bicommutant : ∃ D E, G.candidate.centralizer C.candidate = .ok D ∧
    H.elements.subset D.elements = true ∧ G.candidate.centralizer D.candidate = .ok E ∧
    G.Coincide E C
  /-- It is a normal subgroup of the normalizer. -/
  isNormal_eq : ∃ K, G.candidate.normalizer H.candidate = .ok K ∧
    K.checkSubgroup C.els = .ok () ∧ K.candidate.isNormal C.candidate = .ok true

/-- The group is found to be abelian if and only if `Z` is all of it. -/
structure TellsAbelian (Z : FiniteGroup) (answer : Bool) : Prop where
  center : answer = true ↔ Z.elements.sameSet G.elements = true
  equal : G.value.equal G.value = .ok true → (answer = true ↔ Z.value.equal G.value = .ok true)

variable {G}

theorem isCommutant_of_forms {xs : List Value} (hxs : Standing G.Stands xs) {C : FiniteGroup}
    (hwithin : G.IsWithin C)
    (hC : Forms G.Stands C (Subgroup.centralizer (extent G.Stands xs))) : G.IsCommutant xs C where
  isSubgroup := isSubgroup_of_forms hwithin hC
  subset := (hC.subset_iff faithful G.realizes.consists).2 (Set.subset_univ _)
  contains_iff g hg := by
    obtain ⟨x, hx⟩ := G.realizes.standing g hg
    obtain ⟨answer, hanswer, hiff⟩ := G.realizes.contains_spec hC.toConsists hx
    refine ⟨answer, hanswer, hiff.trans ?_⟩
    rw [SetLike.mem_coe, Subgroup.mem_centralizer_iff]
    constructor
    · intro h a ha
      obtain ⟨y, hy⟩ := hxs a ha
      exact (eq_ok_true_iff (G.realizes.commute_spec hx hy)).2 (h y ⟨a, ha, hy⟩).symm
    · rintro h y ⟨a, ha, hy⟩
      exact ((eq_ok_true_iff (G.realizes.commute_spec hx hy)).1 (h a ha)).symm
  filterM_eq := by
    obtain ⟨found, hfound, hsub, hextent⟩ := faithful.exists_filterM G.realizes.standing
      fun g _ y hg => G.realizes.allM_commute_spec hxs hg
    have hstand := G.realizes.standing.mono fun a ha => hsub.subset ha
    refine ⟨found, hfound, ?_⟩
    rw [faithful.sameSet_iff hC.standing (hstand.mono fun a => Roster.mem_of_mem_ofList),
      faithful.extent_ofList hstand, hC.extent_eq, hextent, G.realizes.extent_els]
    ext x
    simp

theorem coincide_of_eq {K L : FiniteGroup} {S T : Set G.Element} (hK : Consists G.Stands K S)
    (hL : Consists G.Stands L T) (hKop : K.op = G.op) (hLop : L.op = G.op) (h : S = T) :
    G.Coincide K L where
  sameSet := (hK.sameSet_iff faithful hL).2 h
  equal_eq hself := (equal_value_of_op faithful hK hL G.realizes.consists hKop hLop hself).2 h

theorem isCentralizer_of_forms {H C : FiniteGroup} {N : Subgroup G.Element}
    (hH : Consists G.Stands H N) (hwithin : G.IsWithin C)
    (hC : Forms G.Stands C (Subgroup.centralizer (N : Set G.Element))) :
    G.IsCentralizer H C where
  toIsCommutant := by
    refine isCommutant_of_forms hH.standing_els hwithin ?_
    rw [hH.els_eq, hH.extent_eq]
    exact hC
  antitone K L hK hsub := by
    obtain ⟨D, hD, hconsists⟩ := G.realizes.centralizer_spec hK
    refine ⟨D, hD, (hconsists.subset_iff faithful hC.toConsists).2 ?_⟩
    exact Subgroup.centralizer_le ((hH.subset_iff faithful hK).1 hsub)
  bicommutant := by
    obtain ⟨D, hD, hDconsists⟩ := G.realizes.centralizer_spec hC.toConsists
    obtain ⟨E, hE, hEwithin, hforms⟩ := G.realizes.forms_centralizer hDconsists
    refine ⟨D, E, hD, (hH.subset_iff faithful hDconsists).2 (le_centralizer_centralizer N), hE, ?_⟩
    exact coincide_of_eq hforms.toConsists hC.toConsists hEwithin.op_eq hwithin.op_eq
      (congrArg SetLike.coe (centralizer_centralizer_centralizer N))
  isNormal_eq := by
    obtain ⟨K, hK, -, hforms⟩ := G.realizes.normalizer_spec hH
    have hK' := isSubgroup_of_forms (isWithin_of_normalizer hK) hforms
    refine ⟨K, hK, ?_, ?_⟩
    · exact (isSubgroup_of_forms hwithin hC).checkSubgroup_of_le hK' hC.toConsists hforms.toConsists
        (Subgroup.centralizer_le_normalizer _)
    · exact (eq_ok_true_iff (hforms.isNormal_spec hC.toConsists)).2
        (normalizer_le_normalizer_centralizer _)

theorem tellsAbelian_of_consists {Z : FiniteGroup} (hwithin : G.IsWithin Z)
    (hZ : Consists G.Stands Z (Subgroup.center G.Element : Set G.Element)) {answer : Bool}
    (hanswer : answer = true ↔ ∀ x y : G.Element, Commute x y) : G.TellsAbelian Z answer := by
  have hwhole : (Subgroup.center G.Element : Set G.Element) = Set.univ ↔
      ∀ x y : G.Element, Commute x y := by
    rw [Subgroup.coe_eq_univ, Subgroup.eq_top_iff']
    exact forall_congr' fun x => Subgroup.mem_center_iff.trans (forall_congr' fun y => eq_comm)
  refine ⟨?_, fun hself => ?_⟩
  · rw [hanswer, hZ.sameSet_iff faithful G.realizes.consists, hwhole]
  · rw [hanswer, equal_value_iff faithful hZ G.realizes.consists hwithin.op_eq hself, hwhole]

/-- What commutes with one element is found. -/
theorem exists_elementCentralizer {g : Value} (hg : g ∈ G.els) : ∃ C,
    G.candidate.elementCentralizer g = .ok C ∧ G.IsCommutant [g] C := by
  obtain ⟨x, hx⟩ := G.realizes.standing g hg
  obtain ⟨P, hP, hrun⟩ := G.realizes.elementCentralizer_eq hx (G.realizes.invertible_of_mem hg)
  obtain ⟨C, hC, hwithin, hforms⟩ := G.realizes.forms_centralizer hP
  refine ⟨C, hrun.trans hC, isCommutant_of_forms (standing_singleton hx) hwithin ?_⟩
  -- what commutes with `x` commutes with what `x` generates
  rwa [faithful.extent_singleton hx, ← Subgroup.centralizer_closure]

/-- The center is found, and it is the whole group if and only if the group is abelian. -/
theorem exists_center (G : ValidGroup) : ∃ Z answer, G.candidate.center = .ok Z ∧
    G.isAbelian = .ok answer ∧ G.IsCommutant G.els Z ∧ G.TellsAbelian Z answer := by
  obtain ⟨answer, hanswer, hiff⟩ := G.realizes.isAbelian_spec
  obtain ⟨Z, hZ, hwithin, hforms⟩ := G.realizes.forms_centralizer G.realizes.consists
  refine ⟨Z, answer, hZ, hanswer, isCommutant_of_forms G.realizes.standing hwithin ?_, ?_⟩
  · rwa [G.realizes.extent_els]
  · refine tellsAbelian_of_consists hwithin ?_ hiff
    rw [← Subgroup.centralizer_univ]
    exact hforms.toConsists

/-- The centralizer of a subgroup has exactly the elements that commute with it, and so has the
centralizer of an element. Taking the centralizer twice includes the subgroup, and the normalizer
has the centralizer as a normal subgroup. A group is abelian if and only if it is its center. -/
theorem exists_centralizer (G : ValidGroup) {H : FiniteGroup} {N : Subgroup G.Element}
    (hH : Consists G.Stands H N) :
    (∃ C, G.candidate.centralizer H.candidate = .ok C ∧ G.IsCentralizer H C) ∧
      (∀ g ∈ G.els, ∃ C, G.candidate.elementCentralizer g = .ok C ∧ G.IsCommutant [g] C) ∧
      ∃ Z answer, G.candidate.center = .ok Z ∧ G.isAbelian = .ok answer ∧
        G.IsCommutant G.els Z ∧ G.TellsAbelian Z answer := by
  obtain ⟨C, hC, hwithin, hforms⟩ := G.realizes.forms_centralizer hH
  exact ⟨⟨C, hC, isCentralizer_of_forms hH hwithin hforms⟩,
    fun g hg => exists_elementCentralizer hg, exists_center G⟩

/-- The multiples of three have a centralizer among the residues modulo six. -/
theorem exists_centralizer_threes :
    let G := validResidues (n := 6) (by decide) (by decide)
    ∃ N : Subgroup G.Element, Consists G.Stands threes N ∧
      (∃ C, G.candidate.centralizer threes.candidate = .ok C ∧ G.IsCentralizer threes C) ∧
      (∀ g ∈ G.els, ∃ C, G.candidate.elementCentralizer g = .ok C ∧ G.IsCommutant [g] C) ∧
      ∃ Z answer, G.candidate.center = .ok Z ∧ G.isAbelian = .ok answer ∧
        G.IsCommutant G.els Z ∧ G.TellsAbelian Z answer := by
  obtain ⟨N, -, hconsists⟩ := exists_consists_threes
  exact ⟨N, hconsists, exists_centralizer _ hconsists⟩

end ValidGroup

end FiniteGroups
