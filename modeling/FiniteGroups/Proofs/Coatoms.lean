import FiniteGroups.Proofs.Conjugates
import FiniteGroups.Proofs.Frattini

/-!
# What is maximal

The maximal subgroups that are listed are the coatoms among all subgroups : each element outside
one of them generates the whole group together with it, and every proper subgroup is contained in
one of them.

`ValidGroup.exists_maximal` says it for valid groups. Where the group itself is to be asked what
is generated, the elements of the subgroup must be inverted as they are written in it. In
`exists_coatom_error` a maximal subgroup is listed whose elements are not, and then nothing at all
is generated.
-/

set_option linter.unusedSectionVars false

namespace FiniteGroups

open FiniteGroup

/-- A subgroup is maximal if it is not everything, but becomes everything with any other element. -/
theorem isCoatom_iff_sup_zpowers {M : Type} [Group M] {K : Subgroup M} :
    IsCoatom K ↔ K ≠ ⊤ ∧ ∀ x ∉ K, K ⊔ Subgroup.zpowers x = ⊤ := by
  refine and_congr_right fun _ => ?_
  constructor
  · intro h x hx
    exact h _ (left_lt_sup.2 fun hle => hx (Subgroup.zpowers_le.1 hle))
  · intro h L hKL
    obtain ⟨x, hxL, hx⟩ := SetLike.exists_of_lt hKL
    exact top_le_iff.1 (h x hx ▸ sup_le hKL.le (Subgroup.zpowers_le.2 hxL))

namespace ValidGroup

variable (G : ValidGroup)

/-- The values span a group that is found equal to `G`. -/
def GeneratesEqual (gens : List Value) : Prop :=
  ∃ H, G.span gens = .ok H ∧ H.value.equal G.value = .ok true

/-- `H` is not all of `G`, but spans it together with any element outside. -/
def IsMaximal (Spans : List Value → Prop) (H : FiniteGroup) : Prop :=
  H.elements.sameSet G.elements = false ∧
    ∀ x ∈ G.els, H.contains x = .ok false → Spans (H.els ++ [x])

/-- What there is to say about the maximal subgroups of a group. -/
structure ListsMaximal (maximal : List FiniteGroup) : Prop where
  consists : ∀ H ∈ maximal, ∃ K : Subgroup G.Element, IsCoatom K ∧ Consists G.Stands H K
  existsUnique : ∀ K : Subgroup G.Element, IsCoatom K →
    ∃! i, Consists G.Stands (maximal.get i) K
  /-- A subgroup whose elements are inverted as they are written is listed if it spans the group
  together with any element outside. -/
  listed_iff : ∀ ⦃H : FiniteGroup⦄ ⦃K : Subgroup G.Element⦄, Consists G.Stands H K →
    (∀ a ∈ H.els, G.Invertible G.Stands a) →
    ((∃ L ∈ maximal, L.elements.sameSet H.elements = true) ↔ G.IsMaximal G.Generates H)
  /-- What is spanned is found equal to the group, which as a value must be equal to itself. -/
  listed_iff_equal : G.value.equal G.value = .ok true →
    ∀ ⦃H : FiniteGroup⦄ ⦃K : Subgroup G.Element⦄, Consists G.Stands H K →
    (∀ a ∈ H.els, G.Invertible G.Stands a) →
    ((∃ L ∈ maximal, L.elements.sameSet H.elements = true) ↔ G.IsMaximal G.GeneratesEqual H)
  /-- Every proper subgroup is contained in a listed one. -/
  exists_above : ∀ ⦃H : FiniteGroup⦄ ⦃K : Subgroup G.Element⦄, Consists G.Stands H K →
    H.elements.sameSet G.elements = false → ∃ L ∈ maximal, H.elements.subset L.elements = true

variable {G}

/-- To span the group is to span a group that is found equal to it. -/
theorem generatesEqual_iff (hself : G.value.equal G.value = .ok true) {gens : List Value}
    (hgens : ∀ g ∈ gens, G.Invertible G.Stands g) : G.GeneratesEqual gens ↔ G.Generates gens := by
  have hG := G.realizes
  obtain ⟨H, hH, hconsists⟩ := hG.span_spec_all hgens
  have hequal := equal_value_iff faithful hconsists hG.consists (hG.intact.of_span hH).1 hself
  rw [← hconsists.sameSet_iff faithful hG.consists] at hequal
  constructor
  · rintro ⟨H', hH', h⟩
    obtain rfl := Except.ok.inj (hH.symm.trans hH')
    exact ⟨H, hH, hequal.1 h⟩
  · rintro ⟨H', hH', h⟩
    obtain rfl := Except.ok.inj (hH.symm.trans hH')
    exact ⟨H, hH, hequal.2 h⟩

section

variable {H : FiniteGroup} {K : Subgroup G.Element} (hH : Consists G.Stands H K)
include hH

theorem sameSet_eq_false_iff : H.elements.sameSet G.elements = false ↔ K ≠ ⊤ := by
  rw [← Bool.not_eq_true, hH.sameSet_iff faithful G.realizes.consists, Subgroup.coe_eq_univ]

variable (hinv : ∀ a ∈ H.els, G.Invertible G.Stands a)
include hinv

theorem invertible_concat {x : Value} (hx : x ∈ G.els) :
    ∀ a ∈ H.els ++ [x], G.Invertible G.Stands a := by
  intro a ha
  obtain ha | ha := List.mem_append.1 ha
  · exact hinv a ha
  · exact List.mem_singleton.1 ha ▸ G.realizes.invertible_of_mem hx

/-- Whether a subgroup is maximal can be told by what is spanned. -/
theorem isMaximal_iff : G.IsMaximal G.Generates H ↔ IsCoatom K := by
  have hG := G.realizes
  have hspans : ∀ {a : Value} {x : G.Element}, a ∈ G.els → G.Stands a x →
      (G.Generates (H.els ++ [a]) ↔ K ⊔ Subgroup.zpowers x = ⊤) := fun {a x} ha hax => by
    rw [generates_iff_closure (invertible_concat hH hinv ha), extent_append, hH.els_eq,
      hH.extent_eq, faithful.extent_singleton hax, Subgroup.closure_union, Subgroup.closure_eq,
      Subgroup.zpowers_eq_closure]
  rw [IsMaximal, sameSet_eq_false_iff hH, isCoatom_iff_sup_zpowers]
  refine and_congr_right fun _ => ?_
  constructor
  · intro h x hx
    obtain ⟨a, ha, hax⟩ := hG.surjective x
    exact (hspans ha hax).1 (h a ha ((hG.contains_eq_false_iff hH hax).2 hx))
  · intro h a ha hout
    obtain ⟨x, hax⟩ := hG.standing a ha
    exact (hspans ha hax).2 (h x ((hG.contains_eq_false_iff hH hax).1 hout))

theorem isMaximal_equal_iff (hself : G.value.equal G.value = .ok true) :
    G.IsMaximal G.GeneratesEqual H ↔ G.IsMaximal G.Generates H := by
  refine and_congr_right fun _ => forall₂_congr fun x hx => ?_
  rw [generatesEqual_iff hself (invertible_concat hH hinv hx)]

end

/-- A list of the coatoms is what the maximal subgroups should be. -/
theorem listsMaximal_of_collects {maximal : List FiniteGroup}
    (h : Collects G.Stands maximal {K : Subgroup G.Element | IsCoatom K}) :
    G.ListsMaximal maximal := by
  have := G.realizes.finite
  have hlisted : ∀ {H : FiniteGroup} {K : Subgroup G.Element}, Consists G.Stands H K →
      ((∃ L ∈ maximal, L.elements.sameSet H.elements = true) ↔ IsCoatom K) := fun {H K} hH => by
    constructor
    · rintro ⟨L, hL, hsame⟩
      obtain ⟨J, hJ, hLJ⟩ := h.consists L hL
      obtain rfl := SetLike.coe_injective ((hLJ.sameSet_iff faithful hH).1 hsame)
      exact hJ
    · intro hK
      obtain ⟨L, hL, hLK⟩ := h.complete K hK
      exact ⟨L, hL, (hLK.sameSet_iff faithful hH).2 rfl⟩
  refine ⟨h.consists, fun K hK => h.existsUnique faithful hK, fun H K hH hinv => ?_,
    fun hself H K hH hinv => ?_, fun H K hH hproper => ?_⟩
  · rw [hlisted hH, isMaximal_iff hH hinv]
  · rw [hlisted hH, isMaximal_equal_iff hH hinv hself, isMaximal_iff hH hinv]
  · obtain ⟨L, hL, hKL⟩ :=
      (eq_top_or_exists_le_coatom K).resolve_left ((sameSet_eq_false_iff hH).1 hproper)
    obtain ⟨C, hC, hCL⟩ := h.complete L hL
    exact ⟨C, hC, (hH.subset_iff faithful hCL).2 hKL⟩

/-- The maximal subgroups of a valid group that is small enough for the search are listed. -/
theorem exists_maximal (G : ValidGroup) (horder : G.order ≤ 200) :
    ∃ subs maximal : List FiniteGroup,
      (G.candidate.allSubgroups .cyclic .none).outcome = .ok subs ∧
      G.candidate.maximal (subs.map FiniteGroup.candidate) =
        .ok (maximal.map FiniteGroup.candidate) ∧
      G.ListsMaximal maximal := by
  have hG := G.realizes.carries
  obtain ⟨subs, hsubs, hall⟩ := hG.allSubgroups_spec horder
  exact ⟨subs, _, hsubs, maximalAmong_candidates G.order subs,
    listsMaximal_of_collects (hG.collects_maximalOf hall)⟩

/-- The residues modulo six have maximal subgroups, which are told by what is spanned. -/
theorem exists_maximal_residues :
    (validResidues (n := 6) (by decide) (by decide)).order ≤ 200 ∧
    (validResidues (n := 6) (by decide) (by decide)).Inverts ∧
    ∃ subs maximal : List FiniteGroup,
      ((validResidues (n := 6) (by decide) (by decide)).candidate.allSubgroups .cyclic
        .none).outcome = .ok subs ∧
      (validResidues (n := 6) (by decide) (by decide)).candidate.maximal
        (subs.map FiniteGroup.candidate) = .ok (maximal.map FiniteGroup.candidate) ∧
      (validResidues (n := 6) (by decide) (by decide)).ListsMaximal maximal := by
  have horder : (validResidues (n := 6) (by decide) (by decide)).order ≤ 200 := by
    rw [order_validResidues]
    omega
  exact ⟨horder, inverts_residues, exists_maximal _ horder⟩

end ValidGroup

/-! ## Subgroups with elements that are not inverted -/

/-- All subgroups of the residues are spanned by single elements. -/
theorem exists_subs_machineResidues :
    (machineResidues 9 (largeFactor 9)).order ≤ 200 ∧
    ∃ subs, ((machineResidues 9 (largeFactor 9)).candidate.allSubgroups .cyclic .none).outcome =
        .ok subs ∧
      Collects (WritesResidue 9) subs (Set.univ : Set (Subgroup NineResidues)) ∧
      ∀ H ∈ subs, (machineResidues 9 (largeFactor 9)).SpannedByElement H := by
  have hG := realizes_machineResidues (n := 9) (by decide) (by decide) (dvd_largeFactor 9)
  have horder : (machineResidues 9 (largeFactor 9)).order ≤ 200 := by
    refine hG.order_eq.trans_le ?_
    rw [Nat.card_congr Multiplicative.toAdd, Nat.card_zmod]
    omega
  obtain ⟨cyclic, hcyclic, hjoins⟩ := hG.allJoins_of_cyclic fun K =>
    K.isCyclic_iff_exists_zpowers_eq_top.1 inferInstance
  obtain ⟨subs, hsubs, hcollects⟩ := hG.allSubgroups_spec horder
  -- the search does not join anything, since the cyclic subgroups are all there are
  obtain ⟨joins, hjoins', hperm⟩ := exists_joins_of_allSubgroups hsubs
  obtain rfl := Except.ok.inj (hjoins.symm.trans hjoins')
  exact ⟨horder, subs, hsubs, hcollects, fun H hH =>
    exists_generator hcyclic H (hperm.subset hH)⟩

/-- A valid group that is small enough for the search, with a maximal subgroup that does not span
anything together with an element outside. -/
theorem exists_coatom_error :
    let G := validMachineResidues (n := 9) (by decide) (by decide)
    G.order ≤ 200 ∧ ∃ subs maximal : List FiniteGroup,
      (G.candidate.allSubgroups .cyclic .none).outcome = .ok subs ∧
      G.candidate.maximal (subs.map FiniteGroup.candidate) =
        .ok (maximal.map FiniteGroup.candidate) ∧
      ∃ H ∈ maximal, .int 1 ∈ G.els ∧ H.contains (.int 1) = .ok false ∧
        G.span (H.els ++ [.int 1]) = .error .overflow := by
  intro G
  have hc := dvd_largeFactor 9
  have hG := realizes_machineResidues (n := 9) (by decide) (by decide) hc
  obtain ⟨horder, subs, hsubs, hall, hspanned⟩ := exists_subs_machineResidues
  have hcollects := hG.carries.collects_maximalOf hall
  obtain ⟨K, hK⟩ := exists_isCoatom_nineResidues
  obtain ⟨H, hH, hHK⟩ := hcollects.complete K hK
  obtain rfl := eq_ker_of_isCoatom hK
  have hone : WritesResidue 9 (.int 1) (Multiplicative.ofAdd 1) := ⟨1, by decide, .int, rfl⟩
  have hreal : ∃ z, .real z ∈ H.elements.toList :=
    exists_real_of_spannedByElement hc (hspanned H (mem_of_mem_maximalOf hH)) (fun a ha => ha)
      fun x hx => hHK.extent_eq.superset hx
  refine ⟨horder, subs, _, hsubs, maximalAmong_candidates _ subs, H, hH,
    (mem_residues (by decide)).2 ⟨1, by decide, rfl⟩, ?_, ?_⟩
  · rw [hG.contains_eq_false_iff hHK hone]
    show ¬(Multiplicative.ofAdd 1 : NineResidues) ^ 3 = 1
    decide
  · refine span_real (by decide) (by decide) hc (ofInt_largeFactor (by decide))
      (hHK.standing_els.append (standing_singleton hone)) ?_
    obtain ⟨z, hz⟩ := hreal
    exact ⟨z, List.mem_append_left _ (hHK.els_eq ▸ hz)⟩

end FiniteGroups
