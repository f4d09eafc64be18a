import FiniteGroups.Proofs.AllSubgroups
import FiniteGroups.Proofs.Quotients

/-!
# Subgroups and their images

A homomorphism onto a group sends the subgroups above its kernel to the subgroups of the image,
each of them once. As data the image of a subgroup is the set of the images of its elements
(`FiniteGroup.IsImage`), and the subgroups on both sides are those that two searches list. That
the images match the lists is `Match`, and follows from what the lists collect
(`match_of_collects`).

`ValidGroup.exists_match_quotient` is the case of a quotient, where the elements are sent to their
cosets. The search through the quotient compares cosets, whatever represents them.
-/

set_option linter.unusedSectionVars false

namespace FiniteGroups

open FiniteGroup

/-- A subgroup above the kernel is normal exactly if its image is. -/
theorem normal_map_iff {M M' : Type} [Group M] [Group M'] {π : M →* M'}
    (hπ : Function.Surjective π) {K : Subgroup M} (hker : π.ker ≤ K) :
    (K.map π).Normal ↔ K.Normal := by
  constructor
  · intro h
    rw [← Subgroup.comap_map_eq_self hker]
    exact h.comap π
  · exact fun h => h.map π hπ

namespace FiniteGroup

/-- The elements of `L` are what the elements of `K` are sent to. -/
def IsImage (send : Value → Except Fault Value) (K L : FiniteGroup) : Prop :=
  ∃ images r, K.els.mapM send = .ok images ∧ Value.distinct images = .ok r ∧
    r.sameSet L.elements = true

/-- The subgroups `subs` of `G` are sent to the subgroups `parts` of `Q`. -/
structure Match (send : Value → Except Fault Value) (G Q : FiniteGroup)
    (subs parts : List FiniteGroup) : Prop where
  /-- Each subgroup has one image. -/
  existsUnique_image : ∀ K ∈ subs, ∃! j : Fin parts.length, IsImage send K (parts.get j)
  /-- Each part is the image of one subgroup. -/
  existsUnique_preimage : ∀ L ∈ parts, ∃! i : Fin subs.length, IsImage send (subs.get i) L
  subset_eq : ∀ ⦃K K' L L'⦄, K ∈ subs → K' ∈ subs → L ∈ parts → L' ∈ parts →
    IsImage send K L → IsImage send K' L' →
      K.elements.subset K'.elements = L.elements.subset L'.elements
  isNormal_eq : ∀ ⦃K L⦄, K ∈ subs → L ∈ parts → IsImage send K L → ∃ answer,
    G.candidate.isNormal K.candidate = .ok answer ∧ Q.candidate.isNormal L.candidate = .ok answer
  indexIn_eq : ∀ ⦃K L⦄, K ∈ subs → L ∈ parts → IsImage send K L → ∃ m,
    K.indexIn G.order = .ok m ∧ L.indexIn Q.order = .ok m

variable {M : Type} [Group M] {R : Value → M → Prop} {G : FiniteGroup}

/-- The index is found of what consists of a subgroup. -/
theorem Realizes.indexIn_eq (hG : G.Realizes R) {K : FiniteGroup} {K₀ : Subgroup M}
    (hK : Consists R K K₀) : K.indexIn G.order = .ok K₀.index := by
  have := hG.finite
  obtain ⟨hpos, hdvd⟩ := hG.order_dvd hK
  have hcard : Nat.card K₀ = K.order := by
    rw [hK.order_eq hG.faithful, ← Nat.card_coe_set_eq]
    rfl
  have hindex : G.order / K.order = K₀.index := by
    rw [hG.order_eq, ← K₀.card_mul_index, hcard, Nat.mul_div_cancel_left _ hpos]
  rw [indexIn, if_neg hpos.ne', if_pos (Nat.mod_eq_zero_of_dvd hdvd), hindex]

section

variable {M' : Type} [Group M'] {S : Value → M' → Prop} {Q : FiniteGroup} {π : M →* M'}
  {send : Value → Except Fault Value} (hG : G.Realizes R) (hQ : Q.Realizes S)
  (hsend : ∀ ⦃a x⦄, R a x → ∃ b, send a = .ok b ∧ S b (π x))
include hG hQ hsend

/-- What the elements of a subgroup are sent to are the elements of its image. -/
theorem isImage_iff {K L : FiniteGroup} {K₀ : Subgroup M} (hK : Consists R K K₀)
    (hL : ∃ L₀ : Subgroup M', Consists S L L₀) :
    IsImage send K L ↔ Consists S L (K₀.map π) := by
  obtain ⟨images, himages, hstand, hextent⟩ := hG.faithful.exists_images hQ.faithful
    hK.standing_els fun a _ x hx => hsend hx
  obtain ⟨r, hr, hrstand, hrextent⟩ := hQ.distinct_spec hstand
  obtain ⟨L₀, hL⟩ := hL
  have hsame : r.sameSet L.elements = true ↔ K₀.map π = L₀ := by
    rw [hQ.faithful.sameSet_iff hrstand hL.standing, hrextent, hextent, hK.els_eq, hK.extent_eq,
      hL.extent_eq, ← Subgroup.coe_map, SetLike.coe_set_eq]
  constructor
  · rintro ⟨images', r', himages', hr', hsame'⟩
    obtain rfl := Except.ok.inj (himages.symm.trans himages')
    obtain rfl := Except.ok.inj (hr.symm.trans hr')
    rwa [hsame.1 hsame']
  · intro h
    exact ⟨images, r, himages, hr, hsame.2 (h.unique hL)⟩

/-- The subgroups above the kernel are sent to the subgroups of the image. -/
theorem match_of_collects (hπ : Function.Surjective π) {subs parts : List FiniteGroup}
    (hsubs : Collects R subs {K | π.ker ≤ K}) (hparts : Collects S parts Set.univ) :
    Match send G Q subs parts := by
  have hpart : ∀ L ∈ parts, ∃ L₀ : Subgroup M', Consists S L L₀ := fun L hL =>
    (hparts.consists L hL).imp fun L₀ h => h.2
  -- both sides of a pair consist of a subgroup above the kernel and its image
  have hpair : ∀ ⦃K L⦄, K ∈ subs → L ∈ parts → IsImage send K L →
      ∃ K₀ : Subgroup M, π.ker ≤ K₀ ∧ Consists R K K₀ ∧ Consists S L (K₀.map π) := by
    intro K L hK hL himage
    obtain ⟨K₀, hker, hKK₀⟩ := hsubs.consists K hK
    exact ⟨K₀, hker, hKK₀, (isImage_iff hG hQ hsend hKK₀ (hpart L hL)).1 himage⟩
  refine ⟨fun K hK => ?_, fun L hL => ?_, fun K K' L L' hK hK' hL hL' h h' => ?_,
    fun K L hK hL h => ?_, fun K L hK hL h => ?_⟩
  · obtain ⟨K₀, -, hKK₀⟩ := hsubs.consists K hK
    refine (existsUnique_congr fun j => ?_).2 (hparts.existsUnique hQ.faithful
      (Set.mem_univ (K₀.map π)))
    exact isImage_iff hG hQ hsend hKK₀ (hpart _ (List.get_mem parts j))
  · obtain ⟨L₀, hLL₀⟩ := hpart L hL
    refine (existsUnique_congr fun i => ?_).2 (hsubs.existsUnique hG.faithful
      (show L₀.comap π ∈ {K | π.ker ≤ K} from π.ker_le_comap L₀))
    obtain ⟨K₀, hker, hKK₀⟩ := hsubs.consists _ (List.get_mem subs i)
    have himage := isImage_iff hG hQ hsend hKK₀ ⟨L₀, hLL₀⟩
    refine himage.trans ⟨fun h => ?_, fun h => ?_⟩
    · rwa [hLL₀.unique h, Subgroup.comap_map_eq_self hker]
    · rwa [hKK₀.unique h, Subgroup.map_comap_eq_self_of_surjective hπ]
  · obtain ⟨K₀, hker, hKK₀, hLL₀⟩ := hpair hK hL h
    obtain ⟨K₁, hker', hKK₁, hLL₁⟩ := hpair hK' hL' h'
    rw [Bool.eq_iff_iff, hKK₀.subset_iff hG.faithful hKK₁, hLL₀.subset_iff hQ.faithful hLL₁,
      SetLike.coe_subset_coe, SetLike.coe_subset_coe, Subgroup.map_le_iff_le_comap,
      Subgroup.comap_map_eq_self hker']
  · obtain ⟨K₀, hker, hKK₀, hLL₀⟩ := hpair hK hL h
    refine exists_same_answer (hG.isNormal_spec hKK₀) ?_
    rw [← normal_map_iff hπ hker]
    exact hQ.isNormal_spec hLL₀
  · obtain ⟨K₀, hker, hKK₀, hLL₀⟩ := hpair hK hL h
    refine ⟨_, hG.indexIn_eq hKK₀, ?_⟩
    rw [hQ.indexIn_eq hLL₀, ← Subgroup.index_comap_of_surjective _ hπ,
      Subgroup.comap_map_eq_self hker]

end

end FiniteGroup

/-! ## The subgroups of a quotient -/

namespace ValidGroup

/-- The subgroups above a normal subgroup are sent to the subgroups of the quotient. -/
theorem exists_match_quotient (G : ValidGroup) {H : FiniteGroup} {N : Subgroup G.Element}
    (hH : Consists G.Stands H N) (hN : N.Normal) (hop : H.op.equal G.op = .ok true)
    (hintact : H.Intact) (horder : G.order ≤ 200) : ∃ Q subs parts,
      QuotientGroup.make G.candidate H.candidate = .ok Q ∧
      (G.candidate.allSubgroups .cyclic .none).outcome = .ok subs ∧
      (Q.group.candidate.allSubgroups .cyclic .none).outcome = .ok parts ∧
      Match Q.coset G.toFiniteGroup Q.group
        (subs.filter fun K => H.elements.subset K.elements) parts := by
  have hG := G.realizes
  obtain ⟨Q, hmake, hQ, -⟩ := hG.make_of_normal hH hop hintact.text_eq
  have hsmaller : Q.order ≤ 200 := by
    obtain ⟨hpos, -⟩ := hG.order_dvd hH
    rw [← hG.order_mul_order hH hQ] at horder
    exact (Nat.le_mul_of_pos_right _ hpos).trans horder
  obtain ⟨subs, hsubs, hcollects⟩ := hG.allSubgroups_spec horder
  obtain ⟨parts, hparts, hcollects'⟩ := hQ.allSubgroups_spec hsmaller
  have habove := hcollects.filter (fun K => H.elements.subset K.elements)
    (Q := {K | (QuotientGroup.mk' N).ker ≤ K}) fun K _ K₀ hK => by
      rw [hH.subset_iff faithful hK, Set.mem_ofPred_eq, QuotientGroup.ker_mk']
      rfl
  rw [Set.univ_inter] at habove
  refine ⟨_, subs, parts, hmake, hsubs, hparts, ?_⟩
  refine match_of_collects hG hQ (fun a x ha => ?_) (QuotientGroup.mk'_surjective N) habove
    hcollects'
  obtain ⟨c, -, hc, hcx⟩ := hG.coset_spec hH hQ ha
  exact ⟨c, hc, hcx⟩

/-- The residues modulo six have a quotient by the multiples of three, and few enough elements to
list the subgroups of both. -/
theorem exists_match_quotient_threes :
    let G := validResidues (n := 6) (by decide) (by decide)
    ∃ N : Subgroup G.Element, Consists G.Stands threes N ∧ N.Normal ∧
      threes.op.equal G.op = .ok true ∧ threes.Intact ∧ G.order ≤ 200 ∧ ∃ Q subs parts,
        QuotientGroup.make G.candidate threes.candidate = .ok Q ∧
        (G.candidate.allSubgroups .cyclic .none).outcome = .ok subs ∧
        (Q.group.candidate.allSubgroups .cyclic .none).outcome = .ok parts ∧
        Match Q.coset G.toFiniteGroup Q.group
          (subs.filter fun K => threes.elements.subset K.elements) parts := by
  obtain ⟨N, hnormal, hconsists⟩ := exists_consists_threes
  have horder : (validResidues (n := 6) (by decide) (by decide)).order ≤ 200 := by
    rw [order_validResidues]
    omega
  exact ⟨N, hconsists, hnormal, equal_op_threes, intact_threes, horder,
    exists_match_quotient _ hconsists hnormal equal_op_threes intact_threes horder⟩

end ValidGroup

end FiniteGroups
