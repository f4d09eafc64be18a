import FiniteGroups.Proofs.Cosets
import FiniteGroups.Proofs.Valid
import Mathlib.GroupTheory.GroupAction.Quotient

/-!
# Conjugates of a subgroup

The normalizer of a subgroup is spanned by the elements that normalize it. These are a subgroup
already, so nothing is added to them, and the normalizer is a group of its own in which the
subgroup is normal (`Realizes.normalizer_spec`). The conjugates of a subgroup are as many as the
normalizer has cosets (`Realizes.size_conjugates`).

`ValidGroup.IsNormalizer` says it for valid groups.
-/

set_option linter.unusedSectionVars false

namespace FiniteGroups

open FiniteGroup

variable {M : Type} [Group M] {R : Value → M → Prop}

open Pointwise in
/-- The conjugates of a set are as many as its normalizer has cosets. -/
theorem ncard_conjugates (S : Set M) :
    (Set.range fun y : M => MulAut.conj y '' S).ncard = (Subgroup.normalizer S).index := by
  let : MulAction M (Set M) := MulAction.compHom (Set M) (MulAut.conj : M →* MulAut M)
  have hstab : MulAction.stabilizer M S = Subgroup.normalizer S := by
    ext y
    rw [Subgroup.mem_normalizer_iff_conj_image_eq]
    exact Iff.rfl
  rw [← hstab, MulAction.index_stabilizer]
  rfl

/-- What maps a subgroup onto itself by a product from both sides does so as a conjugation, whatever
stands in the place of the inverse. -/
theorem mem_normalizer_of_image_eq {N : Subgroup M} {y w : M}
    (h : (fun x => y * x * w) '' (N : Set M) = N) : y ∈ Subgroup.normalizer (N : Set M) := by
  have hyw : y * w ∈ N := by simpa using h.subset ⟨1, N.one_mem, rfl⟩
  rw [Subgroup.mem_normalizer_iff]
  intro x
  have hconj : y * x * y⁻¹ ∈ N ↔ y * x * w ∈ N := by
    rw [show y * x * w = y * x * y⁻¹ * (y * w) by simp [mul_assoc], N.mul_mem_cancel_right hyw]
  rw [hconj]
  constructor
  · exact fun hx => h.subset ⟨x, hx, rfl⟩
  · intro hx
    obtain ⟨x', hx', heq⟩ := h.superset hx
    simpa [mul_left_cancel (mul_right_cancel heq)] using hx'

/-- The value is a group that multiplies by `op` and consists of `S`. -/
def StandsForGroup (R : Value → M → Prop) (op v : Value) (S : Set M) : Prop :=
  ∃ K : FiniteGroup, v = K.value ∧ K.op = op ∧ Consists R K S

/-- Groups with one operation are the same when their elements are. -/
theorem faithful_group (hR : Faithful R) (op : Value) : Faithful (StandsForGroup R op) := by
  rintro _ _ S T ⟨K, rfl, rfl, hK⟩ ⟨L, rfl, hop, hL⟩
  rw [← hK.extent_eq, ← hL.extent_eq, ← hR.sameSet_values_iff hK.standing hL.standing]
  show Value.same K.value L.value = true ↔ _
  simp [value, Value.same, hop, Value.same_refl]

/-- Sets of members are compared as what they stand for. -/
theorem Faithful.sameMembers_iff (hR : Faithful R) {xs ys : List Value} (hxs : Standing R xs)
    (hys : Standing R ys) : Value.sameMembers xs ys = true ↔ extent R xs = extent R ys := by
  have hset := hR.sameSet_iff (r := .ofList xs) (s := .ofList ys)
    (hxs.mono fun a => Roster.mem_of_mem_ofList) (hys.mono fun a => Roster.mem_of_mem_ofList)
  rw [hR.extent_ofList hxs, hR.extent_ofList hys] at hset
  rw [Value.sameMembers, Bool.or_eq_true, hset]
  refine or_iff_right_of_imp fun heach => ?_
  exact (hR.sameSet_values_iff hxs hys).1 (Value.sameSet_iff.2 (Value.sameEach_covers heach))

/-- Groups with the operation of a group that is found equal to itself are found equal exactly if
they have the same elements. -/
theorem equal_value_of_op (hR : Faithful R) {K L G : FiniteGroup} {S T U : Set M}
    (hK : Consists R K S) (hL : Consists R L T) (hG : Consists R G U) (hKop : K.op = G.op)
    (hLop : L.op = G.op) (hself : G.value.equal G.value = .ok true) :
    K.value.equal L.value = .ok true ↔ S = T := by
  have hself' : Value.compare G.op G.op = .ok true := by
    rwa [equal_value_eq_ite, (hR.sameMembers_iff hG.standing hG.standing).2 rfl, decide_eq_true rfl] at hself
  have hmembers := hR.sameMembers_iff hK.standing hL.standing
  rw [hK.extent_eq, hL.extent_eq] at hmembers
  rw [equal_value_eq_ite, hKop, hLop, hself', ← hmembers]
  cases hsame : Value.sameMembers K.elements.toList L.elements.toList with
  | false => simp
  | true =>
    -- what has the same members has as many
    have horder := hK.order_eq hR
    rw [hmembers.1 hsame, ← hL.order_eq hR] at horder
    have hlength : K.els.length = L.els.length := horder
    simp [hlength]

/-- Groups with one operation are found equal exactly if they have the same elements. The operation
must be found equal to itself. -/
theorem equal_value_iff (hR : Faithful R) {K L : FiniteGroup} {S T : Set M} (hK : Consists R K S)
    (hL : Consists R L T) (hop : K.op = L.op) (hself : L.value.equal L.value = .ok true) :
    K.value.equal L.value = .ok true ↔ S = T :=
  equal_value_of_op hR hK hL hL hop rfl hself

/-- In what multiplies like `M` a subgroup is only found to be normal if the elements normalize it,
even if what is given as an inverse is not the inverse. -/
theorem mem_normalizer_of_isNormal {N : Subgroup M} {L H : FiniteGroup} (hmul : Multiplies R L.mul)
    (hH : Consists R H N) (hinv : ∀ ⦃a b⦄, a ∈ L.els → L.inverse a = .ok b → ∃ w, R b w)
    (hnormal : L.candidate.isNormal H.candidate = .ok true) {a : Value} {y : M} (ha : a ∈ L.els)
    (hy : R a y) : y ∈ Subgroup.normalizer (N : Set M) := by
  have hnormalizes : (do return (← L.candidate.conjugateSet H.candidate a).sameSet H.elements) =
      .ok true := of_allM_eq_true hnormal a ha
  obtain ⟨found, hfound, hsame⟩ := bind_eq_ok.1 hnormalizes
  -- the conjugate of the identity asks for an inverse
  have hinverse : ∃ i, L.inverse a = .ok i := by
    obtain ⟨b, hb, -⟩ := hH.mem_iff.1 N.one_mem
    have hfound : (do return Roster.ofList (← H.els.mapM fun b => do
        (← L.conjugate b a).keyed)) = .ok found := hfound
    obtain ⟨keys, hkeys, -⟩ := bind_eq_ok.1 hfound
    obtain ⟨k, -, hk⟩ := exists_of_forall₂ (mapM_eq_ok_iff.1 hkeys).flip hb
    obtain ⟨c, hc, -⟩ := bind_eq_ok.1 hk
    obtain ⟨d, -, hc⟩ := bind_eq_ok.1 hc
    obtain ⟨i, hi, -⟩ := bind_eq_ok.1 hc
    exact ⟨i, hi⟩
  obtain ⟨i, hi⟩ := hinverse
  obtain ⟨w, hw⟩ := hinv ha hi
  obtain ⟨found', hfound', hstand, hextent⟩ := conjugateSet_spec hmul hH hy hi hw
  obtain rfl := Except.ok.inj (hfound.symm.trans hfound')
  refine mem_normalizer_of_image_eq (w := w) ?_
  rw [← hextent, ← hH.extent_eq]
  exact (hmul.faithful.sameSet_iff hstand hH.standing).1 (Except.ok.inj hsame)

namespace FiniteGroup.Realizes

variable {G H : FiniteGroup} (hG : G.Realizes R)
include hG

/-- A subgroup has as many cosets as the orders tell. -/
theorem index_eq {N : Subgroup M} (hH : Consists R H N) : N.index = G.order / H.order := by
  have := hG.finite
  rw [hG.order_eq, hH.order_eq hG.faithful, ← Nat.card_coe_set_eq, ← Subgroup.card_mul_index N]
  exact (Nat.mul_div_cancel_left _ Nat.card_pos).symm

/-- The conjugate of a subgroup by what is inverted is found, with the operation of the group. -/
theorem conjugateSubgroup_of_inverse {S : Set M} (hH : Consists R H S) {g i : Value} {y : M}
    (hy : R g y) (hi : G.inverse g = .ok i) (hiy : R i y⁻¹) :
    ∃ K, G.candidate.conjugateSubgroup H.candidate g = .ok K ∧ K.op = G.op ∧
      Consists R K (MulAut.conj y '' S) := by
  obtain ⟨found, hfound, hstand, hextent⟩ := conjugates_spec hG.toMultiplies hH hy hi hiy
  obtain ⟨r, hr, hrstand, hrextent⟩ := hG.subgroup_spec hstand .none .none
  have hconsists := hG.consists_subgroupOf hrstand .none .none
  rw [hrextent, hextent] at hconsists
  refine ⟨G.subgroupOf r .none .none, ?_, rfl, hconsists⟩
  rw [Candidate.conjugateSubgroup, hfound]
  exact hr

/-- The conjugate of a subgroup by an element is found, with the operation of the group. -/
theorem conjugateSubgroup_spec {S : Set M} (hH : Consists R H S) {g : Value} {y : M}
    (hg : g ∈ G.els) (hy : R g y) :
    ∃ K, G.candidate.conjugateSubgroup H.candidate g = .ok K ∧ K.op = G.op ∧
      Consists R K (MulAut.conj y '' S) := by
  obtain ⟨i, hi, hiy, -⟩ := hG.inverse_eq hg hy
  exact hG.conjugateSubgroup_of_inverse hH hy hi hiy

/-- The conjugates by all elements are found. -/
theorem exists_conjugates {S : Set M} (hH : Consists R H S) : ∃ conjugates,
    G.els.mapM (G.candidate.conjugateSubgroup H.candidate) = .ok conjugates ∧
      List.Forall₂ (fun g K => ∃ y, R g y ∧ K.op = G.op ∧ Consists R K (MulAut.conj y '' S))
        G.els conjugates :=
  exists_mapM _ fun g hg => by
    obtain ⟨y, hy⟩ := hG.standing g hg
    obtain ⟨K, hK, hop, hconsists⟩ := hG.conjugateSubgroup_spec hH hg hy
    exact ⟨K, hK, y, hy, hop, hconsists⟩

/-- Without repetitions the conjugates are as many as the normalizer has cosets. -/
theorem size_conjugates {S : Set M} (hH : Consists R H S) : ∃ conjugates,
    G.els.mapM (G.candidate.conjugateSubgroup H.candidate) = .ok conjugates ∧
      (Roster.ofList (conjugates.map value)).size = (Subgroup.normalizer S).index := by
  obtain ⟨conjugates, hconjugates, hall⟩ := hG.exists_conjugates hH
  have hR := faithful_group hG.faithful G.op
  have hvalues : List.Forall₂ (fun g v => ∃ y, R g y ∧
      StandsForGroup R G.op v (MulAut.conj y '' S)) G.els (conjugates.map value) := by
    rw [List.forall₂_map_right_iff]
    exact hall.imp fun g K ⟨y, hy, hop, hK⟩ => ⟨y, hy, K, rfl, hop, hK⟩
  obtain ⟨hstand, hextent⟩ := hG.faithful.extent_of_forall₂ hR hvalues
  refine ⟨conjugates, hconjugates, ?_⟩
  rw [← hR.ncard_extent (hstand.mono fun v => Roster.mem_of_mem_ofList), hR.extent_ofList hstand,
    hextent, hG.extent_els, Set.image_univ, ncard_conjugates]

/-- The elements that normalize a subgroup span a group of these elements and no others. -/
theorem normalizer_spec {S : Set M} (hH : Consists R H S) :
    ∃ K, G.candidate.normalizer H.candidate = .ok K ∧ K.op = G.op ∧
      Forms R K (Subgroup.normalizer S) := by
  obtain ⟨found, hfound, hsub, hextent⟩ := hG.faithful.exists_filterM hG.standing
    (f := G.candidate.normalizes H.candidate H.elements)
    fun g hg y hy => hG.forms.normalizes_spec hH hg hy
  have hsubgroup : extent R found = (Subgroup.normalizer S : Set M) := by
    rw [hextent, hG.extent_els]
    ext y
    simp
  obtain ⟨K, hK, hforms⟩ := hG.forms_span hsub.subset hsubgroup
  refine ⟨K, ?_, (hG.intact.of_span hK).1, hforms⟩
  show (do G.span (← G.els.filterM (G.candidate.normalizes H.candidate H.elements))) = _
  rw [hfound, ok_bind, hK]

end FiniteGroup.Realizes

/-! ## Valid groups -/

namespace ValidGroup

variable (G : ValidGroup)

/-- The elements of `L` are elements of `G`, it multiplies them as `G` does, and what it gives as an
inverse is an element. -/
structure IsPart (L : FiniteGroup) (T : Set G.Element) : Prop extends Consists G.Stands L T,
    Computes G.Stands L.mul where
  exists_inverse : ∀ ⦃a b⦄, a ∈ L.els → L.inverse a = .ok b → ∃ y, G.Stands b y

/-- What there is to say about the normalizer `K` of `H`. -/
structure IsNormalizer (H K : FiniteGroup) : Prop where
  /-- It is a subgroup, in which the elements are inverted as they are listed. -/
  exists_forms : ∃ T : Subgroup G.Element, Forms G.Stands K T
  subset : K.elements.subset G.elements = true
  /-- Its elements are those by which the conjugate of `H` is `H`. -/
  contains_iff : ∀ g ∈ G.els, ∃ C, G.candidate.conjugateSubgroup H.candidate g = .ok C ∧
    (K.contains g = .ok true ↔ C.elements.sameSet H.elements = true)
  includes : H.elements.subset K.elements = true
  isNormal_eq : K.candidate.isNormal H.candidate = .ok true
  /-- It contains every part of `G` in which `H` is found to be normal. -/
  largest : ∀ ⦃L : FiniteGroup⦄ ⦃T : Set G.Element⦄, G.IsPart L T →
    L.candidate.isNormal H.candidate = .ok true → L.elements.subset K.elements = true

variable {G}

theorem isNormalizer_of_forms {H K : FiniteGroup} {N : Subgroup G.Element}
    (hH : Consists G.Stands H N) (hK : Forms G.Stands K (Subgroup.normalizer (N : Set G.Element))) :
    G.IsNormalizer H K where
  exists_forms := ⟨_, hK⟩
  subset := (hK.subset_iff faithful G.realizes.consists).2 (Set.subset_univ _)
  contains_iff g hg := by
    obtain ⟨y, hy⟩ := G.realizes.standing g hg
    obtain ⟨C, hC, -, hconsists⟩ := G.realizes.conjugateSubgroup_spec hH hg hy
    refine ⟨C, hC, ?_⟩
    rw [G.realizes.contains_iff hK.toConsists hy, hconsists.sameSet_iff faithful hH]
    exact Subgroup.mem_normalizer_iff_conj_image_eq
  includes := (hH.subset_iff faithful hK.toConsists).2 Subgroup.le_normalizer
  isNormal_eq := (eq_ok_true_iff (hK.isNormal_spec hH)).2 le_rfl
  largest L T hL hnormal := by
    have hmul : Multiplies G.Stands L.mul := ⟨hL.toComputes, faithful, G.realizes.keyed_eq⟩
    refine (hL.subset_iff faithful hK.toConsists).2 fun y hy => ?_
    obtain ⟨a, ha, hay⟩ := hL.mem_iff.1 hy
    exact mem_normalizer_of_isNormal hmul hH hL.exists_inverse hnormal ha hay

/-- A subgroup has as many conjugates as its normalizer has cosets. -/
theorem size_conjugates_eq {H K : FiniteGroup} {N : Subgroup G.Element}
    (hH : Consists G.Stands H N) (hK : Forms G.Stands K (Subgroup.normalizer (N : Set G.Element))) :
    ∃ conjugates, G.els.mapM (G.candidate.conjugateSubgroup H.candidate) = .ok conjugates ∧
      (Roster.ofList (conjugates.map value)).size = G.order / K.order := by
  obtain ⟨conjugates, hconjugates, hsize⟩ := G.realizes.size_conjugates hH
  exact ⟨conjugates, hconjugates, hsize.trans (G.realizes.index_eq hK.toConsists)⟩

end ValidGroup

end FiniteGroups
