import FiniteGroups.Proofs.ConjugacyClasses
import FiniteGroups.Proofs.Conjugates
import FiniteGroups.Proofs.Quotients

/-!
# Ways to tell a normal subgroup

A subgroup is normal if its conjugates are the subgroup itself, if its normalizer is the whole
group, if its left cosets are its right cosets, and if it is a union of conjugacy classes. The
four are found out by different computations : a run through all conjugates, the closure of what
normalizes the subgroup, two lists of cosets, and the list of the classes.

`ValidGroup.exists_normalizer` says what the normalizer is, and that the four computations tell
the same (`ValidGroup.TellsNormal`).
-/

set_option linter.unusedSectionVars false

namespace FiniteGroups

open FiniteGroup

variable {M : Type} [Group M] {R : Value → M → Prop} {N : Subgroup M}

/-! ## Cosets on both sides -/

open Pointwise in
/-- A subgroup is normal exactly if its left cosets are its right cosets. -/
theorem normal_iff_range_eq : N.Normal ↔
    (Set.range fun x => Side.left.product x '' (N : Set M)) =
      Set.range fun x => Side.right.product x '' (N : Set M) := by
  constructor
  · intro hN
    refine congrArg Set.range (funext fun x => ?_)
    have hleft : Side.left.product x '' (N : Set M) = x • (N : Set M) := rfl
    have hright : Side.right.product x '' (N : Set M) = MulOpposite.op x • (N : Set M) := rfl
    rw [hleft, hright, normal_iff_eq_cosets N |>.1 hN x]
  · intro h
    refine ⟨fun z hz x => ?_⟩
    obtain ⟨y, hy⟩ := h.subset ⟨x, rfl⟩
    have hmem : ∀ z ∈ N, ∃ w ∈ N, w * y = x * z := fun z hz => hy.superset ⟨z, hz, rfl⟩
    obtain ⟨v, hv, hvy⟩ := hmem 1 N.one_mem
    obtain ⟨w, hw, hwy⟩ := hmem z hz
    -- `x` is `v * y`, so that the conjugate of `z` is `w * v⁻¹`
    have hconj : x * z * x⁻¹ = w * v⁻¹ := by
      rw [mul_one] at hvy
      rw [← hwy, ← hvy, mul_inv_rev, mul_assoc, mul_inv_cancel_left]
    exact hconj ▸ mul_mem hw (inv_mem hv)

/-- The value is a coset, on whichever side, and its members stand for `S`. -/
inductive Gathers (R : Value → M → Prop) : Value → Set M → Prop
  | intro {side : Side} {parent subgroup rep : Value} {members : List Value} {state : Coset.State}
      {S : Set M} (computed : ∀ e, state ≠ .faulty e) (hmembers : Standing R members)
      (hextent : extent R members = S) :
      Gathers R (.coset side 0 parent subgroup rep members state) S

/-- Cosets on any sides are equal when they have the same members. -/
theorem faithful_gathers (hR : Faithful R) : Faithful (Gathers R) := by
  rintro _ _ _ _ ⟨-, hxs, rfl⟩ ⟨-, hys, rfl⟩
  rw [← hR.sameSet_values_iff hxs hys]
  show Value.same _ _ = true ↔ _
  simp [Value.same, Value.head, Value.members]

theorem Gathers.isSimple {c : Value} {S : Set M} (h : Gathers R c S) : c.isSimple = true := by
  obtain ⟨hstate, -, -⟩ := h
  cases hs : ‹Coset.State› <;> simp_all [Value.isSimple]

/-- Whether cosets are equal is found out by their members. -/
theorem Gathers.equal_iff (hR : Faithful R) {c d : Value} {S T : Set M} (hc : Gathers R c S)
    (hd : Gathers R d T) : c.equal d = .ok true ↔ S = T := by
  rw [Value.equal_of_isSimple hc.isSimple hd.isSimple, Except.ok.injEq, faithful_gathers hR hc hd]

/-- Each value of one list is equal to one of the other list. -/
def AreSame (cs ds : List Value) : Prop :=
  (∀ c ∈ cs, ∃ d ∈ ds, c.equal d = .ok true) ∧ ∀ d ∈ ds, ∃ c ∈ cs, d.equal c = .ok true

theorem areSame_iff (hR : Faithful R) {cs ds : List Value} (hcs : Standing (Gathers R) cs)
    (hds : Standing (Gathers R) ds) :
    AreSame cs ds ↔ extent (Gathers R) cs = extent (Gathers R) ds := by
  have hcover : ∀ {cs ds : List Value}, Standing (Gathers R) cs → Standing (Gathers R) ds →
      ((∀ c ∈ cs, ∃ d ∈ ds, c.equal d = .ok true) ↔
        extent (Gathers R) cs ⊆ extent (Gathers R) ds) := by
    intro cs ds hcs hds
    constructor
    · rintro h S ⟨c, hc, hcS⟩
      obtain ⟨d, hd, hcd⟩ := h c hc
      obtain ⟨T, hdT⟩ := hds d hd
      exact ⟨d, hd, (hcS.equal_iff hR hdT).1 hcd ▸ hdT⟩
    · intro h c hc
      obtain ⟨S, hcS⟩ := hcs c hc
      obtain ⟨d, hd, hdS⟩ := h ⟨c, hc, hcS⟩
      exact ⟨d, hd, (hcS.equal_iff hR hdS).2 rfl⟩
  rw [AreSame, hcover hcs hds, hcover hds hcs, Set.Subset.antisymm_iff]

namespace FiniteGroup.Realizes

variable {G H : FiniteGroup} (hG : G.Realizes R)
include hG

/-- The cosets on either side are listed. -/
theorem cosets_spec (side : Side) {S : Set M} (hH : Consists R H S) : ∃ cosets,
    G.candidate.cosets side H.candidate = .ok cosets ∧ Standing (Gathers R) cosets ∧
      extent (Gathers R) cosets = Set.range fun x => side.product x '' S := by
  obtain ⟨found, hfound, hstand, hextent⟩ := hG.faithful.exists_images
      (faithful_gathers hG.faithful)
      (f := fun g => cosetOf side G.value.meaning G.value H.value g >>= Value.keyed)
      (φ := fun x => side.product x '' S) hG.standing fun g _ x hx => by
    obtain ⟨members, hmembers, hmstand, hmextent⟩ := hG.cosetProducts_spec side hH hx
    refine ⟨.coset side 0 G.value H.value g members.toList .settled, ?_,
      .intro settled_ne_faulty hmstand hmextent⟩
    rw [hG.cosetOf_eq hx hmembers, ok_bind]
    exact keyed_coset loose_ne_faulty
  refine ⟨(Roster.ofList found).toList, ?_, hstand.mono fun c => Roster.mem_of_mem_ofList, ?_⟩
  · show (do
      let found ← G.els.mapM fun g => do
        (← cosetOf side G.value.meaning G.value H.value g).keyed
      return (Roster.ofList found).toList) = _
    rw [hfound]
    rfl
  · rw [(faithful_gathers hG.faithful).extent_ofList hstand, hextent, hG.extent_els,
      Set.image_univ]

/-- The lists of the left and of the right cosets have the same members exactly if the subgroup
is normal. -/
theorem exists_cosets (hH : Consists R H N) : ∃ left right,
    G.candidate.leftCosets H.candidate = .ok left ∧
      G.candidate.rightCosets H.candidate = .ok right ∧ (AreSame left right ↔ N.Normal) := by
  obtain ⟨left, hleft, hlstand, hlextent⟩ := hG.cosets_spec .left hH
  obtain ⟨right, hright, hrstand, hrextent⟩ := hG.cosets_spec .right hH
  refine ⟨left, right, hleft, hright, ?_⟩
  rw [areSame_iff hG.faithful hlstand hrstand, hlextent, hrextent, normal_iff_range_eq]

end FiniteGroup.Realizes

/-! ## Unions of classes -/

/-- The elements of `H` are the members of some of the classes. -/
def FiniteGroup.IsUnionOf (H : FiniteGroup) (classes : List ConjugacyClass) : Prop :=
  ∃ part : List ConjugacyClass, part.Sublist classes ∧
    ∀ a, H.elements.contains a = true ↔ ∃ C ∈ part, C.members.contains a = true

section

variable (hR : Faithful R) {H : FiniteGroup} (hH : Consists R H N) {classes : List ConjugacyClass}
  {cs : List (ConjClasses M)} (hall : List.Forall₂ (StandsForClass R) classes cs)
include hR hH hall

/-- In a union of classes there are the conjugates of its elements. -/
theorem normal_of_isUnionOf (h : H.IsUnionOf classes) : N.Normal := by
  obtain ⟨part, hpart, hunion⟩ := h
  refine ⟨fun x hx y => ?_⟩
  obtain ⟨a, ha, hax⟩ := hH.extent_eq.superset hx
  obtain ⟨C, hC, haC⟩ := (hunion a).1 (Roster.contains_of_mem ha)
  obtain ⟨c, -, hclass⟩ := exists_of_forall₂ hall.flip (hpart.subset hC)
  -- the conjugate is in the same class
  have hconj : ConjClasses.mk (y * x * y⁻¹) = c := by
    rw [← (hclass.contains_iff hR hax).1 haC]
    exact ConjClasses.mk_eq_mk_iff_isConj.2 (isConj_iff.2 ⟨y, rfl⟩).symm
  obtain ⟨b, hb, hbx⟩ := hclass.extent_eq.superset hconj
  have hbH := (hunion b).2 ⟨C, hC, Roster.contains_of_mem hb⟩
  exact hH.extent_eq.subset ((hR.contains_iff hH.standing hbx).1 hbH)

/-- A normal subgroup is the union of the classes that are subsets of it. -/
theorem isUnionOf_of_normal (hmem : ∀ c, c ∈ cs) (hN : N.Normal) : H.IsUnionOf classes := by
  refine ⟨classes.filter fun C => C.members.subset H.elements, List.filter_sublist, fun a => ?_⟩
  constructor
  · intro ha
    obtain ⟨b, hb, hba⟩ := Roster.contains_iff.1 ha
    obtain ⟨x, hx⟩ := hH.standing b hb
    obtain ⟨C, hC, hclass⟩ := exists_of_forall₂ hall (hmem (ConjClasses.mk x))
    refine ⟨C, List.mem_filter.2 ⟨hC, ?_⟩, ?_⟩
    · rw [hR.subset_iff hclass.standing hH.standing, hclass.extent_eq, hH.extent_eq]
      intro z hz
      obtain ⟨y, rfl⟩ := isConj_iff.1 (ConjClasses.mk_eq_mk_iff_isConj.1 hz.symm)
      exact hN.conj_mem x (hH.extent_eq.subset ⟨b, hb, hx⟩) y
    · rw [← C.members.contains_congr hba]
      exact (hclass.contains_iff hR hx).2 rfl
  · rintro ⟨C, hC, haC⟩
    exact Roster.subset_iff.1 (List.mem_filter.1 hC).2 a haC

/-- A subgroup is normal exactly if it is a union of conjugacy classes. -/
theorem isUnionOf_iff (hmem : ∀ c, c ∈ cs) : H.IsUnionOf classes ↔ N.Normal :=
  ⟨normal_of_isUnionOf hR hH hall, isUnionOf_of_normal hR hH hall hmem⟩

end

/-! ## Valid groups -/

namespace ValidGroup

variable (G : ValidGroup)

/-- The answer whether `H`, with the normalizer `K`, is normal, is what other computations tell. -/
structure TellsNormal (H K : FiniteGroup) (answer : Bool) : Prop where
  /-- The normalizer is everything. -/
  normalizer : answer = true ↔ K.elements.sameSet G.elements = true
  /-- It is found equal to the group, which as a value must be equal to itself. -/
  equal : G.value.equal G.value = .ok true →
    (answer = true ↔ K.value.equal G.value = .ok true)
  /-- The left cosets are the right cosets. -/
  cosets : ∃ left right, G.candidate.leftCosets H.candidate = .ok left ∧
    G.candidate.rightCosets H.candidate = .ok right ∧ (answer = true ↔ AreSame left right)
  /-- The subgroup is a union of conjugacy classes. -/
  classes : ∃ classes, G.conjugacyClasses = .ok classes ∧ (answer = true ↔ H.IsUnionOf classes)

variable {G}

theorem tellsNormal_of_forms {H K : FiniteGroup} {N : Subgroup G.Element}
    (hH : Consists G.Stands H N) (hop : K.op = G.op)
    (hK : Forms G.Stands K (Subgroup.normalizer (N : Set G.Element))) {answer : Bool}
    (hanswer : answer = true ↔ N.Normal) : G.TellsNormal H K answer := by
  have hG := G.realizes
  have hwhole : (Subgroup.normalizer (N : Set G.Element) : Set G.Element) = Set.univ ↔
      N.Normal := by
    rw [Subgroup.coe_eq_univ, Subgroup.normalizer_eq_top_iff]
  refine ⟨?_, fun hself => ?_, ?_, ?_⟩
  · rw [hanswer, hK.sameSet_iff faithful hG.consists, hwhole]
  · rw [hanswer, equal_value_iff faithful hK.toConsists hG.consists hop hself, hwhole]
  · obtain ⟨left, right, hleft, hright, hiff⟩ := hG.exists_cosets hH
    exact ⟨left, right, hleft, hright, hanswer.trans hiff.symm⟩
  · obtain ⟨classes, hclasses, -, cs, -, hmem, hall⟩ := hG.conjugacyClasses_spec
    exact ⟨classes, hclasses, hanswer.trans (isUnionOf_iff faithful hH hall hmem).symm⟩

/-- The normalizer of a subgroup is the largest subgroup in which it is normal, and counts its
conjugates. Whether the subgroup is normal is told by the normalizer, by the cosets on both sides
and by the conjugacy classes. -/
theorem exists_normalizer (G : ValidGroup) {H : FiniteGroup} {N : Subgroup G.Element}
    (hH : Consists G.Stands H N) : ∃ K conjugates answer,
      G.candidate.normalizer H.candidate = .ok K ∧ G.IsNormalizer H K ∧
      G.els.mapM (G.candidate.conjugateSubgroup H.candidate) = .ok conjugates ∧
      (Roster.ofList (conjugates.map value)).size = G.order / K.order ∧
      G.candidate.isNormal H.candidate = .ok answer ∧ G.TellsNormal H K answer := by
  obtain ⟨K, hK, hop, hforms⟩ := G.realizes.normalizer_spec hH
  obtain ⟨conjugates, hconjugates, hsize⟩ := size_conjugates_eq hH hforms
  obtain ⟨answer, hanswer, hiff⟩ := G.realizes.isNormal_spec hH
  exact ⟨K, conjugates, answer, hK, isNormalizer_of_forms hH hforms, hconjugates, hsize, hanswer,
    tellsNormal_of_forms hH hop hforms hiff⟩

/-- The multiples of three have a normalizer among the residues modulo six. -/
theorem exists_normalizer_threes :
    let G := validResidues (n := 6) (by decide) (by decide)
    ∃ N : Subgroup G.Element, Consists G.Stands threes N ∧ ∃ K conjugates answer,
      G.candidate.normalizer threes.candidate = .ok K ∧ G.IsNormalizer threes K ∧
      G.els.mapM (G.candidate.conjugateSubgroup threes.candidate) = .ok conjugates ∧
      (Roster.ofList (conjugates.map value)).size = G.order / K.order ∧
      G.candidate.isNormal threes.candidate = .ok answer ∧ G.TellsNormal threes K answer := by
  obtain ⟨N, -, hconsists⟩ := exists_consists_threes
  exact ⟨N, hconsists, exists_normalizer _ hconsists⟩

end ValidGroup

end FiniteGroups
