import FiniteGroups.Proofs.AllSubgroups
import FiniteGroups.Proofs.Conjugates
import FiniteGroups.Proofs.InnerAutomorphisms
import FiniteGroups.Subgroup.Lattice

/-!
# Subgroups up to conjugacy

The groups of a list are distributed over classes. They are kept in a second list, from which
each group in turn takes its conjugates, unless it was taken itself (`Realizes.classesOf_spec`).
Nothing is lost, since a group is a conjugate of itself, and a class is never split, since all
conjugates are taken at once. That two groups are conjugate means that one of them is found as a
conjugate of the other (`ValidGroup.Conjugate`), which is an equivalence.

`ValidGroup.exists_subgroupClasses` says what the classes are. Among all subgroups of a group, a
class has as many members as the normalizer of one of them has cosets.
-/

set_option linter.unusedSectionVars false

namespace FiniteGroups

open FiniteGroup

variable {M : Type} [Group M] {R : Value → M → Prop}

/-! ## Conjugates of sets -/

/-- The images of a set under conjugation. -/
def conjugateSets (S : Set M) : Set (Set M) :=
  Set.range fun y : M => MulAut.conj y '' S

theorem self_mem_conjugateSets (S : Set M) : S ∈ conjugateSets S :=
  ⟨1, by simp⟩

theorem conj_image_image (y z : M) (S : Set M) :
    MulAut.conj z '' (MulAut.conj y '' S) = MulAut.conj (z * y) '' S := by
  rw [Set.image_image, map_mul]
  rfl

/-- Conjugates have the same conjugates. -/
theorem mem_conjugateSets_iff {S T : Set M} :
    T ∈ conjugateSets S ↔ conjugateSets T = conjugateSets S := by
  constructor
  · rintro ⟨y, rfl⟩
    refine Set.Subset.antisymm ?_ ?_
    · rintro _ ⟨z, rfl⟩
      exact ⟨z * y, (conj_image_image y z S).symm⟩
    · rintro _ ⟨z, rfl⟩
      refine ⟨z * y⁻¹, ?_⟩
      simp only [conj_image_image, inv_mul_cancel_right]
  · intro h
    exact h ▸ self_mem_conjugateSets T

/-- A subgroup has as many conjugates as its normalizer has cosets. -/
theorem ncard_conjugateSubgroups (N : Subgroup M) :
    {K : Subgroup M | (K : Set M) ∈ conjugateSets (N : Set M)}.ncard =
      (Subgroup.normalizer (N : Set M)).index := by
  rw [← ncard_conjugates, ← Set.ncard_image_of_injective _ SetLike.coe_injective]
  refine congrArg Set.ncard (Set.Subset.antisymm ?_ ?_)
  · rintro _ ⟨K, hK, rfl⟩
    exact hK
  · rintro _ ⟨y, rfl⟩
    exact ⟨N.map (MulAut.conj y).toMonoidHom, ⟨y, rfl⟩, rfl⟩

/-! ## Lists of groups with their elements -/

namespace FiniteGroup

/-- A group as it is kept, together with its elements. -/
def tagged (H : FiniteGroup) : Roster Value × Candidate :=
  (H.elements, H.candidate)

theorem putIn_tagged {H : FiniteGroup} {met : List FiniteGroup}
    (h : ∀ K ∈ met, K.elements.sameSet H.elements = false) :
    Candidate.putIn H.tagged (met.map tagged) = (met ++ [H]).map tagged := by
  induction met with
  | nil => rfl
  | cons K met ih =>
    have hne : K.tagged.1.sameSet H.tagged.1 = false := h K (by simp)
    rw [List.map_cons, Candidate.putIn, hne, if_neg Bool.false_ne_true,
      ih fun L hL => h L (by simp [hL])]
    rfl

/-- Groups without common sets of elements are all kept. -/
theorem foldlM_putIn {subs : List FiniteGroup} (h : Apart subs) :
    (subs.map candidate).foldlM (fun remain H => do
      return Candidate.putIn (← H.elements, H) remain) [] = .ok (subs.map tagged) := by
  rw [List.foldlM_map]
  obtain ⟨kept, hkept, rfl⟩ : ∃ kept, subs.foldlM (fun remain H => do
      return Candidate.putIn (← H.candidate.elements, H.candidate) remain) [] = .ok kept ∧
      kept = subs.map tagged := by
    refine exists_foldlM (fun met remain => remain = met.map tagged) ?_ rfl
    rintro met H rest _ rfl rfl
    refine ⟨_, rfl, putIn_tagged fun K hK => ?_⟩
    exact (List.pairwise_append.1 h).2.2 K hK H (by simp)
  exact hkept

/-- What is taken out of a list is the group with the given elements, if there is one. -/
theorem takeOut_tagged (elements : Roster Value) (remain : List FiniteGroup) :
    (Candidate.takeOut elements (remain.map tagged) = none ∧
      ∀ K ∈ remain, K.elements.sameSet elements = false) ∨
    ∃ K rest, Candidate.takeOut elements (remain.map tagged) =
        some (K.candidate, rest.map tagged) ∧
      K.elements.sameSet elements = true ∧ (K :: rest).Perm remain := by
  induction remain with
  | nil => exact .inl ⟨rfl, by simp⟩
  | cons L remain ih =>
    rw [List.map_cons, Candidate.takeOut]
    cases hsame : L.elements.sameSet elements with
    | true => exact .inr ⟨L, remain, if_pos hsame, hsame, .refl _⟩
    | false =>
      rw [if_neg (by rw [tagged, hsame]; exact Bool.false_ne_true)]
      obtain ⟨hnone, hall⟩ | ⟨K, rest, htaken, hK, hperm⟩ := ih
      · exact .inl ⟨by rw [hnone]; rfl, by simpa [hsame] using hall⟩
      · refine .inr ⟨K, L :: rest, by rw [htaken]; rfl, hK, ?_⟩
        exact (List.Perm.swap L K rest).trans (hperm.cons L)

/-- In a list without common sets of elements nothing is left that consists of what was taken. -/
theorem takeOut_spec (hR : Faithful R) {C : FiniteGroup} {T : Set M} (hC : Consists R C T)
    {remain : List FiniteGroup} (hremain : ∀ K ∈ remain, ∃ S : Set M, Consists R K S)
    (hapart : Apart remain) :
    (Candidate.takeOut C.elements (remain.map tagged) = none ∧ ∀ K ∈ remain, ¬Consists R K T) ∨
    ∃ K rest, Candidate.takeOut C.elements (remain.map tagged) =
        some (K.candidate, rest.map tagged) ∧
      (K :: rest).Perm remain ∧ Consists R K T ∧ ∀ L ∈ rest, ¬Consists R L T := by
  obtain ⟨hnone, hne⟩ | ⟨K, rest, htaken, hsame, hperm⟩ := takeOut_tagged C.elements remain
  · refine .inl ⟨hnone, fun K hK hKT => Bool.false_ne_true ?_⟩
    exact (hne K hK).symm.trans ((hKT.sameSet_iff hR hC).2 rfl)
  · obtain ⟨S, hKS⟩ := hremain K (hperm.subset List.mem_cons_self)
    obtain rfl := (hKS.sameSet_iff hR hC).1 hsame
    refine .inr ⟨K, rest, htaken, hperm, hKS, fun L hL hLS => Bool.false_ne_true ?_⟩
    have hne := (List.pairwise_cons.1 (hapart.perm hperm.symm)).1 L hL
    exact hne.symm.trans ((hKS.sameSet_iff hR hLS).2 rfl)

/-! ## The classes -/

/-- The groups in `classes` are those of `subs`, and two of them are in one class exactly if they
are related. -/
structure Distributes (Related : FiniteGroup → FiniteGroup → Prop) (subs : List FiniteGroup)
    (classes : List (List FiniteGroup)) : Prop where
  perm : classes.flatten.Perm subs
  nonempty : [] ∉ classes
  related : ∀ cls ∈ classes, ∀ H ∈ cls, ∀ K ∈ cls, Related H K
  apart : classes.Pairwise fun cls cls' => ∀ H ∈ cls, ∀ K ∈ cls', ¬Related H K

namespace Distributes

variable {Related : FiniteGroup → FiniteGroup → Prop} {subs : List FiniteGroup}
  {classes : List (List FiniteGroup)} (h : Distributes Related subs classes)
include h

theorem exists_class {H : FiniteGroup} (hH : H ∈ subs) : ∃ cls ∈ classes, H ∈ cls :=
  List.mem_flatten.1 (h.perm.symm.subset hH)

theorem mem_of_mem_class {cls : List FiniteGroup} (hcls : cls ∈ classes) {H : FiniteGroup}
    (hH : H ∈ cls) : H ∈ subs :=
  h.perm.subset (List.mem_flatten.2 ⟨cls, hcls, hH⟩)

/-- Groups at two places are in one class only if the places are the same. -/
theorem eq_of_related (hsymm : ∀ H K, Related H K → Related K H) {i j : Fin classes.length}
    {H K : FiniteGroup} (hH : H ∈ classes[i]) (hK : K ∈ classes[j]) (hHK : Related H K) :
    i = j := by
  refine eq_of_pairwise_not (r := fun cls cls' => ∃ H ∈ cls, ∃ K ∈ cls', Related H K) ?_
    (h.apart.imp ?_) ⟨H, hH, K, hK, hHK⟩
  · rintro cls cls' ⟨H, hH, K, hK, hHK⟩
    exact ⟨K, hK, H, hH, hsymm H K hHK⟩
  · rintro cls cls' hnone ⟨H, hH, K, hK, hHK⟩
    exact hnone H hH K hK hHK

/-- Each group is in one class. -/
theorem existsUnique (hsymm : ∀ H K, Related H K → Related K H) {H : FiniteGroup} (hH : H ∈ subs) :
    ∃! i : Fin classes.length, H ∈ classes[i] := by
  obtain ⟨cls, hcls, hHcls⟩ := h.exists_class hH
  obtain ⟨i, hi, rfl⟩ := List.getElem_of_mem hcls
  refine ⟨⟨i, hi⟩, hHcls, fun j hj => ?_⟩
  exact h.eq_of_related hsymm hj hHcls (h.related _ hcls H hHcls H hHcls)

/-- A class holds everything that is related to a member. -/
theorem mem_of_related (hsymm : ∀ H K, Related H K → Related K H) {cls : List FiniteGroup}
    (hcls : cls ∈ classes) {H K : FiniteGroup} (hH : H ∈ cls) (hK : K ∈ subs)
    (hHK : Related H K) : K ∈ cls := by
  obtain ⟨cls', hcls', hKcls⟩ := h.exists_class hK
  obtain ⟨i, hi, rfl⟩ := List.getElem_of_mem hcls
  obtain ⟨j, hj, rfl⟩ := List.getElem_of_mem hcls'
  obtain rfl := Fin.mk.inj (h.eq_of_related hsymm (i := ⟨i, hi⟩) (j := ⟨j, hj⟩) hH hKcls hHK)
  exact hKcls

theorem together_iff (hsymm : ∀ H K, Related H K → Related K H) {H K : FiniteGroup}
    (hH : H ∈ subs) (hK : K ∈ subs) :
    (∃ cls ∈ classes, H ∈ cls ∧ K ∈ cls) ↔ Related H K := by
  constructor
  · rintro ⟨cls, hcls, hHcls, hKcls⟩
    exact h.related cls hcls H hHcls K hKcls
  · intro hHK
    obtain ⟨cls, hcls, hHcls⟩ := h.exists_class hH
    exact ⟨cls, hcls, hHcls, h.mem_of_related hsymm hcls hHcls hK hHK⟩

end Distributes

/-- The groups consist of conjugates. -/
def HaveConjugates (R : Value → M → Prop) (H K : FiniteGroup) : Prop :=
  ∃ S T : Set M, Consists R H S ∧ Consists R K T ∧ T ∈ conjugateSets S

theorem Consists.haveConjugates_iff {H K : FiniteGroup} {S T : Set M} (hH : Consists R H S)
    (hK : Consists R K T) : HaveConjugates R H K ↔ T ∈ conjugateSets S := by
  constructor
  · rintro ⟨S', T', hH', hK', h⟩
    rwa [← hH.extent_eq, hH'.extent_eq, ← hK.extent_eq, hK'.extent_eq]
  · exact fun h => ⟨S, T, hH, hK, h⟩

theorem Consists.haveConjugates_self {H : FiniteGroup} {S : Set M} (hH : Consists R H S) :
    HaveConjugates R H H :=
  ⟨S, S, hH, hH, self_mem_conjugateSets S⟩

namespace HaveConjugates

variable {H K L : FiniteGroup}

theorem symm (h : HaveConjugates R H K) : HaveConjugates R K H := by
  obtain ⟨S, T, hH, hK, hST⟩ := h
  exact ⟨T, S, hK, hH, mem_conjugateSets_iff.2 (mem_conjugateSets_iff.1 hST).symm⟩

theorem trans (h : HaveConjugates R H K) (h' : HaveConjugates R K L) : HaveConjugates R H L := by
  obtain ⟨S, T, hH, hK, hST⟩ := h
  obtain ⟨T', U, hK', hL, hTU⟩ := h'
  obtain rfl : T' = T := hK'.extent_eq.symm.trans hK.extent_eq
  exact ⟨S, U, hH, hL, mem_conjugateSets_iff.1 hST ▸ hTU⟩

end HaveConjugates

/-- A first class of all conjugates of a group is put in front of the classes of the rest. -/
theorem Distributes.cons {H : FiniteGroup} {subs found rest : List FiniteGroup}
    {classes : List (List FiniteGroup)} (h : Distributes (HaveConjugates R) rest classes)
    (hperm : (found ++ rest).Perm subs) (hne : found ≠ [])
    (hfound : ∀ K ∈ found, HaveConjugates R H K) (hrest : ∀ K ∈ rest, ¬HaveConjugates R H K) :
    Distributes (HaveConjugates R) subs (found :: classes) where
  perm := (h.perm.append_left found).trans hperm
  nonempty hmem := (List.mem_cons.1 hmem).elim (fun heq => hne heq.symm) h.nonempty
  related := by
    rw [List.forall_mem_cons]
    exact ⟨fun K hK L hL => (hfound K hK).symm.trans (hfound L hL), h.related⟩
  apart := by
    refine List.pairwise_cons.2 ⟨fun cls hcls K hK L hL hKL => ?_, h.apart⟩
    exact hrest L (h.perm.subset (List.mem_flatten.2 ⟨cls, hcls, hL⟩)) ((hfound K hK).trans hKL)

theorem classesOf_cons (G H : FiniteGroup) (subs : List FiniteGroup)
    (remain : List (Roster Value × Candidate)) :
    G.candidate.classesOf ((H :: subs).map candidate) remain =
      if remain.any fun K => K.1.sameSet H.elements then do
        let (found, remain) ← G.candidate.takeConjugates H.candidate G.els remain
        return found :: (← G.candidate.classesOf (subs.map candidate) remain)
      else G.candidate.classesOf (subs.map candidate) remain := by
  rw [List.map_cons, Candidate.classesOf]
  rfl

namespace Realizes

variable {G : FiniteGroup} (hG : G.Realizes R)
include hG

/-- The conjugates by some elements are taken out of what remains. -/
theorem takeConjugates_spec {H : FiniteGroup} {S : Set M} (hH : Consists R H S) {gs : List Value}
    (hgs : ∀ g ∈ gs, g ∈ G.els) {remain : List FiniteGroup}
    (hremain : ∀ K ∈ remain, ∃ T : Set M, Consists R K T) (hapart : Apart remain) :
    ∃ found rest : List FiniteGroup, G.candidate.takeConjugates H.candidate gs (remain.map tagged) =
        .ok (found.map candidate, rest.map tagged) ∧
      (found ++ rest).Perm remain ∧
      (∀ K ∈ found, ∃ y ∈ extent R gs, Consists R K (MulAut.conj y '' S)) ∧
      ∀ K ∈ rest, ∀ y ∈ extent R gs, ¬Consists R K (MulAut.conj y '' S) := by
  induction gs generalizing remain with
  | nil => exact ⟨[], remain, rfl, .refl _, by simp, by simp⟩
  | cons g gs ih =>
    obtain ⟨y, hy⟩ := hG.standing g (hgs g (by simp))
    obtain ⟨C, hC, -, hCy⟩ := hG.conjugateSubgroup_spec hH (hgs g (by simp)) hy
    have hgs' : ∀ g ∈ gs, g ∈ G.els := fun g hg => hgs g (by simp [hg])
    -- what remains in the end is no conjugate by `g`, if that was taken out before
    have hrest : ∀ {rest : List FiniteGroup},
        (∀ K ∈ rest, ¬Consists R K (MulAut.conj y '' S)) →
        (∀ K ∈ rest, ∀ z ∈ extent R gs, ¬Consists R K (MulAut.conj z '' S)) →
        ∀ K ∈ rest, ∀ z ∈ extent R (g :: gs), ¬Consists R K (MulAut.conj z '' S) := by
      intro rest hne hnot K hK z hz
      rw [hG.faithful.extent_cons hy, Set.mem_insert_iff] at hz
      obtain rfl | hz := hz
      · exact hne K hK
      · exact hnot K hK z hz
    have hsub : extent R gs ⊆ extent R (g :: gs) := extent_mono fun a ha => by simp [ha]
    rw [Candidate.takeConjugates, hC, ok_bind]
    obtain ⟨hnone, hne⟩ | ⟨K, remain', htaken, hperm, hK, hne⟩ :=
      takeOut_spec hG.faithful hCy hremain hapart
    · obtain ⟨found, rest, hrun, hfr, hfound, hnot⟩ := ih hgs' hremain hapart
      refine ⟨found, rest, by rw [hnone]; exact hrun, hfr, fun L hL => ?_, hrest ?_ hnot⟩
      · obtain ⟨z, hz, hLz⟩ := hfound L hL
        exact ⟨z, hsub hz, hLz⟩
      · exact fun L hL => hne L (hfr.subset (List.mem_append_right _ hL))
    · obtain ⟨found, rest, hrun, hfr, hfound, hnot⟩ := ih hgs'
        (fun L hL => hremain L (hperm.subset (List.mem_cons_of_mem K hL)))
        (List.pairwise_cons.1 (hapart.perm hperm.symm)).2
      refine ⟨K :: found, rest, ?_, (hfr.cons K).trans hperm, fun L hL => ?_, hrest ?_ hnot⟩
      · simp only [htaken, hrun, ok_bind]
        rfl
      · obtain rfl | hL := List.mem_cons.1 hL
        · exact ⟨y, ⟨g, by simp, hy⟩, hK⟩
        · obtain ⟨z, hz, hLz⟩ := hfound L hL
          exact ⟨z, hsub hz, hLz⟩
      · exact fun L hL => hne L (hfr.subset (List.mem_append_right _ hL))

/-- All conjugates of a group are taken out of what remains. -/
theorem takeAll_spec {H : FiniteGroup} {S : Set M} (hH : Consists R H S)
    {remain : List FiniteGroup} (hremain : ∀ K ∈ remain, ∃ T : Set M, Consists R K T)
    (hapart : Apart remain) :
    ∃ found rest : List FiniteGroup,
      G.candidate.takeConjugates H.candidate G.els (remain.map tagged) =
        .ok (found.map candidate, rest.map tagged) ∧
      (found ++ rest).Perm remain ∧
      (∀ K ∈ found, HaveConjugates R H K) ∧ ∀ K ∈ rest, ¬HaveConjugates R H K := by
  obtain ⟨found, rest, hrun, hperm, hfound, hrest⟩ :=
    hG.takeConjugates_spec hH (fun g hg => hg) hremain hapart
  refine ⟨found, rest, hrun, hperm, fun K hK => ?_, fun K hK => ?_⟩
  · obtain ⟨y, -, hKy⟩ := hfound K hK
    exact ⟨S, _, hH, hKy, y, rfl⟩
  · rintro ⟨S', _, hH', hKT, y, rfl⟩
    obtain rfl : S' = S := hH'.extent_eq.symm.trans hH.extent_eq
    exact hrest K hK y (hG.extent_els ▸ Set.mem_univ y) hKT

/-- What remains is distributed over classes, as long as all of it is still to come. -/
theorem classesOf_spec {subs : List FiniteGroup} (hsubs : ∀ H ∈ subs, ∃ S : Set M, Consists R H S)
    {remain : List FiniteGroup} (hremain : ∀ K ∈ remain, K ∈ subs) (hapart : Apart remain) :
    ∃ classes : List (List FiniteGroup),
      G.candidate.classesOf (subs.map candidate) (remain.map tagged) =
        .ok (classes.map (List.map candidate)) ∧
      Distributes (HaveConjugates R) remain classes := by
  induction subs generalizing remain with
  | nil =>
    obtain rfl := List.eq_nil_iff_forall_not_mem.2 fun K hK => List.not_mem_nil (hremain K hK)
    exact ⟨[], rfl, .refl _, by simp, by simp, .nil⟩
  | cons H subs ih =>
    obtain ⟨S, hH⟩ := hsubs H (by simp)
    have hconsists : ∀ K ∈ remain, ∃ T : Set M, Consists R K T := fun K hK => hsubs K (hremain K hK)
    have hsubs' : ∀ K ∈ subs, ∃ S : Set M, Consists R K S := fun K hK => hsubs K (by simp [hK])
    rw [classesOf_cons]
    by_cases hany : ((remain.map tagged).any fun K => K.1.sameSet H.elements) = true
    · obtain ⟨K, hK, hsame⟩ : ∃ K ∈ remain, K.elements.sameSet H.elements = true := by
        simpa [tagged] using hany
      obtain ⟨found, rest, hrun, hperm, hfound, hrest⟩ := hG.takeAll_spec hH hconsists hapart
      have hrest' : ∀ L ∈ rest, L ∈ subs := fun L hL =>
        (List.mem_cons.1 (hremain L (hperm.subset (List.mem_append_right _ hL)))).resolve_left
          fun heq => hrest L hL (heq ▸ hH.haveConjugates_self)
      obtain ⟨classes, hclasses, hdistributes⟩ :=
        ih hsubs' hrest' (List.pairwise_append.1 (hapart.perm hperm.symm)).2.1
      -- the group with the elements of `H` is a conjugate
      have hne : found ≠ [] := by
        obtain ⟨T, hKT⟩ := hconsists K hK
        have hconj : HaveConjugates R H K := by
          rw [hH.haveConjugates_iff hKT, (hKT.sameSet_iff hG.faithful hH).1 hsame]
          exact self_mem_conjugateSets S
        rcases List.mem_append.1 (hperm.symm.subset hK) with hmem | hmem
        · exact List.ne_nil_of_mem hmem
        · exact absurd hconj (hrest K hmem)
      refine ⟨found :: classes, ?_, hdistributes.cons hperm hne hfound hrest⟩
      simp only [if_pos hany, hrun, ok_bind, hclasses]
      rfl
    · rw [if_neg hany]
      refine ih hsubs' (fun K hK => (List.mem_cons.1 (hremain K hK)).resolve_left ?_) hapart
      rintro rfl
      refine hany (List.any_eq_true.2 ⟨K.tagged, List.mem_map_of_mem hK, ?_⟩)
      exact (hH.sameSet_iff hG.faithful hH).2 rfl

/-- All groups of a list are distributed over classes. -/
theorem subgroupClasses_spec {subs : List FiniteGroup}
    (hsubs : ∀ H ∈ subs, ∃ S : Set M, Consists R H S) (hapart : Apart subs) :
    ∃ classes : List (List FiniteGroup),
      G.candidate.subgroupClasses (subs.map candidate) =
        .ok (classes.map (List.map candidate)) ∧
      Distributes (HaveConjugates R) subs classes := by
  obtain ⟨classes, hclasses, hdistributes⟩ := hG.classesOf_spec hsubs (fun K hK => hK) hapart
  refine ⟨classes, ?_, hdistributes⟩
  rw [Candidate.subgroupClasses, foldlM_putIn hapart, ok_bind, hclasses]

/-- Among all subgroups, a class holds the conjugates of a member. -/
theorem collects_class {subs : List FiniteGroup}
    (hall : Collects R subs (Set.univ : Set (Subgroup M))) {classes : List (List FiniteGroup)}
    (h : Distributes (HaveConjugates R) subs classes) {cls : List FiniteGroup}
    (hcls : cls ∈ classes) {H : FiniteGroup} (hH : H ∈ cls) {N : Subgroup M}
    (hHN : Consists R H N) :
    Collects R cls {K : Subgroup M | (K : Set M) ∈ conjugateSets (N : Set M)} where
  consists L hL := by
    obtain ⟨K, -, hLK⟩ := hall.consists L (h.mem_of_mem_class hcls hL)
    exact ⟨K, (hHN.haveConjugates_iff hLK).1 (h.related cls hcls H hH L hL), hLK⟩
  complete K hK := by
    obtain ⟨L, hL, hLK⟩ := hall.complete K (Set.mem_univ K)
    exact ⟨L, h.mem_of_related (fun _ _ => HaveConjugates.symm) hcls hH hL
      ((hHN.haveConjugates_iff hLK).2 hK), hLK⟩
  apart := (Apart.perm hall.apart h.perm.symm).sublist (List.sublist_flatten_of_mem hcls)

end Realizes

end FiniteGroup

/-! ## Valid groups -/

namespace ValidGroup

variable (G : ValidGroup)

/-- A conjugate of `H` has the elements of `K`. -/
def Conjugate (H K : FiniteGroup) : Prop :=
  ∃ g ∈ G.els, ∃ C, G.candidate.conjugateSubgroup H.candidate g = .ok C ∧
    C.elements.sameSet K.elements = true

/-- What there is to say about the classes of some subgroups. -/
structure AreClasses (subs : List FiniteGroup) (classes : List (List FiniteGroup)) : Prop where
  /-- All subgroups are in the classes, and nothing else is. -/
  perm : classes.flatten.Perm subs
  nonempty : [] ∉ classes
  existsUnique : ∀ H ∈ subs, ∃! i : Fin classes.length, H ∈ classes[i]
  together_iff : ∀ H ∈ subs, ∀ K ∈ subs,
    (∃ cls ∈ classes, H ∈ cls ∧ K ∈ cls) ↔ G.Conjugate H K

/-- The class of `H` has as many members as its normalizer has cosets, and `H` is normal if it is
the only one. -/
structure CountsClass (cls : List FiniteGroup) (H : FiniteGroup) : Prop where
  exists_normalizer : ∃ N, G.candidate.normalizer H.candidate = .ok N ∧
    cls.length = G.order / N.order
  exists_isNormal : ∃ answer, G.candidate.isNormal H.candidate = .ok answer ∧
    (cls.length = 1 ↔ answer = true)

variable {G}

theorem conjugate_iff {H K : FiniteGroup} {S T : Set G.Element} (hH : Consists G.Stands H S)
    (hK : Consists G.Stands K T) : G.Conjugate H K ↔ HaveConjugates G.Stands H K := by
  have hG := G.realizes
  rw [hH.haveConjugates_iff hK]
  constructor
  · rintro ⟨g, hg, C, hC, hsame⟩
    obtain ⟨y, hy⟩ := hG.standing g hg
    obtain ⟨C', hC', -, hCy⟩ := hG.conjugateSubgroup_spec hH hg hy
    obtain rfl := Except.ok.inj (hC.symm.trans hC')
    exact ⟨y, (hCy.sameSet_iff faithful hK).1 hsame⟩
  · rintro ⟨y, rfl⟩
    obtain ⟨g, hg, hy⟩ := hG.surjective y
    obtain ⟨C, hC, -, hCy⟩ := hG.conjugateSubgroup_spec hH hg hy
    exact ⟨g, hg, C, hC, (hCy.sameSet_iff faithful hK).2 rfl⟩

theorem areClasses_of_distributes {subs : List FiniteGroup} {classes : List (List FiniteGroup)}
    (hsubs : ∀ H ∈ subs, ∃ K : Subgroup G.Element, Consists G.Stands H K)
    (h : Distributes (HaveConjugates G.Stands) subs classes) : G.AreClasses subs classes where
  perm := h.perm
  nonempty := h.nonempty
  existsUnique H hH := h.existsUnique (fun _ _ => HaveConjugates.symm) hH
  together_iff H hH K hK := by
    obtain ⟨S, hHS⟩ := hsubs H hH
    obtain ⟨T, hKT⟩ := hsubs K hK
    rw [conjugate_iff hHS hKT]
    exact h.together_iff (fun _ _ => HaveConjugates.symm) hH hK

/-- A class of all conjugates is counted by the normalizer. -/
theorem countsClass_of_collects {cls : List FiniteGroup} {H : FiniteGroup}
    {N : Subgroup G.Element} (hH : Consists G.Stands H N)
    (h : Collects G.Stands cls {K : Subgroup G.Element |
      (K : Set G.Element) ∈ conjugateSets (N : Set G.Element)}) : G.CountsClass cls H := by
  have hG := G.realizes
  have hlength : cls.length = (Subgroup.normalizer (N : Set G.Element)).index := by
    rw [h.length_eq faithful, ncard_conjugateSubgroups]
  obtain ⟨K, hK, -, hforms⟩ := hG.normalizer_spec hH
  obtain ⟨answer, hanswer, hiff⟩ := hG.isNormal_spec hH
  refine ⟨⟨K, hK, ?_⟩, answer, hanswer, ?_⟩
  · rw [hlength, hG.index_eq hforms.toConsists]
  · rw [hlength, hiff, Subgroup.index_eq_one, Subgroup.normalizer_eq_top_iff]

/-- Subgroups without common sets of elements are distributed over the classes of conjugates. If
they are all subgroups, the normalizers count the classes. -/
theorem exists_subgroupClasses (G : ValidGroup) {subs : List FiniteGroup}
    (hsubs : ∀ H ∈ subs, ∃ K : Subgroup G.Element, Consists G.Stands H K) (hapart : Apart subs) :
    ∃ classes : List (List FiniteGroup),
      G.candidate.subgroupClasses (subs.map FiniteGroup.candidate) =
        .ok (classes.map (List.map FiniteGroup.candidate)) ∧
      G.AreClasses subs classes ∧
      ∀ limit, (G.candidate.allSubgroups .cyclic limit).outcome = .ok subs →
        ∀ cls ∈ classes, ∀ H ∈ cls, G.CountsClass cls H := by
  have hG := G.realizes
  obtain ⟨classes, hclasses, hdistributes⟩ :=
    hG.subgroupClasses_spec (fun H hH => (hsubs H hH).imp' _ fun _ hK => hK) hapart
  refine ⟨classes, hclasses, areClasses_of_distributes hsubs hdistributes,
    fun limit hlimit cls hcls H hH => ?_⟩
  obtain ⟨N, hHN⟩ := hsubs H (hdistributes.mem_of_mem_class hcls hH)
  exact countsClass_of_collects hHN
    (hG.collects_class (hG.carries.collects_of_allSubgroups hlimit) hdistributes hcls hH hHN)

/-- The classes of subgroups of the permutations of three points. -/
theorem exists_subgroupClasses_validPerms :
    let G := validPerms (n := 3) (by decide)
    ∃ subs, (G.candidate.allSubgroups .cyclic .none).outcome = .ok subs ∧
      (∀ H ∈ subs, ∃ K : Subgroup G.Element, Consists G.Stands H K) ∧ Apart subs ∧
      ∃ classes : List (List FiniteGroup),
        G.candidate.subgroupClasses (subs.map FiniteGroup.candidate) =
          .ok (classes.map (List.map FiniteGroup.candidate)) ∧
        G.AreClasses subs classes ∧ ∀ cls ∈ classes, ∀ H ∈ cls, G.CountsClass cls H := by
  intro G
  have horder : G.order ≤ 200 := by
    refine (realizes_allPerms (n := 3) (by decide)).order_eq.trans_le ?_
    rw [Nat.card_eq_fintype_card]
    decide
  obtain ⟨subs, hsubs, hcollects⟩ := G.realizes.allSubgroups_spec horder
  have hconsists : ∀ H ∈ subs, ∃ K : Subgroup G.Element, Consists G.Stands H K := fun H hH =>
    (hcollects.consists H hH).imp fun K hK => hK.2
  obtain ⟨classes, hclasses, hare, hcounts⟩ :=
    exists_subgroupClasses G hconsists hcollects.apart
  exact ⟨subs, hsubs, hconsists, hcollects.apart, classes, hclasses, hare, hcounts .none hsubs⟩

end ValidGroup

end FiniteGroups
