import FiniteGroups.Proofs.Realizes
import FiniteGroups.Subgroup.Search

/-!
# Lists of subgroups

The searches for subgroups collect groups and add one only if none with the same elements is
there. A list `Collects` a set of subgroups if each of its members consists of one of them and
each of them is the set of elements of exactly one member. Adding a subgroup that is new keeps
this up (`Collects.concat`), and whether a subgroup is new is what `FiniteGroup.holds` asks
(`Collects.holds_iff`).

`Spanned` groups know generators that do generate them, so that their joins can be computed from
these. What generators span is such a group (`Carries.exists_spanned`). None of this asks for an
inverse.
-/

set_option linter.unusedSectionVars false

namespace FiniteGroups

namespace FiniteGroup

variable {M : Type} [Group M] {R : Value → M → Prop} {G : FiniteGroup}

/-- No two groups of the list have the same elements. -/
def Apart (found : List FiniteGroup) : Prop :=
  found.Pairwise fun H H' => H.elements.sameSet H'.elements = false

theorem Apart.perm {found found' : List FiniteGroup} (h : Apart found)
    (hperm : found.Perm found') : Apart found' := by
  refine hperm.pairwise h fun {H H'} hne => ?_
  rw [← Bool.not_eq_true, Roster.sameSet_iff] at hne ⊢
  exact fun heq => hne fun a => (heq a).symm

/-- The groups of the list consist of the subgroups in `P`, each of which occurs once. -/
structure Collects (R : Value → M → Prop) (found : List FiniteGroup) (P : Set (Subgroup M)) :
    Prop where
  consists : ∀ H ∈ found, ∃ K ∈ P, Consists R H K
  complete : ∀ K ∈ P, ∃ H ∈ found, Consists R H K
  apart : found.Pairwise fun H H' => H.elements.sameSet H'.elements = false

/-- A group consists of one subgroup at most. -/
theorem Consists.unique {H : FiniteGroup} {K L : Subgroup M} (hK : Consists R H K)
    (hL : Consists R H L) : K = L :=
  SetLike.coe_injective (hK.extent_eq.symm.trans hL.extent_eq)

/-- The subgroups that the groups of a list consist of. -/
def subgroups (R : Value → M → Prop) (found : List FiniteGroup) : Set (Subgroup M) :=
  {K | ∃ H ∈ found, Consists R H K}

@[simp] theorem subgroups_nil : subgroups R [] = (∅ : Set (Subgroup M)) := by
  simp [subgroups]

theorem subgroups_append (found found' : List FiniteGroup) :
    subgroups R (found ++ found') = subgroups R found ∪ subgroups (M := M) R found' := by
  ext K
  simp [subgroups, or_and_right, exists_or]

theorem Consists.subgroups_singleton {H : FiniteGroup} {K : Subgroup M} (h : Consists R H K) :
    subgroups R [H] = {K} := by
  ext L
  simp only [subgroups, List.mem_singleton, exists_eq_left, Set.mem_ofPred_eq,
    Set.mem_singleton_iff]
  refine ⟨fun hL => hL.unique h, fun hL => ?_⟩
  rwa [hL]

namespace Collects

variable {found : List FiniteGroup} {P : Set (Subgroup M)}

theorem nil : Collects R [] (∅ : Set (Subgroup M)) :=
  ⟨by simp, by simp, .nil⟩

theorem mem (h : Collects R found P) {H : FiniteGroup} (hH : H ∈ found) {K : Subgroup M}
    (hK : Consists R H K) : K ∈ P := by
  obtain ⟨L, hL, hHL⟩ := h.consists H hH
  rwa [hK.unique hHL]

theorem subgroups_eq (h : Collects R found P) : subgroups R found = P := by
  ext K
  exact ⟨fun ⟨_, hH, hHK⟩ => h.mem hH hHK, h.complete K⟩

/-- A subgroup that is new goes to the end. -/
theorem concat (hR : Faithful R) (h : Collects R found P) {H : FiniteGroup} {K : Subgroup M}
    (hH : Consists R H K) (hK : K ∉ P) : Collects R (found ++ [H]) (insert K P) where
  consists H' hH' := by
    rcases List.mem_append.1 hH' with hH' | hH'
    · obtain ⟨L, hL, hH'L⟩ := h.consists H' hH'
      exact ⟨L, Or.inr hL, hH'L⟩
    · rw [List.mem_singleton.1 hH']
      exact ⟨K, Or.inl rfl, hH⟩
  complete L hL := by
    rcases hL with rfl | hL
    · exact ⟨H, by simp, hH⟩
    · obtain ⟨H', hH', hH'L⟩ := h.complete L hL
      exact ⟨H', by simp [hH'], hH'L⟩
  apart := by
    refine List.pairwise_append.2 ⟨h.apart, List.pairwise_singleton _ _, fun H' hH' C hC => ?_⟩
    rw [List.mem_singleton.1 hC]
    obtain ⟨L, hL, hH'L⟩ := h.consists H' hH'
    rw [← Bool.not_eq_true, hH'L.sameSet_iff hR hH]
    intro hLK
    rw [← SetLike.coe_injective hLK] at hK
    exact hK hL

/-- To be new is to be none of the subgroups collected. -/
theorem holds_iff (hR : Faithful R) {found : Array FiniteGroup} (h : Collects R found.toList P)
    {els : Roster Value} (hels : Standing R els.toList) {K : Subgroup M}
    (hK : extent R els.toList = K) : holds found els = true ↔ K ∈ P := by
  rw [holds, Array.any_eq_true']
  constructor
  · rintro ⟨H, hH, hsame⟩
    obtain ⟨L, hL, hHL⟩ := h.consists H (Array.mem_toList_iff.2 hH)
    rw [hR.sameSet_iff hHL.standing hels, hHL.extent_eq, hK] at hsame
    rwa [← SetLike.coe_injective hsame]
  · intro hKP
    obtain ⟨H, hH, hHK⟩ := h.complete K hKP
    refine ⟨H, Array.mem_toList_iff.1 hH, ?_⟩
    rw [hR.sameSet_iff hHK.standing hels, hHK.extent_eq, hK]

theorem filter (h : Collects R found P) (p : FiniteGroup → Bool) {Q : Set (Subgroup M)}
    (hp : ∀ H ∈ found, ∀ K : Subgroup M, Consists R H K → (p H = true ↔ K ∈ Q)) :
    Collects R (found.filter p) (P ∩ Q) where
  consists H hH := by
    obtain ⟨hH, hpH⟩ := List.mem_filter.1 hH
    obtain ⟨K, hK, hHK⟩ := h.consists H hH
    exact ⟨K, ⟨hK, (hp H hH K hHK).1 hpH⟩, hHK⟩
  complete K hK := by
    obtain ⟨H, hH, hHK⟩ := h.complete K hK.1
    exact ⟨H, List.mem_filter.2 ⟨hH, (hp H hH K hHK).2 hK.2⟩, hHK⟩
  apart := h.apart.filter p

theorem perm (h : Collects R found P) {found' : List FiniteGroup} (hperm : found'.Perm found) :
    Collects R found' P where
  consists H hH := h.consists H (hperm.mem_iff.1 hH)
  complete K hK := by
    obtain ⟨H, hH, hHK⟩ := h.complete K hK
    exact ⟨H, hperm.mem_iff.2 hH, hHK⟩
  apart := Apart.perm h.apart hperm.symm

/-- Each subgroup is found at one place. -/
theorem existsUnique (hR : Faithful R) (h : Collects R found P) {K : Subgroup M} (hK : K ∈ P) :
    ∃! i, Consists R (found.get i) K := by
  obtain ⟨H, hH, hHK⟩ := h.complete K hK
  obtain ⟨i, hi, rfl⟩ := List.getElem_of_mem hH
  refine ⟨⟨i, hi⟩, hHK, fun j hj => ?_⟩
  refine eq_of_pairwise_not (r := fun H H' => H.elements.sameSet H'.elements = true)
    (fun H H' hsame => ?_) (h.apart.imp fun hne => by simp [hne])
    ((hj.sameSet_iff hR hHK).2 rfl)
  rw [Roster.sameSet_iff] at hsame ⊢
  exact fun a => (hsame a).symm

/-- A list of groups has as many members as it collects subgroups. -/
theorem length_eq (hR : Faithful R) (h : Collects R found P) : found.length = P.ncard := by
  choose f hf using fun i : Fin found.length => h.consists _ (List.getElem_mem i.2)
  have hbijective : Function.Bijective fun i => (⟨f i, (hf i).1⟩ : P) := by
    constructor
    · intro i j hij
      obtain ⟨k, -, hk⟩ := h.existsUnique hR (hf i).1
      have heq : f i = f j := congrArg Subtype.val hij
      exact (hk i (hf i).2).trans (hk j (by rw [heq]; exact (hf j).2)).symm
    · rintro ⟨L, hL⟩
      obtain ⟨i, hi, -⟩ := h.existsUnique hR hL
      exact ⟨i, Subtype.ext ((hf i).2.unique hi)⟩
  rw [← Nat.card_coe_set_eq, ← Nat.card_eq_of_bijective _ hbijective, Nat.card_fin]

end Collects

/-! ## Groups that know their generators -/

/-- The group consists of the subgroup that its generators generate, of which there are some. -/
structure Spanned (R : Value → M → Prop) (H : FiniteGroup) (K : Subgroup M) : Prop where
  consists : Consists R H K
  standing_gens : Standing R H.gens.listed
  gens_ne : H.gens.listed ≠ []
  closure_gens : Subgroup.closure (extent R H.gens.listed) = K

namespace Carries

variable (hG : G.Carries R)
include hG

/-- Some generators span what they generate, which becomes a group that knows them. -/
theorem exists_spanned {gens : List Value} (hgens : Standing R gens) (hne : gens ≠ [])
    {K : Subgroup M} (hK : Subgroup.closure (extent R gens) = K) :
    ∃ found els H, (spanned gens G.mul none .none unlimited).outcome = .ok found ∧
      Value.distinct found = .ok els ∧ Standing R els.toList ∧ extent R els.toList = K ∧
      G.spannedBy gens els = .ok H ∧ Spanned R H K := by
  have := hG.finite
  obtain ⟨found, hfound, hall, hextent⟩ := hG.toMultiplies.spanned_subgroup
    (show seeds gens none = .ok gens from rfl) hne hgens .none
  obtain ⟨els, hels, hstand, hsame⟩ := hG.distinct_spec hall
  have hextent : extent R els.toList = K := by rw [hsame, hextent, hK]
  refine ⟨found.toList, els, G.subgroupOf els (.list 0 gens) .none, hfound, hels, hstand, hextent,
    ?_, ?_, hgens, hne, hK⟩
  · rw [spannedBy, hG.requireIdentity_eq hstand]
    rfl
  · rw [← hextent]
    exact hG.consists_subgroupOf hstand _ _

/-- An element spans the subgroup of its powers. -/
theorem addCyclic_spec {g : Value} {x : M} (hg : R g x) {found : Array FiniteGroup}
    {P : Set (Subgroup M)} (h : Collects R found.toList P)
    (hgens : ∀ H ∈ found.toList, ∃ K, Spanned R H K) :
    ∃ next, G.addCyclic found g = .ok next ∧
      Collects R next.toList (insert (Subgroup.zpowers x) P) ∧
      ∀ H ∈ next.toList, ∃ K, Spanned R H K := by
  have hclosure : Subgroup.closure (extent R [g]) = Subgroup.zpowers x := by
    rw [hG.faithful.extent_singleton hg, Subgroup.zpowers_eq_closure]
  obtain ⟨powers, els, H, hpowers, hels, hstand, hextent, hH, hspanned⟩ :=
    hG.exists_spanned (standing_singleton hg) (by simp) hclosure
  have hnew := h.holds_iff hG.faithful hstand hextent
  rw [addCyclic, hpowers, ok_bind, hels, ok_bind]
  by_cases hmem : Subgroup.zpowers x ∈ P
  · refine ⟨found, by rw [if_pos (hnew.2 hmem)]; rfl, ?_, hgens⟩
    rwa [Set.insert_eq_of_mem hmem]
  · refine ⟨found.push H, by rw [if_neg (mt hnew.1 hmem), hH]; rfl, ?_, ?_⟩
    · rw [Array.toList_push]
      exact h.concat hG.faithful hspanned.consists hmem
    · intro H' hH'
      rw [Array.toList_push, List.mem_append, List.mem_singleton] at hH'
      rcases hH' with hH' | rfl
      · exact hgens H' hH'
      · exact ⟨_, hspanned⟩

/-- The cyclic subgroups are found, each with a generator. -/
theorem cyclicSubgroups_spec : ∃ cyclic, G.cyclicSubgroups = .ok cyclic ∧
    Collects R cyclic (Set.range (Subgroup.zpowers (G := M))) ∧
    ∀ H ∈ cyclic, ∃ K, Spanned R H K := by
  obtain ⟨found, hfound, hcollects, hgens⟩ : ∃ found : Array FiniteGroup,
      G.els.foldlM G.addCyclic #[] = .ok found ∧
      Collects R found.toList (Subgroup.zpowers '' extent R G.els) ∧
      ∀ H ∈ found.toList, ∃ K, Spanned R H K := by
    refine exists_foldlM (fun met (found : Array FiniteGroup) =>
      Collects R found.toList (Subgroup.zpowers '' extent R met) ∧
        ∀ H ∈ found.toList, ∃ K, Spanned R H K) ?_ ?_
    · rintro met g rest found hels ⟨hcollects, hgens⟩
      obtain ⟨x, hx⟩ := hG.standing_els g (by rw [← hels]; simp)
      obtain ⟨next, hnext, h⟩ := hG.addCyclic_spec hx hcollects hgens
      refine ⟨next, hnext, ?_⟩
      rwa [extent_append, hG.faithful.extent_singleton hx, Set.image_union, Set.image_singleton,
        Set.union_singleton]
    · simpa using Collects.nil
  refine ⟨found.toList, by rw [cyclicSubgroups, hfound]; rfl, ?_, hgens⟩
  rwa [hG.extent_els, Set.image_univ] at hcollects

end Carries

end FiniteGroup

end FiniteGroups
