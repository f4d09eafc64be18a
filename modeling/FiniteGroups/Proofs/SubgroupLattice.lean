import FiniteGroups.Proofs.MaximalSubgroups
import FiniteGroups.Proofs.SubgroupSearches
import Mathlib.Order.Atoms

/-!
# The covering relation

The pairs of positions in the lattice of a list are those of a group and another one directly
above it, as far as the list tells (`IsLattice.mem_iff`). Every strict inclusion is a chain of
such pairs : what is between two groups is smaller than the one and larger than the other, so the
chain gets longer until nothing is between its members (`transGen_iff_below`).

If the list holds all subgroups of a group, what is directly below one of them are its maximal
subgroups (`covBy_iff_exists_coatom`). These can be found by a search of their own in the
subgroup, which has nothing to do with inverses, so the two searches agree
(`Carries.mem_latticeOf_iff`).
-/

set_option linter.unusedSectionVars false

namespace FiniteGroups

/-! ## Chains -/

section

variable {Below : Nat → Nat → Prop} (size : Nat → Nat)
  (hsize : ∀ i j, Below i j → size i < size j)
  (htrans : ∀ i j l, Below i j → Below j l → Below i l)
include size hsize htrans

/-- What is below in an order is reached by steps with nothing in between. -/
theorem transGen_iff_below {i j : Nat} :
    Relation.TransGen (fun i j => Below i j ∧ ∀ l, ¬(Below i l ∧ Below l j)) i j ↔ Below i j := by
  constructor
  · intro h
    induction h with
    | single h => exact h.1
    | tail _ h ih => exact htrans _ _ _ ih h.1
  · intro h
    -- a member in between is nearer to both ends
    induction hn : size j - size i using Nat.strong_induction_on generalizing i j with
    | _ n ih =>
      by_cases hbetween : ∃ l, Below i l ∧ Below l j
      · obtain ⟨l, hil, hlj⟩ := hbetween
        have hi := hsize i l hil
        have hj := hsize l j hlj
        exact .trans (ih _ (by omega) hil rfl) (ih _ (by omega) hlj rfl)
      · exact .single ⟨h, fun l hl => hbetween ⟨l, hl⟩⟩

end

/-- What is directly below a subgroup is a maximal subgroup of it. -/
theorem covBy_iff_exists_coatom {M : Type} [Group M] {K L : Subgroup M} :
    K ⋖ L ↔ ∃ C : Subgroup L, IsCoatom C ∧ C.map L.subtype = K := by
  let e : Subgroup L ≃o Set.Iic L := Subgroup.MapSubtype.orderIso L
  have hcoatom : ∀ C : Subgroup L, IsCoatom C ↔ C.map L.subtype ⋖ L := fun C =>
    (e.isCoatom_iff C).symm.trans Set.Iic.isCoatom_iff
  constructor
  · intro h
    have hmap : (K.subgroupOf L).map L.subtype = K := by
      rw [Subgroup.subgroupOf_map_subtype, inf_eq_left.2 h.le]
    exact ⟨K.subgroupOf L, (hcoatom _).2 (hmap.symm ▸ h), hmap⟩
  · rintro ⟨C, hC, rfl⟩
    exact (hcoatom C).1 hC

namespace FiniteGroup

/-! ## What is computed -/

/-- The elements of `H` are elements of `K`, but not the other way round. -/
def StrictlyIn (H K : FiniteGroup) : Prop :=
  H.elements.subset K.elements = true ∧ H.elements.sameSet K.elements = false

theorem StrictlyIn.trans {H K L : FiniteGroup} (h : StrictlyIn H K) (h' : StrictlyIn K L) :
    StrictlyIn H L := by
  obtain ⟨hsub, hne⟩ := h
  obtain ⟨hsub', -⟩ := h'
  rw [Roster.subset_iff] at hsub hsub'
  refine ⟨Roster.subset_iff.2 fun a ha => hsub' a (hsub a ha), ?_⟩
  rw [← Bool.not_eq_true, Roster.sameSet_iff] at hne ⊢
  intro heq
  refine hne fun a => Bool.eq_iff_iff.2 ⟨hsub a, fun ha => ?_⟩
  rw [heq a]
  exact hsub' a ha

/-- To be smaller and contained is to be strictly contained. -/
theorem liesBelow_iff_strictlyIn {H K : FiniteGroup} (hH : H.els = H.elements.toList)
    (hK : K.els = K.elements.toList) : H.liesBelow K = true ↔ StrictlyIn H K := by
  rw [liesBelow, Bool.and_eq_true, decide_eq_true_iff, order, order, hH, hK, Roster.length_toList,
    Roster.length_toList, and_comm, StrictlyIn]
  refine and_congr_right fun hsub => ?_
  have hle := Roster.size_le_of_subset (Roster.subset_iff.1 hsub)
  rw [Roster.sameSet, hsub, Bool.and_true, beq_eq_false_iff_ne]
  omega

/-- The positions of those that lie directly above `H`. -/
def coversOf (H : FiniteGroup) (numbered : List (FiniteGroup × Nat)) : List Nat :=
  let above := numbered.filter fun p => H.liesBelow p.1
  (above.filter fun p => !above.any fun q => q.1.liesBelow p.1).map Prod.snd

/-- The pairs of positions of which the first group lies directly below the second. -/
def latticeOf (subs : List FiniteGroup) : List (Nat × Nat) :=
  subs.zipIdx.flatMap fun p => (p.1.coversOf subs.zipIdx).map fun j => (p.2, j)

theorem covers_candidates (H : FiniteGroup) (numbered : List (FiniteGroup × Nat)) :
    H.candidate.covers (numbered.map (Prod.map candidate id)) = .ok (H.coversOf numbered) := by
  have habove : (numbered.map (Prod.map candidate id)).filterM (fun p => H.candidate.below p.1) =
      .ok ((numbered.filter fun p => H.liesBelow p.1).map (Prod.map candidate id)) :=
    filterM_map_eq fun p _ => below_candidate H p.1
  have hdirect : ∀ above : List (FiniteGroup × Nat),
      (above.map (Prod.map candidate id)).filterM (fun p => do
        return !(← p.1.isAboveSome ((above.map (Prod.map candidate id)).map Prod.fst))) =
      .ok ((above.filter fun p => !above.any fun q => q.1.liesBelow p.1).map
        (Prod.map candidate id)) := fun above => by
    refine filterM_map_eq fun p _ => ?_
    rw [Candidate.isAboveSome, List.map_map, anyM_map_eq fun q _ => below_candidate q.1 p.1]
    rfl
  show (do
    let above ← (numbered.map (Prod.map candidate id)).filterM fun p : Candidate × Nat =>
      H.candidate.below p.1
    let direct ← above.filterM fun p : Candidate × Nat => do
      return !(← p.1.isAboveSome (above.map Prod.fst))
    return direct.map Prod.snd) = _
  rw [habove, ok_bind, hdirect, ok_bind, pure_eq_ok, List.map_map]
  rfl

theorem lattice_candidates (subs : List FiniteGroup) :
    Candidate.lattice (subs.map candidate) = .ok (latticeOf subs) := by
  have hpairs : (subs.zipIdx.map (Prod.map candidate id)).mapM (fun p => do
      return (← p.1.covers (subs.zipIdx.map (Prod.map candidate id))).map fun j => (p.2, j)) =
      .ok (subs.zipIdx.map fun p => (p.1.coversOf subs.zipIdx).map fun j => (p.2, j)) := by
    rw [List.mapM_map]
    refine mapM_eq_map fun p _ => ?_
    show (do return (← p.1.candidate.covers _).map fun j => (p.2, j)) = _
    rw [covers_candidates]
    rfl
  rw [Candidate.lattice, List.zipIdx_map]
  show (do
    let pairs ← (subs.zipIdx.map (Prod.map candidate id)).mapM (fun p : Candidate × Nat => do
      return (← p.1.covers (subs.zipIdx.map (Prod.map candidate id))).map fun j => (p.2, j))
    return pairs.flatten) = _
  rw [hpairs]
  rfl

theorem mem_latticeOf {subs : List FiniteGroup} {i j : Nat} :
    (i, j) ∈ latticeOf subs ↔ ∃ H K, subs[i]? = some H ∧ subs[j]? = some K ∧
      H.liesBelow K = true ∧ ∀ L ∈ subs, H.liesBelow L = true → L.liesBelow K = false := by
  simp only [latticeOf, coversOf, List.mem_flatMap, List.mem_map, List.mem_filter, Prod.exists,
    List.mk_mem_zipIdx_iff_getElem?, Bool.not_eq_true', List.any_eq_false, Prod.mk.injEq]
  constructor
  · rintro ⟨H, _, hH, _, ⟨K, _, ⟨⟨hK, hHK⟩, hnone⟩, rfl⟩, rfl, rfl⟩
    refine ⟨H, K, hH, hK, hHK, fun L hL hHL => ?_⟩
    obtain ⟨l, hl⟩ := List.getElem?_of_mem hL
    exact Bool.eq_false_iff.2 (hnone (L, l) ⟨List.mk_mem_zipIdx_iff_getElem?.2 hl, hHL⟩)
  · rintro ⟨H, K, hH, hK, hHK, hnone⟩
    refine ⟨H, i, hH, j, ⟨K, j, ⟨⟨hK, hHK⟩, fun L hL => ?_⟩, rfl⟩, rfl, rfl⟩
    have hmem : L.1 ∈ subs := List.mem_of_getElem? (List.mem_zipIdx_iff_getElem?.1 hL.1)
    exact Bool.eq_false_iff.1 (hnone L.1 hmem hL.2)

theorem nodup_latticeOf (subs : List FiniteGroup) : (latticeOf subs).Nodup := by
  have hpositions : (subs.zipIdx.map Prod.snd).Nodup := by
    rw [List.zipIdx_map_snd]
    exact List.nodup_range'
  rw [latticeOf, List.nodup_flatMap]
  refine ⟨fun p _ => ?_, ?_⟩
  · refine List.Nodup.map (fun j l h => (Prod.mk.inj h).2) (hpositions.sublist ?_)
    exact (List.filter_sublist.trans List.filter_sublist).map Prod.snd
  · refine (List.pairwise_map.1 hpositions).imp fun {p q} hne => ?_
    rw [Function.onFun, List.disjoint_left]
    intro r hr hr'
    obtain ⟨j, -, rfl⟩ := List.mem_map.1 hr
    obtain ⟨l, -, heq⟩ := List.mem_map.1 hr'
    exact hne (Prod.mk.inj heq).1.symm

/-! ## What it means -/

/-- The group at `i` is strictly contained in the one at `j`. -/
def BelowAt (subs : List FiniteGroup) (i j : Nat) : Prop :=
  ∃ H K, subs[i]? = some H ∧ subs[j]? = some K ∧ StrictlyIn H K

/-- The pairs are those of groups with nothing of the list in between, and strict inclusion is made
of them. -/
structure IsLattice (subs : List FiniteGroup) (pairs : List (Nat × Nat)) : Prop where
  mem_iff : ∀ i j, (i, j) ∈ pairs ↔
    BelowAt subs i j ∧ ∀ l, ¬(BelowAt subs i l ∧ BelowAt subs l j)
  nodup : pairs.Nodup
  transGen_iff : ∀ i j, Relation.TransGen (fun i j => (i, j) ∈ pairs) i j ↔ BelowAt subs i j

/-- The pairs that end at a group are those of the members that have the elements of a maximal
subgroup of it, which a search of its own finds. -/
def CoversMaximal (subs : List FiniteGroup) (pairs : List (Nat × Nat)) : Prop :=
  ∀ j : Fin subs.length, ∃ own maximal : List FiniteGroup,
    ((subs.get j).candidate.allSubgroups .cyclic .none).outcome = .ok own ∧
    (subs.get j).candidate.maximal (own.map candidate) = .ok (maximal.map candidate) ∧
    ∀ i : Fin subs.length, (i.1, j.1) ∈ pairs ↔
      ∃ C ∈ maximal, (subs.get i).elements.sameSet C.elements = true

/-- Groups that list their elements have a lattice. -/
theorem isLattice_latticeOf {subs : List FiniteGroup}
    (hsubs : ∀ H ∈ subs, H.els = H.elements.toList) : IsLattice subs (latticeOf subs) := by
  have hbelow : ∀ {i j : Nat} {H K : FiniteGroup}, subs[i]? = some H → subs[j]? = some K →
      (H.liesBelow K = true ↔ StrictlyIn H K) := fun hi hj =>
    liesBelow_iff_strictlyIn (hsubs _ (List.mem_of_getElem? hi)) (hsubs _ (List.mem_of_getElem? hj))
  have hmem : ∀ i j, (i, j) ∈ latticeOf subs ↔
      BelowAt subs i j ∧ ∀ l, ¬(BelowAt subs i l ∧ BelowAt subs l j) := by
    intro i j
    rw [mem_latticeOf]
    constructor
    · rintro ⟨H, K, hi, hj, hHK, hnone⟩
      refine ⟨⟨H, K, hi, hj, (hbelow hi hj).1 hHK⟩, ?_⟩
      rintro l ⟨⟨H', L, hi', hl, hHL⟩, L', K', hl', hj', hLK⟩
      obtain rfl := Option.some.inj (hi.symm.trans hi')
      obtain rfl := Option.some.inj (hl.symm.trans hl')
      obtain rfl := Option.some.inj (hj.symm.trans hj')
      have hno := hnone L (List.mem_of_getElem? hl) ((hbelow hi hl).2 hHL)
      exact Bool.false_ne_true (hno.symm.trans ((hbelow hl hj).2 hLK))
    · rintro ⟨⟨H, K, hi, hj, hHK⟩, hnone⟩
      refine ⟨H, K, hi, hj, (hbelow hi hj).2 hHK, fun L hL hHL => Bool.eq_false_iff.2 fun hLK => ?_⟩
      obtain ⟨l, hl⟩ := List.getElem?_of_mem hL
      exact hnone l ⟨⟨H, L, hi, hl, (hbelow hi hl).1 hHL⟩, L, K, hl, hj, (hbelow hl hj).1 hLK⟩
  refine ⟨hmem, nodup_latticeOf subs, fun i j => ?_⟩
  simp only [hmem]
  refine transGen_iff_below (fun i => (subs[i]?.map order).getD 0) ?_ ?_
  · rintro i j ⟨H, K, hi, hj, hHK⟩
    have hlt := (Bool.and_eq_true _ _ ▸ (hbelow hi hj).2 hHK).1
    simpa [hi, hj] using hlt
  · rintro i j l ⟨H, K, hi, hj, hHK⟩ ⟨K', L, hj', hl, hKL⟩
    obtain rfl := Option.some.inj (hj.symm.trans hj')
    exact ⟨H, L, hi, hl, hHK.trans hKL⟩

section

variable {M : Type} [Group M] {R : Value → M → Prop} {G : FiniteGroup}

/-- What consists of a subgroup of `L` consists of a subgroup of the whole group. -/
theorem Consists.map_subtype (hR : Faithful R) {H : FiniteGroup} {L : Subgroup M} {K : Subgroup L}
    (h : Consists (fun a (x : L) => R a x) H K) : Consists R H (K.map L.subtype) where
  els_eq := h.els_eq
  standing a ha := by
    obtain ⟨x, hx⟩ := h.standing a ha
    exact ⟨x, hx⟩
  extent_eq := by
    ext x
    constructor
    · rintro ⟨a, ha, hx⟩
      obtain ⟨y, hy⟩ := h.standing a ha
      obtain rfl := hR.unique hy hx
      exact ⟨y, h.extent_eq.subset ⟨a, ha, hy⟩, rfl⟩
    · rintro ⟨y, hy, rfl⟩
      exact h.extent_eq.superset hy

namespace Carries

variable (hG : G.Carries R)
include hG

/-- If the list holds all subgroups, nothing at all is between the members of a pair. -/
theorem mem_latticeOf_iff {subs : List FiniteGroup}
    (hall : Collects R subs (Set.univ : Set (Subgroup M))) {i j : Nat} {H K : FiniteGroup}
    (hi : subs[i]? = some H) (hj : subs[j]? = some K) {N L : Subgroup M} (hHN : Consists R H N)
    (hKL : Consists R K L) : (i, j) ∈ latticeOf subs ↔ N ⋖ L := by
  rw [mem_latticeOf]
  constructor
  · rintro ⟨H', K', hi', hj', hHK, hnone⟩
    obtain rfl := Option.some.inj (hi.symm.trans hi')
    obtain rfl := Option.some.inj (hj.symm.trans hj')
    refine ⟨(hG.liesBelow_iff hHN hKL).1 hHK, fun J hNJ hJL => ?_⟩
    obtain ⟨C, hC, hCJ⟩ := hall.complete J (Set.mem_univ J)
    have hno := hnone C hC ((hG.liesBelow_iff hHN hCJ).2 hNJ)
    exact Bool.false_ne_true (hno.symm.trans ((hG.liesBelow_iff hCJ hKL).2 hJL))
  · intro h
    refine ⟨H, K, hi, hj, (hG.liesBelow_iff hHN hKL).2 h.lt, fun C hC hHC =>
      Bool.eq_false_iff.2 fun hCK => ?_⟩
    obtain ⟨J, -, hCJ⟩ := hall.consists C hC
    exact h.2 ((hG.liesBelow_iff hHN hCJ).1 hHC) ((hG.liesBelow_iff hCJ hKL).1 hCK)

/-- The search within a subgroup finds what is directly below the subgroup. -/
theorem maximal_within {K : FiniteGroup} (hK : G.IsWithin K) {L : Subgroup M}
    (hKL : Consists R K L) (horder : G.order ≤ 200) :
    ∃ own, (K.candidate.allSubgroups .cyclic .none).outcome = .ok own ∧
      K.candidate.maximal (own.map candidate) = .ok ((maximalOf K.order own).map candidate) ∧
      ∀ {H : FiniteGroup} {N : Subgroup M}, Consists R H N →
        ((∃ C ∈ maximalOf K.order own, H.elements.sameSet C.elements = true) ↔ N ⋖ L) := by
  have hown := hG.restrict hK hKL
  have := hG.finite
  have hle : K.order ≤ 200 := by
    rw [hown.order_eq]
    exact (Subgroup.card_le_card_group L).trans (hG.order_eq ▸ horder)
  obtain ⟨own, hsearch, hall⟩ := hown.allSubgroups_spec hle
  have hcollects := hown.collects_maximalOf hall
  refine ⟨own, hsearch, maximalAmong_candidates K.order own, fun {H N} hHN => ?_⟩
  rw [covBy_iff_exists_coatom]
  constructor
  · rintro ⟨C, hC, hsame⟩
    obtain ⟨D, hD, hCD⟩ := hcollects.consists C hC
    refine ⟨D, hD, SetLike.coe_injective ?_⟩
    exact ((hHN.sameSet_iff hG.faithful (hCD.map_subtype hG.faithful)).1 hsame).symm
  · rintro ⟨D, hD, rfl⟩
    obtain ⟨C, hC, hCD⟩ := hcollects.complete D hD
    exact ⟨C, hC, (hHN.sameSet_iff hG.faithful (hCD.map_subtype hG.faithful)).2 rfl⟩

end Carries

end

end FiniteGroup

/-! ## Valid groups -/

namespace ValidGroup

open FiniteGroup

/-- The lattice of groups that list their elements is what it should be. If these are all subgroups
of a valid group that is small enough for the search, it tells their maximal subgroups. -/
theorem exists_lattice :
    (∀ subs : List FiniteGroup, (∀ H ∈ subs, H.els = H.elements.toList) → ∃ pairs,
      Candidate.lattice (subs.map candidate) = .ok pairs ∧ IsLattice subs pairs) ∧
    ∀ G : ValidGroup, G.order ≤ 200 → ∃ subs pairs,
      (G.candidate.allSubgroups .cyclic .none).outcome = .ok subs ∧
      Candidate.lattice (subs.map candidate) = .ok pairs ∧ IsLattice subs pairs ∧
      CoversMaximal subs pairs := by
  refine ⟨fun subs hsubs => ⟨_, lattice_candidates subs, isLattice_latticeOf hsubs⟩,
    fun G horder => ?_⟩
  have hG := G.realizes.carries
  obtain ⟨subs, hsubs, hcollects⟩ := hG.allSubgroups_spec horder
  obtain ⟨joins, hjoins, hperm⟩ := exists_joins_of_allSubgroups hsubs
  refine ⟨subs, latticeOf subs, hsubs, lattice_candidates subs, isLattice_latticeOf fun H hH => ?_,
    fun j => ?_⟩
  · obtain ⟨K, -, hHK⟩ := hcollects.consists H hH
    exact hHK.els_eq
  · have hwithin : G.IsWithin (subs.get j) :=
      allWithin_allJoins hjoins _ (hperm.subset (List.get_mem subs j))
    obtain ⟨L, -, hL⟩ := hcollects.consists (subs.get j) (List.get_mem subs j)
    obtain ⟨own, hown, hmaximal, hiff⟩ := hG.maximal_within hwithin hL horder
    refine ⟨own, _, hown, hmaximal, fun i => ?_⟩
    obtain ⟨N, -, hN⟩ := hcollects.consists (subs.get i) (List.get_mem subs i)
    rw [hiff hN]
    exact hG.mem_latticeOf_iff hcollects (List.getElem?_eq_getElem i.2)
      (List.getElem?_eq_getElem j.2) hN hL

/-- The lattice of all subgroups of the residues modulo six. -/
theorem exists_lattice_residues :
    (validResidues (n := 6) (by decide) (by decide)).order ≤ 200 ∧
    (∃ subs pairs, ((validResidues (n := 6) (by decide) (by decide)).candidate.allSubgroups .cyclic
        .none).outcome = .ok subs ∧
      Candidate.lattice (subs.map candidate) = .ok pairs ∧ IsLattice subs pairs ∧
      CoversMaximal subs pairs) := by
  have horder : (validResidues (n := 6) (by decide) (by decide)).order ≤ 200 := by
    rw [order_validResidues]
    omega
  exact ⟨horder, exists_lattice.2 _ horder⟩

end ValidGroup

end FiniteGroups
