import FiniteGroups.Proofs.Blocks
import FiniteGroups.Proofs.Commuting
import FiniteGroups.Proofs.Cosets
import FiniteGroups.Proofs.Orders
import FiniteGroups.Proofs.Valid
import Mathlib.GroupTheory.ClassEquation
import Mathlib.GroupTheory.GroupAction.ConjAct
import Mathlib.GroupTheory.Rank

/-!
# Conjugacy classes

The classes of conjugates are taken out of the elements one by one, as orbits are. A class as data
stands for a class of conjugates if its members stand for all of them and its representative for
one (`StandsForClass`).

The classes of a group that realizes `M` are found, each of them once, in the order that is asked
for (`Realizes.conjugacyClasses_spec`). The size of a class is the index of a centralizer
(`ncard_class_mul_centralizer`), so the class equation holds, and the elements of the center are
those that are alone in their class. `ValidGroup.exists_conjugacyClasses` says it for valid groups.
-/

set_option linter.unusedSectionVars false

namespace FiniteGroups

open FiniteGroup

variable {M : Type} [Group M] {R : Value → M → Prop}

/-! ## Classes of a group -/

/-- The size of a class is the index of the centralizer of a member. -/
theorem ncard_class_mul_centralizer (x : M) :
    {z | ConjClasses.mk z = ConjClasses.mk x}.ncard * (Subgroup.centralizer {x} : Set M).ncard =
      Nat.card M := by
  have horbit : {z | ConjClasses.mk z = ConjClasses.mk x} = MulAction.orbit (ConjAct M) x := by
    rw [ConjAct.orbit_eq_carrier_conjClasses, ConjClasses.carrier_eq_preimage_mk]
    rfl
  calc _ = Nat.card (MulAction.orbit (ConjAct M) x) *
        Nat.card (MulAction.stabilizer (ConjAct M) x) := by
        rw [horbit, ← Nat.card_coe_set_eq, ← Nat.card_coe_set_eq,
          ← Subgroup.nat_card_centralizer_nat_card_stabilizer]
        rfl
    _ = Nat.card (ConjAct M) := by
        rw [← Nat.card_prod]
        exact Nat.card_congr (MulAction.orbitProdStabilizerEquivGroup (ConjAct M) x)
    _ = Nat.card M := Nat.card_congr ConjAct.ofConjAct.toEquiv

/-- The elements of the center are those that are alone in their class. -/
theorem ncard_class_eq_one_iff {x : M} :
    {z | ConjClasses.mk z = ConjClasses.mk x}.ncard = 1 ↔ x ∈ Subgroup.center M := by
  rw [Subgroup.mem_center_iff, Set.ncard_eq_one]
  constructor
  · rintro ⟨z, hz⟩ y
    have hmem : ∀ w, ConjClasses.mk w = ConjClasses.mk x → w = z := fun w hw =>
      (Set.ext_iff.1 hz w).1 hw
    have hconj : ConjClasses.mk (y * x * y⁻¹) = ConjClasses.mk x :=
      ConjClasses.mk_eq_mk_iff_isConj.2 (isConj_iff.2 ⟨y, rfl⟩).symm
    have heq := (hmem _ hconj).trans (hmem x rfl).symm
    rwa [mul_inv_eq_iff_eq_mul] at heq
  · intro h
    refine ⟨x, Set.ext fun w => ?_⟩
    rw [Set.mem_ofPred_eq, ConjClasses.mk_eq_mk_iff_isConj, isConj_comm, isConj_iff,
      Set.mem_singleton_iff]
    constructor
    · rintro ⟨y, rfl⟩
      rw [h y, mul_inv_cancel_right]
    · rintro rfl
      exact ⟨1, by simp⟩

/-- The number of classes of `n` conjugates. -/
noncomputable def classCount (M : Type) [Group M] (n : Nat) : Nat :=
  {c : ConjClasses M | {z | ConjClasses.mk z = c}.ncard = n}.ncard

/-- How often a number comes up among those of all members of a type. -/
theorem count_map_eq_ncard {Q : Type} {cs : List Q} (hnodup : cs.Nodup) (hmem : ∀ c, c ∈ cs)
    (f : Q → Nat) (n : Nat) : (cs.map f).count n = {c | f c = n}.ncard := by
  classical
  have hset : {c | f c = n} = ((cs.filter (f · == n)).toFinset : Set Q) := by
    ext c
    simp [hmem]
  rw [hset, Set.ncard_coe_finset, List.toFinset_card_of_nodup (hnodup.filter _), List.count,
    List.countP_map, List.countP_eq_length_filter]
  rfl

/-- What is counted one by one is how often each number comes up. -/
theorem get?_foldl_count (sizes : List Nat) (m : Assignment Nat Nat) (n : Nat) :
    (sizes.foldl (fun count k => count.set k ((count.get? k).getD 0 + 1)) m).get? n =
      if sizes.count n = 0 then m.get? n else some ((m.get? n).getD 0 + sizes.count n) := by
  induction sizes generalizing m with
  | nil => simp
  | cons k sizes ih =>
    rw [List.foldl_cons, ih, Assignment.get?_set, List.count_cons]
    by_cases hk : k = n
    · subst hk
      simp only [BEq.rfl, if_true, Option.getD_some]
      split <;> simp <;> omega
    · simp [hk]

/-! ## Classes as data -/

/-- The members stand for all conjugates in the class `c`, and the representative for one. -/
structure StandsForClass (R : Value → M → Prop) (C : ConjugacyClass) (c : ConjClasses M) : Prop
    extends StandsForBlock R ConjClasses.mk C.members c where
  exists_representative : ∃ x, R C.representative x ∧ ConjClasses.mk x = c

theorem pairwiseLe_iff {p q : Nat × Nat} :
    FiniteGroup.pairwiseLe p q = true ↔ p.1 < q.1 ∨ p.1 = q.1 ∧ p.2 ≤ q.2 := by
  simp [pairwiseLe]

theorem sorted_mergeSort_pairwiseLe {α : Type} (f : α → Nat × Nat) (xs : List α) :
    (xs.mergeSort fun a b => pairwiseLe (f a) (f b)).Pairwise fun a b =>
      pairwiseLe (f a) (f b) = true := by
  refine List.pairwise_mergeSort (fun a b c => ?_) (fun a b => ?_) xs
  · simp only [pairwiseLe_iff]
    omega
  · rw [Bool.or_eq_true, pairwiseLe_iff, pairwiseLe_iff]
    omega

namespace FiniteGroup.Realizes

variable {G : FiniteGroup} (hG : G.Realizes R)
include hG

/-- What stands for an element is admitted. -/
theorem requireMember_spec {a : Value} {x : M} (ha : R a x) :
    G.candidate.requireMember a = .ok () := by
  show (do if ← G.contains a then _ else _) = _
  rw [hG.contains_eq ha]
  rfl

/-- The conjugates of an element are found. -/
theorem conjugacyClass_spec {a : Value} {x : M} (ha : R a x) :
    ∃ found, G.candidate.conjugacyClass a = .ok found ∧
      StandsForBlock R ConjClasses.mk found (ConjClasses.mk x) := by
  obtain ⟨found, hfound, hstand, hextent⟩ := hG.faithful.exists_keyed_images hG.faithful
    hG.keyed_eq (f := fun g => G.conjugate a g) (φ := fun y => y * x * y⁻¹) hG.standing
    fun g hg y hy => hG.conjugate_spec ha hg hy
  refine ⟨.ofList found, ?_, hstand, ?_⟩
  · rw [Candidate.conjugacyClass, hG.requireMember_spec ha, ok_bind]
    show (do return Roster.ofList (← G.els.mapM fun g => do (← G.conjugate a g).keyed)) = _
    rw [hfound]
    rfl
  · rw [hextent, hG.extent_els]
    ext z
    rw [Set.mem_ofPred_eq, ConjClasses.mk_eq_mk_iff_isConj, isConj_comm, isConj_iff]
    simp

/-- The class of an element is kept with the element. -/
theorem make_conjugacyClass_spec {a : Value} {x : M} (ha : R a x) {found : Roster Value}
    (hfound : StandsForBlock R ConjClasses.mk found (ConjClasses.mk x)) :
    ∃ C, ConjugacyClass.make G.value a (.set true found.toList) = .ok C ∧
      StandsForClass R C (ConjClasses.mk x) := by
  obtain ⟨k, hk, hkx⟩ := hG.sought_eq ha
  obtain ⟨members, hmembers, hstand, hextent⟩ := hG.distinct_spec hfound.standing
  have hcontains : (Value.set true found.toList).contains a = .ok true := by
    obtain ⟨b, hb, hbx⟩ := hfound.extent_eq.superset (show ConjClasses.mk x = _ from rfl)
    rw [Value.contains, Value.memberOf, hk, ok_bind, pure_eq_ok, Except.ok.injEq,
      List.contains_iff_exists_mem_beq]
    exact ⟨b, hb, (hG.faithful hkx hbx).2 rfl⟩
  refine ⟨⟨G.value, a, members⟩, ?_, ⟨hstand, hextent.trans hfound.extent_eq⟩, x, ha, rfl⟩
  rw [ConjugacyClass.make, hcontains, ok_bind, if_pos rfl]
  show (do return ConjugacyClass.mk _ _ (← Value.distinct found.toList)) = _
  rw [hmembers]
  rfl

theorem takesBlocks_classesFrom :
    TakesBlocks R ConjClasses.mk (StandsForClass R) G.classesFrom where
  nil bound := by cases bound <;> rfl
  cons bound a rest x ha := by
    obtain ⟨found, hfound, hblock⟩ := hG.conjugacyClass_spec ha
    obtain ⟨C, hC, hclass⟩ := hG.make_conjugacyClass_spec ha hblock
    refine ⟨found, C, hblock, hclass, fun remain hremove => ?_⟩
    rw [classesFrom, hfound, ok_bind, hC, ok_bind, hremove, ok_bind]

/-- Conjugates have the same order. -/
theorem elementOrder_congr {a b : Value} {x y : M} (ha : R a x) (hb : R b y) (h : IsConj x y) :
    ∃ m, G.elementOrder a = .ok m ∧ G.elementOrder b = .ok m := by
  obtain ⟨m, hm, hxm⟩ := hG.elementOrder_spec ha
  obtain ⟨n, hn, hyn⟩ := hG.elementOrder_spec hb
  have hiff : ∀ k, x ^ k = 1 ↔ y ^ k = 1 := fun k => by
    have hpow := h.pow k
    exact ⟨fun hx => isConj_one_right.1 (hx ▸ hpow), fun hy => isConj_one_left.1 (hy ▸ hpow)⟩
  have heq : m = n := Nat.dvd_antisymm
    ((hxm n).1 ((hiff n).2 ((hyn n).2 dvd_rfl))) ((hyn m).1 ((hiff m).1 ((hxm m).2 dvd_rfl)))
  exact ⟨m, hm, heq ▸ hn⟩

/-- The members of a class have one order. -/
theorem exists_order {C : ConjugacyClass} {c : ConjClasses M} (hc : StandsForClass R C c) :
    ∃ m, G.elementOrder C.representative = .ok m ∧
      ∀ a ∈ C.members.toList, G.elementOrder a = .ok m := by
  obtain ⟨x, hx, hxc⟩ := hc.exists_representative
  obtain ⟨m, hm, -⟩ := hG.elementOrder_spec hx
  refine ⟨m, hm, fun a ha => ?_⟩
  obtain ⟨y, hy⟩ := hc.standing a ha
  have hyc : ConjClasses.mk y = c := hc.extent_eq.subset ⟨a, ha, hy⟩
  obtain ⟨n, hn, han⟩ := hG.elementOrder_congr hx hy
    (ConjClasses.mk_eq_mk_iff_isConj.1 (hxc.trans hyc.symm))
  rw [han, ← hn, hm]

/-- The class of an element has as many members as its centralizer has cosets. -/
theorem size_mul_order {a : Value} {x : M} (ha : R a x) (hinv : G.Invertible R a) :
    ∃ found C, G.candidate.conjugacyClass a = .ok found ∧
      G.candidate.elementCentralizer a = .ok C ∧ found.size * C.order = G.order := by
  have := hG.finite
  obtain ⟨found, hfound, hblock⟩ := hG.conjugacyClass_spec ha
  obtain ⟨C, hC, hconsists⟩ := hG.elementCentralizer_spec ha hinv
  refine ⟨found, C, hfound, hC, ?_⟩
  rw [← hG.faithful.ncard_extent hblock.standing, hblock.extent_eq, hconsists.order_eq hG.faithful,
    ncard_class_mul_centralizer, hG.order_eq]

/-- The classes are found, each of them once, in the order of the orders of their elements and
then of their sizes. -/
theorem conjugacyClasses_spec : ∃ classes, G.conjugacyClasses = .ok classes ∧
    (classes.Pairwise fun C D => ∃ m n, G.elementOrder C.representative = .ok m ∧
      G.elementOrder D.representative = .ok n ∧ (m < n ∨ m = n ∧ C.size ≤ D.size)) ∧
    ∃ cs : List (ConjClasses M), cs.Nodup ∧ (∀ c, c ∈ cs) ∧
      List.Forall₂ (StandsForClass R) classes cs := by
  have := hG.finite
  obtain ⟨items, hitems, hstand, hextent⟩ := hG.distinct_spec hG.standing
  obtain ⟨classes, hclasses, cs, hnodup, hmem, hall⟩ := hG.takesBlocks_classesFrom.exists_all
    hG.faithful hstand (hextent.trans hG.extent_els) ConjClasses.mk_surjective
    (hG.order_eq ▸ hG.faithful.size_le_card hstand)
  obtain ⟨keyed, hkeyed, hkeys⟩ := exists_mapM classes
      (f := fun C => do return ((← G.elementOrder C.representative, C.size), C))
      (P := fun C p => G.elementOrder C.representative = .ok p.1.1 ∧ p.1.2 = C.size ∧ p.2 = C)
      fun C hC => by
    obtain ⟨c, -, hc⟩ := exists_of_forall₂ hall.flip hC
    obtain ⟨x, hx, -⟩ := hc.exists_representative
    obtain ⟨m, hm, -⟩ := hG.elementOrder_spec hx
    exact ⟨((m, C.size), C), by rw [hm]; rfl, hm, rfl, rfl⟩
  have hsame : keyed.map Prod.snd = classes := by
    rw [← List.forall₂_eq_eq_eq, List.forall₂_map_left_iff]
    exact hkeys.flip.imp fun p C h => h.2.2
  have hperm := List.mergeSort_perm keyed fun p q => pairwiseLe p.1 q.1
  obtain ⟨ds, hds, hpermuted⟩ := List.perm_comp_forall₂ (hsame ▸ hperm.map Prod.snd) hall
  refine ⟨_, by rw [conjugacyClasses, hitems, ok_bind, hclasses, ok_bind, hkeyed]; rfl, ?_, ds,
    hpermuted.nodup_iff.2 hnodup, fun c => hpermuted.mem_iff.2 (hmem c), hds⟩
  rw [List.pairwise_map]
  refine (sorted_mergeSort_pairwiseLe Prod.fst keyed).imp_of_mem fun {p q} hp hq hle => ?_
  obtain ⟨C, -, hC, hCsize, hpC⟩ := exists_of_forall₂ hkeys (hperm.mem_iff.1 hp)
  obtain ⟨D, -, hD, hDsize, hqD⟩ := exists_of_forall₂ hkeys (hperm.mem_iff.1 hq)
  rw [hpC, hqD]
  refine ⟨_, _, hC, hD, ?_⟩
  rw [← hCsize, ← hDsize]
  exact pairwiseLe_iff.1 hle

/-! ## Conjugates -/

/-- Whether two values stand for conjugates is found out. -/
theorem areConjugate_spec {a b : Value} {x y : M} (ha : R a x) (hb : R b y) :
    ∃ answer, G.candidate.areConjugate a b = .ok answer ∧ (answer = true ↔ IsConj x y) := by
  obtain ⟨answer, hanswer, hiff⟩ := exists_anyM_iff G.els
      (f := fun g => do (← G.conjugate a g).equal b) (P := fun g => ∃ z, R g z ∧ z * x * z⁻¹ = y)
      fun g hg => by
    obtain ⟨z, hz⟩ := hG.standing g hg
    obtain ⟨c, hc, hcx⟩ := hG.conjugate_spec ha hg hz
    refine ⟨_, by rw [hc, ok_bind, hG.equal_eq hcx hb], (hG.faithful hcx hb).trans
      ⟨fun h => ⟨z, hz, h⟩, ?_⟩⟩
    rintro ⟨w, hw, h⟩
    rwa [hG.faithful.unique hz hw]
  refine ⟨answer, ?_, hiff.trans ?_⟩
  · rw [Candidate.areConjugate, hG.requireMember_spec ha, ok_bind, hG.requireMember_spec hb,
      ok_bind]
    exact hanswer
  · rw [isConj_iff]
    constructor
    · rintro ⟨g, -, z, -, h⟩
      exact ⟨z, h⟩
    · rintro ⟨z, h⟩
      obtain ⟨g, hg, hz⟩ := hG.surjective z
      exact ⟨g, hg, z, hz, h⟩

/-! ## The class equation -/

theorem size_eq_ncard {C : ConjugacyClass} {c : ConjClasses M} (hC : StandsForClass R C c) :
    C.size = {z : M | ConjClasses.mk z = c}.ncard := by
  rw [← hC.extent_eq, hG.faithful.ncard_extent hC.standing]
  rfl

theorem map_size_eq {classes : List ConjugacyClass} {cs : List (ConjClasses M)}
    (hall : List.Forall₂ (StandsForClass R) classes cs) :
    classes.map ConjugacyClass.size = cs.map fun c => {z : M | ConjClasses.mk z = c}.ncard := by
  rw [← List.forall₂_eq_eq_eq, List.forall₂_map_left_iff, List.forall₂_map_right_iff]
  exact hall.imp fun C c hC => hG.size_eq_ncard hC

/-- The size of a class divides the order of the group. -/
theorem size_dvd_order {C : ConjugacyClass} {c : ConjClasses M} (hC : StandsForClass R C c) :
    C.size ∣ G.order := by
  obtain ⟨x, rfl⟩ := ConjClasses.mk_surjective c
  rw [hG.size_eq_ncard hC, hG.order_eq, ← ncard_class_mul_centralizer x]
  exact Nat.dvd_mul_right _ _

/-- The sizes of all classes add up to the order of the group. -/
theorem sum_sizes {classes : List ConjugacyClass} {cs : List (ConjClasses M)} (hnodup : cs.Nodup)
    (hmem : ∀ c, c ∈ cs) (hall : List.Forall₂ (StandsForClass R) classes cs) :
    (classes.map ConjugacyClass.size).sum = G.order := by
  classical
  have := hG.finite
  have := Fintype.ofFinite (ConjClasses M)
  rw [hG.map_size_eq hall, sum_map_of_forall_mem hnodup hmem, hG.order_eq,
    ← Group.sum_card_conj_classes_eq_card, finsum_eq_sum_of_fintype]
  exact Finset.sum_congr rfl fun c _ => by rw [ConjClasses.carrier_eq_preimage_mk]; rfl

/-- There are as many classes as there should be. -/
theorem numberOfClasses_eq : G.numberOfClasses = .ok (Nat.card (ConjClasses M)) := by
  obtain ⟨classes, hclasses, -, cs, hnodup, hmem, hall⟩ := hG.conjugacyClasses_spec
  rw [numberOfClasses, hclasses, ← length_eq_card hnodup hmem, ← hall.length_eq]
  rfl

/-- The classes are counted by their sizes, and only sizes that occur are kept. -/
theorem classEquation_spec : ∃ p, G.classEquation = .ok p ∧
    ∀ n, p.get? n = if classCount M n = 0 then none else some (classCount M n) := by
  obtain ⟨classes, hclasses, -, cs, hnodup, hmem, hall⟩ := hG.conjugacyClasses_spec
  refine ⟨(classes.map ConjugacyClass.size).foldl
    (fun count k => count.set k ((count.get? k).getD 0 + 1)) .empty, ?_, fun n => ?_⟩
  · rw [classEquation, hclasses, List.foldl_map]
    rfl
  · rw [get?_foldl_count, Assignment.get?_empty, Option.getD_none, Nat.zero_add,
      hG.map_size_eq hall,
      count_map_eq_ncard hnodup hmem]
    rfl

/-- The class equation is found to hold. -/
theorem verifyClassEquation_eq : G.verifyClassEquation = .ok true := by
  obtain ⟨classes, hclasses, -, cs, hnodup, hmem, hall⟩ := hG.conjugacyClasses_spec
  have hdvd : (classes.map ConjugacyClass.size).all (fun m => G.order % m == 0) = true := by
    rw [List.all_map, List.all_eq_true]
    intro C hC
    obtain ⟨c, -, hc⟩ := exists_of_forall₂ hall.flip hC
    exact beq_iff_eq.2 (Nat.mod_eq_zero_of_dvd (hG.size_dvd_order hc))
  rw [verifyClassEquation, hclasses, ok_bind]
  dsimp only
  rw [← List.sum_eq_foldl, hG.sum_sizes hnodup hmem hall, hdvd, BEq.rfl]
  rfl

end FiniteGroup.Realizes

/-! ## Valid groups -/

namespace ValidGroup

variable (G : ValidGroup)

/-- What there is to say about the classes of a group. -/
structure ListsClasses (classes : List ConjugacyClass) : Prop where
  /-- Every value that is equal to an element is in one class. -/
  existsUnique : ∀ ⦃a x⦄, G.Stands a x →
    ∃! i : Fin classes.length, classes[i].members.contains a = true
  /-- The members of the classes are elements. -/
  contains_member : ∀ C ∈ classes, ∀ a ∈ C.members.toList, G.contains a = .ok true
  sorted : classes.Pairwise fun C D => ∃ m n, G.elementOrder C.representative = .ok m ∧
    G.elementOrder D.representative = .ok n ∧ (m < n ∨ m = n ∧ C.size ≤ D.size)
  /-- The members of a class have one order. -/
  exists_order : ∀ C ∈ classes, ∃ m, G.elementOrder C.representative = .ok m ∧
    ∀ a ∈ C.members.toList, G.elementOrder a = .ok m
  /-- Conjugates are those that are in one class. -/
  areConjugate_iff : ∀ ⦃a b x y⦄, G.Stands a x → G.Stands b y →
    ∃ answer, G.candidate.areConjugate a b = .ok answer ∧
      (answer = true ↔ ∃ C ∈ classes, C.members.contains a = true ∧ C.members.contains b = true)
  /-- The class of an element has as many members as its centralizer has cosets. -/
  size_mul_order : ∀ a ∈ G.els, ∃ found C, G.candidate.conjugacyClass a = .ok found ∧
    G.candidate.elementCentralizer a = .ok C ∧ found.size * C.order = G.order
  /-- The elements of the center are those that are alone in their class. -/
  center : ∃ Z, G.candidate.center = .ok Z ∧ ∀ ⦃a x⦄, G.Stands a x →
    (Z.contains a = .ok true ↔ ∃ C ∈ classes, C.size = 1 ∧ C.members.contains a = true)

variable {G}

/-- Classes that were taken out of the elements are what they should be. -/
theorem listsClasses_of_forall₂ {classes : List ConjugacyClass} {cs : List (ConjClasses G.Element)}
    (hnodup : cs.Nodup) (hmem : ∀ c, c ∈ cs)
    (hall : List.Forall₂ (StandsForClass G.Stands) classes cs)
    (hsorted : classes.Pairwise fun C D => ∃ m n, G.elementOrder C.representative = .ok m ∧
      G.elementOrder D.representative = .ok n ∧ (m < n ∨ m = n ∧ C.size ≤ D.size)) :
    G.ListsClasses classes := by
  have hG := G.realizes
  have hclass : ∀ C ∈ classes, ∃ c, StandsForClass G.Stands C c := fun C hC => by
    obtain ⟨c, -, hc⟩ := exists_of_forall₂ hall.flip hC
    exact ⟨c, hc⟩
  have hfind : ∀ x : G.Element, ∃ C ∈ classes, StandsForClass G.Stands C (ConjClasses.mk x) :=
    fun x => exists_of_forall₂ hall (hmem _)
  exact {
    existsUnique := fun a x ha => existsUnique_block hall hnodup (hmem (ConjClasses.mk x))
      fun C c hC => hC.contains_iff faithful ha
    contains_member := fun C hC a ha => by
      obtain ⟨c, hc⟩ := hclass C hC
      obtain ⟨x, hx⟩ := hc.standing a ha
      exact hG.contains_eq hx
    sorted := hsorted
    exists_order := fun C hC => by
      obtain ⟨c, hc⟩ := hclass C hC
      exact hG.exists_order hc
    areConjugate_iff := fun a b x y ha hb => by
      obtain ⟨answer, hanswer, hiff⟩ := hG.areConjugate_spec ha hb
      refine ⟨answer, hanswer, hiff.trans ?_⟩
      rw [← ConjClasses.mk_eq_mk_iff_isConj]
      constructor
      · intro hxy
        obtain ⟨C, hC, hCy⟩ := hfind y
        exact ⟨C, hC, (hCy.contains_iff faithful ha).2 hxy, (hCy.contains_iff faithful hb).2 rfl⟩
      · rintro ⟨C, hC, haC, hbC⟩
        obtain ⟨c, hc⟩ := hclass C hC
        exact ((hc.contains_iff faithful ha).1 haC).trans ((hc.contains_iff faithful hb).1 hbC).symm
    size_mul_order := fun a ha => by
      obtain ⟨x, hx⟩ := hG.standing a ha
      exact hG.size_mul_order hx (hG.invertible_of_mem ha)
    center := by
      obtain ⟨Z, hZ, hconsists⟩ := hG.center_spec
      refine ⟨Z, hZ, fun a x ha => ?_⟩
      rw [hG.contains_iff hconsists ha, SetLike.mem_coe, ← ncard_class_eq_one_iff]
      constructor
      · intro hone
        obtain ⟨C, hC, hCx⟩ := hfind x
        exact ⟨C, hC, (hG.size_eq_ncard hCx).trans hone, (hCx.contains_iff faithful ha).2 rfl⟩
      · rintro ⟨C, hC, hone, haC⟩
        obtain ⟨c, hc⟩ := hclass C hC
        rw [(hc.contains_iff faithful ha).1 haC, ← hG.size_eq_ncard hc, hone] }

/-- The conjugacy classes of a valid group are found and satisfy the class equation. There are as
many classes for each element as there are pairs of commuting elements. -/
theorem exists_conjugacyClasses (G : ValidGroup) : ∃ classes,
    G.conjugacyClasses = .ok classes ∧ G.ListsClasses classes ∧
      G.verifyClassEquation = .ok true ∧
      ∃ n pairs, G.numberOfClasses = .ok n ∧
        (G.els ×ˢ G.els).filterM (fun p => G.commute p.1 p.2) = .ok pairs ∧
        n * G.order = pairs.length := by
  have hG := G.realizes
  obtain ⟨classes, hclasses, hsorted, cs, hnodup, hmem, hall⟩ := hG.conjugacyClasses_spec
  obtain ⟨pairs, hpairs, hcount⟩ := hG.commutingPairs_spec
  refine ⟨classes, hclasses, listsClasses_of_forall₂ hnodup hmem hall hsorted,
    hG.verifyClassEquation_eq, classes.length, pairs, ?_, hpairs, ?_⟩
  · rw [numberOfClasses, hclasses]
    rfl
  · rw [hcount, hall.length_eq, length_eq_card hnodup hmem]

end ValidGroup

end FiniteGroups
