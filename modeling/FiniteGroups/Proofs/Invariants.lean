import FiniteGroups.Proofs.Actions
import FiniteGroups.Proofs.Commutators
import FiniteGroups.Proofs.ConjugacyClasses
import FiniteGroups.Proofs.Correspondence
import FiniteGroups.Proofs.FirstIsomorphism
import FiniteGroups.Proofs.Regular
import FiniteGroups.Subgroup.Lattice
import Mathlib.GroupTheory.Subgroup.Simple

/-!
# What isomorphic groups have in common

Two groups that realize the same group `M` may list and write their elements in different ways.
What is computed from them is what group theory says of `M`, so it is the same for both : orders,
exponents, conjugacy classes, the center, the commutator subgroup and the subgroups
(`FiniteGroup.Agree`). Isomorphic groups realize the same group (`Realizes.comap`), and so do a
group and its regular representation.

`ValidGroup.agree_of_isIso` says it for maps that are found to be isomorphisms. That a map is found
to be one depends on what is taken for the inverse of its values as they are written, and so does
what commutators span : in `exists_not_agree` a group of one element is sent onto one of three
elements, and a group without a commutator subgroup onto one that has it.
-/

set_option linter.unusedSectionVars false

namespace FiniteGroups

open FiniteGroup

variable {M M' : Type} [Group M] [Group M'] {R : Value → M → Prop} {S : Value → M' → Prop}

/-! ## Simple groups -/

/-- A group is simple if it has two normal subgroups. -/
theorem isSimpleGroup_iff_ncard [Finite M] :
    IsSimpleGroup M ↔ Nat.card M ≠ 1 ∧ {N : Subgroup M | N.Normal}.ncard = 2 := by
  have hcard : Nontrivial M ↔ Nat.card M ≠ 1 := by
    rw [← Finite.one_lt_card_iff_nontrivial]
    have := Nat.card_pos (α := M)
    omega
  have hsub : {⊥, ⊤} ⊆ {N : Subgroup M | N.Normal} := by
    rintro N (rfl | rfl)
    · exact Subgroup.normal_bot
    · exact Subgroup.normal_top
  constructor
  · intro hM
    have hne : (⊥ : Subgroup M) ≠ ⊤ := bot_ne_top
    refine ⟨hcard.1 inferInstance, ?_⟩
    rw [← Set.ncard_pair hne]
    exact congrArg Set.ncard (Set.Subset.antisymm (fun N hN => hM.eq_bot_or_eq_top_of_normal N hN)
      hsub)
  · rintro ⟨hone, htwo⟩
    have hM := hcard.2 hone
    have hne : (⊥ : Subgroup M) ≠ ⊤ := bot_ne_top
    have hall := Set.eq_of_subset_of_ncard_le hsub (by rw [htwo, Set.ncard_pair hne])
    exact ⟨fun N hN => hall.superset hN⟩

namespace FiniteGroup

variable {G K : FiniteGroup}

/-- The normal ones among some subgroups are collected. -/
theorem Realizes.normalAmong_spec (hG : G.Realizes R) {subs : List FiniteGroup}
    {P : Set (Subgroup M)} (hsubs : Collects R subs P) :
    ∃ normal, G.candidate.normalAmong (subs.map candidate) = .ok (normal.map candidate) ∧
      Collects R normal (P ∩ {N | N.Normal}) := by
  let p (H : FiniteGroup) : Bool := (G.candidate.isNormal H.candidate).toOption.getD false
  have hp : ∀ H N, Consists R H (N : Subgroup M) →
      G.candidate.isNormal H.candidate = .ok (p H) ∧ (p H = true ↔ N.Normal) := by
    intro H N hH
    obtain ⟨answer, hanswer, hiff⟩ := hG.isNormal_spec hH
    simp only [p, hanswer]
    exact ⟨rfl, hiff⟩
  refine ⟨subs.filter p, filterM_map_eq fun H hH => ?_, hsubs.filter p fun H _ N hN =>
    (hp H N hN).2⟩
  obtain ⟨N, -, hN⟩ := hsubs.consists H hH
  exact (hp H N hN).1

/-- A group is found to be simple exactly if it is. -/
theorem Realizes.isSimple_spec (hG : G.Realizes R) (horder : G.order ≤ 200) :
    ∃ answer, (G.candidate.isSimple do
        return (← G.candidate.allSubgroups .cyclic .none).map candidate).outcome = .ok answer ∧
      (answer = true ↔ IsSimpleGroup M) := by
  have := hG.finite
  obtain ⟨subs, hsubs, hcollects⟩ := hG.allSubgroups_spec horder
  obtain ⟨normal, hnormal, hcollects'⟩ := hG.normalAmong_spec hcollects
  rw [Set.univ_inter] at hcollects'
  refine ⟨!(G.order == 1) && normal.length == 2, ?_, ?_⟩
  · have hsize : G.candidate.size = .ok G.order := rfl
    by_cases hone : G.order = 1 <;> simp [Candidate.isSimple, hsize, hone, hsubs, hnormal]
  · rw [isSimpleGroup_iff_ncard, ← hcollects'.length_eq hG.faithful, ← hG.order_eq]
    simp

/-! ## Groups that realize the same group -/

/-- What realizes a group realizes every group that is isomorphic to it. -/
theorem Realizes.comap (hK : K.Realizes S) (e : M ≃* M') : K.Realizes fun b x => S b (e x) where
  mul_eq a b x y ha hb := by
    obtain ⟨c, hc, hcxy⟩ := hK.mul_eq ha hb
    exact ⟨c, hc, by rwa [map_mul]⟩
  faithful a b x y ha hb := by rw [hK.faithful ha hb, e.injective.eq_iff]
  keyed_eq _ _ hx := hK.keyed_eq hx
  intact := hK.intact
  equal_eq _ _ _ _ ha hb := hK.equal_eq ha hb
  standing a ha := by
    obtain ⟨y, hy⟩ := hK.standing a ha
    obtain ⟨x, rfl⟩ := e.surjective y
    exact ⟨x, hy⟩
  surjective x := hK.surjective (e x)
  one := by
    rw [map_one]
    exact hK.one
  inverse_eq a x ha hx := by
    obtain ⟨b, hb, hbx, hne⟩ := hK.inverse_eq ha hx
    exact ⟨b, hb, by rwa [map_inv], hne⟩
  inverse_keyed _ _ ha hk := hK.inverse_keyed ha hk

theorem Invertible.comap {b : Value} (h : K.Invertible S b) (e : M ≃* M') :
    K.Invertible (fun b x => S b (e x)) b := by
  obtain ⟨y, c, hb, hc, hcy⟩ := h
  obtain ⟨x, rfl⟩ := e.surjective y
  rw [← map_inv] at hcy
  exact ⟨x, c, hb, hc, hcy⟩

/-- What is computed from `G` and from `K` is the same, and the subgroups of `G` are sent to those
of `K`. -/
structure Agree (send : Value → Except Fault Value) (G K : FiniteGroup) : Prop where
  order_eq : G.order = K.order
  exponent_eq : ∃ m, G.exponent = .ok m ∧ K.exponent = .ok m
  isAbelian_eq : ∃ answer, G.isAbelian = .ok answer ∧ K.isAbelian = .ok answer
  isCyclic_eq : ∃ answer, G.isCyclic = .ok answer ∧ K.isCyclic = .ok answer
  /-- The class equations have the same entries, whatever their order. -/
  classEquation_eq : ∃ p q, G.classEquation = .ok p ∧ K.classEquation = .ok q ∧
    ∀ n, p.get? n = q.get? n
  numberOfClasses_eq : ∃ m, G.numberOfClasses = .ok m ∧ K.numberOfClasses = .ok m
  order_center_eq : ∃ Y Z, G.candidate.center = .ok Y ∧ K.candidate.center = .ok Z ∧
    Y.order = Z.order
  isSimple_eq : ∃ answer,
    (G.candidate.isSimple do
      return (← G.candidate.allSubgroups .cyclic .none).map candidate).outcome = .ok answer ∧
    (K.candidate.isSimple do
      return (← K.candidate.allSubgroups .cyclic .none).map candidate).outcome = .ok answer
  exists_match : ∃ subs parts, (G.candidate.allSubgroups .cyclic .none).outcome = .ok subs ∧
    (K.candidate.allSubgroups .cyclic .none).outcome = .ok parts ∧ Match send G K subs parts

/-- The commutator subgroups of both groups are found and have the same order. -/
def AgreeOnCommutators (G K : FiniteGroup) : Prop :=
  ∃ D E, G.candidate.commutatorSubgroup = .ok D ∧ K.candidate.commutatorSubgroup = .ok E ∧
    D.order = E.order

section

variable {S : Value → M → Prop} (hG : G.Realizes R) (hK : K.Realizes S)
include hG hK

/-- Groups that realize the same group agree. -/
theorem agree_of_realizes {send : Value → Except Fault Value}
    (hsend : ∀ ⦃a x⦄, R a x → ∃ b, send a = .ok b ∧ S b x) (horder : G.order ≤ 200) :
    Agree send G K := by
  have hsame : G.order = K.order := hG.order_eq.trans hK.order_eq.symm
  have horder' : K.order ≤ 200 := hsame ▸ horder
  obtain ⟨p, hp, hpn⟩ := hG.classEquation_spec
  obtain ⟨q, hq, hqn⟩ := hK.classEquation_spec
  obtain ⟨Y, hY, hYcenter⟩ := hG.center_spec
  obtain ⟨Z, hZ, hZcenter⟩ := hK.center_spec
  obtain ⟨subs, hsubs, hcollects⟩ := hG.allSubgroups_spec horder
  obtain ⟨parts, hparts, hcollects'⟩ := hK.allSubgroups_spec horder'
  exact {
    order_eq := hsame
    exponent_eq := ⟨_, hG.exponent_eq, hK.exponent_eq⟩
    isAbelian_eq := exists_same_answer hG.isAbelian_spec hK.isAbelian_spec
    isCyclic_eq := exists_same_answer hG.isCyclic_spec hK.isCyclic_spec
    classEquation_eq := ⟨p, q, hp, hq, fun n => (hpn n).trans (hqn n).symm⟩
    numberOfClasses_eq := ⟨_, hG.numberOfClasses_eq, hK.numberOfClasses_eq⟩
    order_center_eq := ⟨Y, Z, hY, hZ, by
      rw [hYcenter.order_eq hG.faithful, hZcenter.order_eq hK.faithful]⟩
    isSimple_eq := exists_same_answer (hG.isSimple_spec horder) (hK.isSimple_spec horder')
    exists_match := ⟨subs, parts, hsubs, hparts,
      match_of_collects hG hK (π := MonoidHom.id M) hsend Function.surjective_id
        (by simpa using hcollects) hcollects'⟩ }

theorem agreeOnCommutators_of_realizes (hinv : ∀ ⦃a x⦄, R a x → G.Invertible R a)
    (hinv' : ∀ ⦃b x⦄, S b x → K.Invertible S b) : AgreeOnCommutators G K := by
  obtain ⟨D, hD, hDconsists, -⟩ := hG.commutatorSubgroup_spec hinv
  obtain ⟨E, hE, hEconsists, -⟩ := hK.commutatorSubgroup_spec hinv'
  exact ⟨D, E, hD, hE, by rw [hDconsists.order_eq hG.faithful, hEconsists.order_eq hK.faithful]⟩

end

end FiniteGroup

/-! ## Valid groups -/

namespace ValidGroup

/-- A valid group agrees with every group that it is sent to by a map that is found to be an
isomorphism and of which the values are inverted as they are written, and with its regular
representation. -/
theorem agree_of_isIso (G : ValidGroup) (horder : G.order ≤ 200) :
    (∀ (K : ValidGroup) (f : GroupMap), f.Between G.toFiniteGroup K.toFiniteGroup →
      Standing K.Stands f.send.values.toList →
      (∀ b ∈ f.send.values.toList, ∀ k, b.keyed = .ok k → K.Invertible K.Stands k) →
      f.isHom = .ok true → f.isIso = .ok true →
      Agree f.apply G.toFiniteGroup K.toFiniteGroup ∧
        (G.Inverts → K.Inverts → AgreeOnCommutators G.toFiniteGroup K.toFiniteGroup)) ∧
    ∃ P f, RegularGroup.make G.candidate = .ok P ∧ P.hom = .ok f ∧
      Agree f.apply G.toFiniteGroup P.group ∧
      (G.Inverts → AgreeOnCommutators G.toFiniteGroup P.group) := by
  have hG := G.realizes
  refine ⟨fun K f hf hvalues hinverse hhom hiso => ?_, ?_⟩
  · obtain ⟨φ, hφ⟩ := hf.exists_monoidHom hG K.realizes hvalues hhom
    have hbijective := (eq_ok_true_iff (hφ.isIso_spec (by rwa [hf.tgt_eq]))).1 hiso
    let e := MulEquiv.ofBijective φ hbijective
    have hK := K.realizes.comap e
    exact ⟨agree_of_realizes hG hK (fun a x ha => hφ.apply_spec ha) horder, fun hinv hinv' =>
      agreeOnCommutators_of_realizes hG hK hinv fun b x hb => (hinv' hb).comap e⟩
  · obtain ⟨e, he⟩ := hG.exists_numbering
    obtain ⟨P, hP, h⟩ := hG.exists_represents he
    obtain ⟨f, hf, -, hsends, -⟩ := h.hom_spec hG
    exact ⟨P, f, hP, hf, agree_of_realizes hG h.realizes (fun a x ha => hsends.apply_spec ha)
      horder, fun hinv => agreeOnCommutators_of_realizes hG h.realizes hinv h.invertible⟩

/-- The two residues, of which one is written as a floating-point number, sent to integers. -/
def integerMap : GroupMap :=
  ⟨twoResidues, residues 2, .ofList [(.int 0, .int 0), (.real 1, .int 1)]⟩

theorem sends_integerMap : integerMap.Sends (WritesResidue 2) (Residue 2) (MonoidHom.id _) ∧
    integerMap.send.toList = [(.int 0, .int 0), (.real 1, .int 1)] := by
  refine GroupMap.sends_ofList realizes_twoResidues (realizes_residues (by decide)) ?_
  rw [els_twoResidues]
  refine .cons ⟨1, ?_, ?_, 0, by simp⟩ (.cons ⟨_, ?_, writesResidue_one, 1, by simp⟩ .nil)
  · exact writesResidue_zero (by decide)
  · exact writesResidue_zero (by decide)
  · exact writesResidue_one

theorem mem_values_integerMap {b : Value} (hb : b ∈ integerMap.send.values.toList) :
    b ∈ (residues 2).els := by
  rw [← Assignment.map_snd_toList, sends_integerMap.2] at hb
  obtain rfl | rfl : b = .int 0 ∨ b = .int 1 := by simpa using hb
  · exact (mem_residues (by decide)).2 ⟨0, by decide, rfl⟩
  · exact (mem_residues (by decide)).2 ⟨1, by decide, rfl⟩

/-- The two residues agree with the integers, and with their regular representation. -/
theorem agree_integerMap :
    let G := validTwoResidues
    let K := validResidues (n := 2) (by decide) (by decide)
    G.order ≤ 200 ∧ integerMap.Between G.toFiniteGroup K.toFiniteGroup ∧
      Standing K.Stands integerMap.send.values.toList ∧
      (∀ b ∈ integerMap.send.values.toList, ∀ k, b.keyed = .ok k → K.Invertible K.Stands k) ∧
      integerMap.isHom = .ok true ∧ integerMap.isIso = .ok true ∧ G.Inverts ∧ K.Inverts ∧
      Agree integerMap.apply G.toFiniteGroup K.toFiniteGroup ∧
      AgreeOnCommutators G.toFiniteGroup K.toFiniteGroup ∧
      ∃ P f, RegularGroup.make G.candidate = .ok P ∧ P.hom = .ok f ∧
        Agree f.apply G.toFiniteGroup P.group ∧ AgreeOnCommutators G.toFiniteGroup P.group := by
  intro G K
  have horder : G.order ≤ 200 := by
    show twoResidues.els.length ≤ 200
    simp [els_twoResidues]
  have hbetween : integerMap.Between G.toFiniteGroup K.toFiniteGroup := by
    refine GroupMap.between_ofList G.realizes.pairwise_els ?_
    show List.Forall₂ _ twoResidues.els _
    rw [els_twoResidues]
    exact .cons (.inl rfl) (.cons (.inl rfl) .nil)
  have hstand : Standing K.Stands integerMap.send.values.toList := fun b hb =>
    K.realizes.standing b (mem_values_integerMap hb)
  have hinverse : ∀ b ∈ integerMap.send.values.toList, ∀ k, b.keyed = .ok k →
      K.Invertible K.Stands k := fun b hb k hk =>
    K.realizes.invertible_of_keyed (mem_values_integerMap hb) hk
  obtain ⟨hsends, -⟩ := sends_integerMap
  have hiso : integerMap.isIso = .ok true :=
    (eq_ok_true_iff (hsends.isIso_spec fun b hb k hk =>
      (realizes_residues (by decide)).invertible_of_keyed (mem_values_integerMap hb) hk)).2
      Function.bijective_id
  have hinv : G.Inverts := inverts_of_search rfl rfl
  obtain ⟨hall, P, f, hP, hf, hagree, hcommutators⟩ := G.agree_of_isIso horder
  obtain ⟨hagree', hcommutators'⟩ :=
    hall K integerMap hbetween hstand hinverse hsends.isHom_eq hiso
  exact ⟨horder, hbetween, hstand, hinverse, hsends.isHom_eq, hiso, hinv, inverts_residues, hagree',
    hcommutators' hinv inverts_residues, P, f, hP, hf, hagree, hcommutators hinv⟩

end ValidGroup

/-! ## Maps that are found to be isomorphisms -/

theorem els_residues_one : (residues 1).els = [.int 0] :=
  els_residues Nat.one_pos

/-- The only residue modulo one, sent to a floating-point number that is equal to it and is
inverted as if it were `1`. -/
def skewMap : GroupMap :=
  ⟨residues 1, skewResidues, .ofList [(.int 0, .real 0)]⟩

theorem real_zero : Value.real 0 = .real (asReal 0) :=
  rfl

theorem writesResidue_real_zero : WritesResidue 3 (.real 0) 1 :=
  ⟨0, by decide, real_zero ▸ .real, by simp⟩

theorem sends_skewMap : skewMap.Sends (Residue 1) (WritesResidue 3) (1 : _ →* _) ∧
    skewMap.send.values.toList = [.real 0] :=
  GroupMap.sends_single (realizes_residues Nat.one_pos) realizes_skewResidues els_residues_one
    writesResidue_real_zero

/-- The two values that are taken for zero and its inverse span all residues. -/
theorem closure_one_two : Subgroup.closure
    {(1 : Multiplicative (ZMod 3)), Multiplicative.ofAdd (2 : ZMod 3)} = ⊤ := by
  have hpow : ∀ x : Multiplicative (ZMod 3),
      ∃ k < 3, Multiplicative.ofAdd (2 : ZMod 3) ^ k = x := by
    decide
  refine (Subgroup.eq_top_iff' _).2 fun x => ?_
  obtain ⟨k, -, rfl⟩ := hpow x
  exact pow_mem (Subgroup.subset_closure (by simp)) k

theorem image_skewMap :
    ∃ I, skewMap.image = .ok I ∧ Consists (WritesResidue 3) I (Set.univ : Set _) := by
  have hK := realizes_skewResidues
  have htwo : WritesResidue 3 (.real (asReal 2)) (Multiplicative.ofAdd 2) :=
    ⟨2, by decide, .real, rfl⟩
  have hzero := writesResidue_real_zero
  have hseeds : seeds [.real 0] (some skewResidues.inverse) = .ok [.real 0, .real (asReal 2)] := by
    simp [seeds, real_zero, inverse_skewResidues_real]
  obtain ⟨I, hI, hconsists⟩ := hK.span_of_seeds (standing_singleton hzero) hseeds
    ((standing_singleton htwo).cons hzero) (by simp)
  rw [hK.faithful.extent_cons hzero, hK.faithful.extent_singleton htwo, closure_one_two,
    Subgroup.coe_top] at hconsists
  have hdistinct : Value.distinct [.real 0] = .ok (.ofList [.real 0]) := rfl
  have hlist : (Roster.ofList [Value.real 0]).toList = [.real 0] :=
    Roster.toList_ofList (by simp)
  refine ⟨I, ?_, hconsists⟩
  show (do skewResidues.span (← Value.distinct skewMap.send.values.toList).toList) = _
  rw [sends_skewMap.2, hdistinct, ok_bind, hlist, hI]

theorem isIso_skewMap : skewMap.isIso = .ok true := by
  have hK := realizes_skewResidues
  have hone : Subsingleton (Multiplicative (ZMod 1)) := inferInstance
  have hinjective := (eq_ok_true_iff sends_skewMap.1.isInjective_spec).2
    (Function.injective_of_subsingleton _)
  obtain ⟨I, hI, hconsists⟩ := image_skewMap
  have horder : I.order = skewResidues.order := by
    rw [hconsists.order_eq hK.faithful, hK.order_eq, Set.ncard_univ]
  show (do if ← skewMap.isInjective then skewMap.isSurjective else return false) = _
  rw [hinjective, ok_bind, if_pos rfl]
  show (do return (← skewMap.image).order == skewResidues.order) = _
  rw [hI, ok_bind, horder, beq_self_eq_true]
  rfl

/-- The only residue modulo one, sent to itself. The modulus of the source is a floating-point
number. -/
def machineMap : GroupMap :=
  ⟨machineResidues 1 (largeFactor 1), residues 1, .ofList [(.int 0, .int 0)]⟩

theorem sends_machineMap : machineMap.Sends (WritesResidue 1) (Residue 1) (1 : _ →* _) ∧
    machineMap.send.values.toList = [.int 0] :=
  GroupMap.sends_single
    (realizes_machineResidues Nat.one_pos (by decide) (dvd_largeFactor 1))
    (realizes_residues Nat.one_pos) els_residues_one (realizes_residues Nat.one_pos).one

theorem isIso_machineMap : machineMap.isIso = .ok true := by
  have hK := realizes_residues Nat.one_pos
  have hone : Subsingleton (Multiplicative (ZMod 1)) := inferInstance
  refine (eq_ok_true_iff (sends_machineMap.1.isIso_spec fun b hb k hk => ?_)).2
    ⟨Function.injective_of_subsingleton _, fun y => ⟨y, Subsingleton.elim _ _⟩⟩
  exact hK.invertible_of_keyed (by rwa [sends_machineMap.2, ← els_residues_one] at hb) hk

/-- Maps that are found to be isomorphisms lead from one element to three, and from a group without
a commutator subgroup to a group that has one. -/
theorem exists_not_agree :
    (let G := validResidues (n := 1) (by decide) (by decide)
     let K := validSkewResidues
     ∃ f, GroupMap.ofSending G.candidate K.candidate (.mapping 0 [.tuple [.int 0, .real 0]]) =
        .ok f ∧ Standing K.Stands f.send.values.toList ∧ f.isHom = .ok true ∧ f.isIso = .ok true ∧
        G.order = 1 ∧ K.order = 3) ∧
    let G := validMachineResidues (n := 1) (by decide) (by decide)
    let K := validResidues (n := 1) (by decide) (by decide)
    ∃ f, GroupMap.ofSending G.candidate K.candidate (.mapping 0 [.tuple [.int 0, .int 0]]) =
        .ok f ∧ Standing K.Stands f.send.values.toList ∧ f.isHom = .ok true ∧ f.isIso = .ok true ∧
      G.candidate.commutatorSubgroup = .error .overflow ∧
      ∃ D, K.candidate.commutatorSubgroup = .ok D := by
  constructor
  · refine ⟨skewMap, GroupMap.ofSending_single els_residues_one rfl, ?_, sends_skewMap.1.isHom_eq,
      isIso_skewMap, order_validResidues, ?_⟩
    · rw [sends_skewMap.2]
      exact ValidGroup.standing_of_realizes realizes_skewResidues
        (standing_singleton writesResidue_real_zero)
    · refine realizes_skewResidues.order_eq.trans ?_
      rw [Nat.card_congr Multiplicative.toAdd, Nat.card_zmod]
  · have hK := realizes_residues (n := 1) Nat.one_pos
    obtain ⟨D, hD, -⟩ := (validResidues (n := 1) (by decide) (by decide)).realizes
      |>.commutatorSubgroup_spec ValidGroup.inverts_residues
    refine ⟨machineMap, GroupMap.ofSending_single els_residues_one rfl, ?_,
      sends_machineMap.1.isHom_eq, isIso_machineMap,
      commutatorSubgroup_machineResidues (by decide) (by decide) (dvd_largeFactor 1)
        (ofInt_largeFactor (by decide)), D, hD⟩
    rw [sends_machineMap.2]
    exact ValidGroup.standing_of_realizes hK (standing_singleton hK.one)

end FiniteGroups
