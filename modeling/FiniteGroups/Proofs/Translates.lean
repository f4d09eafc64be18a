import FiniteGroups.Proofs.Quotients
import Mathlib.Algebra.Group.Pointwise.Set.Card

/-!
# Quotients by sets of elements

A quotient is made of whatever has the operation and elements of a group. What is asked is whether
all elements normalize the set of its elements, not whether the set is a subgroup. If they do, the
translates of the set realize the quotient by the stabilizer of the set, and there are as many of
them as there should be exactly if the set is itself a translate of a normal subgroup
(`order_mul_order_iff`). So a quotient may be made of a set that is no subgroup. It is then the
quotient by the subgroup, and the kernel of its projection is the subgroup and not the set.

`ValidGroup.DecidesQuotient` says for each set what becomes of it, and `exists_quotient_odds` that
the odd residues modulo four, which are no subgroup, have a quotient.
-/

set_option linter.unusedSectionVars false

namespace FiniteGroups

open FiniteGroup MulAction
open scoped Pointwise

/-! ## Sets that all elements normalize -/

section

variable {M : Type} [Group M] {S : Set M} {N : Subgroup M}

/-- A conjugate of an element of the stabilizer moves a set as the element moves the set that is
conjugated back. -/
theorem normal_stabilizer (h : Subgroup.normalizer S = ⊤) : (stabilizer M S).Normal where
  conj_mem n hn g := by
    have hconj : ∀ x, x ∈ S ↔ g⁻¹ * x * g ∈ S := by
      have hg : g⁻¹ ∈ Subgroup.normalizer S := h ▸ Subgroup.mem_top _
      simpa using Subgroup.mem_set_normalizer_iff.1 hg
    rw [mem_stabilizer_set] at hn ⊢
    intro x
    calc g * n * g⁻¹ * x ∈ S ↔ n * (g⁻¹ * x * g) ∈ S := by rw [hconj]; simp [mul_assoc]
      _ ↔ g⁻¹ * x * g ∈ S := hn _
      _ ↔ x ∈ S := (hconj x).symm

variable [hN : N.Normal]

/-- The stabilizer of a translate of a normal subgroup is the subgroup. -/
theorem stabilizer_translate (x : M) : stabilizer M (x • (N : Set M)) = N := by
  ext g
  rw [mem_stabilizer_iff, smul_smul, smul_eq_smul_iff (stabilizer_subgroup N), QuotientGroup.eq,
    mul_inv_rev, mul_assoc, hN.mem_comm_iff, mul_inv_cancel_right, inv_mem_iff]

/-- A set is as large as its normal stabilizer exactly if it is a translate of the stabilizer. -/
theorem ncard_eq_card_iff [Finite M] (hS : stabilizer M S = N) :
    S.ncard = Nat.card N ↔ ∃ x : M, S = x • (N : Set M) := by
  constructor
  · intro h
    obtain ⟨x, hx⟩ : S.Nonempty := by
      rw [← Set.ncard_pos, h]
      exact Nat.card_pos
    -- what the stabilizer makes of one member is in the set, and is as large
    have hsub : x • (N : Set M) ⊆ S := by
      rw [(normal_iff_eq_cosets N).1 hN, ← hS]
      exact op_smul_set_stabilizer_subset hx
    refine ⟨x, (Set.eq_of_subset_of_ncard_le hsub ?_).symm⟩
    rw [Set.ncard_smul_set, h]
    rfl
  · rintro ⟨x, rfl⟩
    rw [Set.ncard_smul_set]
    rfl

omit hN in
/-- A translate of a subgroup that has the identity is the subgroup. -/
theorem translate_eq_iff {x : M} : x • (N : Set M) = N ↔ (1 : M) ∈ x • (N : Set M) := by
  constructor
  · intro h
    rw [h]
    exact N.one_mem
  · intro h
    rw [Set.mem_smul_set_iff_inv_smul_mem, smul_eq_mul, mul_one, SetLike.mem_coe,
      inv_mem_iff] at h
    exact smul_coe_set h

end

/-! ## What becomes of a set -/

namespace FiniteGroup.Realizes

variable {M : Type} [Group M] {R : Value → M → Prop} {S : Set M} {N : Subgroup M} [N.Normal]
  {G H Q : FiniteGroup} (hG : G.Realizes R)
include hG

/-- There are as many translates as there should be exactly if the set is a translate of its
stabilizer. -/
theorem order_mul_order_iff (hS : stabilizer M S = N) (hH : Consists R H S)
    (hQ : Q.Realizes (StandsForTranslate R S N)) :
    Q.order * H.order = G.order ↔ ∃ x : M, S = x • (N : Set M) := by
  have := hG.finite
  rw [← ncard_eq_card_iff hS, hQ.order_eq, hH.order_eq hG.faithful, hG.order_eq,
    Subgroup.card_eq_card_quotient_mul_card_subgroup N]
  exact Nat.mul_right_inj Nat.card_pos.ne'

end FiniteGroup.Realizes

namespace ValidGroup

variable (G : ValidGroup) (H : FiniteGroup)

/-- The elements of `G` that the elements of `H` are equal to. -/
def part : Set G.Element :=
  extent G.Stands H.els

/-- What there is to say about the quotient `Q` that is made of `H`, whose elements are a translate
of the normal subgroup `N`. -/
structure IsQuotientBy (N : Subgroup G.Element) (Q : QuotientGroup) : Prop where
  /-- The check of the axioms finds nothing, however long its list may get. -/
  verify_eq : ∀ ⦃most m⦄, most.index = .ok m → Q.group.verify most = .ok ⟨[]⟩
  order_mul : Q.group.order * H.order = G.order
  /-- The projection is a homomorphism, and its kernel has the elements of `N`. These are the
  elements of `H` exactly if the identity is one of them. -/
  projection : ∃ f K, Q.projection = .ok f ∧ f.isHom = .ok true ∧ f.kernel = .ok K ∧
    Consists G.Stands K N ∧
    (K.elements.sameSet H.elements = true ↔ H.contains G.identity = .ok true)

/-- What becomes of a group `H` that has the operation and elements of `G`. -/
structure DecidesQuotient : Prop where
  /-- It is refused with a fault of structure exactly if some element does not normalize the set of
  its elements. -/
  refused_iff :
    (∃ e, QuotientGroup.make G.candidate H.candidate = .error e ∧ e.category = .structural) ↔
      Subgroup.normalizer (G.part H) ≠ ⊤
  /-- Otherwise a quotient is made of it if its elements are a translate of a normal subgroup. -/
  make_of_translate : Subgroup.normalizer (G.part H) = ⊤ →
    ∀ (N : Subgroup G.Element) (x : G.Element), N.Normal →
      G.part H = x • (N : Set G.Element) →
      ∃ Q, QuotientGroup.make G.candidate H.candidate = .ok Q ∧ G.IsQuotientBy H N Q
  /-- If they are not, the number of cosets is found to be wrong. -/
  failedCheck : Subgroup.normalizer (G.part H) = ⊤ →
    (¬∃ (N : Subgroup G.Element) (x : G.Element), N.Normal ∧ G.part H = x • (N : Set G.Element)) →
    QuotientGroup.make G.candidate H.candidate = .error .failedCheck

variable {G H}

theorem isQuotientBy_of_realizes {N : Subgroup G.Element} [N.Normal] {x : G.Element}
    (hS : G.part H = x • (N : Set G.Element)) (hH : Consists G.Stands H (G.part H))
    {Q : FiniteGroup} (hQ : Q.Realizes (StandsForTranslate G.Stands (G.part H) N)) :
    G.IsQuotientBy H N ⟨G.value, H.value, Q⟩ where
  verify_eq most m hmost := hQ.verify_eq hmost
  order_mul := (G.realizes.order_mul_order_iff (hS ▸ stabilizer_translate x) hH hQ).2 ⟨x, hS⟩
  projection := by
    have hG := G.realizes
    obtain ⟨f, hf, -, hsends, -⟩ :=
      hG.projection_translate_spec (hS ▸ stabilizer_translate x) hH hQ
    obtain ⟨K, hK, hconsists⟩ := hsends.kernel_spec
    rw [QuotientGroup.ker_mk'] at hconsists
    refine ⟨f, K, hf, hsends.isHom_eq, hK, hconsists, ?_⟩
    rw [hconsists.sameSet_iff faithful hH, hG.contains_iff hH hG.one, hS, eq_comm,
      translate_eq_iff]

/-- For every set of elements it is decided whether a quotient is made of it. -/
theorem decidesQuotient (hintact : H.Intact) (hop : H.op.equal G.op = .ok true)
    (hels : Standing G.Stands H.els) : G.DecidesQuotient H := by
  have hG := G.realizes
  have hH : Consists G.Stands H (G.part H) :=
    ⟨hintact.els_eq, hintact.els_eq ▸ hels, by rw [part, hintact.els_eq]⟩
  refine ⟨⟨?_, fun hnormal => ?_⟩, fun hnormal N x hN hS => ?_, fun hnormal hno => ?_⟩
  · rintro ⟨e, hmake, he⟩ hnormal
    have := normal_stabilizer hnormal
    obtain ⟨Q, hmake', -⟩ := hG.make_eq rfl hH hop hintact.text_eq hnormal
    -- what is normalized fails with no fault but that of the number of cosets
    split at hmake'
    · exact nomatch hmake'.symm.trans hmake
    · obtain rfl := Except.error.inj (hmake'.symm.trans hmake)
      exact nomatch he
  · obtain ⟨s, t, hmake⟩ := hG.make_of_not_normal hH hop hintact.text_eq hnormal
    exact ⟨_, hmake, rfl⟩
  · have hstab : stabilizer G.Element (G.part H) = N := hS ▸ stabilizer_translate x
    obtain ⟨Q, hmake, hQ, -⟩ := hG.make_eq hstab hH hop hintact.text_eq hnormal
    have hquotient := isQuotientBy_of_realizes hS hH hQ
    exact ⟨_, hmake.trans (if_pos hquotient.order_mul), hquotient⟩
  · have hN := normal_stabilizer hnormal
    obtain ⟨Q, hmake, hQ, -⟩ := hG.make_eq rfl hH hop hintact.text_eq hnormal
    refine hmake.trans (if_neg fun horder => hno ?_)
    obtain ⟨x, hx⟩ := (hG.order_mul_order_iff rfl hH hQ).1 horder
    exact ⟨_, x, hN, hx⟩

end ValidGroup

/-! ## The odd residues modulo four -/

/-- The numbers `1` and `3` with addition modulo four. -/
def odds : FiniteGroup :=
  ofRoster (.ofList [.int 1, .int 3]) (.op .addMod [.int 4]) (.int 0) .none .none .none

theorem toList_odds : (Roster.ofList [Value.int 1, .int 3]).toList = [.int 1, .int 3] :=
  Roster.toList_ofList (by simp [← Bool.not_eq_true, beq_int])

theorem els_odds : odds.els = [.int 1, .int 3] := by
  have hzero : ¬(Roster.ofList [Value.int 1, .int 3]).contains (.int 0) = true := by
    simp [Roster.contains_ofList, beq_int]
  show (Roster.promote _ _).toList = _
  rw [Roster.promote, if_neg hzero, toList_odds]

theorem equal_op_odds : odds.op.equal (residues 4).op = .ok true := by
  rw [show odds.op = (residues 4).op from rfl, Value.equal_of_isSimple rfl rfl, BEq.rfl]

/-- The odd residues are the translate by one of the even residues. -/
theorem exists_part_odds :
    let G := validResidues (n := 4) (by decide) (by decide)
    Standing G.Stands odds.els ∧ ∃ (N : Subgroup G.Element) (x : G.Element),
      G.part odds = x • (N : Set G.Element) := by
  intro G
  let element (k : Nat) (hk : k < 4) : G.Element := residue (by decide) (by decide) k hk
  let one := element 1 (by decide)
  let two := element 2 (by decide)
  let three := element 3 (by decide)
  have hsquare : two * two = 1 := (mul_residue (by decide) (by decide)).trans one_residue.symm
  have hthree : one * two = three := mul_residue (by decide) (by decide)
  have hone : G.Stands (.int 1) one := ValidGroup.stands_self one
  have hlast : G.Stands (.int 3) three := ValidGroup.stands_self three
  refine ⟨?_, pairSubgroup hsquare, one, ?_⟩
  · rw [els_odds]
    exact (standing_singleton hlast).cons hone
  · have hset : one • (pairSubgroup hsquare : Set G.Element) = {one, three} := by
      show (one * ·) '' {1, two} = _
      rw [Set.image_pair, mul_one, hthree]
    rw [ValidGroup.part, els_odds, ValidGroup.faithful.extent_cons hone,
      ValidGroup.faithful.extent_singleton hlast, hset]

theorem ofElements_odds :
    ofElements (.list 0 [.int 1, .int 3]) (.op .addMod [.int 4]) (.int 0) .none .none .none
      = .ok odds := by
  have hrequire : requireIdentity (.int 0) (Roster.ofList [.int 1, .int 3]).toList = .ok () := by
    rw [toList_odds, ← els_odds]
    exact ValidGroup.realizes.carries.requireIdentity_eq exists_part_odds.1
  show (do
    requireIdentity (.int 0) (Roster.ofList [Value.int 1, .int 3]).toList
    let gens ← generators .none
    return ofRoster (.ofList [.int 1, .int 3]) (.op .addMod [.int 4]) (.int 0) .none gens .none) = _
  rw [hrequire]
  rfl

theorem intact_odds : odds.Intact :=
  intact_ofRoster _ _ _ _ _ (Or.inl rfl)

theorem decidesQuotient_odds :
    let G := validResidues (n := 4) (by decide) (by decide)
    odds.Intact ∧ odds.op.equal G.op = .ok true ∧ Standing G.Stands odds.els ∧
      G.DecidesQuotient odds :=
  ⟨intact_odds, equal_op_odds, exists_part_odds.1,
    ValidGroup.decidesQuotient intact_odds equal_op_odds exists_part_odds.1⟩

/-- The odd residues, which have no identity, are a part of the residues modulo four of which a
quotient is made. The kernel of its projection has other elements. -/
theorem exists_quotient_odds :
    let G := validResidues (n := 4) (by decide) (by decide)
    ofElements (.list 0 [.int 1, .int 3]) (.op .addMod [.int 4]) (.int 0) .none .none .none
        = .ok odds ∧
      odds.op.equal G.op = .ok true ∧ (∀ a ∈ odds.els, a ∈ G.els) ∧
      odds.contains G.identity = .ok false ∧
      ∃ Q f K, QuotientGroup.make G.candidate odds.candidate = .ok Q ∧ Q.projection = .ok f ∧
        f.kernel = .ok K ∧ K.elements.sameSet odds.elements = false := by
  intro G
  obtain ⟨hstand, N, x, hpart⟩ := exists_part_odds
  have := normal_residues N
  have hH : Consists G.Stands odds (G.part odds) := ⟨intact_odds.els_eq, hstand, rfl⟩
  have hzero : odds.contains G.identity = .ok false := by
    have hnot : odds.elements.contains (.int 0) = false := by
      rw [← Bool.not_eq_true, Roster.contains_iff, show odds.elements.toList = _ from els_odds]
      simp [beq_int]
    exact congrArg Except.ok hnot
  obtain ⟨Q, hmake, hQ, -⟩ := G.realizes.make_eq (hpart ▸ stabilizer_translate x) hH equal_op_odds
    intact_odds.text_eq (normalizer_residues _)
  have hquotient := ValidGroup.isQuotientBy_of_realizes hpart hH hQ
  obtain ⟨f, K, hf, -, hK, -, hsame⟩ := hquotient.projection
  refine ⟨ofElements_odds, equal_op_odds, fun a ha => ?_, hzero, _, f, K,
    hmake.trans (if_pos hquotient.order_mul), hf, hK, ?_⟩
  · obtain rfl | rfl : a = .int 1 ∨ a = .int 3 := by simpa [els_odds] using ha
    · exact (mem_residues (by decide)).2 ⟨1, by decide, rfl⟩
    · exact (mem_residues (by decide)).2 ⟨3, by decide, rfl⟩
  · rw [← Bool.not_eq_true, hsame, hzero]
    exact nofun

end FiniteGroups
