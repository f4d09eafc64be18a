import FiniteGroups.Proofs.Cosets
import FiniteGroups.Proofs.Maps
import FiniteGroups.Proofs.Residues

/-!
# Quotients

The left cosets of a normal subgroup are multiplied and inverted by the representatives that they
are kept with. Cosets with the same members are equal whatever represents them, and for a normal
subgroup neither products nor inverses depend on the representative, so the list of cosets
realizes the quotient in the sense of group theory. The same holds for the translates of a set whose
stabilizer is normal, which realize the quotient by the stabilizer (`realizes_quotientOf`). Whether
there are as many of them as there should be is a question of its own (`make_eq`), which a subgroup
answers.

Everything that is said about the quotient follows : `ValidGroup.IsQuotient` is what there is to
say, and `ValidGroup.quotient_spec` that the quotient is made exactly for normal subgroups, and that
the refusal of others is a fault of structure.
-/

set_option linter.unusedSectionVars false

namespace FiniteGroups

open FiniteGroup MulAction
open scoped Pointwise

/-- The group of some cosets, as it is made. -/
def quotientOf (G H : FiniteGroup) (cosets : List Value) (identity : Value) (name : String) :
    FiniteGroup :=
  { ofRoster (.ofList cosets) (.op .cosets [G.value, H.value]) identity
      (.rule 0 .quotientInverse [G.value, H.value]) .none (.text name) with
    origin := .quotient, links := [G.value, H.value] }

section

variable {G H : FiniteGroup} {cosets : List Value} {identity : Value} {name : String}

theorem intact_quotientOf : (quotientOf G H cosets identity name).Intact :=
  intact_from _ _ _ _ _ (Or.inr ⟨name, rfl⟩) _ (by simp [value, Value.length])

theorem mul_quotientOf (a b : Value) :
    (quotientOf G H cosets identity name).mul a b = (do
      let mul ← G.value.meaning.op
      cosetOf .left G.value.meaning G.value H.value
        (← mul (← a.representative) (← b.representative))) := by
  show (Value.op .cosets [G.value, H.value]).meaning.call [a, b] = _
  rw [Value.meaning, Value.meaningWith.eq_def]
  rfl

theorem inverse_quotientOf (a : Value) :
    (quotientOf G H cosets identity name).inverse a = (do
      let inverse ← G.value.meaning.inverse
      cosetOf .left G.value.meaning G.value H.value (← inverse (← a.representative))) := by
  show (Value.rule 0 .quotientInverse [G.value, H.value]).meaning.call [a] = _
  rw [Value.meaning, Value.meaningWith.eq_def]
  rfl

/-- What is listed in the quotient is listed as a coset. -/
theorem listed_of_mem (hcosets : ∀ c ∈ cosets, Realizes.Listed G H c)
    (hid : Realizes.Listed G H identity) {c : Value}
    (hc : c ∈ (quotientOf G H cosets identity name).els) : Realizes.Listed G H c := by
  rcases Roster.mem_of_mem_promote hc with rfl | hc
  · exact hid
  · exact hcosets c (Roster.mem_of_mem_ofList hc)

end

namespace FiniteGroup.Realizes

variable {M : Type} [Group M] {R : Value → M → Prop} {S : Set M} {N : Subgroup M}
  {G H : FiniteGroup} (hG : G.Realizes R)
include hG

/-- A listed translate stands for the coset of its representative, which is an element. -/
theorem exists_rep {c : Value} {y : M ⧸ N} (hc : Listed G H c)
    (hy : StandsForTranslate R S N c y) :
    ∃ rep ∈ G.els, ∃ x, c.representative = .ok rep ∧ R rep x ∧ (x : M ⧸ N) = y := by
  obtain ⟨rep, hrep, members, rfl⟩ := hc
  obtain ⟨rep', x, hrep', hx, hxy⟩ := hy.representative
  obtain rfl := Except.ok.inj hrep'
  exact ⟨rep, hrep, x, rfl, hx, hxy⟩

section

variable [N.Normal] (hS : stabilizer M S = N) (hH : Consists R H S) {cosets : List Value}
  {identity : Value}
include hS hH

/-- The group of all translates of a set realizes the quotient by the stabilizer of the set. -/
theorem realizes_quotientOf (hstand : Standing (StandsForTranslate R S N) cosets)
    (hextent : extent (StandsForTranslate R S N) cosets = Set.univ)
    (hcosets : ∀ c ∈ cosets, Listed G H c) (hone : StandsForTranslate R S N identity 1)
    (hid : Listed G H identity) (name : String) :
    (quotientOf G H cosets identity name).Realizes (StandsForTranslate R S N) := by
  have hfaithful := faithful_translate hG.faithful hS
  have hrstand : Standing (StandsForTranslate R S N) (Roster.ofList cosets).toList :=
    hstand.mono fun c => Roster.mem_of_mem_ofList
  obtain ⟨hqstand, hqextent⟩ := hfaithful.extent_promote hrstand hone
  rw [hfaithful.extent_ofList hstand, hextent] at hqextent
  exact {
    faithful := hfaithful
    mul_eq := by
      intro c d y z hc hd
      obtain ⟨a, u, ha, hu, rfl⟩ := hc.representative
      obtain ⟨b, v, hb, hv, rfl⟩ := hd.representative
      obtain ⟨p, hp, hpuv⟩ := hG.mul_eq hu hv
      obtain ⟨members, hcoset, hstands⟩ := hG.translateOf_spec hH hpuv
      refine ⟨_, ?_, hstands⟩
      rw [mul_quotientOf, hG.intact.op_eq, ok_bind, ha, ok_bind, hb, ok_bind, hp, ok_bind, hcoset]
    keyed_eq := fun c y hc => hc.keyed_eq
    intact := intact_quotientOf
    equal_eq := fun c d y z hc hd => hc.equal_eq hd
    standing := hqstand
    surjective := fun y => hqextent.superset (Set.mem_univ y)
    one := hone
    inverse_eq := by
      intro c y hc hy
      obtain ⟨a, ha, u, hac, hu, rfl⟩ := hG.exists_rep (listed_of_mem hcosets hid hc) hy
      obtain ⟨b, hb, hbu, -⟩ := hG.inverse_eq ha hu
      obtain ⟨members, hcoset, hstands⟩ := hG.translateOf_spec hH hbu
      refine ⟨_, ?_, hstands, nofun⟩
      rw [inverse_quotientOf, hG.intact.inverse_eq, ok_bind, hac, ok_bind, hb, ok_bind, hcoset]
    inverse_keyed := by
      intro c k hc hk
      obtain ⟨rep, -, members, rfl⟩ := listed_of_mem hcosets hid hc
      rw [← Except.ok.inj (hk.symm.trans (keyed_coset settled_ne_faulty))] }

/-! ## Making the quotient -/

omit [N.Normal] hS in
/-- A group with the operation and with elements of another one is a part of it. -/
theorem isPartOf_eq (hop : H.op.equal G.op = .ok true) :
    H.candidate.isPartOf G.candidate = .ok true := by
  have hsub := (hH.subset_iff hG.faithful hG.consists).2 (Set.subset_univ _)
  show (do
    if ← H.op.equal G.op then return H.elements.subset G.elements else return false) = _
  rw [hop, ok_bind, if_pos rfl, hsub]
  rfl

omit [N.Normal] hS in
/-- What some element does not normalize is refused. -/
theorem make_of_not_normal (hop : H.op.equal G.op = .ok true) (htext : ∃ s, H.text = .ok s)
    (hnormal : Subgroup.normalizer S ≠ ⊤) :
    ∃ s t, QuotientGroup.make G.candidate H.candidate = .error (.notNormal s t) := by
  obtain ⟨s, hs⟩ := htext
  obtain ⟨t, ht⟩ := hG.intact.text_eq
  obtain ⟨answer, hanswer, hiff⟩ := hG.forms.isNormal_spec hH
  have hfalse : answer = false := by
    rw [← Bool.not_eq_true]
    exact fun h => hnormal (top_le_iff.1 (hiff.1 h))
  refine ⟨s, t, ?_⟩
  rw [QuotientGroup.make, hG.isPartOf_eq hH hop, ok_bind, hanswer, hfalse]
  show (do throw (Fault.notNormal (← H.value.plain) (← G.value.plain))) = _
  rw [plain_value hs, plain_value ht]
  rfl

/-- What all elements normalize has translates that realize the quotient by its stabilizer. They
are made a group if there are as many as there should be. -/
theorem make_eq (hop : H.op.equal G.op = .ok true) (htext : ∃ s, H.text = .ok s)
    (hnormal : Subgroup.normalizer S = ⊤) :
    ∃ Q : FiniteGroup, QuotientGroup.make G.candidate H.candidate =
        (if Q.order * H.order = G.order then .ok ⟨G.value, H.value, Q⟩ else .error .failedCheck) ∧
      Q.Realizes (StandsForTranslate R S N) ∧ ∀ c ∈ Q.els, Listed G H c := by
  obtain ⟨s, hs⟩ := htext
  obtain ⟨t, ht⟩ := hG.intact.text_eq
  obtain ⟨answer, hanswer, hiff⟩ := hG.forms.isNormal_spec hH
  obtain ⟨cosets, hcosets, hstand, hextent, hlisted⟩ := hG.leftTranslates_spec hS hH
  obtain ⟨identity, hidentity, hone, hid⟩ := hG.keyed_translateOf_spec hH hG.identity_mem hG.one
  have hQ := hG.realizes_quotientOf hS hH hstand hextent hlisted hone hid s!"{t}/{s}"
  refine ⟨_, ?_, hQ, fun c => listed_of_mem hlisted hid⟩
  obtain ⟨c, hc, hkey⟩ := bind_eq_ok.1 hidentity
  have hc : G.candidate.coset .left H.candidate G.identity = .ok c := hc
  have hplain : G.candidate.value.plain = .ok t := plain_value ht
  have hplain' : H.candidate.value.plain = .ok s := plain_value hs
  simp only [QuotientGroup.make, hG.isPartOf_eq hH hop, hanswer, hiff.2 hnormal.ge, hcosets,
    ok_bind, show G.candidate.identity = .ok G.identity from rfl, hc, hkey, hplain, hplain',
    show H.candidate.size = .ok H.order from rfl, show G.candidate.size = .ok G.order from rfl]
  rfl

/-! ## Using the quotient -/

variable {Q : FiniteGroup} (hQ : Q.Realizes (StandsForTranslate R S N))
include hQ

/-- The translate of an element is found among the elements of the quotient. -/
theorem translate_spec {a : Value} {x : M} (ha : R a x) :
    ∃ c ∈ Q.els, QuotientGroup.coset ⟨G.value, H.value, Q⟩ a = .ok c ∧
      StandsForTranslate R S N c x := by
  obtain ⟨members, hcoset, hstands⟩ := hG.translateOf_spec hH ha
  obtain ⟨p, hp, hposition, hpx⟩ := hQ.position_spec hstands
  refine ⟨Q.els[p], List.getElem_mem hp, ?_, hpx⟩
  rw [QuotientGroup.coset, hcoset, ok_bind, hposition, ok_bind]
  show Position.entry Q.els p = _
  simp [Position.entry, Position.resolve_natCast, hp]

/-- The projection sends an element to its translate. -/
theorem projection_translate_spec :
    ∃ f, QuotientGroup.projection ⟨G.value, H.value, Q⟩ = .ok f ∧ f.tgt = Q ∧
      f.Sends R (StandsForTranslate R S N) (QuotientGroup.mk' N) ∧
      ∀ b ∈ f.send.values.toList, b ∈ Q.els := by
  have hcoset : ∀ a ∈ G.reread.els, ∀ x, R a x →
      ∃ c, QuotientGroup.coset ⟨G.value, H.value, Q⟩ a = .ok c ∧
        StandsForTranslate R S N c (QuotientGroup.mk' N x) := by
    intro a _ x ha
    obtain ⟨c, -, hc, hcx⟩ := hG.translate_spec hS hH hQ ha
    exact ⟨c, hc, hcx⟩
  obtain ⟨f, hf, -, htgt, hsends, hvalues⟩ := GroupMap.ofFunction_spec hG.reread hQ hcoset
  refine ⟨f, ?_, htgt, hsends, fun b hb => ?_⟩
  · rw [QuotientGroup.projection, Value.candidate, hG.intact.ofValue?_value]
    exact hf
  · obtain ⟨a, ha, hab⟩ := hvalues b hb
    obtain ⟨x, hx⟩ := hG.standing a ha
    obtain ⟨c, hc, hac, -⟩ := hG.translate_spec hS hH hQ hx
    rw [hab] at hac
    rwa [Except.ok.inj hac]

end

/-! ## Quotients by subgroups -/

variable (hH : Consists R H N)
include hH

/-- As many cosets as there are, with as many elements in each, make up the group. -/
theorem order_mul_order {Q : FiniteGroup} [N.Normal] (hQ : Q.Realizes (StandsForCoset R N)) :
    Q.order * H.order = G.order := by
  rw [hQ.order_eq, hH.order_eq hG.faithful, hG.order_eq,
    Subgroup.card_eq_card_quotient_mul_card_subgroup N]
  rfl

variable [hN : N.Normal]

/-- The quotient by a normal subgroup is made, and realizes the quotient. -/
theorem make_of_normal (hop : H.op.equal G.op = .ok true) (htext : ∃ s, H.text = .ok s) :
    ∃ Q, QuotientGroup.make G.candidate H.candidate = .ok ⟨G.value, H.value, Q⟩ ∧
      Q.Realizes (StandsForCoset R N) ∧ ∀ c ∈ Q.els, Listed G H c := by
  obtain ⟨Q, hmake, hQ, hlisted⟩ := hG.make_eq (stabilizer_subgroup N) hH hop htext
    (Subgroup.normalizer_eq_top_iff.2 hN)
  rw [← standsForCoset_eq] at hQ
  exact ⟨Q, hmake.trans (if_pos (hG.order_mul_order hH hQ)), hQ, hlisted⟩

variable {Q : FiniteGroup} (hQ : Q.Realizes (StandsForCoset R N))
include hQ

/-- The coset of an element is found among the elements of the quotient. -/
theorem coset_spec {a : Value} {x : M} (ha : R a x) :
    ∃ c ∈ Q.els, QuotientGroup.coset ⟨G.value, H.value, Q⟩ a = .ok c ∧ StandsForCoset R N c x := by
  rw [standsForCoset_eq] at hQ ⊢
  exact hG.translate_spec (stabilizer_subgroup N) hH hQ ha

/-- The projection sends an element to its coset. -/
theorem projection_spec :
    ∃ f, QuotientGroup.projection ⟨G.value, H.value, Q⟩ = .ok f ∧ f.tgt = Q ∧
      f.Sends R (StandsForCoset R N) (QuotientGroup.mk' N) ∧
      ∀ b ∈ f.send.values.toList, b ∈ Q.els := by
  rw [standsForCoset_eq] at hQ ⊢
  exact hG.projection_translate_spec (stabilizer_subgroup N) hH hQ

end FiniteGroup.Realizes

/-- The identity and an element that is its own inverse. -/
def pairSubgroup {M : Type} [Group M] {x : M} (h : x * x = 1) : Subgroup M where
  carrier := {1, x}
  mul_mem' := by
    rintro _ _ (rfl | rfl) (rfl | rfl) <;> simp [h]
  one_mem' := Or.inl rfl
  inv_mem' := by
    rintro _ (rfl | rfl)
    · exact Or.inl inv_one
    · exact Or.inr (inv_eq_of_mul_eq_one_left h)

/-! ## Quotients of valid groups -/

namespace ValidGroup

variable (G : ValidGroup) (H : FiniteGroup)

/-- What there is to say about the quotient `Q` of `G` by `H`. -/
structure IsQuotient (Q : QuotientGroup) : Prop where
  /-- The check of the axioms finds nothing, however long its list may get. -/
  verify_eq : ∀ ⦃most m⦄, most.index = .ok m → Q.group.verify most = .ok ⟨[]⟩
  order_mul : Q.group.order * H.order = G.order
  /-- The product of two cosets is the coset of a product. -/
  mul_coset : ∀ ⦃a b x y⦄, G.Stands a x → G.Stands b y → ∃ ab c d e p,
    G.mul a b = .ok ab ∧ Q.coset a = .ok c ∧ Q.coset b = .ok d ∧ Q.coset ab = .ok e ∧
      Q.group.mul c d = .ok p ∧ p.equal e = .ok true
  /-- The inverse of a coset is the coset of an inverse. -/
  inverse_coset : ∀ ⦃a⦄, a ∈ G.els → ∃ b c d i,
    G.inverse a = .ok b ∧ Q.coset a = .ok c ∧ Q.coset b = .ok d ∧
      Q.group.inverse c = .ok i ∧ i.equal d = .ok true
  /-- The projection is a homomorphism onto the quotient, and its kernel has the elements of
  `H`. -/
  projection : ∃ f K, Q.projection = .ok f ∧ f.isHom = .ok true ∧ f.isSurjective = .ok true ∧
    (∀ c ∈ Q.group.els, ∃ a ∈ G.els, ∃ d, f.apply a = .ok d ∧ d.equal c = .ok true) ∧
    f.kernel = .ok K ∧ K.elements.sameSet H.elements = true

variable {G H}

theorem isQuotient_of_realizes {N : Subgroup G.Element} [N.Normal] (hH : Consists G.Stands H N)
    {Q : FiniteGroup} (hQ : Q.Realizes (StandsForCoset G.Stands N)) :
    G.IsQuotient H ⟨G.value, H.value, Q⟩ where
  verify_eq most m hmost := hQ.verify_eq hmost
  order_mul := G.realizes.order_mul_order hH hQ
  mul_coset a b x y ha hb := by
    obtain ⟨ab, hab, habxy⟩ := G.realizes.mul_eq ha hb
    obtain ⟨c, -, hc, hcx⟩ := G.realizes.coset_spec hH hQ ha
    obtain ⟨d, -, hd, hdy⟩ := G.realizes.coset_spec hH hQ hb
    obtain ⟨e, -, he, hexy⟩ := G.realizes.coset_spec hH hQ habxy
    obtain ⟨p, hp, hpxy⟩ := hQ.mul_eq hcx hdy
    exact ⟨ab, c, d, e, p, hab, hc, hd, he, hp, hQ.equal_eq_true hpxy hexy⟩
  inverse_coset a ha := by
    obtain ⟨x, hx⟩ := G.realizes.standing a ha
    obtain ⟨b, hb, hbx, -⟩ := G.realizes.inverse_eq ha hx
    obtain ⟨c, hcmem, hc, hcx⟩ := G.realizes.coset_spec hH hQ hx
    obtain ⟨d, -, hd, hdx⟩ := G.realizes.coset_spec hH hQ hbx
    obtain ⟨i, hi, hix, -⟩ := hQ.inverse_eq hcmem hcx
    exact ⟨b, c, d, i, hb, hc, hd, hi, hQ.equal_eq_true hix hdx⟩
  projection := by
    obtain ⟨f, hf, htgt, hsends, hvalues⟩ := G.realizes.projection_spec hH hQ
    obtain ⟨K, hK, hconsists⟩ := hsends.kernel_spec
    have hsurjective := (eq_ok_true_iff (hsends.isSurjective_spec fun b hb k hk => by
      rw [htgt]
      exact hQ.invertible_of_keyed (hvalues b hb) hk)).2 (QuotientGroup.mk'_surjective N)
    refine ⟨f, K, hf, hsends.isHom_eq, hsurjective, fun c hc => ?_, hK, ?_⟩
    · obtain ⟨y, hy⟩ := hQ.standing c hc
      obtain ⟨x, rfl⟩ := QuotientGroup.mk'_surjective N y
      obtain ⟨a, ha, hax⟩ := G.realizes.surjective x
      obtain ⟨d, hd, hdx⟩ := hsends.apply_spec hax
      exact ⟨a, ha, d, hd, hQ.equal_eq_true hdx hy⟩
    · rw [hconsists.sameSet_iff faithful hH, QuotientGroup.ker_mk']

/-- The quotient by a subgroup is made exactly if the subgroup is normal, and others are refused
with a fault of structure. The quotient is what it should be. -/
theorem quotient_spec (G : ValidGroup) {H : FiniteGroup} {N : Subgroup G.Element}
    (hH : Consists G.Stands H N) (hop : H.op.equal G.op = .ok true) (hintact : H.Intact) :
    (N.Normal → ∃ Q, QuotientGroup.make G.toFiniteGroup.candidate H.candidate = .ok Q ∧
      G.IsQuotient H Q) ∧
    (¬N.Normal → ∃ e, QuotientGroup.make G.toFiniteGroup.candidate H.candidate = .error e ∧
      e.category = .structural) := by
  constructor
  · intro hN
    obtain ⟨Q, hmake, hQ, -⟩ := G.realizes.make_of_normal hH hop hintact.text_eq
    exact ⟨_, hmake, isQuotient_of_realizes hH hQ⟩
  · intro hN
    obtain ⟨s, t, hmake⟩ := G.realizes.make_of_not_normal hH hop hintact.text_eq
      (mt Subgroup.normalizer_eq_top_iff.1 hN)
    exact ⟨_, hmake, rfl⟩

/-- The numbers `0` and `3` as a part of the residues modulo six. -/
def threes : FiniteGroup :=
  (residues 6).subgroupOf (.ofList [.int 0, .int 3]) .none .none

/-- The multiples of three are a normal subgroup of the residues modulo six. -/
theorem exists_consists_threes :
    ∃ N : Subgroup (validResidues (n := 6) (by decide) (by decide)).Element, N.Normal ∧
      Consists (validResidues (n := 6) (by decide) (by decide)).Stands threes N := by
  let G := validResidues (n := 6) (by decide) (by decide)
  let three : G.Element := residue (by decide) (by decide) 3 (by decide)
  have hsquare : three * three = 1 := (mul_residue (by decide) (by decide)).trans one_residue.symm
  have hextent : extent G.Stands [.int 0, .int 3] = (pairSubgroup hsquare : Set G.Element) := by
    have hzero : G.Stands (.int 0) 1 := unit_stands
    have hthree : G.Stands (.int 3) three := stands_self three
    rw [faithful.extent_cons hzero, faithful.extent_singleton hthree]
    rfl
  have hroster : (Roster.ofList [Value.int 0, .int 3]).toList = [.int 0, .int 3] :=
    Roster.toList_ofList (by simp [← Bool.not_eq_true, beq_int])
  have hstand : Standing G.Stands (Roster.ofList [Value.int 0, .int 3]).toList := by
    rw [hroster]
    exact (standing_singleton (stands_self three)).cons unit_stands
  refine ⟨pairSubgroup hsquare, normal_residues _, ?_⟩
  rw [← hextent, ← hroster]
  exact G.realizes.consists_subgroupOf hstand .none .none

theorem equal_op_threes : threes.op.equal (residues 6).op = .ok true := by
  rw [show threes.op = (residues 6).op from rfl, Value.equal_of_isSimple rfl rfl, BEq.rfl]

theorem intact_threes : threes.Intact :=
  (validResidues (n := 6) (by decide) (by decide)).intact.subgroupOf _ _ (Or.inl rfl)

/-- The residues modulo six have a quotient by the multiples of three. -/
theorem exists_quotient_threes :
    ∃ N : Subgroup (validResidues (n := 6) (by decide) (by decide)).Element, N.Normal ∧
      Consists (validResidues (n := 6) (by decide) (by decide)).Stands threes N ∧
      threes.op.equal (residues 6).op = .ok true ∧ threes.Intact ∧
      ∃ Q, QuotientGroup.make (residues 6).candidate threes.candidate = .ok Q ∧
        (validResidues (n := 6) (by decide) (by decide)).IsQuotient threes Q := by
  obtain ⟨N, hnormal, hconsists⟩ := exists_consists_threes
  exact ⟨N, hnormal, hconsists, equal_op_threes, intact_threes,
    (quotient_spec _ hconsists equal_op_threes intact_threes).1 hnormal⟩

end ValidGroup

end FiniteGroups
