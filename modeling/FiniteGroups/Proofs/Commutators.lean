import FiniteGroups.Proofs.Commuting
import FiniteGroups.Proofs.Inverses
import FiniteGroups.Proofs.Quotients
import FiniteGroups.Proofs.RealResidues
import Mathlib.GroupTheory.Commutator.Basic

/-!
# The commutator subgroup

The commutators of a group are found as values that stand for elements, and not as elements: a
product may be written in another way than in the list. The commutator subgroup is therefore found
if the group gives an inverse for every value that is equal to an element
(`Realizes.commutatorSubgroup_spec`). `ValidGroup.exists_commutatorSubgroup` says that it is the
least normal subgroup with an abelian quotient.

A valid group need not do that. The residues with a modulus that is a floating-point number have
products that are floating-point numbers as well, and their inverse, which is right for integers,
can be too large for these (`commutatorSubgroup_error`).
-/

set_option linter.unusedSectionVars false

namespace FiniteGroups

open FiniteGroup
open scoped commutatorElement

theorem FiniteGroup.exists_of_mem_commutators {G : FiniteGroup} {found : Roster Value}
    (hfound : G.candidate.commutators = .ok found) {c : Value} (hc : c ∈ found.toList) :
    ∃ a ∈ G.els, ∃ b ∈ G.els, (do (← G.candidate.commutator a b).keyed) = .ok c := by
  obtain ⟨els, hels, hfound⟩ := bind_eq_ok.1 hfound
  obtain rfl := Except.ok.inj hels
  obtain ⟨rows, hrows, hreturn⟩ := bind_eq_ok.1 hfound
  obtain rfl := Except.ok.inj hreturn
  obtain ⟨row, hrow, hc⟩ := List.mem_flatten.1 (Roster.mem_of_mem_ofList hc)
  obtain ⟨a, ha, hrow⟩ := exists_of_mem_mapM hrows hrow
  obtain ⟨b, hb, hc⟩ := exists_of_mem_mapM hrow hc
  exact ⟨a, ha, b, hb, hc⟩

namespace FiniteGroup.Realizes

variable {M : Type} [Group M] {R : Value → M → Prop} {G : FiniteGroup} (hG : G.Realizes R)
include hG

/-- A commutator is a product of products. -/
theorem commutator_eq {a b : Value} {x y : M} (ha : a ∈ G.els) (hx : R a x) (hb : b ∈ G.els)
    (hy : R b y) : ∃ p q, R p (x⁻¹ * y⁻¹) ∧ R q (x * y) ∧
      G.candidate.commutator a b = G.mul p q := by
  obtain ⟨i, hi, hix, -⟩ := hG.inverse_eq ha hx
  obtain ⟨j, hj, hjy, -⟩ := hG.inverse_eq hb hy
  obtain ⟨p, hp, hpxy⟩ := hG.mul_eq hix hjy
  obtain ⟨q, hq, hqxy⟩ := hG.mul_eq hx hy
  refine ⟨p, q, hpxy, hqxy, ?_⟩
  show (do G.mul (← G.mul (← G.inverse a) (← G.inverse b)) (← G.mul a b)) = _
  rw [hi, ok_bind, hj, ok_bind, hp, ok_bind, hq, ok_bind]

theorem commutator_spec {a b : Value} {x y : M} (ha : a ∈ G.els) (hx : R a x) (hb : b ∈ G.els)
    (hy : R b y) : ∃ c, G.candidate.commutator a b = .ok c ∧ R c ⁅x⁻¹, y⁻¹⁆ := by
  obtain ⟨p, q, hp, hq, hpq⟩ := hG.commutator_eq ha hx hb hy
  obtain ⟨c, hc, hcxy⟩ := hG.mul_eq hp hq
  refine ⟨c, hpq.trans hc, ?_⟩
  rwa [commutatorElement_def, inv_inv, inv_inv, mul_assoc]

/-- The commutators with an element are found. -/
theorem commutatorsWith_spec {a : Value} {x : M} (ha : a ∈ G.els) (hx : R a x) :
    ∃ found, G.els.mapM (fun b => do (← G.candidate.commutator a b).keyed) = .ok found ∧
      Standing R found ∧ extent R found = Set.range fun y => ⁅x⁻¹, y⁻¹⁆ := by
  obtain ⟨found, hfound, hstand, hextent⟩ := hG.faithful.exists_images hG.faithful
      (f := fun b => do (← G.candidate.commutator a b).keyed) (φ := fun y => ⁅x⁻¹, y⁻¹⁆)
      hG.standing fun b hb y hy => by
    obtain ⟨c, hc, hcxy⟩ := hG.commutator_spec ha hx hb hy
    rw [hc]
    exact hG.keyed_eq hcxy
  exact ⟨found, hfound, hstand, by rw [hextent, hG.extent_els, Set.image_univ]⟩

/-- The commutators of all pairs of elements are found. -/
theorem commutators_spec : ∃ found, G.candidate.commutators = .ok found ∧
    Standing R found.toList ∧ extent R found.toList = commutatorSet M := by
  obtain ⟨rows, hrows, hall⟩ := exists_mapM G.els
      (f := fun a => G.els.mapM fun b => do (← G.candidate.commutator a b).keyed)
      (P := fun a row => ∃ x, R a x ∧ Standing R row ∧
        extent R row = Set.range fun y => ⁅x⁻¹, y⁻¹⁆) fun a ha => by
    obtain ⟨x, hx⟩ := hG.standing a ha
    obtain ⟨row, hrow, hstand, hextent⟩ := hG.commutatorsWith_spec ha hx
    exact ⟨row, hrow, x, hx, hstand, hextent⟩
  have hstand : Standing R rows.flatten := by
    intro c hc
    obtain ⟨row, hrow, hc⟩ := List.mem_flatten.1 hc
    obtain ⟨a, -, x, -, hstand, -⟩ := exists_of_forall₂ hall hrow
    exact hstand c hc
  refine ⟨.ofList rows.flatten, ?_, hstand.mono fun c => Roster.mem_of_mem_ofList, ?_⟩
  · show (do
      let found ← G.els.mapM fun a => G.els.mapM fun b => do (← G.candidate.commutator a b).keyed
      return Roster.ofList found.flatten) = _
    rw [hrows]
    rfl
  · rw [hG.faithful.extent_ofList hstand]
    ext z
    rw [mem_commutatorSet_iff]
    constructor
    · rintro ⟨c, hc, hcz⟩
      obtain ⟨row, hrow, hc⟩ := List.mem_flatten.1 hc
      obtain ⟨a, -, x, -, -, hextent⟩ := exists_of_forall₂ hall hrow
      obtain ⟨y, hy⟩ := hextent.subset ⟨c, hc, hcz⟩
      exact ⟨x⁻¹, y⁻¹, hy⟩
    · rintro ⟨x, y, rfl⟩
      obtain ⟨a, ha, hax⟩ := hG.surjective x⁻¹
      obtain ⟨row, hrow, w, haw, -, hextent⟩ := exists_of_forall₂ hall.flip ha
      obtain rfl := hG.faithful.unique hax haw
      have hmem : ⁅x, y⁆ ∈ extent R row := hextent.superset ⟨y⁻¹, by simp⟩
      obtain ⟨c, hc, hcxy⟩ := hmem
      exact ⟨c, List.mem_flatten.2 ⟨row, hrow, hc⟩, hcxy⟩

/-- What the commutators span is found if whatever stands for an element is inverted. -/
theorem commutatorSubgroup_spec (hinv : ∀ ⦃a x⦄, R a x → G.Invertible R a) :
    ∃ D, G.candidate.commutatorSubgroup = .ok D ∧ Consists R D (commutator M : Set M) ∧
      D.op = G.op ∧ D.Intact := by
  obtain ⟨found, hfound, hstand, hextent⟩ := hG.commutators_spec
  have hgens : ∀ a ∈ found.toList, G.Invertible R a := fun a ha => by
    obtain ⟨x, hx⟩ := hstand a ha
    exact hinv hx
  have hne : found.toList ≠ [] := by
    obtain ⟨a, ha, -⟩ := hextent.superset (one_mem_commutatorSet M)
    exact List.ne_nil_of_mem ha
  obtain ⟨D, hD, hconsists⟩ := hG.span_spec hgens hne
  rw [hextent, ← commutator_eq_closure] at hconsists
  refine ⟨D, ?_, hconsists, ?_⟩
  · show (do
      let found ← G.candidate.commutators
      G.span found.toList) = _
    rw [hfound, ok_bind, hD]
  · obtain ⟨-, r, -, -, rfl⟩ := exists_of_span hD
    exact ⟨rfl, hG.intact.subgroupOf r _ (Or.inl rfl)⟩

end FiniteGroup.Realizes

/-! ## Valid groups -/

namespace ValidGroup

variable (G : ValidGroup)

/-- What there is to say about the commutator subgroup of a group. -/
structure IsCommutatorSubgroup (D : FiniteGroup) : Prop where
  exists_normal : ∃ N : Subgroup G.Element, Consists G.Stands D N ∧ N.Normal
  isNormal_eq : G.candidate.isNormal D.candidate = .ok true
  /-- The quotient by a normal subgroup is abelian exactly if the subgroup has all elements of
  `D`. -/
  isAbelian_iff : ∀ (H : FiniteGroup) (N : Subgroup G.Element), Consists G.Stands H N → N.Normal →
    H.op.equal G.op = .ok true → H.Intact →
    ∃ Q answer, QuotientGroup.make G.candidate H.candidate = .ok Q ∧
      Q.group.isAbelian = .ok answer ∧ (answer = true ↔ ∀ a ∈ D.els, H.contains a = .ok true)
  /-- The quotient by `D` asks whether the operation is equal to itself. -/
  isAbelian_quotient : G.op.equal G.op = .ok true →
    ∃ Q, QuotientGroup.make G.candidate D.candidate = .ok Q ∧ Q.group.isAbelian = .ok true
  order_eq_one_iff : ∃ answer, G.isAbelian = .ok answer ∧ (D.order = 1 ↔ answer = true)

variable {G}

/-- The quotient is found to be abelian exactly if the subgroup has all commutators. -/
theorem isAbelian_quotient_spec {H : FiniteGroup} {N : Subgroup G.Element}
    (hH : Consists G.Stands H N) (hN : N.Normal) (hop : H.op.equal G.op = .ok true)
    (hintact : H.Intact) :
    ∃ Q answer, QuotientGroup.make G.candidate H.candidate = .ok Q ∧
      Q.group.isAbelian = .ok answer ∧ (answer = true ↔ commutator G.Element ≤ N) := by
  obtain ⟨Q, hmake, hQ, -⟩ := G.realizes.make_of_normal hH hop hintact.text_eq
  obtain ⟨answer, hanswer, hiff⟩ := hQ.isAbelian_spec
  refine ⟨_, answer, hmake, hanswer, hiff.trans ?_⟩
  rw [← Subgroup.Normal.quotient_commutative_iff_commutator_le, isMulCommutative_iff]
  exact Iff.rfl

/-- The commutator subgroup of a valid group that inverts all values that are equal to elements is
the least normal subgroup with an abelian quotient. -/
theorem exists_commutatorSubgroup (G : ValidGroup) (hinv : G.Inverts) :
    ∃ D, G.candidate.commutatorSubgroup = .ok D ∧ G.IsCommutatorSubgroup D := by
  have hG := G.realizes
  have := hG.finite
  obtain ⟨D, hD, hconsists, hop, hintact⟩ := hG.commutatorSubgroup_spec hinv
  obtain ⟨normal, hnormal, hiff⟩ := hG.isNormal_spec hconsists
  refine ⟨D, hD, ⟨⟨_, hconsists, inferInstance⟩, ?_, fun H N hH hN hHop hHintact => ?_,
    fun hself => ?_, ?_⟩⟩
  · rw [hnormal, hiff.2 inferInstance]
  · obtain ⟨Q, answer, hmake, hanswer, habelian⟩ := isAbelian_quotient_spec hH hN hHop hHintact
    refine ⟨Q, answer, hmake, hanswer, habelian.trans ?_⟩
    constructor
    · intro hle a ha
      obtain ⟨x, hx⟩ := hconsists.standing_els a ha
      exact (hG.contains_iff hH hx).2 (hle (hconsists.mem_iff.2 ⟨a, ha, hx⟩))
    · intro hall x hx
      obtain ⟨a, ha, hax⟩ := hconsists.mem_iff.1 hx
      exact (hG.contains_iff hH hax).1 (hall a ha)
  · obtain ⟨Q, answer, hmake, hanswer, habelian⟩ :=
      isAbelian_quotient_spec hconsists inferInstance (hop.symm ▸ hself) hintact
    rw [habelian.2 le_rfl] at hanswer
    exact ⟨Q, hmake, hanswer⟩
  · obtain ⟨answer, hanswer, habelian⟩ := hG.isAbelian_spec
    refine ⟨answer, hanswer, ?_⟩
    rw [hconsists.order_eq faithful, ← Nat.card_coe_set_eq, habelian]
    exact Subgroup.card_eq_one.trans <| (commutator_eq_bot_iff_center_eq_top _).trans <|
      (Subgroup.eq_top_iff' _).trans <| forall_congr' fun x =>
        Subgroup.mem_center_iff.trans <| forall_congr' fun y => eq_comm

/-- The residues modulo six have a commutator subgroup, and a quotient by it. -/
theorem exists_commutatorSubgroup_residues :
    (validResidues (n := 6) (by decide) (by decide)).Inverts ∧
    (residues 6).op.equal (residues 6).op = .ok true ∧
    ∃ D, (residues 6).candidate.commutatorSubgroup = .ok D ∧
      (validResidues (n := 6) (by decide) (by decide)).IsCommutatorSubgroup D :=
  ⟨inverts_residues, by rw [Value.equal_of_isSimple rfl rfl, BEq.rfl],
    exists_commutatorSubgroup _ inverts_residues⟩

end ValidGroup

/-! ## Commutators that are not inverted -/

section

variable {n : Nat} {c : Int} (hpos : 0 < n) (hn : n < 10) (hc : (n : Int) ∣ c + 1)
include hpos hn hc

/-- If the modulus is a floating-point number, so are the commutators. -/
theorem commutator_machineResidues {a b : Value} (ha : a ∈ (machineResidues n c).els)
    (hb : b ∈ (machineResidues n c).els) :
    ∃ z, (machineResidues n c).candidate.commutator a b = .ok (.real z) := by
  have hG := realizes_machineResidues hpos hn hc
  obtain ⟨x, hx⟩ := hG.standing a ha
  obtain ⟨y, hy⟩ := hG.standing b hb
  obtain ⟨p, q, hp, hq, hpq⟩ := hG.commutator_eq ha hx hb hy
  obtain ⟨r, hr, -, hreal⟩ := add_writesResidue hpos hn .real hp hq
  obtain ⟨z, rfl⟩ := hreal rfl
  exact ⟨z, hpq.trans hr⟩

theorem commutatorSubgroup_machineResidues (hlarge : Decimal.Real.ofInt c = .error .overflow) :
    (machineResidues n c).candidate.commutatorSubgroup = .error .overflow := by
  obtain ⟨found, hfound, hstand, hextent⟩ :=
    (realizes_machineResidues hpos hn hc).commutators_spec
  obtain ⟨a, ha, -⟩ := hextent.superset (one_mem_commutatorSet _)
  obtain ⟨z, rfl⟩ : ∃ z, a = .real z := by
    obtain ⟨g, hg, h, hh, ha⟩ := exists_of_mem_commutators hfound ha
    obtain ⟨z, hz⟩ := commutator_machineResidues hpos hn hc hg hh
    rw [hz, ok_bind] at ha
    exact ⟨z, (Except.ok.inj ha).symm⟩
  show (do
    let found ← (machineResidues n c).candidate.commutators
    (machineResidues n c).span found.toList) = _
  rw [hfound, ok_bind, span_real hpos hn hc hlarge hstand ⟨z, ha⟩]

end

/-- A valid abelian group without a commutator subgroup. -/
theorem commutatorSubgroup_error :
    (validMachineResidues (n := 1) (by decide) (by decide)).isAbelian = .ok true ∧
    (validMachineResidues (n := 1) (by decide) (by decide)).candidate.commutatorSubgroup =
      .error .overflow := by
  have hdvd := dvd_largeFactor 1
  obtain ⟨answer, hanswer, hiff⟩ :=
    (realizes_machineResidues (by decide) (by decide) hdvd).isAbelian_spec
  rw [hiff.2 mul_comm] at hanswer
  exact ⟨hanswer, commutatorSubgroup_machineResidues (by decide) (by decide) hdvd
    (ofInt_largeFactor (by decide))⟩

end FiniteGroups
