import FiniteGroups.Proofs.FirstIsomorphism
import FiniteGroups.Proofs.Frattini
import FiniteGroups.Proofs.MapValues

/-!
# What the questions about bijections tell

Whether a map is one-to-one is read off the order of the subgroup that is spanned by the elements
sent to the identity, and whether it is onto off the order of the subgroup that is spanned by its
values. For a homomorphism these are the kernel and the image. For any other map the first question
is whether only the identity may be sent to the identity, and the second is whether the values
generate the target (`ValidGroup.TellsBijective`).

Inversion looks at the map itself. It succeeds exactly if the map is a bijection, so a map may be
found to be an isomorphism and have no inverse : the one that sends both residues modulo two to the
generator (`exists_isIso_constant`).
-/

set_option linter.unusedSectionVars false

namespace FiniteGroups

open FiniteGroup

namespace GroupMap

/-- No two elements are sent to the same value. -/
def IsOneToOne (f : GroupMap) : Prop :=
  ∀ a ∈ f.src.els, ∀ b ∈ f.src.els, ∀ c d, f.apply a = .ok c → f.apply b = .ok d →
    c.equal d = .ok true → a = b

/-- Every element of the target is equal to a value of the map. -/
def IsOnto (f : GroupMap) : Prop :=
  ∀ b ∈ f.tgt.els, ∃ v ∈ f.send.values.toList, v.equal b = .ok true

/-- The second map sends the images of the first one back. -/
def IsUndoneBy (f g : GroupMap) : Prop :=
  ∀ a ∈ f.src.els, ∀ v, f.apply a = .ok v → ∃ b, g.apply v = .ok b ∧ b.equal a = .ok true

namespace Sends

variable {M N : Type} [Group M] [Group N] {R : Value → M → Prop} {S : Value → N → Prop}
  {f : GroupMap} {φ : M → N} (h : f.Sends R S φ)
include h

/-- A map is found to be one-to-one exactly if only the identity may be sent to the identity. -/
theorem isInjective_iff : ∃ answer, f.isInjective = .ok answer ∧
    (answer = true ↔ ∀ x, φ x = 1 → x = 1) := by
  obtain ⟨gens, hgens, hsub, hextent⟩ := h.exists_kernel_gens
  obtain ⟨K, hK, hconsists⟩ := h.src.span_spec_all fun g hg =>
    h.src.invertible_of_mem (hsub.subset hg)
  refine ⟨_, by rw [isInjective, kernel, hgens, ok_bind, hK]; rfl, ?_⟩
  rw [beq_iff_eq, hconsists.order_eq h.src.faithful, hextent, ← Nat.card_coe_set_eq]
  exact Subgroup.card_eq_one.trans Subgroup.closure_eq_bot_iff

/-- A map is found to be onto exactly if its values generate the target. -/
theorem isSurjective_iff (hinv : ∀ b ∈ f.send.values.toList, ∀ k, b.keyed = .ok k →
    f.tgt.Invertible S k) : ∃ answer, f.isSurjective = .ok answer ∧
      (answer = true ↔ Subgroup.closure (Set.range φ) = ⊤) := by
  have := h.tgt.finite
  obtain ⟨I, hI, hconsists⟩ := h.image_span_spec hinv
  refine ⟨_, by rw [isSurjective, hI]; rfl, ?_⟩
  rw [beq_iff_eq, hconsists.order_eq h.tgt.faithful, h.tgt.order_eq, ← Set.eq_univ_iff_ncard,
    Subgroup.coe_eq_univ]

theorem isOneToOne_iff : f.IsOneToOne ↔ Function.Injective φ :=
  h.injective_iff.symm

theorem isOnto_iff : f.IsOnto ↔ Function.Surjective φ :=
  h.surjective_iff.symm

/-- A map that is a bijection is inverted, and any other map is refused. -/
theorem inverse_spec :
    ((f.IsOneToOne ∧ f.IsOnto) ∧ ∃ g : GroupMap, f.value.inverseMap = .ok g.value ∧
        g.src = f.tgt ∧ g.tgt = f.src ∧ f.IsUndoneBy g ∧ g.IsUndoneBy f) ∨
      ¬(f.IsOneToOne ∧ f.IsOnto) ∧
        ∃ e, f.value.inverseMap = .error e ∧ e.category = .precondition := by
  rw [h.isOneToOne_iff, h.isOnto_iff]
  obtain ⟨e, rfl, g, hg, hsrc, htgt, hback⟩ | herror := h.standsForMap.inverse_cases h.src h.tgt
  · refine .inl ⟨e.bijective, g, hg, hsrc, htgt, fun a ha v hv => ?_, fun b hb w hw => ?_⟩
    · obtain ⟨x, hx⟩ := h.src.standing a ha
      obtain ⟨v', hv', hy⟩ := h.apply_spec hx
      obtain rfl := Except.ok.inj (hv.symm.trans hv')
      exact (hback.apply_equal_iff hy hx).2 (e.symm_apply_apply x)
    · obtain ⟨y, hy⟩ := hback.src.standing b hb
      obtain ⟨w', hw', hx⟩ := hback.apply_spec hy
      obtain rfl := Except.ok.inj (hw.symm.trans hw')
      exact (h.apply_equal_iff hx hy).2 (e.apply_symm_apply y)
  · exact .inr herror

end Sends

end GroupMap

/-! ## Maps between valid groups -/

namespace ValidGroup

/-- The target inverts the values of the map, as they are written. -/
def InvertsValues (K : ValidGroup) (f : GroupMap) : Prop :=
  ∀ b ∈ f.send.values.toList, ∀ k, b.keyed = .ok k → K.Invertible K.Stands k

/-- What the questions about a map from `G` to `K` tell. -/
structure TellsBijective (G K : ValidGroup) (f : GroupMap) : Prop where
  /-- Found to be one-to-one is a map that sends only the identity to the identity, if anything. -/
  isInjective_spec : ∃ answer, f.isInjective = .ok answer ∧ (answer = true ↔
    ∀ a ∈ G.els, ∀ v, f.apply a = .ok v → v.equal K.identity = .ok true → a = G.identity)
  /-- Found to be onto is a map whose values generate the target. -/
  isSurjective_spec : K.InvertsValues f → ∃ answer, f.isSurjective = .ok answer ∧ (answer = true ↔
    ∀ H : Subgroup K.Element, (∀ v ∈ f.send.values.toList, ∀ y, K.Stands v y → y ∈ H) → H = ⊤)
  isIso_spec : K.InvertsValues f → ∃ answer, f.isIso = .ok answer ∧
    (answer = true ↔ f.isInjective = .ok true ∧ f.isSurjective = .ok true)
  /-- For a homomorphism these are the questions whether the map is one-to-one and onto. -/
  isInjective_iff : f.isHom = .ok true → (f.isInjective = .ok true ↔ f.IsOneToOne)
  isSurjective_iff : f.isHom = .ok true → K.InvertsValues f →
    (f.isSurjective = .ok true ↔ f.IsOnto)
  /-- Inversion succeeds exactly if the map is one-to-one and onto, homomorphism or not. -/
  inverse_spec : ((f.IsOneToOne ∧ f.IsOnto) ∧ ∃ g : GroupMap, f.value.inverseMap = .ok g.value ∧
      g.src = K.toFiniteGroup ∧ g.tgt = G.toFiniteGroup ∧ f.IsUndoneBy g ∧ g.IsUndoneBy f) ∨
    ¬(f.IsOneToOne ∧ f.IsOnto) ∧
      ∃ e, f.value.inverseMap = .error e ∧ e.category = .precondition

variable {G K : ValidGroup} {f : GroupMap}

theorem kernel_trivial_iff {φ : G.Element → K.Element} (h : f.Sends G.Stands K.Stands φ)
    (htgt : f.tgt = K.toFiniteGroup) : (∀ x, φ x = 1 → x = 1) ↔
      ∀ a ∈ G.els, ∀ v, f.apply a = .ok v → v.equal K.identity = .ok true → a = G.identity := by
  have hone : K.Stands f.tgt.identity 1 := h.tgt.one
  rw [htgt] at hone
  constructor
  · intro hφ a ha v hv heq
    obtain ⟨x, hx⟩ := G.realizes.standing a ha
    have hx1 := hφ x ((h.apply_equal_iff hx hone).1 ⟨v, hv, heq⟩)
    exact G.realizes.eq_of_stands ha G.realizes.identity_mem (hx1 ▸ hx) G.realizes.one
  · intro hall x hx
    obtain ⟨a, ha, hax⟩ := G.realizes.surjective x
    obtain ⟨v, hv, heq⟩ := (h.apply_equal_iff hax hone).2 hx
    have hidentity := hall a ha v hv heq
    exact faithful.unique hax (hidentity ▸ G.realizes.one)

theorem values_generate_iff {φ : G.Element → K.Element} (h : f.Sends G.Stands K.Stands φ) :
    Subgroup.closure (Set.range φ) = ⊤ ↔ ∀ H : Subgroup K.Element,
      (∀ v ∈ f.send.values.toList, ∀ y, K.Stands v y → y ∈ H) → H = ⊤ := by
  have hmem : ∀ H : Subgroup K.Element, (∀ v ∈ f.send.values.toList, ∀ y, K.Stands v y → y ∈ H) ↔
      Set.range φ ⊆ H := by
    intro H
    rw [← h.extent_values]
    exact ⟨fun hall y ⟨v, hv, hy⟩ => hall v hv y hy, fun hsub v hv y hy => hsub ⟨v, hv, hy⟩⟩
  simp only [hmem]
  constructor
  · intro htop H hH
    exact top_le_iff.1 (htop ▸ (Subgroup.closure_le H).2 hH)
  · exact fun hall => hall _ Subgroup.subset_closure

theorem tellsBijective_of_sends {φ : G.Element → K.Element} (h : f.Sends G.Stands K.Stands φ)
    (hsrc : f.src = G.toFiniteGroup) (htgt : f.tgt = K.toFiniteGroup) : G.TellsBijective K f := by
  have hinverts : K.InvertsValues f → ∀ b ∈ f.send.values.toList, ∀ k, b.keyed = .ok k →
      f.tgt.Invertible K.Stands k := fun hvalues => htgt.symm ▸ hvalues
  obtain ⟨injective, hinjective, hiff⟩ := h.isInjective_iff
  exact {
    isInjective_spec := ⟨injective, hinjective, hiff.trans (kernel_trivial_iff h htgt)⟩
    isSurjective_spec := fun hvalues => by
      obtain ⟨surjective, hsurjective, hiff⟩ := h.isSurjective_iff (hinverts hvalues)
      exact ⟨surjective, hsurjective, hiff.trans (values_generate_iff h)⟩
    isIso_spec := fun hvalues => by
      obtain ⟨surjective, hsurjective, -⟩ := h.isSurjective_iff (hinverts hvalues)
      rw [GroupMap.isIso, hinjective, ok_bind, hsurjective]
      exact exists_ite_false (by rw [Except.ok.injEq]) ⟨surjective, rfl, by rw [Except.ok.injEq]⟩
    isInjective_iff := fun hf => by
      obtain ⟨ψ, rfl⟩ := h.exists_monoidHom hf
      rw [eq_ok_true_iff h.isInjective_spec, h.isOneToOne_iff]
    isSurjective_iff := fun hf hvalues => by
      obtain ⟨ψ, rfl⟩ := h.exists_monoidHom hf
      rw [eq_ok_true_iff (h.isSurjective_spec (hinverts hvalues)), h.isOnto_iff]
    inverse_spec := hsrc ▸ htgt ▸ h.inverse_spec }

/-- What is found out about a map whose values are elements of the target. -/
theorem tellsBijective (hf : f.Between G.toFiniteGroup K.toFiniteGroup)
    (hvalues : Standing K.Stands f.send.values.toList) : G.TellsBijective K f := by
  obtain ⟨φ, hφ⟩ := hf.exists_sends G.realizes K.realizes hvalues
  exact tellsBijective_of_sends hφ hf.src_eq hf.tgt_eq

/-- The parities of the residues modulo six are onto and not one-to-one. -/
theorem tellsBijective_parityMap :
    let G := validResidues (n := 6) (by decide) (by decide)
    let K := validResidues (n := 2) (by decide) (by decide)
    parityMap.Between G.toFiniteGroup K.toFiniteGroup ∧
      Standing K.Stands parityMap.send.values.toList ∧ G.TellsBijective K parityMap := by
  intro G K
  have hstand : Standing K.Stands parityMap.send.values.toList := fun b hb =>
    K.realizes.standing b (mem_values_parityMap hb)
  exact ⟨between_parityMap, hstand, tellsBijective between_parityMap hstand⟩

end ValidGroup

/-! ## A map that is no bijection and is found to be an isomorphism -/

/-- Both residues modulo two are sent to the generator. -/
def constantMap : GroupMap :=
  ⟨residues 2, residues 2, .ofList [(.int 0, .int 1), (.int 1, .int 1)]⟩

theorem els_residues_two : (residues 2).els = [.int 0, .int 1] :=
  els_residues (by decide)

theorem sends_constantMap : constantMap.Sends (Residue 2) (Residue 2)
    (fun _ => Multiplicative.ofAdd 1) ∧ constantMap.send.values.toList = [.int 1, .int 1] := by
  have hG := realizes_residues (n := 2) (by decide)
  have hzero : Residue 2 (.int 0) 1 := ⟨0, by decide, by decide, rfl, rfl⟩
  have hone : Residue 2 (.int 1) (Multiplicative.ofAdd 1) := ⟨1, by decide, by decide, rfl, rfl⟩
  have hpairs : List.Forall₂ (fun g p => ∃ x, Residue 2 g x ∧
      Paired (Residue 2) (Residue 2) p (x, Multiplicative.ofAdd (1 : ZMod 2)))
      (residues 2).els [(.int 0, .int 1), (.int 1, .int 1)] := by
    rw [els_residues_two]
    exact .cons ⟨1, hzero, hzero, hone⟩ (.cons ⟨_, hone, hone, hone⟩ .nil)
  obtain ⟨hsends, htoList⟩ := GroupMap.sends_ofList hG hG hpairs
  refine ⟨hsends, ?_⟩
  rw [← Assignment.map_snd_toList]
  exact congrArg (List.map Prod.snd) htoList

theorem mem_values_constantMap {b : Value} (hb : b ∈ constantMap.send.values.toList) :
    b ∈ (residues 2).els := by
  rw [sends_constantMap.2] at hb
  rw [els_residues_two]
  simpa using Or.inr hb

theorem between_constantMap : constantMap.Between (residues 2) (residues 2) := by
  refine GroupMap.between_ofList (realizes_residues (by decide)).pairwise_els ?_
  rw [els_residues_two]
  exact .cons (.inl rfl) (.cons (.inl rfl) .nil)

theorem generator_ne_one : Multiplicative.ofAdd (1 : ZMod 2) ≠ 1 := by
  decide

/-- The generator alone generates everything. -/
theorem closure_range_constant : Subgroup.closure
    (Set.range fun _ : Multiplicative (ZMod 2) => Multiplicative.ofAdd (1 : ZMod 2)) = ⊤ := by
  have hall : ∀ y : Multiplicative (ZMod 2), y = 1 ∨ y = Multiplicative.ofAdd 1 := by decide
  refine (Subgroup.eq_top_iff' _).2 fun y => ?_
  obtain rfl | rfl := hall y
  · exact Subgroup.one_mem _
  · exact Subgroup.subset_closure ⟨1, rfl⟩

/-- Nothing is sent to the identity, and the values generate the target. -/
theorem isIso_constantMap : constantMap.isInjective = .ok true ∧
    constantMap.isSurjective = .ok true ∧ constantMap.isIso = .ok true := by
  obtain ⟨hsends, -⟩ := sends_constantMap
  have hinv : ∀ b ∈ constantMap.send.values.toList, ∀ k, b.keyed = .ok k →
      constantMap.tgt.Invertible (Residue 2) k := fun b hb k hk =>
    hsends.tgt.invertible_of_keyed (mem_values_constantMap hb) hk
  have hinjective : constantMap.isInjective = .ok true :=
    (eq_ok_true_iff hsends.isInjective_iff).2 fun x hx => absurd hx generator_ne_one
  have hsurjective : constantMap.isSurjective = .ok true :=
    (eq_ok_true_iff (hsends.isSurjective_iff hinv)).2 closure_range_constant
  exact ⟨hinjective, hsurjective, by rw [GroupMap.isIso, hinjective, ok_bind, if_pos rfl,
    hsurjective]⟩

theorem not_isOneToOne_constantMap : ¬constantMap.IsOneToOne := by
  rw [sends_constantMap.1.isOneToOne_iff]
  exact fun hφ => generator_ne_one (@hφ (Multiplicative.ofAdd 1) 1 rfl)

theorem not_isOnto_constantMap : ¬constantMap.IsOnto := by
  rw [sends_constantMap.1.isOnto_iff]
  intro hφ
  obtain ⟨x, hx⟩ := hφ 1
  exact generator_ne_one hx

/-- A map that is not one-to-one, not onto and not inverted is found to be all of this. -/
theorem exists_isIso_constant :
    let G := validResidues (n := 2) (by decide) (by decide)
    ∃ f : GroupMap, GroupMap.ofSending G.candidate G.candidate
        (.mapping 0 [.tuple [.int 0, .int 1], .tuple [.int 1, .int 1]]) = .ok f ∧
      Standing G.Stands f.send.values.toList ∧
      f.isInjective = .ok true ∧ f.isSurjective = .ok true ∧ f.isIso = .ok true ∧
      ¬f.IsOneToOne ∧ ¬f.IsOnto ∧
      ∃ e, f.value.inverseMap = .error e ∧ e.category = .precondition := by
  intro G
  obtain ⟨hinjective, hsurjective, hiso⟩ := isIso_constantMap
  refine ⟨constantMap, ?_, fun b hb => G.realizes.standing b (mem_values_constantMap hb),
    hinjective, hsurjective, hiso, not_isOneToOne_constantMap, not_isOnto_constantMap, ?_⟩
  · refine @GroupMap.ofSending_pairs (residues 2) (residues 2) [(.int 0, .int 1), (.int 1, .int 1)]
      els_residues_two G.realizes.pairwise_els fun g hg => ?_
    obtain ⟨k, hk, -⟩ := G.keyed_eq (G.domain_of_mem hg)
    exact ⟨k, hk⟩
  · obtain ⟨⟨h, -⟩, -⟩ | ⟨-, herror⟩ := sends_constantMap.1.inverse_spec
    · exact absurd h not_isOneToOne_constantMap
    · exact herror

end FiniteGroups
