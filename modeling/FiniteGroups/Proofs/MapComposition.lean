import FiniteGroups.Proofs.Bijectivity
import FiniteGroups.Proofs.RestoredTables

/-!
# Composition of maps

Maps are composed if the group where the first one ends is equal to the group where the second one
begins. Equal groups have the same elements, and an element of one is the same as one of the other
(`ValidGroup.counterpart`), so the composition sends an element to what the second map has for its
counterpart. Composition is associative, the identities are neutral, and a map has an inverse on
both sides exactly if it is one-to-one and onto (`ValidGroup.isComposable`).

Equal groups need not multiply in the same way : a look-up in an array is compared by what the
array held at first, and the array may have been changed since. The composition of homomorphisms is
one if the groups in the middle do multiply in the same way (`ValidGroup.MultipliesAs`), and need
not be one otherwise (`exists_compose_not_isHom`).
-/

set_option linter.unusedSectionVars false

namespace FiniteGroups

open FiniteGroup

namespace GroupMap

/-- The map `p` is the composition of `f` and `g`, where `f` comes first. -/
def IsComposite (f g p : GroupMap) : Prop :=
  Value.composeMaps f.value g.value = .ok p.value

section

variable {M N P : Type} [Group M] [Group N] [Group P] {R : Value → M → Prop}
  {S : Value → N → Prop} {T : Value → P → Prop}

/-- The identity of a group sends elements to themselves. -/
theorem identity_spec {G : FiniteGroup} (hG : G.Realizes R) : ∃ d,
    identity G.candidate = .ok d ∧ d.src = G ∧ d.tgt = G ∧ d.Sends R R id := by
  obtain ⟨keys, hkeys, hall⟩ := exists_mapM (f := Value.keyed)
      (P := fun g k => ∃ x, R g x ∧ R k x) G.els fun g hg => by
    obtain ⟨x, hx⟩ := hG.standing g hg
    obtain ⟨k, hk, hkx⟩ := hG.keyed_eq hx
    exact ⟨k, hk, x, hx, hkx⟩
  have hpairs : List.Forall₂ (fun g p => ∃ x, R g x ∧ Paired R R p (x, id x)) G.els
      (keys.map fun k => (k, k)) :=
    List.forall₂_map_right_iff.2 (hall.imp fun g k ⟨x, hx, hkx⟩ => ⟨x, hx, hkx, hkx⟩)
  obtain ⟨hsends, -⟩ := sends_ofList hG hG hpairs
  obtain ⟨d, hd, hspec⟩ := ofAssignment_spec hG hG hsends.standing hsends.graph
  refine ⟨d, ?_, hspec⟩
  show (do
    let els ← G.els.mapM Value.keyed
    ofAssignment G G (.ofList (els.map fun g => (g, g)))) = _
  rw [hkeys, ok_bind, hd]

variable {f g : GroupMap} {φ : M → N} {N' : Type} [Group N'] {S' : Value → N' → Prop}
  {ψ : N' → P} {σ : N → N'}

/-- Maps are composed as functions are, if elements are carried to where the second one begins. -/
theorem Sends.exists_composite (hf : f.Sends R S φ) (hg : g.Sends S' T ψ)
    (hmid : f.tgt.value.equal g.src.value = .ok true) (hσ : Carried S S' σ) :
    ∃ p, f.IsComposite g p ∧ p.src = f.src ∧ p.tgt = g.tgt ∧ p.Sends R T (ψ ∘ σ ∘ φ) :=
  hf.standsForMap.compose_carried hf.src hg.src.faithful hg.tgt hmid hσ hg.standsForMap

/-- Maps that send elements in the same way are equal, if the groups are. -/
theorem Sends.equal_eq {φ' : M → N} (hf : f.Sends R S φ) (hg : g.Sends R S φ')
    (hcompare : ComparesEntries S) (hsrc : f.src.value.equal g.src.value = .ok true)
    (htgt : f.tgt.value.equal g.tgt.value = .ok true) (h : φ = φ') :
    f.value.equal g.value = .ok true :=
  (eq_ok_true_iff (hf.standsForMap.equal_spec hf.src hf.tgt hcompare hsrc htgt
    hg.standsForMap)).2 h

end

end GroupMap

/-! ## Equal groups -/

namespace ValidGroup

section

variable {G H : ValidGroup} (h : G.value.equal H.value = .ok true)
include h

theorem exists_counterpart (x : G.Element) : ∃ y : H.Element, (x.1 == y.1) = true := by
  have hx : x.1 ∈ G.elements.toList := G.intact.els_eq ▸ x.2
  obtain ⟨b, hb, hsame⟩ := Value.exists_of_sameMembers (sameMembers_of_equal_value h) hx
  exact ⟨⟨b, H.intact.els_eq ▸ hb⟩, hsame⟩

/-- The element of a group that an element of an equal group is the same as. -/
noncomputable def counterpart (x : G.Element) : H.Element :=
  (exists_counterpart h x).choose

theorem beq_counterpart (x : G.Element) : (x.1 == (counterpart h x).1) = true :=
  (exists_counterpart h x).choose_spec

theorem carried_counterpart : Carried G.Stands H.Stands (counterpart h) := by
  rintro b y ⟨hdom, hby⟩
  obtain ⟨l, hl, -⟩ := G.keyed_eq hdom
  exact ⟨⟨l, hl⟩, _, BEq.trans hby (beq_counterpart h y), stands_self _⟩

end

/-- Elements of `G` and of `H` that are the same have the same products. -/
def MultipliesAs (G H : ValidGroup) : Prop :=
  ∀ a ∈ G.els, ∀ b ∈ G.els, ∀ a' ∈ H.els, ∀ b' ∈ H.els, (a == a') = true → (b == b') = true →
    ∀ c c', G.mul a b = .ok c → H.mul a' b' = .ok c' → (c == c') = true

/-- A group multiplies as it does itself, so the condition is met where maps meet in one group. -/
theorem multipliesAs_self (G : ValidGroup) : G.MultipliesAs G := by
  intro a ha b hb a' ha' b' hb' haa' hbb' c c' hc hc'
  obtain ⟨c'', hc'', -, hsame⟩ := G.mul_congr (G.domain_of_mem ha) (G.domain_of_mem ha')
    (G.domain_of_mem hb) (G.domain_of_mem hb') haa' hbb' hc
  obtain rfl := Except.ok.inj (hc'.symm.trans hc'')
  exact hsame

/-- Counterparts in a group that multiplies in the same way have the same products. -/
theorem counterpart_mul {G H : ValidGroup} (h : G.value.equal H.value = .ok true)
    (hmul : G.MultipliesAs H) (x y : G.Element) :
    counterpart h (x * y) = counterpart h x * counterpart h y := by
  obtain ⟨c, hc, hxy⟩ := G.realizes.mul_eq (stands_self x) (stands_self y)
  obtain ⟨c', hc', hxy'⟩ :=
    H.realizes.mul_eq (stands_self (counterpart h x)) (stands_self (counterpart h y))
  have hsame := hmul _ x.2 _ y.2 _ (counterpart h x).2 _ (counterpart h y).2
    (beq_counterpart h x) (beq_counterpart h y) c c' hc hc'
  refine (H.realizes.faithful (stands_self _) hxy').1 ?_
  exact BEq.trans (BEq.symm (beq_counterpart h (x * y))) (BEq.trans (BEq.symm hxy.2) hsame)

/-- Counterparts as a homomorphism. -/
noncomputable def counterpartHom {G H : ValidGroup} (h : G.value.equal H.value = .ok true)
    (hmul : G.MultipliesAs H) : G.Element →* H.Element :=
  MonoidHom.mk' (counterpart h) (counterpart_mul h hmul)

/-- Whether the counterpart of an element is in a subgroup can be asked of the element. -/
theorem contains_counterpart {G H : ValidGroup} (h : G.value.equal H.value = .ok true)
    {L : FiniteGroup} {T : Set H.Element} (hL : Consists H.Stands L T) {b : Value} {y : G.Element}
    (hb : G.Stands b y) :
    ∃ answer, L.contains b = .ok answer ∧ (answer = true ↔ counterpart h y ∈ T) := by
  obtain ⟨⟨l, hl⟩, b', hsame, hb'⟩ := carried_counterpart h hb
  refine ⟨_, contains_of_keyed hl, ?_⟩
  rw [L.elements.contains_congr (BEq.trans (Value.beq_of_keyed hl) hsame),
    H.realizes.faithful.contains_iff hL.standing hb', hL.extent_eq]

/-! ## Maps of valid groups -/

/-- A map from `G` to `H` that sends elements to elements. -/
structure IsMap (G H : ValidGroup) (f : GroupMap) : Prop where
  between : f.Between G.toFiniteGroup H.toFiniteGroup
  standing : Standing H.Stands f.send.values.toList

/-- The map goes from `G` to `H` and sends elements as `φ` does. -/
structure Performs (G H : ValidGroup) (f : GroupMap) (φ : G.Element → H.Element) : Prop where
  src_eq : f.src = G.toFiniteGroup
  tgt_eq : f.tgt = H.toFiniteGroup
  sends : f.Sends G.Stands H.Stands φ

theorem IsMap.exists_performs {G H : ValidGroup} {f : GroupMap} (hf : G.IsMap H f) :
    ∃ φ, G.Performs H f φ := by
  obtain ⟨φ, hφ⟩ := hf.between.exists_sends G.realizes H.realizes hf.standing
  exact ⟨φ, hf.between.src_eq, hf.between.tgt_eq, hφ⟩

/-- Maps to the group can be compared : it is equal to itself, and so are the elements wherever they
are one thing. -/
structure IsComparable (G : ValidGroup) : Prop where
  equal_self : G.value.equal G.value = .ok true
  compares : ComparesEntries G.Stands

theorem isComparable_residues {n : Nat} {hn : 0 < n} {hbound : n ≤ 2 ^ 63} :
    (validResidues hn hbound).IsComparable where
  equal_self := by
    refine equal_value_self ?_
    show (Value.op .addMod [.int n]).compare (.op .addMod [.int n]) = _
    rw [Value.compare, if_pos rfl]
    exact (compareEach_writes .int .int).trans (congrArg _ (Value.same_refl _))
  compares := by
    rintro a b x y ⟨⟨_, hx⟩, -⟩ ⟨⟨_, hy⟩, -⟩
    exact compares_residue hx hy

/-- The map `i` is the inverse of `f` on both sides. -/
structure IsInverse (G H : ValidGroup) (f i : GroupMap) : Prop where
  inverseMap_eq : f.value.inverseMap = .ok i.value
  compose_inverse : ∃ p d, f.IsComposite i p ∧ GroupMap.identity G.candidate = .ok d ∧
    p.value.equal d.value = .ok true
  inverse_compose : ∃ p d, i.IsComposite f p ∧ GroupMap.identity H.candidate = .ok d ∧
    p.value.equal d.value = .ok true
  isHom_eq : f.isHom = .ok true → i.isHom = .ok true

/-- What there is to say about the composition of maps `f` from `A` to `B`, `g` from `B'` to `C` and
`h` from `C'` to `D`, where `B` and `B'` are equal and so are `C` and `C'`. -/
structure IsComposable (A B B' C C' D : ValidGroup) (f g h : GroupMap) : Prop where
  /-- The maps are composed, and the composition sends an element to the image of its image. The
  product of maps is the composition the other way round. -/
  exists_composite : ∃ p q, f.IsComposite g p ∧ (∀ a ∈ A.els, ∃ b c d, f.apply a = .ok b ∧
      g.apply b = .ok c ∧ p.apply a = .ok d ∧ d.equal c = .ok true) ∧
    g.value.times f.value = .ok q ∧ q.equal p.value = .ok true
  assoc : ∃ p q r s, f.IsComposite g p ∧ g.IsComposite h q ∧ p.IsComposite h r ∧
    f.IsComposite q s ∧ r.value.equal s.value = .ok true
  identity_compose : ∃ d p, GroupMap.identity A.candidate = .ok d ∧ d.IsComposite f p ∧
    p.value.equal f.value = .ok true
  compose_identity : ∃ d p, GroupMap.identity B.candidate = .ok d ∧ f.IsComposite d p ∧
    p.value.equal f.value = .ok true
  /-- The composition of homomorphisms is a homomorphism, and its kernel consists of what is sent to
  the kernel of the second one. -/
  isHom_composite : B.MultipliesAs B' → f.isHom = .ok true → g.isHom = .ok true → ∃ p K L,
    f.IsComposite g p ∧ p.isHom = .ok true ∧ p.kernel = .ok K ∧ g.kernel = .ok L ∧
      ∀ a ∈ A.els, ∃ b answer, f.apply a = .ok b ∧ K.contains a = .ok answer ∧
        L.contains b = .ok answer
  /-- A map that is one-to-one and onto is inverted, and any other map is refused. -/
  inverse_spec : ((f.IsOneToOne ∧ f.IsOnto) ∧ ∃ i, A.IsInverse B f i) ∨
    ¬(f.IsOneToOne ∧ f.IsOnto) ∧ ∃ e, f.value.inverseMap = .error e ∧ e.category = .precondition

section

variable {A B B' C C' D : ValidGroup} {f g h : GroupMap}

theorem counterpart_self {G : ValidGroup} (h : G.value.equal G.value = .ok true) :
    counterpart h = id := by
  funext x
  exact ((G.realizes.faithful (stands_self x) (stands_self _)).1 (beq_counterpart h x)).symm

/-- The identity of a group goes from the group to itself and moves nothing. -/
theorem exists_identity (G : ValidGroup) :
    ∃ d, GroupMap.identity G.candidate = .ok d ∧ G.Performs G d id := by
  obtain ⟨d, hd, hsrc, htgt, hsends⟩ := GroupMap.identity_spec G.realizes
  exact ⟨d, hd, hsrc, htgt, hsends⟩

namespace Performs

variable {φ φ' : A.Element → B.Element} (hf : A.Performs B f φ)
include hf

theorem exists_composite {ψ : B'.Element → C.Element} (hg : B'.Performs C g ψ)
    (hB : B.value.equal B'.value = .ok true) :
    ∃ p, f.IsComposite g p ∧ A.Performs C p (ψ ∘ counterpart hB ∘ φ) := by
  obtain ⟨p, hp, hsrc, htgt, hsends⟩ := hf.sends.exists_composite hg.sends
    (by rw [hf.tgt_eq, hg.src_eq, hB]) (carried_counterpart hB)
  exact ⟨p, hp, hsrc.trans hf.src_eq, htgt.trans hg.tgt_eq, hsends⟩

/-- Maps that meet in one group are composed as functions are. -/
theorem exists_composite_self {ψ : B.Element → C.Element} (hg : B.Performs C g ψ)
    (hB : B.value.equal B.value = .ok true) :
    ∃ p, f.IsComposite g p ∧ A.Performs C p (ψ ∘ φ) := by
  obtain ⟨p, hp, hperforms⟩ := hf.exists_composite hg hB
  rw [counterpart_self hB] at hperforms
  exact ⟨p, hp, hperforms⟩

theorem equal_eq (hg : A.Performs B g φ') (hA : A.value.equal A.value = .ok true)
    (hB : B.IsComparable) (h : φ = φ') : f.value.equal g.value = .ok true := by
  refine hf.sends.equal_eq hg.sends hB.compares ?_ ?_ h
  · rw [hf.src_eq, hg.src_eq, hA]
  · rw [hf.tgt_eq, hg.tgt_eq, hB.equal_self]

/-- The inverse of a bijection undoes it. -/
theorem isInverse {e : A.Element ≃ B.Element} {i : GroupMap} (he : ⇑e = φ)
    (hi : f.value.inverseMap = .ok i.value) (hback : B.Performs A i e.symm) (hA : A.IsComparable)
    (hB : B.IsComparable) : A.IsInverse B f i := by
  subst he
  obtain ⟨p, hp, hpid⟩ := hf.exists_composite_self hback hB.equal_self
  obtain ⟨q, hq, hqid⟩ := hback.exists_composite_self hf hA.equal_self
  obtain ⟨d, hd, hdid⟩ := A.exists_identity
  obtain ⟨d', hd', hdid'⟩ := B.exists_identity
  refine ⟨hi, ⟨p, d, hp, hd, ?_⟩, ⟨q, d', hq, hd', ?_⟩, fun hhom => ?_⟩
  · exact hpid.equal_eq hdid hA.equal_self hA e.symm_comp_self
  · exact hqid.equal_eq hdid' hB.equal_self hB e.self_comp_symm
  · obtain ⟨ψ, hψ⟩ := hf.sends.exists_monoidHom hhom
    let e' : A.Element ≃* B.Element := MulEquiv.mk e fun x y => by simp [← hψ]
    exact (eq_ok_true_iff hback.sends.isHom_spec).2 ⟨map_one e'.symm, map_mul e'.symm⟩

theorem inverse_spec (hA : A.IsComparable) (hB : B.IsComparable) :
    ((f.IsOneToOne ∧ f.IsOnto) ∧ ∃ i, A.IsInverse B f i) ∨ ¬(f.IsOneToOne ∧ f.IsOnto) ∧
      ∃ e, f.value.inverseMap = .error e ∧ e.category = .precondition := by
  rw [hf.sends.isOneToOne_iff, hf.sends.isOnto_iff]
  obtain ⟨e, he, i, hi, hsrc, htgt, hback⟩ | herror :=
    hf.sends.standsForMap.inverse_cases hf.sends.src hf.sends.tgt
  · have hperforms : B.Performs A i e.symm := ⟨hsrc.trans hf.tgt_eq, htgt.trans hf.src_eq, hback⟩
    exact .inl ⟨he ▸ e.bijective, i, hf.isInverse he hi hperforms hA hB⟩
  · exact .inr herror

/-- A composition sends an element to the image of its image. -/
theorem apply_composite {ψ : B'.Element → C.Element} {p : GroupMap} (hg : B'.Performs C g ψ)
    {hB : B.value.equal B'.value = .ok true}
    (hp : A.Performs C p (ψ ∘ counterpart hB ∘ φ)) {a : Value} (ha : a ∈ A.els) :
    ∃ b c d, f.apply a = .ok b ∧ g.apply b = .ok c ∧ p.apply a = .ok d ∧ d.equal c = .ok true := by
  obtain ⟨b, hb, hbx⟩ := hf.sends.apply_spec (stands_self ⟨a, ha⟩)
  obtain ⟨d, hd, hdx⟩ := hp.sends.apply_spec (stands_self ⟨a, ha⟩)
  obtain ⟨⟨l, hl⟩, b', hsame, hbx'⟩ := carried_counterpart hB hbx
  obtain ⟨c, hc, hcx⟩ := hg.sends.tabulates.get?_spec hg.sends.src.faithful hbx'
  rw [← g.send.get?_congr (BEq.trans (Value.beq_of_keyed hl) hsame)] at hc
  refine ⟨b, c, d, hb, ?_, hd, (C.realizes.equal_iff hdx hcx).2 rfl⟩
  rw [GroupMap.apply, hl, ok_bind]
  simp only [hc]
  rfl

/-- The composition of homomorphisms between groups that multiply in the same way. -/
theorem isHom_composite {ψ : B'.Element → C.Element} {p : GroupMap} (hg : B'.Performs C g ψ)
    {hB : B.value.equal B'.value = .ok true}
    (hp : A.Performs C p (ψ ∘ counterpart hB ∘ φ)) (hmul : B.MultipliesAs B')
    (hfhom : f.isHom = .ok true) (hghom : g.isHom = .ok true) : p.isHom = .ok true ∧
      ∃ K L, p.kernel = .ok K ∧ g.kernel = .ok L ∧ ∀ a ∈ A.els, ∃ b answer,
        f.apply a = .ok b ∧ K.contains a = .ok answer ∧ L.contains b = .ok answer := by
  obtain ⟨φ', rfl⟩ := hf.sends.exists_monoidHom hfhom
  obtain ⟨ψ', rfl⟩ := hg.sends.exists_monoidHom hghom
  let χ : A.Element →* C.Element := ψ'.comp ((counterpartHom hB hmul).comp φ')
  have hχ : p.Sends A.Stands C.Stands χ := hp.sends
  obtain ⟨K, hK, hKker⟩ := hχ.kernel_spec
  obtain ⟨L, hL, hLker⟩ := hg.sends.kernel_spec
  refine ⟨hχ.isHom_eq, K, L, hK, hL, fun a ha => ?_⟩
  obtain ⟨b, hb, hbx⟩ := hf.sends.apply_spec (stands_self ⟨a, ha⟩)
  obtain ⟨answer, hKa, hLb⟩ := exists_same_answer
    (A.realizes.contains_spec hKker (stands_self ⟨a, ha⟩)) (contains_counterpart hB hLker hbx)
  exact ⟨b, answer, hb, hKa, hLb⟩

end Performs

/-- Maps between valid groups that are equal to themselves are composed as functions are. -/
theorem isComposable (hA : A.IsComparable) (hB : B.IsComparable) (hC : C.IsComparable)
    (hD : D.IsComparable) (hBB' : B.value.equal B'.value = .ok true)
    (hCC' : C.value.equal C'.value = .ok true) (hf : A.IsMap B f) (hg : B'.IsMap C g)
    (hh : C'.IsMap D h) : IsComposable A B B' C C' D f g h := by
  obtain ⟨φ, hφ⟩ := hf.exists_performs
  obtain ⟨ψ, hψ⟩ := hg.exists_performs
  obtain ⟨χ, hχ⟩ := hh.exists_performs
  obtain ⟨p, hp, hφψ⟩ := hφ.exists_composite hψ hBB'
  obtain ⟨q, hq, hψχ⟩ := hψ.exists_composite hχ hCC'
  obtain ⟨r, hr, hleft⟩ := hφψ.exists_composite hχ hCC'
  obtain ⟨s, hs, hright⟩ := hφ.exists_composite hψχ hBB'
  obtain ⟨d, hd, hdid⟩ := A.exists_identity
  obtain ⟨e, he, heid⟩ := B.exists_identity
  obtain ⟨u, hu, hdφ⟩ := hdid.exists_composite_self hφ hA.equal_self
  obtain ⟨v, hv, hφe⟩ := hφ.exists_composite_self heid hB.equal_self
  exact {
    exists_composite := ⟨p, p.value, hp, fun a ha => hφ.apply_composite hψ hφψ ha, hp,
      hφψ.equal_eq hφψ hA.equal_self hC rfl⟩
    assoc := ⟨p, q, r, s, hp, hq, hr, hs, hleft.equal_eq hright hA.equal_self hD rfl⟩
    identity_compose := ⟨d, u, hd, hu, hdφ.equal_eq hφ hA.equal_self hB rfl⟩
    compose_identity := ⟨e, v, he, hv, hφe.equal_eq hφ hA.equal_self hB rfl⟩
    isHom_composite := fun hmul hfhom hghom => by
      obtain ⟨hhom, K, L, hkernel⟩ := hφ.isHom_composite hψ hφψ hmul hfhom hghom
      exact ⟨p, K, L, hp, hhom, hkernel⟩
    inverse_spec := hφ.inverse_spec hA hB }

end

/-- The parities of the residues modulo six, and a map of the parities that is no homomorphism. -/
theorem isComposable_parityMap :
    let G := validResidues (n := 6) (by decide) (by decide)
    let K := validResidues (n := 2) (by decide) (by decide)
    G.IsComparable ∧ K.IsComparable ∧ K.value.equal K.value = .ok true ∧ G.IsMap K parityMap ∧
      K.IsMap K constantMap ∧ IsComposable G K K K K K parityMap constantMap constantMap := by
  intro G K
  have hG : G.IsComparable := isComparable_residues
  have hK : K.IsComparable := isComparable_residues
  have hparity : G.IsMap K parityMap :=
    ⟨between_parityMap, fun b hb => K.realizes.standing b (mem_values_parityMap hb)⟩
  have hconstant : K.IsMap K constantMap :=
    ⟨between_constantMap, fun b hb => K.realizes.standing b (mem_values_constantMap hb)⟩
  exact ⟨hG, hK, hK.equal_self, hparity, hconstant, isComposable hG hK hK hK hK.equal_self
    hK.equal_self hparity hconstant hconstant⟩

end ValidGroup

/-! ## Numbers with an array that was changed -/

/-- The table adds the constant `c` to the sum of two numbers, which are taken modulo two. -/
structure AddsConstant (t : Table) (c : ZMod 2) : Prop where
  size_eq : t.size = 2
  get_eq : ∀ i j : ZMod 2, t.get i.val j.val = (i + j + c).val

/-- The number `k` stands for `k + c`. -/
def Shifted (c : ZMod 2) (a : Value) (x : Multiplicative (ZMod 2)) : Prop :=
  ∃ k : ZMod 2, a = .int k.val ∧ x = Multiplicative.ofAdd (k + c)

/-- The numbers `0` and `1` with a look-up in an array that holds `t` and held `s` when the look-up
was made. -/
def changedNumbers (s t : Table) (c : ZMod 2) : FiniteGroup :=
  ofRoster (.ofList [.int 0, .int 1]) (.lookup (Value.ofTable t) (Value.lookupIn s).ordered)
    (.int (-c).val) .none .none .none

section

variable {s t : Table} {c d : ZMod 2}

theorem faithful_shifted : Faithful (Shifted c) := by
  rintro _ _ _ _ ⟨j, rfl, rfl⟩ ⟨k, rfl, rfl⟩
  rw [beq_int, Int.natCast_inj, (ZMod.val_injective 2).eq_iff, Multiplicative.ofAdd.injective.eq_iff,
    add_left_inj]

theorem mem_numbers (k : ZMod 2) : Value.int k.val ∈ [Value.int 0, .int 1] := by
  obtain rfl | rfl : k = 0 ∨ k = 1 := by revert k; decide
  · exact List.mem_cons_self
  · exact List.mem_cons_of_mem _ List.mem_cons_self

theorem extent_numbers : Standing (Shifted c) [.int 0, .int 1] ∧
    extent (Shifted c) [.int 0, .int 1] = Set.univ := by
  refine ⟨?_, Set.eq_univ_of_forall fun x => ⟨_, mem_numbers (x.toAdd - c), x.toAdd - c, rfl, ?_⟩⟩
  · intro a ha
    obtain rfl | ha := List.mem_cons.1 ha
    · exact ⟨_, 0, rfl, rfl⟩
    · exact ⟨_, 1, List.mem_singleton.1 ha, rfl⟩
  · rw [sub_add_cancel, ofAdd_toAdd]

theorem toList_numbers : (Roster.ofList [Value.int 0, .int 1]).toList = [.int 0, .int 1] := by
  refine Roster.toList_ofList (List.pairwise_pair.2 ?_)
  rw [← Bool.not_eq_true, beq_int]
  decide

theorem multiplies_changedNumbers (ht : AddsConstant t c) :
    Multiplies (Shifted c) (changedNumbers s t c).mul where
  faithful := faithful_shifted
  mul_eq := by
    rintro _ _ _ _ ⟨i, rfl, rfl⟩ ⟨j, rfl, rfl⟩
    have hlt : ∀ k : ZMod 2, k.val < t.size := fun k => k.val_lt.trans_eq ht.size_eq.symm
    refine ⟨_, Value.lookup_call (Value.lookupIn s).ordered (hlt i) (hlt j), i + j + c,
      by rw [ht.get_eq], ?_⟩
    rw [← ofAdd_add, add_add_add_comm, ← add_assoc]
  keyed_eq := by
    rintro _ _ ⟨k, rfl, rfl⟩
    exact ⟨_, rfl, k, rfl, rfl⟩

/-- The numbers are realized by the residues modulo two, of which each is moved by `c`. -/
theorem realizes_changedNumbers (ht : AddsConstant t c) :
    (changedNumbers s t c).Realizes (Shifted c) := by
  have hone : Shifted c (.int (-c).val) 1 := ⟨-c, rfl, by rw [neg_add_cancel, ofAdd_zero]⟩
  refine Realizes.of_search (multiplies_changedNumbers ht) ?_ ?_ ?_ hone ?_ (.inl rfl)
  · rintro _ _ _ _ ⟨j, rfl, -⟩ ⟨k, rfl, -⟩
    exact Value.equal_of_isSimple rfl rfl
  · rw [toList_numbers]
    exact extent_numbers.1
  · rw [toList_numbers]
    exact extent_numbers.2
  · rintro x ⟨k, hk, -⟩
    cases hk

/-- They are a valid group. -/
def validChanged (s : Table) (ht : AddsConstant t c) : ValidGroup :=
  .ofRealizes (realizes_changedNumbers (s := s) ht)

/-- Look-ups in one array are equal, whatever it holds by now. -/
theorem compare_lookup_of_data (grid grid' : Value) (data : List Value) :
    (Value.lookup grid data).compare (.lookup grid' data) = .ok true := by
  have hsame : (Value.lookup grid data == .lookup grid' data) = true := by
    show Value.same _ _ = true
    simp [Value.same, Value.head, Value.ordered, Value.sameEach_refl, Value.same_refl]
  rw [Value.compare_lookup, hsame]

theorem equal_changedNumbers {t' : Table} (ht : AddsConstant t c) (ht' : AddsConstant t' d) :
    (changedNumbers s t c).value.equal (changedNumbers s t' d).value = .ok true := by
  have hlength : (changedNumbers s t c).els.length = (changedNumbers s t' d).els.length :=
    (realizes_changedNumbers ht).order_eq.trans (realizes_changedNumbers ht').order_eq.symm
  have hmembers := Value.sameMembers_of_contains
    (r := (changedNumbers s t c).elements) (s := (changedNumbers s t' d).elements) fun a =>
      Roster.contains_promote.trans Roster.contains_promote.symm
  rw [equal_value_eq_ite, hmembers, decide_eq_true hlength, Bool.and_self, if_pos rfl]
  exact compare_lookup_of_data ..

/-- The same numbers stand for others in the other group. -/
theorem carried_shifted :
    Carried (Shifted c) (Shifted d) fun x => Multiplicative.ofAdd (x.toAdd - c + d) := by
  rintro _ _ ⟨k, rfl, rfl⟩
  exact ⟨⟨_, rfl⟩, _, BEq.rfl, k, rfl, by simp⟩

end

/-- The table of the residues modulo two. -/
def zeroFirst : Table :=
  ⟨2, #[0, 1, 1, 0], rfl⟩

theorem addsConstant_zeroFirst : AddsConstant zeroFirst 0 :=
  ⟨rfl, by decide⟩

theorem addsConstant_oneFirst : AddsConstant oneFirst 1 :=
  ⟨rfl, by decide⟩

/-- Two groups that are equal, with identities that are homomorphisms and are composed to a map that
is none. -/
theorem exists_compose_not_isHom :
    let G := validChanged zeroFirst addsConstant_oneFirst
    let H := validChanged zeroFirst addsConstant_zeroFirst
    G.value.equal H.value = .ok true ∧ ∃ f g p, GroupMap.identity G.candidate = .ok f ∧
      GroupMap.identity H.candidate = .ok g ∧ f.isHom = .ok true ∧ g.isHom = .ok true ∧
      f.IsComposite g p ∧ p.isHom = .ok false := by
  intro G H
  have hequal := equal_changedNumbers (s := zeroFirst) addsConstant_oneFirst addsConstant_zeroFirst
  obtain ⟨f, hf, hfsrc, hftgt, hfid⟩ :=
    GroupMap.identity_spec (realizes_changedNumbers (s := zeroFirst) addsConstant_oneFirst)
  obtain ⟨g, hg, hgsrc, hgtgt, hgid⟩ :=
    GroupMap.identity_spec (realizes_changedNumbers (s := zeroFirst) addsConstant_zeroFirst)
  have hfhom : f.Sends (Shifted 1) (Shifted 1) (MonoidHom.id (Multiplicative (ZMod 2))) := hfid
  have hghom : g.Sends (Shifted 0) (Shifted 0) (MonoidHom.id (Multiplicative (ZMod 2))) := hgid
  obtain ⟨p, hp, -, -, hsends⟩ := hfid.exists_composite hgid
    (by rw [hftgt, hgsrc]; exact hequal) carried_shifted
  obtain ⟨answer, hanswer, hiff⟩ := hsends.isHom_spec
  refine ⟨hequal, f, g, p, hf, hg, hfhom.isHom_eq, hghom.isHom_eq, hp, ?_⟩
  -- the identity of the first group is not the identity of the second one
  have hfalse : answer = false := by
    rw [← Bool.not_eq_true, hiff]
    exact fun h => absurd h.1 (by decide)
  rw [hanswer, hfalse]

end FiniteGroups
