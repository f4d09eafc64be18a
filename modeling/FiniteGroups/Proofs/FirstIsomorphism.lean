import FiniteGroups.Proofs.GeneratorImages
import FiniteGroups.Proofs.Quotients
import Mathlib.Algebra.Field.ZMod
import Mathlib.GroupTheory.QuotientGroup.Basic

/-!
# The first isomorphism theorem

The kernel of a homomorphism between valid groups is a normal subgroup, its image is a subgroup of
the target, and the quotient by the kernel is isomorphic to the image: the coset of an element
corresponds to what the element is sent to. `ValidGroup.IsFirstIso` says so about what is computed,
and `ValidGroup.exists_firstIso` that it is so.

The image is spanned by the values of the map as they are written, so the target must be able to
invert them. That it inverts its elements is not enough: in `exists_image_error` a value is equal
to an element and cannot be inverted.
-/

set_option linter.unusedSectionVars false

namespace FiniteGroups

open FiniteGroup

/-- The coset of some element is `c`, and the element is sent to `b`. -/
def GroupMap.Corresponds (f : GroupMap) (Q : QuotientGroup) (c b : Value) : Prop :=
  ∃ g ∈ f.src.els, ∃ d v, Q.coset g = .ok d ∧ d.equal c = .ok true ∧
    f.apply g = .ok v ∧ v.equal b = .ok true

namespace GroupMap.Sends

variable {M N : Type} [Group M] [Group N] {R : Value → M → Prop} {S : Value → N → Prop}
  {f : GroupMap}

/-! ## Values of the map -/

section

variable {φ : M → N} (h : f.Sends R S φ)
include h

theorem apply_equal_iff {a b : Value} {x : M} {y : N} (ha : R a x) (hb : S b y) :
    (∃ v, f.apply a = .ok v ∧ v.equal b = .ok true) ↔ φ x = y := by
  obtain ⟨v, hv, hvx⟩ := h.apply_spec ha
  rw [← h.tgt.equal_iff hvx hb, hv]
  simp

theorem value_equal_iff {b : Value} {y : N} (hb : S b y) :
    (∃ v ∈ f.send.values.toList, v.equal b = .ok true) ↔ y ∈ Set.range φ := by
  rw [← h.extent_values]
  constructor
  · rintro ⟨v, hv, heq⟩
    obtain ⟨z, hz⟩ := h.standing_values v hv
    exact ⟨v, hv, (h.tgt.equal_iff hz hb).1 heq ▸ hz⟩
  · rintro ⟨v, hv, hy⟩
    exact ⟨v, hv, (h.tgt.equal_iff hy hb).2 rfl⟩

theorem injective_iff : Function.Injective φ ↔ ∀ a ∈ f.src.els, ∀ b ∈ f.src.els, ∀ c d,
    f.apply a = .ok c → f.apply b = .ok d → c.equal d = .ok true → a = b := by
  constructor
  · intro hφ a ha b hb c d hc hd heq
    obtain ⟨x, hx⟩ := h.src.standing a ha
    obtain ⟨y, hy⟩ := h.src.standing b hb
    obtain ⟨d', hd', hdy⟩ := h.apply_spec hy
    obtain rfl := Except.ok.inj (hd.symm.trans hd')
    have hxy := hφ ((h.apply_equal_iff hx hdy).1 ⟨c, hc, heq⟩)
    exact h.src.eq_of_stands ha hb hx (hxy ▸ hy)
  · intro hall x y hxy
    obtain ⟨a, ha, hx⟩ := h.src.surjective x
    obtain ⟨b, hb, hy⟩ := h.src.surjective y
    obtain ⟨c, hc, hcx⟩ := h.apply_spec hx
    obtain ⟨d, hd, hdy⟩ := h.apply_spec hy
    obtain rfl := hall a ha b hb c d hc hd ((h.tgt.equal_iff hcx hdy).2 hxy)
    exact h.src.faithful.unique hx hy

theorem surjective_iff : Function.Surjective φ ↔
    ∀ b ∈ f.tgt.els, ∃ v ∈ f.send.values.toList, v.equal b = .ok true := by
  constructor
  · intro hφ b hb
    obtain ⟨y, hy⟩ := h.tgt.standing b hb
    exact (h.value_equal_iff hy).2 (hφ y)
  · intro hall y
    obtain ⟨b, hb, hy⟩ := h.tgt.surjective y
    exact (h.value_equal_iff hy).1 (hall b hb)

end

/-! ## The quotient by the kernel -/

variable {φ : M →* N} (h : f.Sends R S φ)
include h

/-- The quotient by the kernel is made, and realizes the quotient. -/
theorem exists_quotient (hop : f.src.op.equal f.src.op = .ok true) :
    ∃ K Q, f.kernel = .ok K ∧ Consists R K φ.ker ∧
      QuotientGroup.make f.src.candidate K.candidate = .ok ⟨f.src.value, K.value, Q⟩ ∧
      Q.Realizes (StandsForCoset R φ.ker) := by
  obtain ⟨K, hK, hconsists⟩ := h.kernel_spec
  obtain ⟨gens, -, hspan⟩ := bind_eq_ok.1 hK
  obtain ⟨hKop, htext⟩ := h.src.intact.of_span hspan
  rw [← hKop] at hop
  obtain ⟨Q, hmake, hQ, -⟩ := h.src.make_of_normal hconsists (hKop ▸ hop) htext
  exact ⟨K, Q, hK, hconsists, hmake, hQ⟩

variable {K Q I : FiniteGroup} (hK : Consists R K φ.ker) (hQ : Q.Realizes (StandsForCoset R φ.ker))
include hK hQ

/-- Cosets correspond to values as the quotient is sent to the image. -/
theorem corresponds_iff {c b : Value} {z : M ⧸ φ.ker} {y : N}
    (hc : StandsForCoset R φ.ker c z) (hb : S b y) :
    f.Corresponds ⟨f.src.value, K.value, Q⟩ c b ↔ QuotientGroup.kerLift φ z = y := by
  constructor
  · rintro ⟨g, hg, d, v, hd, hdc, hv, hvb⟩
    obtain ⟨x, hx⟩ := h.src.standing g hg
    obtain ⟨d', -, hd', hdx⟩ := h.src.coset_spec hK hQ hx
    obtain rfl := Except.ok.inj (hd.symm.trans hd')
    rw [← (hQ.equal_iff hdx hc).1 hdc, ← (h.apply_equal_iff hx hb).1 ⟨v, hv, hvb⟩]
    rfl
  · intro hzy
    obtain ⟨x, rfl⟩ := QuotientGroup.mk'_surjective φ.ker z
    obtain ⟨g, hg, hx⟩ := h.src.surjective x
    obtain ⟨d, -, hd, hdx⟩ := h.src.coset_spec hK hQ hx
    obtain ⟨v, hv, hvb⟩ := (h.apply_equal_iff hx hb).2 hzy
    exact ⟨g, hg, d, v, hd, (hQ.equal_iff hdx hc).2 rfl, hv, hvb⟩

theorem order_quotient (hI : Consists S I φ.range) : Q.order = I.order := by
  rw [hQ.order_eq, hI.order_eq h.tgt.faithful, ← Nat.card_coe_set_eq]
  exact Nat.card_congr (QuotientGroup.quotientKerEquivRange φ).toEquiv

/-- The order of the image is the index of the kernel. -/
theorem firstIso_eq (hkernel : f.kernel = .ok K) (himage : f.image = .ok I)
    (hI : Consists S I φ.range) : f.firstIso = .ok I.order := by
  have hpos : 0 < K.order := by
    have := h.src.finite
    rw [hK.order_eq h.src.faithful, ← Nat.card_coe_set_eq]
    exact Nat.card_pos
  have hindex : f.src.order / K.order = I.order := by
    rw [← h.src.order_mul_order hK hQ, Nat.mul_div_cancel _ hpos, h.order_quotient hK hQ hI]
  simp only [GroupMap.firstIso, hkernel, himage, ok_bind, hindex, if_true, pure_eq_ok]

theorem existsUnique_image (hI : Consists S I φ.range) {c : Value} (hc : c ∈ Q.els) :
    ∃! b, b ∈ I.els ∧ f.Corresponds ⟨f.src.value, K.value, Q⟩ c b := by
  obtain ⟨z, hz⟩ := hQ.standing c hc
  obtain ⟨x, rfl⟩ := QuotientGroup.mk'_surjective φ.ker z
  obtain ⟨b, hb, hbx⟩ := hI.mem_iff.1 ⟨x, rfl⟩
  refine ⟨b, ⟨hb, (h.corresponds_iff hK hQ hz hbx).2 rfl⟩, ?_⟩
  rintro b' ⟨hb', hcorresponds⟩
  obtain ⟨y, hy⟩ := hI.standing_els b' hb'
  obtain rfl := (h.corresponds_iff hK hQ hz hy).1 hcorresponds
  exact hI.eq_of_stands h.tgt.faithful hb' hb hy hbx

theorem existsUnique_coset (hI : Consists S I φ.range) {b : Value} (hb : b ∈ I.els) :
    ∃! c, c ∈ Q.els ∧ f.Corresponds ⟨f.src.value, K.value, Q⟩ c b := by
  obtain ⟨y, hy⟩ := hI.standing_els b hb
  obtain ⟨x, rfl⟩ : y ∈ φ.range := hI.mem_iff.2 ⟨b, hb, hy⟩
  obtain ⟨c, hc, hcx⟩ := hQ.surjective x
  refine ⟨c, ⟨hc, (h.corresponds_iff hK hQ hcx hy).2 rfl⟩, ?_⟩
  rintro c' ⟨hc', hcorresponds⟩
  obtain ⟨z, hz⟩ := hQ.standing c' hc'
  have heq := (h.corresponds_iff hK hQ hz hy).1 hcorresponds
  obtain rfl : z = x := QuotientGroup.kerLift_injective φ heq
  exact hQ.eq_of_stands hc' hc hz hcx

/-- Products of cosets correspond to products of values. -/
theorem corresponds_mul (hI : Consists S I φ.range) {c c' b b' : Value} (hc : c ∈ Q.els)
    (hc' : c' ∈ Q.els) (hb : b ∈ I.els) (hb' : b' ∈ I.els)
    (hcb : f.Corresponds ⟨f.src.value, K.value, Q⟩ c b)
    (hcb' : f.Corresponds ⟨f.src.value, K.value, Q⟩ c' b') :
    ∃ d v, Q.mul c c' = .ok d ∧ f.tgt.mul b b' = .ok v ∧
      f.Corresponds ⟨f.src.value, K.value, Q⟩ d v := by
  obtain ⟨z, hz⟩ := hQ.standing c hc
  obtain ⟨z', hz'⟩ := hQ.standing c' hc'
  obtain ⟨y, hy⟩ := hI.standing_els b hb
  obtain ⟨y', hy'⟩ := hI.standing_els b' hb'
  obtain ⟨d, hd, hdz⟩ := hQ.mul_eq hz hz'
  obtain ⟨v, hv, hvy⟩ := h.tgt.mul_eq hy hy'
  refine ⟨d, v, hd, hv, (h.corresponds_iff hK hQ hdz hvy).2 ?_⟩
  rw [map_mul, (h.corresponds_iff hK hQ hz hy).1 hcb, (h.corresponds_iff hK hQ hz' hy').1 hcb']

end GroupMap.Sends

/-! ## Homomorphisms between valid groups -/

namespace ValidGroup

/-- What there is to say about the kernel `N`, the image `I` and the quotient `Q` by the kernel of
a homomorphism. -/
structure IsFirstIso (G K : ValidGroup) (f : GroupMap) (N I : FiniteGroup) (Q : QuotientGroup) :
    Prop where
  kernel_eq : f.kernel = .ok N
  standing_kernel : Standing G.Stands N.els
  /-- The kernel has exactly the elements that are sent to the identity. -/
  contains_kernel : ∀ a x, G.Stands a x → (N.contains a = .ok true ↔
    ∃ v, f.apply a = .ok v ∧ v.equal K.identity = .ok true)
  isNormal_eq : G.toFiniteGroup.candidate.isNormal N.candidate = .ok true
  image_eq : f.image = .ok I
  standing_image : Standing K.Stands I.els
  /-- The image has exactly the values of the map. -/
  contains_image : ∀ b y, K.Stands b y → (I.contains b = .ok true ↔
    ∃ v ∈ f.send.values.toList, v.equal b = .ok true)
  isInjective_iff : ∃ answer, f.isInjective = .ok answer ∧ (answer = true ↔
    ∀ a ∈ G.els, ∀ b ∈ G.els, ∀ c d, f.apply a = .ok c → f.apply b = .ok d →
      c.equal d = .ok true → a = b)
  isSurjective_iff : ∃ answer, f.isSurjective = .ok answer ∧ (answer = true ↔
    ∀ b ∈ K.els, ∃ v ∈ f.send.values.toList, v.equal b = .ok true)
  firstIso_eq : f.firstIso = .ok I.order
  make_eq : QuotientGroup.make G.toFiniteGroup.candidate N.candidate = .ok Q
  order_eq : Q.group.order = I.order
  /-- Each coset corresponds to one element of the image, each element of the image to one
  coset. -/
  existsUnique_image : ∀ c ∈ Q.group.els, ∃! b, b ∈ I.els ∧ f.Corresponds Q c b
  existsUnique_coset : ∀ b ∈ I.els, ∃! c, c ∈ Q.group.els ∧ f.Corresponds Q c b
  /-- Products correspond to products. -/
  corresponds_mul : ∀ c ∈ Q.group.els, ∀ c' ∈ Q.group.els, ∀ b ∈ I.els, ∀ b' ∈ I.els,
    f.Corresponds Q c b → f.Corresponds Q c' b' →
    ∃ d v, Q.group.mul c c' = .ok d ∧ I.mul b b' = .ok v ∧ f.Corresponds Q d v

variable {G K : ValidGroup} {f : GroupMap}

theorem isFirstIso_of_sends {φ : G.Element →* K.Element} (h : f.Sends G.Stands K.Stands φ)
    (hsrc : f.src = G.toFiniteGroup) (htgt : f.tgt = K.toFiniteGroup)
    (hinverse : ∀ b ∈ f.send.values.toList, ∀ k, b.keyed = .ok k → K.Invertible K.Stands k)
    (hop : G.op.equal G.op = .ok true) : ∃ N I Q, G.IsFirstIso K f N I Q := by
  rw [← htgt] at hinverse
  rw [← hsrc] at hop
  obtain ⟨N, Q, hN, hNker, hmake, hQ⟩ := h.exists_quotient hop
  obtain ⟨I, hI, hIrange⟩ := h.image_spec hinverse
  obtain ⟨gens, -, hspan⟩ := bind_eq_ok.1 hI
  obtain ⟨injective, hinjective, hinjectiveIff⟩ := h.isInjective_spec
  obtain ⟨surjective, hsurjective, hsurjectiveIff⟩ := h.isSurjective_spec hinverse
  obtain ⟨normal, hnormal, hnormalIff⟩ := h.src.isNormal_spec hNker
  rw [hnormalIff.2 inferInstance] at hnormal
  refine ⟨N, I, ⟨f.src.value, N.value, Q⟩, ?_⟩
  exact {
    kernel_eq := hN
    standing_kernel := hNker.standing_els
    contains_kernel := fun a x ha => by
      rw [h.src.contains_iff hNker ha, h.apply_equal_iff ha (htgt ▸ h.tgt.one)]
      exact MonoidHom.mem_ker
    isNormal_eq := hsrc ▸ hnormal
    image_eq := hI
    standing_image := hIrange.standing_els
    contains_image := fun b y hb => by
      rw [h.tgt.contains_iff hIrange hb, h.value_equal_iff hb]
      rfl
    isInjective_iff := ⟨injective, hinjective, hsrc ▸ hinjectiveIff.trans h.injective_iff⟩
    isSurjective_iff := ⟨surjective, hsurjective, htgt ▸ hsurjectiveIff.trans h.surjective_iff⟩
    firstIso_eq := h.firstIso_eq hNker hQ hN hI hIrange
    make_eq := hsrc ▸ hmake
    order_eq := h.order_quotient hNker hQ hIrange
    existsUnique_image := fun c hc => h.existsUnique_image hNker hQ hIrange hc
    existsUnique_coset := fun b hb => h.existsUnique_coset hNker hQ hIrange hb
    corresponds_mul := fun c hc c' hc' b hb b' hb' hcb hcb' => by
      rw [mul_of_span hspan]
      exact h.corresponds_mul hNker hQ hIrange hc hc' hb hb' hcb hcb' }

/-- The first isomorphism theorem for a map that is found to be a homomorphism. -/
theorem exists_firstIso (hf : f.Between G.toFiniteGroup K.toFiniteGroup)
    (hvalues : Standing K.Stands f.send.values.toList)
    (hinverse : ∀ b ∈ f.send.values.toList, ∀ k, b.keyed = .ok k → K.Invertible K.Stands k)
    (hhom : f.isHom = .ok true) (hop : G.op.equal G.op = .ok true) :
    ∃ N I Q, G.IsFirstIso K f N I Q := by
  obtain ⟨φ, hφ⟩ := hf.exists_monoidHom G.realizes K.realizes hvalues hhom
  exact isFirstIso_of_sends hφ hf.src_eq hf.tgt_eq hinverse hop

/-- The residues modulo six, sent to their parities. -/
def parityMap : GroupMap :=
  ⟨residues 6, residues 2, .ofList ((List.range 6).map fun k => (.ofNat k, .ofNat (k % 2)))⟩

def parityHom : Multiplicative (ZMod 6) →* Multiplicative (ZMod 2) :=
  AddMonoidHom.toMultiplicative (ZMod.castHom (by decide) (ZMod 2)).toAddMonoidHom

theorem residue_parity (k : Nat) :
    Residue 2 (.ofNat (k % 2)) (parityHom (Multiplicative.ofAdd ((k : Int) : ZMod 6))) := by
  refine ⟨(k : Int) % 2, by omega, by omega, by simp [Value.ofNat], ?_⟩
  have hmod : (((k : Int) % 2 : Int) : ZMod 2) = (k : Int) := ZMod.intCast_mod k 2
  rw [hmod]
  exact congrArg Multiplicative.ofAdd (map_intCast (ZMod.castHom (by decide : 2 ∣ 6) (ZMod 2)) k)

theorem sends_parityMap : parityMap.Sends (Residue 6) (Residue 2) parityHom ∧
    parityMap.send.toList = (List.range 6).map fun k => (.ofNat k, .ofNat (k % 2)) := by
  refine GroupMap.sends_ofList (realizes_residues (by decide)) (realizes_residues (by decide)) ?_
  rw [els_residues (by decide), List.forall₂_map_left_iff, List.forall₂_map_right_iff,
    List.forall₂_same]
  intro k hk
  have hk := List.mem_range.1 hk
  have hres : Residue 6 (.ofNat k) (Multiplicative.ofAdd ((k : Int) : ZMod 6)) :=
    ⟨k, by omega, by omega, rfl, rfl⟩
  exact ⟨_, hres, hres, residue_parity k⟩

theorem mem_values_parityMap {b : Value} (hb : b ∈ parityMap.send.values.toList) :
    b ∈ (residues 2).els := by
  rw [← Assignment.map_snd_toList, sends_parityMap.2] at hb
  obtain ⟨p, hp, rfl⟩ := List.mem_map.1 hb
  obtain ⟨k, -, rfl⟩ := List.mem_map.1 hp
  exact (mem_residues (by decide)).2 ⟨k % 2, by omega, rfl⟩

theorem between_parityMap : parityMap.Between (residues 6) (residues 2) := by
  refine GroupMap.between_ofList (realizes_residues (by decide)).pairwise_els ?_
  rw [els_residues (by decide), List.forall₂_map_left_iff, List.forall₂_map_right_iff,
    List.forall₂_same]
  exact fun k _ => .inl rfl

/-- The parities are the quotient of the residues modulo six by the even ones. -/
theorem exists_firstIso_parityMap :
    let G := validResidues (n := 6) (by decide) (by decide)
    let K := validResidues (n := 2) (by decide) (by decide)
    parityMap.Between G.toFiniteGroup K.toFiniteGroup ∧
      Standing K.Stands parityMap.send.values.toList ∧
      (∀ b ∈ parityMap.send.values.toList, ∀ k, b.keyed = .ok k → K.Invertible K.Stands k) ∧
      parityMap.isHom = .ok true ∧ G.op.equal G.op = .ok true ∧
      ∃ N I Q, G.IsFirstIso K parityMap N I Q := by
  intro G K
  have hstand : Standing K.Stands parityMap.send.values.toList := fun b hb =>
    K.realizes.standing b (mem_values_parityMap hb)
  have hinverse : ∀ b ∈ parityMap.send.values.toList, ∀ k, b.keyed = .ok k →
      K.Invertible K.Stands k := fun b hb k hk =>
    K.realizes.invertible_of_keyed (mem_values_parityMap hb) hk
  have hhom : parityMap.isHom = .ok true := sends_parityMap.1.isHom_eq
  have hop : G.op.equal G.op = .ok true := by
    rw [Value.equal_of_isSimple rfl rfl, BEq.rfl]
  exact ⟨between_parityMap, hstand, hinverse, hhom, hop,
    exists_firstIso between_parityMap hstand hinverse hhom hop⟩

end ValidGroup

/-! ## A value that cannot be inverted -/

/-- The number one, inverted by a permutation of which it is the only point. -/
def onePoint : FiniteGroup :=
  ofRoster (.ofList [.int 1]) (.op .left []) (.int 1) (.perm (Perm.one 0)) .none .none

theorem beq_real_int : (Value.real 1 == .int 1) = true := by
  decide +kernel

/-- The number one as an integer or as a floating-point number. -/
def IsOne (a : Value) (_ : Unit) : Prop :=
  a = .int 1 ∨ a = .real 1

theorem els_onePoint : onePoint.els = [.int 1] :=
  els_single

theorem inverse_onePoint_int : onePoint.inverse (.int 1) = .ok (.int 1) := by
  show (Value.perm (Perm.one 0)).meaning.call [.int 1] = _
  rw [Value.meaning, Value.meaningWith.eq_def]
  rfl

theorem inverse_onePoint_real : onePoint.inverse (.real 1) = .error .wrongKind := by
  show (Value.perm (Perm.one 0)).meaning.call [.real 1] = _
  rw [Value.meaning, Value.meaningWith.eq_def]
  rfl

theorem realizes_onePoint : onePoint.Realizes IsOne where
  faithful := by
    rintro _ _ ⟨⟩ ⟨⟩ (rfl | rfl) (rfl | rfl)
    · simp
    · simpa using BEq.symm beq_real_int
    · simpa using beq_real_int
    · simp
  mul_eq := by
    intro a b _ _ ha _
    exact ⟨a, mul_single (m := 1) a b, ha⟩
  keyed_eq := by
    rintro _ - (rfl | rfl)
    · exact ⟨.int 1, rfl, .inl rfl⟩
    · exact ⟨.real 1, rfl, .inr rfl⟩
  intact := intact_ofRoster _ _ _ _ _ (Or.inl rfl)
  equal_eq := by
    rintro _ _ - - (rfl | rfl) (rfl | rfl) <;> exact Value.equal_of_isSimple rfl rfl
  standing a ha := by
    rw [els_onePoint] at ha
    exact ⟨(), .inl (List.mem_singleton.1 ha)⟩
  surjective _ := ⟨.int 1, by simp [els_onePoint], .inl rfl⟩
  one := .inl rfl
  inverse_eq := by
    rintro a - ha -
    rw [els_onePoint] at ha
    obtain rfl := List.mem_singleton.1 ha
    exact ⟨.int 1, inverse_onePoint_int, .inl rfl, by simp⟩
  inverse_keyed a k ha hk := by
    rw [els_onePoint] at ha
    obtain rfl := List.mem_singleton.1 ha
    rw [← Except.ok.inj hk]

/-- The number one and its permutation as a valid group. -/
def validOnePoint : ValidGroup :=
  .ofRealizes realizes_onePoint

/-- The number one, sent to itself as a floating-point number. -/
def realMap : GroupMap :=
  ⟨single 1, onePoint, .ofList [(.int 1, .real 1)]⟩

theorem isHom_realMap : realMap.isHom = .ok true ∧ realMap.send.values.toList = [.real 1] := by
  obtain ⟨hsends, hvalues⟩ := GroupMap.sends_single realizes_single realizes_onePoint els_single
    (.inr rfl)
  exact ⟨hsends.isHom_eq, hvalues⟩

/-- The image is spanned by the value as it is written, which cannot be inverted. -/
theorem image_realMap : realMap.image = .error .wrongKind := by
  have hmem : onePoint.contains (.real 1) = .ok true :=
    realizes_onePoint.contains_eq (x := ()) (.inr rfl)
  have hdistinct : Value.distinct [.real 1] = .ok (.ofList [.real 1]) := rfl
  have hlist : (Roster.ofList [Value.real 1]).toList = [.real 1] :=
    Roster.toList_ofList (by simp)
  have hseeds : seeds [.real 1] (some onePoint.inverse) = .error .wrongKind := by
    simp [seeds, inverse_onePoint_real]
  show (do onePoint.span (← Value.distinct realMap.send.values.toList).toList) = _
  rw [isHom_realMap.2, hdistinct, ok_bind, hlist]
  simp [span, generated, requireMember, hmem, spanned, hseeds]

/-- A homomorphism whose values lie in the target and whose image cannot be computed. -/
theorem exists_image_error :
    let G := validSingle 1
    let K := validOnePoint
    ∃ f, GroupMap.ofSending G.toFiniteGroup.candidate K.toFiniteGroup.candidate
        (.mapping 0 [.tuple [.int 1, .real 1]]) = .ok f ∧
      Standing K.Stands f.send.values.toList ∧ f.isHom = .ok true ∧
      G.op.equal G.op = .ok true ∧ f.image = .error .wrongKind := by
  intro G K
  obtain ⟨hhom, hvalues⟩ := isHom_realMap
  refine ⟨realMap, GroupMap.ofSending_single els_single rfl, ?_, hhom, ?_, image_realMap⟩
  · rw [hvalues]
    exact ValidGroup.standing_of_realizes realizes_onePoint
      (standing_singleton (x := ()) (.inr rfl))
  · rw [Value.equal_of_isSimple rfl rfl, BEq.rfl]

end FiniteGroups
