import FiniteGroups.Map.Automorphism
import FiniteGroups.Proofs.Commuting
import FiniteGroups.Proofs.Inverses
import FiniteGroups.Proofs.MapValues
import FiniteGroups.Proofs.PermFamilies
import FiniteGroups.Proofs.RealResidues
import Mathlib.GroupTheory.Index

/-!
# Inner automorphisms

Conjugation by an element is a map of the group to itself. Maps are compared value by value, so the
distinct ones among these maps are the inner automorphisms, of which there are as many as the center
has cosets (`Realizes.innerAutomorphisms_spec`, `ncard_range_conj`). They are multiplied as the
elements that they belong to, and conjugating one by an automorphism gives the one that belongs to
the image (`ValidGroup.IsInnerGroup`).

A product need not be written as the element that it is equal to, and an inverse is a function of
which it is only known what it does to the elements as they are listed. So the map that belongs to a
product of two elements may fail to be made (`exists_inner_error`).
-/

set_option linter.unusedSectionVars false

namespace FiniteGroups

open FiniteGroup

variable {M : Type} [Group M] {R : Value → M → Prop}

/-! ## Conjugation -/

/-- Elements that commute with everything conjugate nothing. -/
theorem ker_conj : (MulAut.conj : M →* MulAut M).ker = Subgroup.center M := by
  ext x
  rw [MonoidHom.mem_ker, Subgroup.mem_center_iff, MulEquiv.ext_iff]
  refine forall_congr' fun y => ?_
  rw [MulAut.conj_apply, MulAut.one_apply, mul_inv_eq_iff_eq_mul, eq_comm]

/-- Conjugations are equal exactly if their elements differ by an element of the center. -/
theorem conj_eq_conj_iff {x y : M} :
    ⇑(MulAut.conj x) = ⇑(MulAut.conj y) ↔ x⁻¹ * y ∈ Subgroup.center M := by
  rw [DFunLike.coe_fn_eq, ← ker_conj, MonoidHom.mem_ker, map_mul, map_inv, inv_mul_eq_one]

/-- There are as many conjugations as cosets of the center. -/
theorem ncard_range_conj : (Set.range fun x : M => ⇑(MulAut.conj x)).ncard *
    Nat.card (Subgroup.center M) = Nat.card M := by
  have hrange : (Set.range fun x : M => ⇑(MulAut.conj x)) =
      DFunLike.coe '' ((MulAut.conj : M →* MulAut M).range : Set (MulAut M)) := by
    rw [MonoidHom.coe_range, ← Set.range_comp]
    rfl
  rw [hrange, Set.ncard_image_of_injective _ DFunLike.coe_injective, ← Nat.card_coe_set_eq,
    ← Subgroup.card_mul_index (Subgroup.center M), ← ker_conj, Subgroup.index_ker, mul_comm]
  rfl

/-! ## Automorphisms -/

namespace GroupMap

variable {f : GroupMap}

theorem isAutomorphism_iff : f.isAutomorphism = .ok true ↔
    f.src.value.equal f.tgt.value = .ok true ∧ f.isHom = .ok true ∧ f.isIso = .ok true := by
  rw [isAutomorphism, ite_false_eq_true, ite_false_eq_true]

namespace Sends

variable {φ : M → M}

/-- What sends elements as an automorphism does is found to be one, if its values are inverted as
they are written. -/
theorem isAutomorphism_eq {e : M ≃* M} (h : f.Sends R R e)
    (hself : f.src.value.equal f.tgt.value = .ok true)
    (hinv : ∀ b ∈ f.send.values.toList, ∀ k, b.keyed = .ok k → f.tgt.Invertible R k) :
    f.isAutomorphism = .ok true := by
  have hsends : f.Sends R R e.toMonoidHom := h
  have hiso : f.isIso = .ok true := (eq_ok_true_iff (hsends.isIso_spec hinv)).2 e.bijective
  exact isAutomorphism_iff.2 ⟨hself, hsends.isHom_eq, hiso⟩

/-- What is found to be an automorphism sends elements as one does. -/
theorem exists_mulEquiv (h : f.Sends R R φ) (hauto : f.isAutomorphism = .ok true) :
    ∃ e : M ≃* M, ⇑e = φ := by
  have := h.src.finite
  obtain ⟨-, hhom, hiso⟩ := isAutomorphism_iff.1 hauto
  obtain ⟨hinjective, -⟩ := ite_false_eq_true.1 hiso
  obtain ⟨hone, hmul⟩ := (eq_ok_true_iff h.isHom_spec).1 hhom
  let ψ : M →* M := { toFun := φ, map_one' := hone, map_mul' := hmul }
  have hψ : f.Sends R R ψ := h
  have hinj : Function.Injective ψ := (eq_ok_true_iff hψ.isInjective_spec).1 hinjective
  exact ⟨MulEquiv.ofBijective ψ (Finite.injective_iff_bijective.1 hinj), rfl⟩

end Sends

end GroupMap

/-! ## Inner automorphisms -/

namespace FiniteGroup.Realizes

variable {G : FiniteGroup} (hG : G.Realizes R)
include hG

/-- Conjugation by an element that is inverted is a map of the group to itself. -/
theorem inner_spec {g : Value} {x : M} (hg : R g x) (hinv : G.Invertible R g) :
    ∃ f, GroupMap.inner G.candidate g = .ok f ∧
      StandsForMap G G R R f.value (MulAut.conj x) := by
  obtain ⟨y, i, hy, hi, hiy⟩ := hinv
  obtain rfl := hG.faithful.unique hg hy
  obtain ⟨f, hf, hsrc, htgt, hsends, -⟩ := GroupMap.ofFunction_spec hG hG
    (φ := fun z => MulAut.conj x z) fun h hh z hz =>
      FiniteGroup.conjugate_spec hG.toMultiplies hz hg hi hiy
  have hvalue := hsends.standsForMap
  rw [hsrc, htgt] at hvalue
  exact ⟨f, hf, hvalue⟩

/-- The distinct conjugations are listed. -/
theorem innerAutomorphisms_spec : ∃ maps, GroupMap.innerAutomorphisms G.candidate = .ok maps ∧
    maps.Pairwise (fun v w => (v == w) = false) ∧ Standing (StandsForMap G G R R) maps ∧
      extent (StandsForMap G G R R) maps = Set.range fun x : M => ⇑(MulAut.conj x) := by
  have hmaps : Faithful (StandsForMap G G R R) := faithful_map hG.faithful hG.faithful
  obtain ⟨found, hfound, hstand, hextent⟩ := hG.faithful.exists_images hmaps hG.standing
      (f := fun g => do (← GroupMap.inner G.candidate g).value.keyed)
      (φ := fun x => ⇑(MulAut.conj x)) fun g hg x hx => by
    obtain ⟨f, hf, hvalue⟩ := hG.inner_spec hx (hG.invertible_of_mem hg)
    obtain ⟨k, hk, hkeyed⟩ := hvalue.keyed_spec hG hG
    exact ⟨k, by rw [hf, ok_bind, hk], hkeyed⟩
  refine ⟨(Roster.ofList found).toList, ?_, Roster.pairwise_toList _,
    hstand.mono fun v => Roster.mem_of_mem_ofList, ?_⟩
  · show (do return (Roster.ofList (← G.els.mapM fun g => do
      (← GroupMap.inner G.candidate g).value.keyed)).toList) = _
    rw [hfound]
    rfl
  · rw [hmaps.extent_ofList hstand, hextent, hG.extent_els, Set.image_univ]

end FiniteGroup.Realizes

/-! ## Valid groups -/

namespace ValidGroup

variable (G : ValidGroup)

/-- What there is to say about the list of the inner automorphisms and the center `Z`. -/
structure IsInnerGroup (maps : List Value) (Z : FiniteGroup) : Prop where
  maps_eq : GroupMap.innerAutomorphisms G.candidate = .ok maps
  pairwise_maps : maps.Pairwise fun v w => v.equal w = .ok false
  /-- The maps that are listed are those that belong to the elements. -/
  exists_element : ∀ v ∈ maps, ∃ g ∈ G.els, ∃ f, GroupMap.inner G.candidate g = .ok f ∧
    v.equal f.value = .ok true
  exists_map : ∀ g ∈ G.els, ∃ f, GroupMap.inner G.candidate g = .ok f ∧
    ∃ v ∈ maps, f.value.equal v = .ok true
  center_eq : G.candidate.center = .ok Z
  length_mul_order : maps.length * Z.order = G.order
  /-- Elements have the same map exactly if they differ by an element of the center. -/
  equal_iff : ∀ g ∈ G.els, ∀ h ∈ G.els, ∃ f k i c answer,
    GroupMap.inner G.candidate g = .ok f ∧ GroupMap.inner G.candidate h = .ok k ∧
      f.value.equal k.value = .ok answer ∧ G.inverse g = .ok i ∧ G.mul i h = .ok c ∧
      Z.contains c = .ok answer
  isAutomorphism_eq : G.Inverts → ∀ v ∈ maps,
    ∃ f, GroupMap.ofValue? v = some f ∧ f.isAutomorphism = .ok true
  /-- The maps are multiplied as the elements that they belong to. -/
  inner_mul : G.Inverts → ∀ g ∈ G.els, ∀ h ∈ G.els, ∃ f k p c q,
    GroupMap.inner G.candidate g = .ok f ∧ GroupMap.inner G.candidate h = .ok k ∧
      f.value.times k.value = .ok p ∧ G.mul g h = .ok c ∧
      GroupMap.inner G.candidate c = .ok q ∧ p.equal q.value = .ok true
  /-- An automorphism turns the map that belongs to `g` into the one that belongs to its value. -/
  inner_apply : G.Inverts → ∀ f : GroupMap, f.Between G.toFiniteGroup G.toFiniteGroup →
    Standing G.Stands f.send.values.toList → f.isAutomorphism = .ok true →
    ∀ g ∈ G.els, ∃ k p i r b q, GroupMap.inner G.candidate g = .ok k ∧
      f.value.times k.value = .ok p ∧ f.value.inverseMap = .ok i ∧ p.times i = .ok r ∧
      f.apply g = .ok b ∧ GroupMap.inner G.candidate b = .ok q ∧ r.equal q.value = .ok true

variable {G} (hself : G.value.equal G.value = .ok true) (hcompare : ComparesEntries G.Stands)
include hself hcompare

/-- Maps of the group to itself are found equal exactly if they are one function. -/
theorem equal_map {v w : Value} {φ ψ : G.Element → G.Element}
    (hv : StandsForMap G.toFiniteGroup G.toFiniteGroup G.Stands G.Stands v φ)
    (hw : StandsForMap G.toFiniteGroup G.toFiniteGroup G.Stands G.Stands w ψ) :
    ∃ answer, v.equal w = .ok answer ∧ (answer = true ↔ φ = ψ) :=
  hv.equal_spec G.realizes G.realizes hcompare hself hself hw

theorem equal_map_of_eq {v w : Value} {φ ψ : G.Element → G.Element}
    (hv : StandsForMap G.toFiniteGroup G.toFiniteGroup G.Stands G.Stands v φ)
    (hw : StandsForMap G.toFiniteGroup G.toFiniteGroup G.Stands G.Stands w ψ) (h : φ = ψ) :
    v.equal w = .ok true :=
  (eq_ok_true_iff (equal_map hself hcompare hv hw)).2 h

/-- Elements have the same map exactly if they differ by an element of the center. -/
theorem inner_equal_iff {Z : FiniteGroup}
    (hZ : Consists G.Stands Z (Subgroup.center G.Element : Set G.Element)) {g h : Value}
    (hg : g ∈ G.els) (hh : h ∈ G.els) : ∃ f k i c answer,
      GroupMap.inner G.candidate g = .ok f ∧ GroupMap.inner G.candidate h = .ok k ∧
        f.value.equal k.value = .ok answer ∧ G.inverse g = .ok i ∧ G.mul i h = .ok c ∧
        Z.contains c = .ok answer := by
  have hG := G.realizes
  obtain ⟨x, hx⟩ := hG.standing g hg
  obtain ⟨y, hy⟩ := hG.standing h hh
  obtain ⟨f, hf, hfx⟩ := hG.inner_spec hx (hG.invertible_of_mem hg)
  obtain ⟨k, hk, hky⟩ := hG.inner_spec hy (hG.invertible_of_mem hh)
  obtain ⟨i, hi, hix, -⟩ := hG.inverse_eq hg hx
  obtain ⟨c, hc, hcxy⟩ := hG.mul_eq hix hy
  have hequal := equal_map hself hcompare hfx hky
  rw [conj_eq_conj_iff] at hequal
  obtain ⟨answer, hanswer, hcontains⟩ := exists_same_answer hequal (hG.contains_spec hZ hcxy)
  exact ⟨f, k, i, c, answer, hf, hk, hanswer, hi, hc, hcontains⟩

/-- The map that belongs to a product is the product of the maps. -/
theorem inner_mul_equal (hinverts : G.Inverts) {g h : Value} (hg : g ∈ G.els) (hh : h ∈ G.els) :
    ∃ f k p c q, GroupMap.inner G.candidate g = .ok f ∧ GroupMap.inner G.candidate h = .ok k ∧
      f.value.times k.value = .ok p ∧ G.mul g h = .ok c ∧
      GroupMap.inner G.candidate c = .ok q ∧ p.equal q.value = .ok true := by
  have hG := G.realizes
  obtain ⟨x, hx⟩ := hG.standing g hg
  obtain ⟨y, hy⟩ := hG.standing h hh
  obtain ⟨f, hf, hfx⟩ := hG.inner_spec hx (hG.invertible_of_mem hg)
  obtain ⟨k, hk, hky⟩ := hG.inner_spec hy (hG.invertible_of_mem hh)
  obtain ⟨p, hp, hpxy⟩ := hfx.times_spec hG hG hG hself hky
  obtain ⟨c, hc, hcxy⟩ := hG.mul_eq hx hy
  obtain ⟨q, hq, hqxy⟩ := hG.inner_spec hcxy (hinverts hcxy)
  refine ⟨f, k, p, c, q, hf, hk, hp, hc, hq, equal_map_of_eq hself hcompare hpxy hqxy ?_⟩
  rw [map_mul]
  rfl

/-- The map that belongs to the value of an automorphism is the map that it makes of the one that
belongs to the element. -/
theorem inner_apply_equal (hinverts : G.Inverts) {f : GroupMap} {e : MulAut G.Element}
    (hf : f.Sends G.Stands G.Stands e) (hsrc : f.src = G.toFiniteGroup)
    (htgt : f.tgt = G.toFiniteGroup) {g : Value} (hg : g ∈ G.els) :
    ∃ k p i r b q, GroupMap.inner G.candidate g = .ok k ∧ f.value.times k.value = .ok p ∧
      f.value.inverseMap = .ok i ∧ p.times i = .ok r ∧ f.apply g = .ok b ∧
      GroupMap.inner G.candidate b = .ok q ∧ r.equal q.value = .ok true := by
  have hG := G.realizes
  obtain ⟨x, hx⟩ := hG.standing g hg
  have hvalue := hf.standsForMap
  rw [hsrc, htgt] at hvalue
  obtain ⟨k, hk, hkx⟩ := hG.inner_spec hx (hG.invertible_of_mem hg)
  obtain ⟨p, hp, hpx⟩ := hvalue.times_spec hG hG hG hself hkx
  obtain ⟨i, hi, hback⟩ := hvalue.inverse_spec (e := e.toEquiv) hG hG
  obtain ⟨r, hr, hrx⟩ := hpx.times_spec hG hG hG hself hback
  obtain ⟨b, hb, hbx⟩ := hf.apply_spec hx
  obtain ⟨q, hq, hqx⟩ := hG.inner_spec hbx (hinverts hbx)
  refine ⟨k, p, i, r, b, q, hk, hp, hi, hr, hb, hq, equal_map_of_eq hself hcompare hrx hqx ?_⟩
  funext y
  show e (x * e.symm y * x⁻¹) = e x * y * (e x)⁻¹
  rw [map_mul, map_mul, map_inv, e.apply_symm_apply]

omit hcompare in
/-- A conjugation is found to be an automorphism. -/
theorem isAutomorphism_conj (hinverts : G.Inverts) {v : Value} {x : G.Element}
    (hv : StandsForMap G.toFiniteGroup G.toFiniteGroup G.Stands G.Stands v (MulAut.conj x)) :
    ∃ f, GroupMap.ofValue? v = some f ∧ f.isAutomorphism = .ok true := by
  have hG := G.realizes
  obtain ⟨f, hf, hsrc, htgt, hsends⟩ := hv.ofValue?_spec hG hG
  refine ⟨f, hf, hsends.isAutomorphism_eq ?_ fun b hb k hk => ?_⟩
  · rw [hsrc, htgt, value_reread, hself]
  · obtain ⟨y, hy⟩ := hsends.standing_values b hb
    rw [htgt]
    exact hinverts (hG.stands_of_keyed hy hk)

/-- Inner automorphisms form the quotient by the center. -/
theorem exists_innerGroup : ∃ maps Z, G.IsInnerGroup maps Z := by
  have hG := G.realizes
  obtain ⟨maps, hmaps, hpairwise, hstand, hextent⟩ := hG.innerAutomorphisms_spec
  obtain ⟨Z, hZ, hcenter⟩ := hG.center_spec
  have hfaithful := faithful_map (G := G.toFiniteGroup) (H := G.toFiniteGroup)
    hG.faithful hG.faithful
  have hlength : maps.length = (Set.range fun x : G.Element => ⇑(MulAut.conj x)).ncard := by
    rw [← hextent, hfaithful.ncard_extent_of_pairwise hstand hpairwise]
  refine ⟨maps, Z, {
    maps_eq := hmaps
    pairwise_maps := ?_
    exists_element := fun v hv => ?_
    exists_map := fun g hg => ?_
    center_eq := hZ
    length_mul_order := ?_
    equal_iff := fun g hg h hh => inner_equal_iff hself hcompare hcenter hg hh
    isAutomorphism_eq := fun hinverts v hv => ?_
    inner_mul := fun hinverts g hg h hh => inner_mul_equal hself hcompare hinverts hg hh
    inner_apply := fun hinverts f hf hvalues hauto g hg => ?_ }⟩
  · refine hpairwise.imp_of_mem fun {v w} hv hw hne => ?_
    obtain ⟨φ, hφ⟩ := hstand v hv
    obtain ⟨ψ, hψ⟩ := hstand w hw
    obtain ⟨answer, hanswer, hiff⟩ := equal_map hself hcompare hφ hψ
    rw [← Bool.not_eq_true, hfaithful hφ hψ, ← hiff, Bool.not_eq_true] at hne
    rw [hanswer, hne]
  · obtain ⟨φ, hφ⟩ := hstand v hv
    obtain ⟨x, rfl⟩ := hextent.subset ⟨v, hv, hφ⟩
    obtain ⟨g, hg, hx⟩ := hG.surjective x
    obtain ⟨f, hf, hfx⟩ := hG.inner_spec hx (hG.invertible_of_mem hg)
    exact ⟨g, hg, f, hf, equal_map_of_eq hself hcompare hφ hfx rfl⟩
  · obtain ⟨x, hx⟩ := hG.standing g hg
    obtain ⟨f, hf, hfx⟩ := hG.inner_spec hx (hG.invertible_of_mem hg)
    obtain ⟨v, hv, hvx⟩ := hextent.superset ⟨x, rfl⟩
    exact ⟨f, hf, v, hv, equal_map_of_eq hself hcompare hfx hvx rfl⟩
  · rw [hlength, hcenter.order_eq hG.faithful, hG.order_eq, ← ncard_range_conj,
      ← Nat.card_coe_set_eq (Subgroup.center G.Element : Set G.Element)]
    rfl
  · obtain ⟨φ, hφ⟩ := hstand v hv
    obtain ⟨x, rfl⟩ := hextent.subset ⟨v, hv, hφ⟩
    exact isAutomorphism_conj hself hinverts hφ
  · obtain ⟨φ, hφ⟩ := hf.exists_sends hG hG hvalues
    obtain ⟨e, rfl⟩ := hφ.exists_mulEquiv hauto
    exact inner_apply_equal hself hcompare hinverts hφ hf.src_eq hf.tgt_eq hg

end ValidGroup

/-! ## The permutations of some points -/

section

variable {n : Nat}

variable (n) in
/-- A permutation stands for the bijection that moves the points as it does. -/
abbrev IsPerm : Value → Equiv.Perm (Point n) → Prop :=
  IsPermOf (MonoidHom.id (Equiv.Perm (Point n)))

/-- All permutations of the points `1, …, n` as a group. -/
noncomputable def allPerms (hn : 0 < n) : FiniteGroup :=
  permGroup n (.ofList (Finset.univ.toList.map (writePerm hn (.id (Equiv.Perm (Point n))))))
    (Perm.ofEquiv hn 1) "S" .plain []

theorem realizes_allPerms (hn : 0 < n) : (allPerms hn).Realizes (IsPerm n) := by
  have hwritten : ∀ σ, IsPerm n (writePerm hn (MonoidHom.id _) σ) σ :=
    fun σ => ⟨_, rfl, Perm.moves_ofEquiv hn σ⟩
  have hstand : Standing (IsPerm n) (Finset.univ.toList.map (writePerm hn (MonoidHom.id _))) := by
    intro a ha
    obtain ⟨σ, -, rfl⟩ := List.mem_map.1 ha
    exact ⟨σ, hwritten σ⟩
  have hfaithful : Faithful (IsPerm n) := faithful_isPermOf Function.injective_id
  refine realizes_permGroup Function.injective_id
    (hstand.mono fun a => Roster.mem_of_mem_ofList) ?_ (hwritten 1) (by simp)
  rw [hfaithful.extent_ofList hstand]
  exact Set.eq_univ_of_forall fun σ =>
    ⟨_, List.mem_map_of_mem (Finset.mem_toList.2 (Finset.mem_univ σ)), hwritten σ⟩

/-- All permutations of the points `1, …, n` as a valid group. -/
noncomputable def validPerms (hn : 0 < n) : ValidGroup :=
  .ofRealizes (realizes_allPerms hn)

theorem equal_validPerms (hn : 0 < n) :
    (validPerms hn).value.equal (validPerms hn).value = .ok true := by
  refine equal_value_self ?_
  show (Value.op .compose [.int n]).compare (.op .compose [.int n]) = _
  rw [Value.compare, if_pos rfl]
  exact (compareEach_writes .int .int).trans (congrArg _ (Value.same_refl (.int n)))

/-- Permutations are compared as entries as they are on their own. -/
theorem compares_validPerms (hn : 0 < n) : ComparesEntries (validPerms hn).Stands := by
  rintro _ _ _ _ ⟨⟨_, p, rfl, -⟩, -⟩ ⟨⟨_, q, rfl, -⟩, -⟩
  exact compareEach_of_compare rfl (Value.compare.eq_def ..)

/-- The inner automorphisms of the permutations of three points. -/
theorem exists_innerGroup_validPerms :
    let G := validPerms (n := 3) (by decide)
    G.value.equal G.value = .ok true ∧ ComparesEntries G.Stands ∧ ∃ maps Z, G.IsInnerGroup maps Z :=
  have hself := equal_validPerms (n := 3) (by decide)
  have hcompare := compares_validPerms (n := 3) (by decide)
  ⟨hself, hcompare, ValidGroup.exists_innerGroup hself hcompare⟩

end

/-! ## Products that conjugate nothing -/

/-- An element that is not inverted has no map. -/
theorem inner_real {n : Nat} {c : Int} (hpos : 0 < n) (hn : n < 10) (hc : (n : Int) ∣ c + 1)
    (hlarge : Decimal.Real.ofInt c = .error .overflow) {z : Float} {x : Multiplicative (ZMod n)}
    (hz : WritesResidue n (.real z) x) :
    GroupMap.inner (machineResidues n c).candidate (.real z) = .error .overflow := by
  have hG := realizes_machineResidues hpos hn hc
  have hconjugate : ∀ h ∈ (machineResidues n c).els,
      (machineResidues n c).conjugate h (.real z) = .error .overflow := by
    intro h hh
    obtain ⟨y, hy⟩ := hG.standing h hh
    obtain ⟨b, hb, -⟩ := hG.mul_eq hz hy
    rw [conjugate, conjugateBy, hb, ok_bind, inverse_real hlarge, error_bind]
  obtain ⟨h, hh, -⟩ := hG.surjective 1
  show GroupMap.ofFunction _ _ _ = _
  rw [GroupMap.ofFunction, mapM_eq_error (e := .overflow) (fun h hh => .inr ?_) ⟨h, hh, ?_⟩]
  · rfl
  · rw [hconjugate h hh, error_bind]
  · rw [hconjugate h hh, error_bind]

/-- A valid group in which maps can be multiplied, but the product of their elements has no map. -/
theorem exists_inner_error :
    let G := validMachineResidues (n := 1) (by decide) (by decide)
    G.value.equal G.value = .ok true ∧ .int 0 ∈ G.els ∧
      ∃ f p c, GroupMap.inner G.candidate (.int 0) = .ok f ∧ f.value.times f.value = .ok p ∧
        G.mul (.int 0) (.int 0) = .ok c ∧ GroupMap.inner G.candidate c = .error .overflow := by
  intro G
  have hG := realizes_machineResidues (n := 1) (by decide) (by decide) (dvd_largeFactor 1)
  have hself : G.value.equal G.value = .ok true := by
    refine equal_value_self ?_
    show (Value.op .addMod [.real (asReal 1)]).compare (.op .addMod [.real (asReal 1)]) = _
    rw [Value.compare, if_pos rfl]
    exact (compareEach_writes .real .real).trans (congrArg _ (Value.same_refl _))
  have hzero : .int 0 ∈ G.els := (mem_residues (by decide)).2 ⟨0, by decide, rfl⟩
  obtain ⟨x, hx⟩ := hG.standing _ hzero
  obtain ⟨f, hf, hfx⟩ := hG.inner_spec hx (hG.invertible_of_mem hzero)
  obtain ⟨p, hp, -⟩ := hfx.times_spec hG hG hG hself hfx
  obtain ⟨c, hc, hcx, hreal⟩ := add_writesResidue (by decide) (by decide) .real hx hx
  obtain ⟨z, rfl⟩ := hreal rfl
  exact ⟨hself, hzero, f, p, _, hf, hp, hc,
    inner_real (by decide) (by decide) (dvd_largeFactor 1) (ofInt_largeFactor (by decide)) hcx⟩

end FiniteGroups
