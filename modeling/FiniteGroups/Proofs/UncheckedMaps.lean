import FiniteGroups.Proofs.Maps
import FiniteGroups.Proofs.Residues
import FiniteGroups.Proofs.UncheckedSubgroups

/-!
# Maps whose values are not checked

Whether a map is a homomorphism is found out by comparing the image of each product with the
product of the images. That the images are elements of the target is not part of the question. What
is found out is therefore whether the map is a homomorphism into some group of which the target is
a part and in which all its values are elements (`ValidGroup.TellsHomomorphism`). It is one into the
target if moreover its values are elements of the target.

The second condition does not follow: the map of a group to itself that moves nothing is found to be
a homomorphism to the trivial subgroup as well (`exists_isHom_escaping`).
-/

set_option linter.unusedSectionVars false

namespace FiniteGroups

open FiniteGroup

namespace ValidGroup

variable {G K L : ValidGroup} {f : GroupMap}

/-- The elements of `K` are used as elements of `L`, and are multiplied as there. -/
structure IsPartOf (K L : ValidGroup) : Prop where
  standing : Standing L.Stands K.els
  mul_eq : K.mul = L.mul

theorem IsPartOf.refl (K : ValidGroup) : K.IsPartOf K :=
  ⟨K.realizes.standing, rfl⟩

theorem IsSubgroup.isPartOf {H : FiniteGroup} (h : G.IsSubgroup H) : h.toValidGroup.IsPartOf G :=
  ⟨h.standing, h.isWithin.mul_eq⟩

/-- The identity of a part is that of the larger group, since it is its own square. -/
theorem IsPartOf.one (h : K.IsPartOf L) : L.Stands K.identity 1 := by
  have hK := K.realizes
  obtain ⟨x, hx⟩ := h.standing _ hK.identity_mem
  obtain ⟨c, hc, hone⟩ := hK.mul_eq hK.one hK.one
  rw [mul_one] at hone
  have hsquare : L.Stands c (x * x) := L.realizes.mul_of_eq hx hx (h.mul_eq ▸ hc)
  have hsame : (c == K.identity) = true := (hK.faithful hone hK.one).2 rfl
  rwa [mul_eq_left.1 ((faithful hsquare hx).1 hsame)] at hx

/-! ## Homomorphisms -/

/-- The map is a homomorphism from `G` to `K`. -/
structure IsHomomorphism (G K : ValidGroup) (f : GroupMap) : Prop where
  /-- The value of an element is an element of `K`. -/
  apply_mem : ∀ g ∈ G.els, ∃ b y, f.apply g = .ok b ∧ K.Stands b y
  /-- The value of a product is equal to the product of the values. -/
  apply_mul : ∀ g ∈ G.els, ∀ h ∈ G.els, ∃ gh a b c ab, G.mul g h = .ok gh ∧
    f.apply g = .ok a ∧ f.apply h = .ok b ∧ f.apply gh = .ok c ∧ K.mul a b = .ok ab ∧
    c.equal ab = .ok true

/-- Each value of a map is the value of an element. -/
theorem exists_apply {H : FiniteGroup} (hf : f.Between G.toFiniteGroup H) {b : Value}
    (hb : b ∈ f.send.values.toList) : ∃ g ∈ G.els, f.apply g = .ok b := by
  rw [← Assignment.map_snd_toList] at hb
  obtain ⟨p, hp, rfl⟩ := List.mem_map.1 hb
  obtain ⟨g, hg, hgp⟩ := exists_of_forall₂ hf.keys (Assignment.mem_keys hp)
  obtain ⟨k, hk, -⟩ := G.keyed_eq (G.domain_of_mem hg)
  have hsame : (p.1 == k) = true := by
    obtain heq | hkey := hgp
    · rw [heq]
      exact BEq.symm (Value.beq_of_keyed hk)
    · rw [← Except.ok.inj (hk.symm.trans hkey)]
      exact BEq.rfl
  refine ⟨g, hg, ?_⟩
  rw [GroupMap.apply, hk, ok_bind, Assignment.get?_eq_some_iff.2 ⟨p.1, hp, hsame⟩]
  rfl

/-- A homomorphism has elements as its values and sends elements as one does. -/
theorem IsHomomorphism.exists_sends (hf : f.Between G.toFiniteGroup K.toFiniteGroup)
    (h : G.IsHomomorphism K f) : Standing K.Stands f.send.values.toList ∧
      ∃ φ : G.Element →* K.Element, f.Sends G.Stands K.Stands φ := by
  have hvalues : Standing K.Stands f.send.values.toList := fun b hb => by
    obtain ⟨g, hg, hgb⟩ := exists_apply hf hb
    obtain ⟨b', y, hb', hy⟩ := h.apply_mem g hg
    obtain rfl := Except.ok.inj (hgb.symm.trans hb')
    exact ⟨y, hy⟩
  obtain ⟨φ, hφ⟩ := hf.exists_sends G.realizes K.realizes hvalues
  refine ⟨hvalues, MonoidHom.mk' φ fun x y => ?_, hφ⟩
  obtain ⟨gh, a, b, c, ab, hgh, ha, hb, hc, hab, hequal⟩ := h.apply_mul x.1 x.2 y.1 y.2
  -- what is computed stands for what it should
  have happly : ∀ {g d z}, G.Stands g z → f.apply g = .ok d → K.Stands d (φ z) := by
    intro g d z hg hd
    obtain ⟨d', hd', hz⟩ := hφ.apply_spec hg
    rwa [← Except.ok.inj (hd.symm.trans hd')] at hz
  have hxy := G.realizes.mul_of_eq (stands_self x) (stands_self y) hgh
  have hproduct := K.realizes.mul_of_eq (happly (stands_self x) ha) (happly (stands_self y) hb) hab
  exact (K.realizes.equal_iff (happly hxy hc) hproduct).1 hequal

/-- What sends elements as a homomorphism does is one. The target of the map does not matter for
this. -/
theorem isHomomorphism_of_sends {φ : G.Element → K.Element} (hmul : ∀ x y, φ (x * y) = φ x * φ y)
    (h : ∀ g x, G.Stands g x → ∃ b, f.apply g = .ok b ∧ K.Stands b (φ x)) :
    G.IsHomomorphism K f where
  apply_mem g hg := by
    obtain ⟨b, hb, hy⟩ := h g ⟨g, hg⟩ (stands_self ⟨g, hg⟩)
    exact ⟨b, _, hb, hy⟩
  apply_mul g hg g' hg' := by
    have hself := stands_self (⟨g, hg⟩ : G.Element)
    have hself' := stands_self (⟨g', hg'⟩ : G.Element)
    obtain ⟨gh, hgh, hxy⟩ := G.realizes.mul_eq hself hself'
    obtain ⟨a, ha, hax⟩ := h g _ hself
    obtain ⟨b, hb, hby⟩ := h g' _ hself'
    obtain ⟨c, hc, hcxy⟩ := h gh _ hxy
    obtain ⟨ab, hab, habxy⟩ := K.realizes.mul_eq hax hby
    refine ⟨gh, a, b, c, ab, hgh, ha, hb, hc, hab, (K.realizes.equal_iff hcxy habxy).2 ?_⟩
    exact hmul _ _

/-! ## The question -/

/-- The question has the same answer for a target and for a larger group in which the values are
elements. -/
theorem isHom_eq (hKL : K.IsPartOf L) (htgt : f.tgt = K.toFiniteGroup) {φ : G.Element → L.Element}
    (h : ({ f with tgt := L.toFiniteGroup } : GroupMap).Sends G.Stands L.Stands φ) :
    f.isHom = ({ f with tgt := L.toFiniteGroup } : GroupMap).isHom := by
  obtain ⟨e, he, hone⟩ := h.apply_spec h.src.one
  have hfirst : e.equal K.identity = e.equal L.identity := by
    rw [L.equal_eq hone.1 hKL.one.1, L.equal_eq hone.1 L.domain_identity,
      Bool.eq_iff_iff.2 ((faithful hone hKL.one).trans (faithful hone L.realizes.one).symm)]
  have hrespects : ∀ a b, f.respects a b
      = ({ f with tgt := L.toFiniteGroup } : GroupMap).respects a b := by
    intro a b
    simp only [GroupMap.respects, htgt, hKL.mul_eq]
    rfl
  have happly : f.apply f.src.identity = .ok e := he
  rw [GroupMap.isHom, GroupMap.isHom, happly, he, ok_bind, ok_bind, htgt, hfirst]
  simp only [hrespects]

/-- If the values are elements of a group of which the target is a part, the question is whether
the map is a homomorphism into this group. -/
theorem isHom_spec (hf : f.Between G.toFiniteGroup K.toFiniteGroup) (hKL : K.IsPartOf L)
    (hvalues : Standing L.Stands f.send.values.toList) :
    ∃ answer, f.isHom = .ok answer ∧ (answer = true ↔ G.IsHomomorphism L f) := by
  have hfL : ({ f with tgt := L.toFiniteGroup } : GroupMap).Between G.toFiniteGroup
      L.toFiniteGroup := ⟨hf.src_eq, rfl, hf.keys⟩
  obtain ⟨φ, hφ⟩ := hfL.exists_sends G.realizes L.realizes hvalues
  obtain ⟨answer, hanswer, hiff⟩ := hφ.isHom_spec
  refine ⟨answer, (isHom_eq hKL hf.tgt_eq hφ).trans hanswer, hiff.trans ⟨fun ⟨_, hmul⟩ => ?_, ?_⟩⟩
  · exact isHomomorphism_of_sends hmul fun g x hx => hφ.apply_spec hx
  · intro hhom
    have hhomL : G.IsHomomorphism L { f with tgt := L.toFiniteGroup } :=
      ⟨hhom.apply_mem, hhom.apply_mul⟩
    obtain ⟨-, ψ, hψ⟩ := hhomL.exists_sends hfL
    obtain rfl : φ = ψ := funext fun x => by
      obtain ⟨b, hb, hbx⟩ := hφ.apply_spec (stands_self x)
      obtain ⟨b', hb', hbx'⟩ := hψ.apply_spec (stands_self x)
      obtain rfl := Except.ok.inj (hb.symm.trans hb')
      exact faithful.unique hbx hbx'
    exact ⟨map_one ψ, map_mul ψ⟩

/-- What is found out about a map from `G` to `K`. -/
structure TellsHomomorphism (G K : ValidGroup) (f : GroupMap) : Prop where
  /-- To be a homomorphism is more than to be found to be one. -/
  isHomomorphism_iff : G.IsHomomorphism K f ↔
    f.isHom = .ok true ∧ Standing K.Stands f.send.values.toList
  /-- What is found out is whether the map is a homomorphism into any group of which the target is
  a part and in which the values are elements. If they are elements of the target, that is the
  target itself. -/
  isHom_spec : ∀ L : ValidGroup, K.IsPartOf L → Standing L.Stands f.send.values.toList →
    ∃ answer, f.isHom = .ok answer ∧ (answer = true ↔ G.IsHomomorphism L f)

/-- The question is decided for every map that a mapping or a function describes, if only its values
are elements of some group. -/
theorem tellsHomomorphism {send : Value}
    (hf : GroupMap.ofSending G.candidate K.candidate send = .ok f) :
    G.TellsHomomorphism K f where
  isHomomorphism_iff := by
    have hbetween := GroupMap.between_of_ofSending G.realizes.pairwise_els hf
    constructor
    · intro h
      obtain ⟨hvalues, φ, hφ⟩ := h.exists_sends hbetween
      exact ⟨hφ.isHom_eq, hvalues⟩
    · rintro ⟨hhom, hvalues⟩
      obtain ⟨answer, hanswer, hiff⟩ := isHom_spec hbetween (.refl K) hvalues
      exact hiff.1 (Except.ok.inj (hanswer.symm.trans hhom))
  isHom_spec L hKL hvalues :=
    isHom_spec (GroupMap.between_of_ofSending G.realizes.pairwise_els hf) hKL hvalues

end ValidGroup

/-! ## Maps that move nothing -/

/-- The map of `G` to a group that moves nothing, whether or not its values are elements there. -/
def GroupMap.stay (G H : FiniteGroup) : GroupMap :=
  ⟨G, H, .ofList (G.els.map fun g => (g, g))⟩

namespace ValidGroup

variable (G K : ValidGroup)

theorem toList_stay (H : FiniteGroup) :
    (GroupMap.stay G.toFiniteGroup H).send.toList = G.els.map fun g => (g, g) := by
  refine Assignment.toList_ofList ?_
  rw [List.pairwise_map]
  exact G.realizes.pairwise_els

/-- It is described by the mapping that sends each element to itself. -/
theorem ofSending_stay :
    GroupMap.ofSending G.candidate K.candidate (.mapping 0 (G.els.map fun g => .tuple [g, g]))
      = .ok (.stay G.toFiniteGroup K.toFiniteGroup) := by
  have hels : G.els = (G.els.map fun g => (g, g)).map Prod.fst := by
    rw [List.map_map]
    exact (List.map_id _).symm
  have hkeyed : ∀ g ∈ G.els, ∃ k, g.keyed = .ok k := fun g hg => by
    obtain ⟨k, hk, -⟩ := G.keyed_eq (G.domain_of_mem hg)
    exact ⟨k, hk⟩
  have hsend := GroupMap.ofSending_pairs (H := K.toFiniteGroup) hels G.realizes.pairwise_els hkeyed
  rwa [List.map_map] at hsend

variable {G K}

/-- It is found to be a homomorphism to each part of `G`. -/
theorem isHom_stay (h : K.IsPartOf G) :
    (GroupMap.stay G.toFiniteGroup K.toFiniteGroup).isHom = .ok true := by
  have hself : List.Forall₂ (fun g p => ∃ x, G.Stands g x ∧ Paired G.Stands G.Stands p (x, id x))
      G.els (G.els.map fun g => (g, g)) := by
    rw [List.forall₂_map_right_iff, List.forall₂_same]
    exact fun g hg => ⟨⟨g, hg⟩, stands_self ⟨g, hg⟩, stands_self ⟨g, hg⟩, stands_self ⟨g, hg⟩⟩
  obtain ⟨hsends, -⟩ := GroupMap.sends_ofList G.realizes G.realizes hself
  rw [isHom_eq h rfl hsends]
  exact (eq_ok_true_iff hsends.isHom_spec).2 ⟨rfl, fun _ _ => rfl⟩

/-- It is a homomorphism only if all elements of `G` are elements of the target. -/
theorem standing_of_isHomomorphism_stay
    (h : G.IsHomomorphism K (.stay G.toFiniteGroup K.toFiniteGroup)) :
    Standing K.Stands G.els := by
  have hf := GroupMap.between_of_ofSending G.realizes.pairwise_els (ofSending_stay G K)
  obtain ⟨hvalues, -⟩ := h.exists_sends hf
  refine hvalues.mono fun g hg => ?_
  rw [← Assignment.map_snd_toList, toList_stay, List.map_map]
  exact List.mem_map_of_mem hg

end ValidGroup

theorem tellsHomomorphism_residues :
    let G := validResidues (n := 2) (by decide) (by decide)
    GroupMap.ofSending G.candidate G.candidate
        (.mapping 0 [.tuple [.int 0, .int 0], .tuple [.int 1, .int 1]])
      = .ok (.stay (residues 2) (residues 2)) ∧
    G.TellsHomomorphism G (.stay (residues 2) (residues 2)) := by
  intro G
  have hsend := G.ofSending_stay G
  rw [show G.els = [.int 0, .int 1] from els_residues (by decide)] at hsend
  exact ⟨hsend, ValidGroup.tellsHomomorphism hsend⟩

/-- The residues modulo two are sent to themselves, which is found to be a homomorphism to the
trivial group. -/
theorem exists_isHom_escaping :
    let G := validResidues (n := 2) (by decide) (by decide)
    ∃ (K : ValidGroup) (f : GroupMap), G.trivial = .ok K.toFiniteGroup ∧
      GroupMap.ofSending G.candidate K.candidate
        (.mapping 0 [.tuple [.int 0, .int 0], .tuple [.int 1, .int 1]]) = .ok f ∧
      f.isHom = .ok true ∧ ¬G.IsHomomorphism K f := by
  intro G
  obtain ⟨H, hH, hsub⟩ := ValidGroup.isSubgroup_trivial (G := G)
  have hzero : ∀ a ∈ H.els, a = .int 0 := by
    intro a ha
    obtain rfl | ⟨x, hx, hkeyed⟩ := (makesOf_of_subgroup (.inl rfl) hH).exists_of_mem ha
    · rfl
    · rw [List.mem_singleton.1 hx] at hkeyed
      exact (Except.ok.inj hkeyed).symm
  have hsend := G.ofSending_stay hsub.toValidGroup
  rw [show G.els = [.int 0, .int 1] from els_residues (by decide)] at hsend
  refine ⟨hsub.toValidGroup, _, hH, hsend, ValidGroup.isHom_stay hsub.isPartOf, fun hhom => ?_⟩
  have hone : Value.int 1 ∈ G.els := (mem_residues (by decide)).2 ⟨1, by decide, rfl⟩
  obtain ⟨y, -, hy⟩ := ValidGroup.standing_of_isHomomorphism_stay hhom _ hone
  rw [hzero y.1 y.2, beq_int] at hy
  exact absurd hy (by decide)

end FiniteGroups
