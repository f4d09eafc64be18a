import FiniteGroups.Proofs.Valid

/-!
# Groups within a group

A set of elements becomes a group within `G` without being asked whether it is a subgroup
(`FiniteGroup.MakesOf`). Most subgroups are made in this way, since they are closed by the way in
which their elements were found. `ValidGroup.IsSubgroup` says that nothing was lost by it: the set
passes the check that a set of elements is otherwise put to, and nothing is wrong with the group.

What is needed for it is that the elements stand for those of a subgroup and that each of them is
inverted as it is written (`ValidGroup.isSubgroup_of_consists`). The second does not follow from
the first, since an element of a group within `G` need not be written as it is in `G`. Conversely
what passes both checks is of this kind (`ValidGroup.IsSubgroup.exists_consists`,
`ValidGroup.IsSubgroup.invertible`).
-/

set_option linter.unusedSectionVars false

namespace FiniteGroups

namespace FiniteGroup

variable {G H : FiniteGroup} {xs : List Value}

/-- `H` was made of some values as a group within `G`, whether or not they are a subgroup. -/
def MakesOf (G : FiniteGroup) (xs : List Value) (H : FiniteGroup) : Prop :=
  ∃ r gens name, Value.distinct xs = .ok r ∧ Nameable name ∧ H = G.subgroupOf r gens name

/-- `H` was made within `G`. -/
def IsWithin (G H : FiniteGroup) : Prop :=
  ∃ xs, G.MakesOf xs H

theorem makesOf_of_subgroup {gens name : Value} (hname : Nameable name)
    (h : G.subgroup xs gens name = .ok H) : G.MakesOf xs H := by
  obtain ⟨r, hr, h⟩ := bind_eq_ok.1 h
  obtain ⟨-, -, h⟩ := bind_eq_ok.1 h
  exact ⟨r, gens, name, hr, hname, (Except.ok.inj h).symm⟩

theorem isWithin_of_span {gens : List Value} (h : G.span gens = .ok H) : G.IsWithin H := by
  obtain ⟨found, r, -, hr, hH⟩ := exists_of_span h
  exact ⟨found, r, _, _, hr, .inl rfl, hH⟩

/-- The elements are the keys of the values, except for the identity, which stays as it is. -/
theorem MakesOf.exists_of_mem (h : G.MakesOf xs H) {a : Value} (ha : a ∈ H.els) :
    a = G.identity ∨ ∃ x ∈ xs, x.keyed = .ok a := by
  obtain ⟨r, gens, name, hr, -, rfl⟩ := h
  exact (Roster.mem_of_mem_promote ha).imp_right fun ha => Value.exists_of_mem_distinct hr ha

/-- The key of a value of a list is among the distinct values. -/
theorem contains_of_distinct {r : Roster Value} (h : Value.distinct xs = .ok r) {a k : Value}
    (ha : a ∈ xs) (hk : a.keyed = .ok k) : r.contains k = true := by
  obtain ⟨ks, hks, h⟩ := bind_eq_ok.1 h
  obtain rfl := Except.ok.inj h
  obtain ⟨l, hl, hal⟩ := exists_of_forall₂ (mapM_eq_ok_iff.1 hks).flip ha
  obtain rfl := Except.ok.inj (hk.symm.trans hal)
  exact Roster.contains_ofList.2 ⟨k, hl, BEq.rfl⟩

/-- Nothing but elements passes the check of a set that is to become a subgroup. -/
theorem contains_of_checkSubgroup (h : G.checkSubgroup xs = .ok ()) {a k : Value} (ha : a ∈ xs)
    (hk : a.keyed = .ok k) : G.elements.contains k = true := by
  rw [checkSubgroup] at h
  split at h
  · exact nomatch h
  · obtain ⟨items, hitems, h⟩ := bind_eq_ok.1 h
    obtain ⟨_, hparent, -⟩ := bind_eq_ok.1 h
    obtain ⟨l, hl, hlk⟩ := Roster.contains_iff.1 (contains_of_distinct hitems ha hk)
    have hpass := of_forM_eq_ok hparent hl
    rw [← G.elements.contains_congr hlk]
    by_contra hout
    rw [Bool.not_eq_true] at hout
    rw [requireInside, hout, Bool.not_false, if_pos rfl] at hpass
    obtain ⟨_, -, hpass⟩ := bind_eq_ok.1 hpass
    obtain ⟨_, -, hpass⟩ := bind_eq_ok.1 hpass
    exact nomatch hpass

namespace IsWithin

variable (h : G.IsWithin H)
include h

theorem mul_eq : H.mul = G.mul := by
  obtain ⟨-, r, gens, name, -, -, rfl⟩ := h
  rfl

theorem inverse_eq : H.inverse = G.inverse := by
  obtain ⟨-, r, gens, name, -, -, rfl⟩ := h
  rfl

theorem identity_eq : H.identity = G.identity := by
  obtain ⟨-, r, gens, name, -, -, rfl⟩ := h
  rfl

theorem op_eq : H.op = G.op := by
  obtain ⟨-, r, gens, name, -, -, rfl⟩ := h
  rfl

theorem intact (hG : G.Intact) : H.Intact := by
  obtain ⟨-, r, gens, name, -, hname, rfl⟩ := h
  exact hG.subgroupOf r gens hname

/-- The elements are their own keys, except for the identity. -/
theorem keyed_of_mem {a : Value} (ha : a ∈ H.els) : a = G.identity ∨ a.keyed = .ok a := by
  obtain ⟨xs, h⟩ := h
  exact (h.exists_of_mem ha).imp_right fun ⟨x, _, hx⟩ => Value.keyed_of_keyed x hx

end IsWithin

variable {M : Type} [Group M] {R : Value → M → Prop}

/-- What consists of a subgroup carries the subgroup, whatever is taken for inverses. -/
theorem Carries.restrict (hG : G.Carries R) (hH : G.IsWithin H) {K : Subgroup M}
    (hK : Consists R H K) : H.Carries fun a (x : K) => R a x where
  els_eq := hK.els_eq
  standing a ha := by
    obtain ⟨x, hx⟩ := hK.standing a ha
    exact ⟨⟨x, hK.extent_eq.subset ⟨a, ha, hx⟩⟩, hx⟩
  extent_eq := Set.eq_univ_of_forall fun x => hK.extent_eq.superset x.2
  mul_eq a b x y ha hb := by
    obtain ⟨c, hc, hxy⟩ := hG.mul_eq ha hb
    exact ⟨c, by rw [hH.mul_eq, hc], hxy⟩
  faithful a b x y ha hb := (hG.faithful ha hb).trans Subtype.ext_iff.symm
  keyed_eq a x ha := hG.keyed_eq ha
  equal_eq a b x y ha hb := hG.equal_eq ha hb
  one := by
    rw [hH.identity_eq]
    exact hG.one

namespace Realizes

variable (hG : G.Realizes R)
include hG

/-- A group consists of what the values stand for that it was made of. -/
theorem consists_of_makesOf (h : G.MakesOf xs H) (hxs : Standing R xs) :
    Consists R H (extent R xs) := by
  obtain ⟨r, gens, name, hr, -, rfl⟩ := h
  obtain ⟨r', hr', hstand, hextent⟩ := hG.distinct_spec hxs
  obtain rfl := Except.ok.inj (hr.symm.trans hr')
  exact hextent ▸ hG.consists_subgroupOf hstand gens name

/-- It inverts its elements if the keys of the values are inverted. -/
theorem invertible_of_makesOf (h : G.MakesOf xs H)
    (hxs : ∀ x ∈ xs, ∀ k, x.keyed = .ok k → G.Invertible R k) :
    ∀ a ∈ H.els, G.Invertible R a := by
  intro a ha
  obtain rfl | ⟨x, hx, hxa⟩ := h.exists_of_mem ha
  · exact hG.invertible_of_mem hG.identity_mem
  · exact hxs x hx a hxa

/-- All that is left to check of what stands for a subgroup are the inverses. -/
theorem checkSubgroup_inverses {K : Subgroup M} (hxs : Standing R xs) (hK : extent R xs = K) :
    ∃ items : Roster Value, Value.distinct xs = .ok items ∧ Standing R items.toList ∧
      extent R items.toList = K ∧
      G.checkSubgroup xs =
        items.toList.forM (m := Except Fault) (G.requireInverse items) := by
  obtain ⟨items, hitems, hstand, hextent⟩ := hG.distinct_spec hxs
  have hmem : extent R items.toList = K := hextent.trans hK
  have hstands : ∀ a ∈ items.toList, ∃ x ∈ K, R a x := fun a ha => by
    obtain ⟨x, hx⟩ := hstand a ha
    exact ⟨x, hmem.subset ⟨a, ha, hx⟩, hx⟩
  have hfound : ∀ {a x}, R a x → x ∈ K → ∃ k, a.sought = .ok k ∧ items.contains k = true :=
    fun {a x} ha hx => by
      obtain ⟨k, hk, hkx⟩ := hG.sought_eq ha
      exact ⟨k, hk, (hG.faithful.contains_iff hstand hkx).2 (hmem.superset hx)⟩
  have hne : xs.isEmpty = false := by
    obtain ⟨a, ha, -⟩ := hK.superset K.one_mem
    exact List.isEmpty_eq_false_iff.2 (List.ne_nil_of_mem ha)
  have hparent : items.toList.forM (m := Except Fault) G.requireInside = .ok () :=
    forM_eq_ok fun a ha => by
      obtain ⟨x, -, hx⟩ := hstands a ha
      rw [requireInside, (hG.faithful.contains_iff hG.consists.standing hx).2
        (hG.consists.extent_eq.superset (Set.mem_univ x))]
      rfl
  have hproducts : items.toList.forM (m := Except Fault) (fun a =>
      items.toList.forM (G.requireProduct items a)) = .ok () :=
    forM_eq_ok fun a ha => forM_eq_ok fun b hb => by
      obtain ⟨x, hx, hax⟩ := hstands a ha
      obtain ⟨y, hy, hby⟩ := hstands b hb
      obtain ⟨c, hc, hxy⟩ := hG.mul_eq hax hby
      obtain ⟨k, hk, hmem⟩ := hfound hxy (K.mul_mem hx hy)
      rw [requireProduct, hc, ok_bind, hk, ok_bind, hmem]
      rfl
  have hunit : G.requireUnit items = .ok () := by
    obtain ⟨e, he, hone⟩ := hfound hG.one K.one_mem
    rw [requireUnit, he, ok_bind, hone]
    rfl
  refine ⟨items, hitems, hstand, hmem, ?_⟩
  rw [checkSubgroup, hne, hitems, ok_bind, hparent, ok_bind, hunit, ok_bind, hproducts]
  rfl

/-- The check of the inverse of an element passes if the inverse is what it should be. -/
theorem check_inverse_eq {K : Subgroup M} {items : Roster Value} (hstand : Standing R items.toList)
    (hextent : extent R items.toList = K) {a b : Value} {x : M} (ha : a ∈ items.toList)
    (hx : R a x) (hb : G.inverse a = .ok b) (hbx : R b x⁻¹) :
    G.requireInverse items a = .ok () := by
  obtain ⟨k, hk, hkx⟩ := hG.sought_eq hbx
  have hfound : items.contains k = true :=
    (hG.faithful.contains_iff hstand hkx).2
      (hextent.superset (K.inv_mem (hextent.subset ⟨a, ha, hx⟩)))
  rw [requireInverse, hb, ok_bind, hk, ok_bind, hfound]
  rfl

/-- What stands for a subgroup and is inverted as the members of a set passes the check of a set
that is to become a subgroup. -/
theorem checkSubgroup_of_invertible {K : Subgroup M} (hxs : Standing R xs) (hK : extent R xs = K)
    (hinv : ∀ a ∈ xs, ∀ k, a.keyed = .ok k → G.Invertible R k) :
    G.checkSubgroup xs = .ok () := by
  obtain ⟨items, hitems, hstand, hextent, hcheck⟩ := hG.checkSubgroup_inverses hxs hK
  rw [hcheck]
  refine forM_eq_ok fun a ha => ?_
  obtain ⟨a', ha', hkey⟩ := Value.exists_of_mem_distinct hitems ha
  obtain ⟨x, b, hx, hb, hbx⟩ := hinv a' ha' a hkey
  exact hG.check_inverse_eq hstand hextent ha hx hb hbx

variable (hH : G.IsWithin H)
include hH

/-- Elements and their keys have the same inverse. -/
theorem inverse_of_keyed {a k : Value} (ha : a ∈ H.els) (hk : a.keyed = .ok k) :
    H.inverse k = H.inverse a := by
  rw [hH.inverse_eq]
  obtain rfl | ha' := hH.keyed_of_mem ha
  · exact hG.inverse_keyed hG.identity_mem hk
  · rw [← Except.ok.inj (hk.symm.trans ha')]

variable {K : Subgroup M} (hK : Consists R H K) (hinv : ∀ a ∈ H.els, G.Invertible R a)
include hK hinv

/-- The key of an element is inverted as the element is. -/
theorem invertible_of_keyed_mem {a k : Value} (ha : a ∈ H.els) (hk : a.keyed = .ok k) :
    G.Invertible R k := by
  obtain ⟨x, b, hx, hb, hbx⟩ := hinv a ha
  refine ⟨x, b, hG.stands_of_keyed hx hk, ?_, hbx⟩
  rw [← hH.inverse_eq, hG.inverse_of_keyed hH ha hk, hH.inverse_eq, hb]

/-- What consists of a subgroup and inverts its elements realizes the subgroup. -/
theorem restrict : H.Realizes fun a (x : K) => R a x where
  toMultiplies := (hG.carries.restrict hH hK).toMultiplies
  intact := hH.intact hG.intact
  equal_eq := (hG.carries.restrict hH hK).equal_eq
  standing := (hG.carries.restrict hH hK).standing_els
  surjective x := hK.mem_iff.1 x.2
  one := (hG.carries.restrict hH hK).one
  inverse_eq a x ha hx := by
    obtain ⟨y, b, hy, hb, hby⟩ := hinv a ha
    obtain rfl := hG.faithful.unique hy hx
    refine ⟨b, by rw [hH.inverse_eq, hb], hby, ?_⟩
    rintro rfl
    -- a missing value would stand for what an element of `G` stands for
    obtain ⟨c, hc, hcy⟩ := hG.surjective (x : M)⁻¹
    obtain rfl := Value.eq_none_of_beq ((hG.faithful hcy hby).2 rfl)
    exact hG.none_not_mem hc
  inverse_keyed _ _ := hG.inverse_of_keyed hH

/-- The elements of such a group pass the check of a set that is to become a group. -/
theorem checkSubgroup_eq : G.checkSubgroup H.els = .ok () :=
  hG.checkSubgroup_of_invertible hK.standing_els hK.extent_els fun _ ha _ hk =>
    hG.invertible_of_keyed_mem hH hK hinv ha hk

end Realizes

end FiniteGroup

/-! ## Subgroups of valid groups -/

namespace ValidGroup

open FiniteGroup

variable {G : ValidGroup} {H : FiniteGroup}

/-- `H` is a subgroup that was made within `G`. Its elements and their inverses are values that are
used as elements of `G`, which may be written in another way than in `G`. -/
structure IsSubgroup (G : ValidGroup) (H : FiniteGroup) : Prop where
  isWithin : G.IsWithin H
  standing : Standing G.Stands H.els
  domain_inverse : ∀ ⦃a b⦄, a ∈ H.els → H.inverse a = .ok b → G.Domain b
  /-- It passes the check of a set of elements that is to become a subgroup. -/
  checkSubgroup_eq : G.checkSubgroup H.els = .ok ()
  /-- The check of the axioms finds nothing. -/
  verify_eq : ∀ ⦃most m⦄, most.index = .ok m → H.verify most = .ok ⟨[]⟩

/-- What consists of a subgroup and inverts its elements is a subgroup of `G`. -/
theorem isSubgroup_of_consists (hH : G.IsWithin H) {N : Subgroup G.Element}
    (hN : Consists G.Stands H N) (hinv : ∀ a ∈ H.els, G.Invertible G.Stands a) :
    G.IsSubgroup H where
  isWithin := hH
  standing := hN.standing_els
  domain_inverse a b ha hb := by
    obtain ⟨x, b', -, hb', hbx⟩ := hinv a ha
    rw [hH.inverse_eq, hb'] at hb
    exact Except.ok.inj hb ▸ hbx.1
  checkSubgroup_eq := G.realizes.checkSubgroup_eq hH hN hinv
  verify_eq most m hmost := (G.realizes.restrict hH hN hinv).verify_eq hmost

/-- What forms a subgroup within `G` is a subgroup of `G`. -/
theorem isSubgroup_of_forms (hH : G.IsWithin H) {N : Subgroup G.Element}
    (hN : Forms G.Stands H N) : G.IsSubgroup H :=
  isSubgroup_of_consists hH hN.toConsists fun a ha => by
    obtain ⟨x, b, hx, hb, hbx⟩ := hN.invertible a ha
    exact ⟨x, b, hx, hH.inverse_eq ▸ hb, hbx⟩

namespace IsSubgroup

variable (h : G.IsSubgroup H)
include h

/-- A subgroup is a valid group of its own, and the same values are used as elements. -/
def toValidGroup : ValidGroup where
  toFiniteGroup := H
  intact := h.isWithin.intact G.intact
  Domain := G.Domain
  domain_of_mem a ha := by
    obtain ⟨x, hx⟩ := h.standing a ha
    exact hx.1
  domain_identity := by
    rw [h.isWithin.identity_eq]
    exact G.domain_identity
  domain_inverse := h.domain_inverse
  inverse_keyed _ _ := G.realizes.inverse_of_keyed h.isWithin
  keyed_eq := G.keyed_eq
  equal_eq := G.equal_eq
  mul_congr := by
    rw [h.isWithin.mul_eq]
    exact G.mul_congr
  verified := ⟨⟨[]⟩, h.verify_eq rfl, rfl⟩

/-- The element of `G` that an element of the subgroup is equal to. -/
theorem exists_stands {a : Value} {z : h.toValidGroup.Element} (ha : h.toValidGroup.Stands a z) :
    ∃ x : G.Element, G.Stands a x ∧ G.Stands z.1 x := by
  obtain ⟨x, hx⟩ := h.standing z.1 z.2
  exact ⟨x, ⟨ha.1, BEq.trans ha.2 hx.2⟩, hx⟩

/-- An element is inverted as what it stands for, and the inverse is equal to an element. -/
theorem exists_inverse {a : Value} (ha : a ∈ H.els) {x : G.Element} (hx : G.Stands a x) :
    ∃ b, H.inverse a = .ok b ∧ G.Stands b x⁻¹ ∧ ∃ c ∈ H.els, G.Stands c x⁻¹ := by
  have hH := h.toValidGroup.realizes
  have hself := stands_self (⟨a, ha⟩ : h.toValidGroup.Element)
  obtain ⟨b, hb, hbz, -⟩ := hH.inverse_eq ha hself
  obtain ⟨y, hby, hy⟩ := h.exists_stands hbz
  -- the product of the two is the identity in the subgroup, and is written as it is in `G`
  obtain ⟨c, hc, hone⟩ := hH.mul_eq hself hbz
  rw [mul_inv_cancel] at hone
  have hce : (c == G.identity) = true := h.isWithin.identity_eq ▸ (hH.faithful hone hH.one).2 rfl
  have hxy : G.Stands c (x * y) := G.realizes.mul_of_eq hx hby (h.isWithin.mul_eq ▸ hc)
  obtain rfl := eq_inv_of_mul_eq_one_right ((faithful hxy G.realizes.one).1 hce)
  exact ⟨b, hb, hby, _, Element.mem _, hy⟩

theorem invertible : ∀ a ∈ H.els, G.Invertible G.Stands a := by
  intro a ha
  obtain ⟨x, hx⟩ := h.standing a ha
  obtain ⟨b, hb, hbx, -⟩ := h.exists_inverse ha hx
  rw [h.isWithin.inverse_eq] at hb
  exact ⟨x, b, hx, hb, hbx⟩

/-- A subgroup consists of a subgroup in the sense of group theory. -/
theorem exists_consists : ∃ N : Subgroup G.Element, Consists G.Stands H N := by
  have hH := h.toValidGroup.realizes
  refine ⟨{
    carrier := extent G.Stands H.els
    one_mem' := ?_
    mul_mem' := ?_
    inv_mem' := ?_ }, (h.isWithin.intact G.intact).els_eq,
      (h.isWithin.intact G.intact).els_eq ▸ h.standing, ?_⟩
  · rintro x y ⟨a, ha, hx⟩ ⟨b, hb, hy⟩
    obtain ⟨c, hc, hz⟩ := hH.mul_eq (stands_self (⟨a, ha⟩ : h.toValidGroup.Element))
      (stands_self (⟨b, hb⟩ : h.toValidGroup.Element))
    obtain ⟨z, hcz, hz⟩ := h.exists_stands hz
    have hxy := G.realizes.mul_of_eq hx hy (h.isWithin.mul_eq ▸ hc)
    rw [← faithful.unique hcz hxy]
    exact ⟨_, Element.mem _, hz⟩
  · exact ⟨G.identity, h.isWithin.identity_eq ▸ hH.identity_mem, G.realizes.one⟩
  · rintro x ⟨a, ha, hx⟩
    obtain ⟨-, -, -, hinverse⟩ := h.exists_inverse ha hx
    exact hinverse
  · rw [← (h.isWithin.intact G.intact).els_eq]
    rfl

end IsSubgroup

end ValidGroup

end FiniteGroups
