import FiniteGroups.Proofs.CheckedSubgroups
import FiniteGroups.Proofs.UncheckedSubgroups

/-!
# Intersections with any group

A subgroup is intersected with another group by looking which of its elements the other one has.
The result is made a subgroup without a check. The other group need not be a subgroup of the same
group, and then the common elements need not be closed (`exists_intersect_refused`) and there may
be none.

`ValidGroup.MeetsGroup` says what the result is : always a group of the common elements within the
parent, and a subgroup exactly if there are common elements and the other group has their products
in the parent. This is so if both groups multiply the common elements alike.
-/

namespace FiniteGroups

open FiniteGroup

namespace ValidGroup

variable {P : ValidGroup} {H I : FiniteGroup}

/-- The elements of `K` that are equal to some values are multiplied like these in `P`. -/
def MultipliesAlike (P K : ValidGroup) (els : List Value) : Prop :=
  ∀ a ∈ els, ∀ b ∈ els, ∀ a' ∈ K.els, ∀ b' ∈ K.els, (a' == a) = true → (b' == b) = true →
    ∃ c c', P.mul a b = .ok c ∧ K.mul a' b' = .ok c' ∧ (c' == c) = true

/-- What `I` is if it was made of the elements that the subgroup `H` of `P` shares with `K`. -/
structure MeetsGroup (P : ValidGroup) (H : FiniteGroup) (K : ValidGroup) (I : FiniteGroup) :
    Prop where
  isWithin : P.IsWithin I
  /-- It has the common elements. -/
  contains_iff : ∀ ⦃a x⦄, P.Stands a x →
    (I.contains a = .ok true ↔ H.contains a = .ok true ∧ K.contains a = .ok true)
  /-- It passes the check if it is not empty and `K` has the products of its elements. -/
  checkSubgroup_iff : P.checkSubgroup I.els = .ok () ↔
    I.els ≠ [] ∧ ∀ a ∈ I.els, ∀ b ∈ I.els, ∃ c, P.mul a b = .ok c ∧ K.contains c = .ok true
  /-- It is a subgroup if it passes the check. -/
  isSubgroup_iff : P.IsSubgroup I ↔ P.checkSubgroup I.els = .ok ()
  /-- Otherwise it is refused by the check, unless a value cannot be written that is named. -/
  refused : ∀ ⦃e⦄, P.checkSubgroup I.els = .error e →
    e.category = .structural ∨ ∃ a, P.toFiniteGroup.Mentions I.els a ∧ a.plain = .error e
  isSubgroup_of_multipliesAlike : I.els ≠ [] → P.MultipliesAlike K I.els → P.IsSubgroup I
  isSubgroup_of_isSubgroup : P.IsSubgroup K.toFiniteGroup → P.IsSubgroup I

/-- A value is found in another group if it is equal to one of its elements. -/
theorem contains_iff_exists (K : ValidGroup) {a : Value} {x : P.Element} (ha : P.Stands a x) :
    K.contains a = .ok true ↔ ∃ b ∈ K.els, (b == a) = true := by
  obtain ⟨k, hk, hkx⟩ := P.realizes.sought_eq ha
  have hka : (k == a) = true := (faithful hkx ha).2 rfl
  rw [contains, hk, ok_bind, pure_eq_ok, Except.ok.injEq, Roster.contains_iff, K.intact.els_eq]
  exact exists_congr fun b => and_congr_right fun _ =>
    ⟨fun h => BEq.trans h hka, fun h => BEq.trans h (BEq.symm hka)⟩

variable {K : ValidGroup}

section

variable (hI : P.IsWithin I) (hinv : ∀ a ∈ I.els, P.Invertible P.Stands a)
include hI hinv

/-- Common elements may be submitted to the check. -/
theorem submitted_of_mem : ∀ a ∈ I.els, P.Submitted a := by
  intro a ha
  obtain ⟨x, b, hx, hb, hbx⟩ := hinv a ha
  obtain ⟨k, hk, hkx⟩ := P.realizes.keyed_eq hx
  have hinverse := P.realizes.inverse_of_keyed hI ha hk
  rw [hI.inverse_eq] at hinverse
  exact ⟨k, hk, .inr ⟨⟨x, hx⟩, x, b, hkx, hinverse.trans hb, hbx⟩⟩

variable (hshared : Consists P.Stands I (P.shared H K.toFiniteGroup))
include hshared

theorem isSubgroup_iff_check : P.IsSubgroup I ↔ P.checkSubgroup I.els = .ok () := by
  refine ⟨fun h => h.checkSubgroup_eq, fun hcheck => ?_⟩
  have hclosed := (checkSubgroup_eq_ok_iff (submitted_of_mem hI hinv)).1 hcheck
  obtain ⟨N, hN⟩ := P.realizes.exists_subgroup_of_isClosedList hshared.standing_els hclosed
  rw [hshared.extent_els] at hN
  exact isSubgroup_of_consists hI (hN ▸ hshared) hinv

/-- Common elements are closed if `K` has their products, since `H` has them anyway. -/
theorem checkSubgroup_iff_products (hH : P.IsSubgroup H) : P.checkSubgroup I.els = .ok () ↔
    I.els ≠ [] ∧ ∀ a ∈ I.els, ∀ b ∈ I.els, ∃ c, P.mul a b = .ok c ∧ K.contains c = .ok true := by
  have hP := P.realizes
  obtain ⟨N, hN⟩ := hH.exists_consists
  rw [checkSubgroup_eq_ok_iff (submitted_of_mem hI hinv),
    hP.isClosedList_iff hshared.standing_els, hshared.extent_els]
  refine and_congr_right fun _ => ?_
  constructor
  · intro hmul a ha b hb
    obtain ⟨x, hx⟩ := hshared.standing_els a ha
    obtain ⟨y, hy⟩ := hshared.standing_els b hb
    obtain ⟨c, hc, hxy⟩ := hP.mul_eq hx hy
    have hmem := hmul x (hshared.extent_els.subset ⟨a, ha, hx⟩) y
      (hshared.extent_els.subset ⟨b, hb, hy⟩)
    exact ⟨c, hc, (contains_eq_of_stands _ hxy).trans hmem.2⟩
  · intro hmul x hx y hy
    obtain ⟨a, ha, hax⟩ := hshared.extent_els.superset hx
    obtain ⟨b, hb, hby⟩ := hshared.extent_els.superset hy
    obtain ⟨c, hc, hfound⟩ := hmul a ha b hb
    have hxy := hP.mul_of_eq hax hby hc
    have hin (z : P.Element) : H.contains z.1 = .ok true ↔ z ∈ N :=
      hP.contains_iff hN (stands_self z)
    exact ⟨(hin _).2 (N.mul_mem ((hin x).1 hx.1) ((hin y).1 hy.1)),
      (contains_eq_of_stands _ hxy).symm.trans hfound⟩

end

/-- If `K` multiplies common elements as `P` does, it has their products in `P`. -/
theorem exists_mul_contains (hshared : Consists P.Stands I (P.shared H K.toFiniteGroup))
    (halike : P.MultipliesAlike K I.els) {a b : Value} (ha : a ∈ I.els) (hb : b ∈ I.els) :
    ∃ c, P.mul a b = .ok c ∧ K.contains c = .ok true := by
  have hfound : ∀ a ∈ I.els, ∃ a' ∈ K.els, (a' == a) = true := fun a ha => by
    obtain ⟨x, hx⟩ := hshared.standing_els a ha
    have hmem := hshared.extent_els.subset ⟨a, ha, hx⟩
    exact (contains_iff_exists K hx).1 ((contains_eq_of_stands _ hx).trans hmem.2)
  obtain ⟨a', ha', haa'⟩ := hfound a ha
  obtain ⟨b', hb', hbb'⟩ := hfound b hb
  obtain ⟨c, c', hc, hc', hcc'⟩ := halike a ha b hb a' ha' b' hb' haa' hbb'
  refine ⟨c, hc, ?_⟩
  obtain ⟨x, hx⟩ := hshared.standing_els a ha
  obtain ⟨y, hy⟩ := hshared.standing_els b hb
  rw [contains_iff_exists K (P.realizes.mul_of_eq hx hy hc)]
  have hz := K.realizes.mul_of_eq (stands_self ⟨a', ha'⟩) (stands_self ⟨b', hb'⟩) hc'
  exact ⟨_, Element.mem _, BEq.trans (BEq.symm hz.2) hcc'⟩

/-- A subgroup is intersected with any valid group, and it is said above what becomes of it. -/
theorem exists_meetsGroup (hH : P.IsSubgroup H) (K : ValidGroup) :
    ∃ I, H.intersect K.toFiniteGroup P.toFiniteGroup = .ok I ∧ P.MeetsGroup H K I := by
  obtain ⟨I, hI, hwithin, hinv, hshared⟩ := exists_intersect hH K.toFiniteGroup
  have hiff := isSubgroup_iff_check hwithin hinv hshared
  have hcheck := checkSubgroup_iff_products hwithin hinv hshared hH
  refine ⟨I, hI, hwithin, fun a x ha => ?_, hcheck, hiff, fun e he => ?_, fun hne halike => ?_,
    fun hK => ?_⟩
  · rw [P.realizes.contains_iff hshared ha, contains_eq_of_stands H ha,
      contains_eq_of_stands K.toFiniteGroup ha]
    rfl
  · obtain ⟨hstructural | ⟨a, -, ha, hwrite⟩, -⟩ :=
      (refuses_checkSubgroup (submitted_of_mem hwithin hinv)).of_error he
    · exact .inl hstructural
    · exact .inr ⟨a, ha, hwrite⟩
  · exact hiff.2 (hcheck.2 ⟨hne, fun a ha b hb =>
      exists_mul_contains hshared halike ha hb⟩)
  · obtain ⟨I', hI', hsubgroup⟩ := isSubgroup_intersect hH hK
    exact Except.ok.inj (hI'.symm.trans hI) ▸ hsubgroup

/-- Residues modulo four as a group within them. -/
def withinFour (ns : List Int) : FiniteGroup :=
  (residues 4).subgroupOf (.ofList (ns.map .int)) .none .none

/-- The residue zero modulo four is also one modulo three. -/
theorem exists_meetsGroup_residues :
    let P := validResidues (n := 4) (by decide) (by decide)
    let K := validResidues (n := 3) (by decide) (by decide)
    ∃ H I, P.trivial = .ok H ∧ P.IsSubgroup H ∧
      H.intersect K.toFiniteGroup P.toFiniteGroup = .ok I ∧ P.MeetsGroup H K I ∧
      I.els ≠ [] ∧ P.MultipliesAlike K I.els ∧ P.IsSubgroup I := by
  intro P K
  obtain ⟨H, hH, hsubgroup⟩ := isSubgroup_trivial (G := P)
  obtain ⟨I, hI, hmeets⟩ := exists_meetsGroup hsubgroup K
  have hels : I.els = [.int 0] := by
    have htrivial : P.trivial = .ok (withinFour [0]) := by cbv
    have hmeet : (withinFour [0]).intersect (residues 3) (residues 4) = .ok (withinFour [0]) := by
      cbv
    obtain rfl := Except.ok.inj (hH.symm.trans htrivial)
    obtain rfl := Except.ok.inj (hmeet.symm.trans hI)
    cbv
  have hne : I.els ≠ [] := by simp [hels]
  have halike : P.MultipliesAlike K I.els := by
    rw [hels]
    intro a ha b hb a' ha' b' hb' haa' hbb'
    obtain rfl := List.mem_singleton.1 ha
    obtain rfl := List.mem_singleton.1 hb
    obtain ⟨j, -, rfl⟩ := (mem_residues (by decide)).1 ha'
    obtain ⟨k, -, rfl⟩ := (mem_residues (by decide)).1 hb'
    rw [beq_int] at haa' hbb'
    rw [haa', hbb']
    exact ⟨.int 0, .int 0, rfl, rfl, BEq.rfl⟩
  exact ⟨H, I, hH, hsubgroup, hI, hmeets, hne, halike,
    hmeets.isSubgroup_of_multipliesAlike hne halike⟩

/-! ## Common elements that are not closed -/

/-- All elements of a group are a subgroup. -/
theorem isSubgroup_whole (G : ValidGroup) :
    ∃ H, G.subgroup G.els .none .none = .ok H ∧ G.IsSubgroup H := by
  obtain ⟨r, hr, -, -⟩ := G.realizes.subgroup_spec G.realizes.standing .none .none
  exact ⟨_, hr, isSubgroup_of_makesOf (makesOf_of_subgroup (.inl rfl) hr) (fun _ ha => ha)
    (N := ⊤) G.realizes.extent_els⟩

/-- The residues modulo three are among those modulo four, but there they are not closed. -/
theorem exists_intersect_refused :
    let P := validResidues (n := 4) (by decide) (by decide)
    let K := validResidues (n := 3) (by decide) (by decide)
    ∃ H I, P.subgroup [.int 0, .int 1, .int 2, .int 3] .none .none = .ok H ∧ P.IsSubgroup H ∧
      H.intersect K.toFiniteGroup P.toFiniteGroup = .ok I ∧
      I.els = [.int 0, .int 1, .int 2] ∧ P.checkSubgroup I.els ≠ .ok () := by
  intro P K
  obtain ⟨H, hH, hsubgroup⟩ := isSubgroup_whole P
  have hels : P.els = [.int 0, .int 1, .int 2, .int 3] := by cbv
  have hwhole : P.subgroup [.int 0, .int 1, .int 2, .int 3] .none .none =
      .ok (withinFour [0, 1, 2, 3]) := by cbv
  rw [hels] at hH
  obtain rfl := Except.ok.inj (hH.symm.trans hwhole)
  obtain ⟨I, hI, hwithin, hinv, hshared⟩ := exists_intersect hsubgroup K.toFiniteGroup
  have hmeet : (withinFour [0, 1, 2, 3]).intersect (residues 3) (residues 4) =
      .ok (withinFour [0, 1, 2]) := by cbv
  obtain rfl := Except.ok.inj (hmeet.symm.trans hI)
  have hcommon : (withinFour [0, 1, 2]).els = [.int 0, .int 1, .int 2] := by cbv
  refine ⟨_, _, hH, hsubgroup, hI, hcommon, fun hcheck => ?_⟩
  -- one and two are common elements, but three is none
  obtain ⟨-, hproducts⟩ := (checkSubgroup_iff_products hwithin hinv hshared hsubgroup).1 hcheck
  obtain ⟨c, hc, hthree⟩ := hproducts (.int 1) (by simp [hcommon]) (.int 2) (by simp [hcommon])
  obtain rfl := Except.ok.inj (hc.symm.trans (by cbv : P.mul (.int 1) (.int 2) = .ok (.int 3)))
  have hout : (residues 3).contains (.int 3) = .ok false := by cbv
  exact absurd (hout.symm.trans hthree) (by simp)

end ValidGroup

end FiniteGroups
