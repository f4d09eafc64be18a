import FiniteGroups.Action.Basic
import FiniteGroups.Proofs.Assignment
import FiniteGroups.Proofs.Blocks
import FiniteGroups.Proofs.Valid
import Mathlib.GroupTheory.GroupAction.Quotient
import Mathlib.GroupTheory.GroupAction.Transitive

/-!
# Orbits

An action as data realizes an action of a group `M` on a type `X` if its group realizes `M`, its
items stand for the members of `X`, and what an element makes of an item stands for what it makes
of it in `X` (`GroupAction.Realizes`). The orbits are then taken out of the items one by one
(`Realizes.orbits_spec`), and counting the items that each element leaves where they are gives
their number (`Realizes.burnside_eq`).
-/

set_option linter.unusedSectionVars false

namespace FiniteGroups

open FiniteGroup MulAction

theorem entry_cons_zero {α : Type} (a : α) (xs : List α) :
    Position.entry (a :: xs) 0 = .ok a := by
  simp [Position.entry, Position.resolve]

namespace GroupAction

/-! ## The laws -/

/-- The identity leaves the values where they are, and a product acts on them one factor after the
other. -/
structure LawsOn (A : GroupAction) (Y : Value → Prop) : Prop where
  act_one : ∀ ⦃a⦄, Y a → ∃ b, A.act A.group.identity a = .ok b ∧ b.equal a = .ok true
  act_mul : ∀ g ∈ A.group.els, ∀ h ∈ A.group.els, ∃ gh, A.group.mul g h = .ok gh ∧
    ∀ ⦃a⦄, Y a → ∃ u v w, A.act gh a = .ok u ∧ A.act h a = .ok v ∧ A.act g v = .ok w ∧
      u.equal w = .ok true

theorem LawsOn.mono {A : GroupAction} {Y Z : Value → Prop} (h : A.LawsOn Z)
    (hsub : ∀ a, Y a → Z a) : A.LawsOn Y where
  act_one _ ha := h.act_one (hsub _ ha)
  act_mul g hg g' hg' := by
    obtain ⟨gh, hgh, hall⟩ := h.act_mul g hg g' hg'
    exact ⟨gh, hgh, fun _ ha => hall (hsub _ ha)⟩

/-- The laws are found to hold if they hold for the items. -/
theorem isAction_iff {A : GroupAction} : A.isAction = .ok true ↔ A.LawsOn (· ∈ A.items) := by
  constructor
  · intro h
    obtain ⟨fixed, hfixed, hrest⟩ := bind_eq_ok.1 h
    cases fixed with
    | false => exact nomatch Except.ok.inj hrest
    | true =>
      rw [if_pos rfl] at hrest
      refine ⟨fun a ha => bind_eq_ok.1 (of_allM_eq_true hfixed a ha), fun g hg h hh => ?_⟩
      obtain ⟨gh, hgh, hall⟩ := bind_eq_ok.1 (of_allM_eq_true (of_allM_eq_true hrest g hg) h hh)
      refine ⟨gh, hgh, fun a ha => ?_⟩
      obtain ⟨u, hu, hequal⟩ := bind_eq_ok.1 (of_allM_eq_true hall a ha)
      obtain ⟨v, hv, hequal⟩ := bind_eq_ok.1 hequal
      obtain ⟨w, hw, hequal⟩ := bind_eq_ok.1 hequal
      exact ⟨u, v, w, hu, hv, hw, hequal⟩
  · intro h
    have hfixed : A.items.allM (fun x => do (← A.act A.group.identity x).equal x) = .ok true :=
      allM_eq_true fun a ha => by
        obtain ⟨b, hb, hequal⟩ := h.act_one ha
        rw [hb, ok_bind, hequal]
    rw [isAction, hfixed, ok_bind, if_pos rfl]
    refine allM_eq_true fun g hg => allM_eq_true fun g' hg' => ?_
    obtain ⟨gh, hgh, hall⟩ := h.act_mul g hg g' hg'
    rw [hgh, ok_bind]
    refine allM_eq_true fun a ha => ?_
    obtain ⟨u, v, w, hu, hv, hw, hequal⟩ := hall ha
    rw [hu, ok_bind, hv, ok_bind, hw, ok_bind, hequal]

/-- The laws of an action are laws for some of its items. -/
theorem isAction_of_subset {A : GroupAction} (h : A.isAction = .ok true)
    {items : List Value} (members : Roster Value) (hitems : ∀ a ∈ items, a ∈ A.items) :
    { A with items, members }.isAction = .ok true :=
  have hlaws : { A with items, members }.LawsOn (· ∈ A.items) :=
    ⟨(isAction_iff.1 h).act_one, (isAction_iff.1 h).act_mul⟩
  isAction_iff.2 (hlaws.mono hitems)

/-! ## Actions that realize an action -/

variable {M X : Type} [Group M] [MulAction M X] {R : Value → M → Prop} {S : Value → X → Prop}
  {A : GroupAction}

/-- Values stand for the members of `X` in such a way that `A` acts as `M` does. -/
structure Realizes (A : GroupAction) (R : Value → M → Prop) (S : Value → X → Prop) : Prop where
  group : A.group.Realizes R
  faithful : Faithful S
  act_eq : ∀ ⦃a b g x⦄, R a g → S b x → ∃ c, A.act a b = .ok c ∧ S c (g • x)
  keyed_eq : ∀ ⦃a x⦄, S a x → ∃ k, a.keyed = .ok k ∧ S k x
  equal_eq : ∀ ⦃a b x y⦄, S a x → S b y → a.equal b = .ok (a == b)
  items_ne : A.items ≠ []
  distinct : A.items.Pairwise fun a b => (a == b) = false
  standing : Standing S A.items
  surjective : ∀ x, ∃ a ∈ A.items, S a x

/-- If what leaves an item where it is stands for a subgroup, the stabilizer consists of it. -/
theorem stabilizer_of_gens (hG : A.group.Realizes R) {a : Value} {gens : List Value}
    (hgens : A.group.els.filterM (A.fixes · a) = .ok gens) (hsub : gens ⊆ A.group.els)
    {N : Subgroup M} (hN : extent R gens = N) :
    ∃ K, A.stabilizer a = .ok K ∧ Consists R K N := by
  obtain ⟨K, hK, hconsists⟩ :=
    hG.span_of_subgroup (fun g hg => hG.invertible_of_mem (hsub hg)) hN
  exact ⟨K, by rw [stabilizer, hgens, ok_bind, hK], hconsists⟩

namespace Realizes

variable (hA : A.Realizes R S)
include hA

theorem extent_items : extent S A.items = Set.univ :=
  Set.eq_univ_of_forall hA.surjective

theorem finite : Finite X := by
  have hfinite := hA.faithful.finite_extent hA.standing
  rw [hA.extent_items] at hfinite
  exact Set.finite_univ_iff.1 hfinite

theorem length_items : A.items.length = Nat.card X := by
  rw [← hA.faithful.ncard_extent_of_pairwise hA.standing hA.distinct, hA.extent_items,
    Set.ncard_univ]

/-- Items that stand for the same are one. -/
theorem eq_of_stands {a b : Value} (ha : a ∈ A.items) (hb : b ∈ A.items) {x : X} (hax : S a x)
    (hbx : S b x) : a = b :=
  hA.faithful.eq_of_pairwise hA.distinct ha hb hax hbx

/-- Items are found equal exactly if they stand for the same. -/
theorem equal_iff {a b : Value} {x y : X} (ha : S a x) (hb : S b y) :
    a.equal b = .ok true ↔ x = y := by
  rw [hA.equal_eq ha hb, Except.ok.injEq, hA.faithful ha hb]

/-- The laws hold for all that stands for a member of `X`. -/
theorem lawsOn : A.LawsOn fun a => ∃ x, S a x := by
  have hG := hA.group
  refine ⟨fun a ⟨x, hx⟩ => ?_, fun a ha b hb => ?_⟩
  · obtain ⟨b, hb, hbx⟩ := hA.act_eq hG.one hx
    rw [one_smul] at hbx
    exact ⟨b, hb, (hA.equal_iff hbx hx).2 rfl⟩
  · obtain ⟨g, hg⟩ := hG.standing a ha
    obtain ⟨h, hh⟩ := hG.standing b hb
    obtain ⟨ab, hab, hgh⟩ := hG.mul_eq hg hh
    refine ⟨ab, hab, fun c ⟨x, hx⟩ => ?_⟩
    obtain ⟨u, hu, hux⟩ := hA.act_eq hgh hx
    obtain ⟨v, hv, hvx⟩ := hA.act_eq hh hx
    obtain ⟨w, hw, hwx⟩ := hA.act_eq hg hvx
    exact ⟨u, v, w, hu, hv, hw, (hA.equal_iff hux hwx).2 (mul_smul g h x)⟩

/-- The action satisfies the laws. -/
theorem isAction_eq : A.isAction = .ok true :=
  isAction_iff.2 (hA.lawsOn.mono hA.standing)

/-! ## Stabilizers -/

theorem fixes_spec {a b : Value} {g : M} {x : X} (ha : R a g) (hb : S b x) :
    ∃ answer, A.fixes a b = .ok answer ∧ (answer = true ↔ g • x = x) := by
  obtain ⟨c, hc, hcx⟩ := hA.act_eq ha hb
  exact ⟨_, by rw [fixes, hc, ok_bind, hA.equal_eq hcx hb], hA.faithful hcx hb⟩

/-- The stabilizer consists of the elements that leave the item where it is. -/
theorem stabilizer_spec {a : Value} {x : X} (ha : S a x) :
    ∃ K, A.stabilizer a = .ok K ∧ Consists R K (MulAction.stabilizer M x) := by
  have hG := hA.group
  obtain ⟨gens, hgens, hsub, hextent⟩ := hG.faithful.exists_filterM hG.standing
    fun g _ y hg => hA.fixes_spec hg ha
  have hstabilizer : extent R gens = MulAction.stabilizer M x := by
    rw [hextent, hG.extent_els]
    ext y
    simp
  exact stabilizer_of_gens hG hgens hsub.subset hstabilizer

/-! ## Taking out the orbits -/

/-- The orbit of an item is found. -/
theorem orbit_spec {a : Value} {x : X} (ha : S a x) :
    ∃ found, A.orbit a = .ok found ∧ Standing S found.toList ∧
      extent S found.toList = MulAction.orbit M x := by
  obtain ⟨found, hfound, hstand, hextent⟩ := hA.group.faithful.exists_keyed_images hA.faithful
    hA.keyed_eq (f := fun g => A.act g a) (φ := fun y : M => y • x) hA.group.standing
    fun g _ y hy => hA.act_eq hy ha
  refine ⟨.ofList found, by rw [orbit, hfound]; rfl, hstand, ?_⟩
  rw [hextent, hA.group.extent_els, Set.image_univ]
  rfl

omit hA in
/-- An orbit as a class of the relation to be in one orbit. -/
theorem orbit_eq_setOf (x : X) :
    MulAction.orbit M x = {y | (Quotient.mk'' y : orbitRel.Quotient M X) = Quotient.mk'' x} := by
  ext y
  rw [Set.mem_ofPred_eq, Quotient.eq'', orbitRel_apply]

theorem takesBlocks_orbitsFrom :
    TakesBlocks S (Quotient.mk'' : X → orbitRel.Quotient M X) (StandsForBlock S Quotient.mk'')
      A.orbitsFrom where
  nil bound := by cases bound <;> rfl
  cons bound a rest x ha := by
    obtain ⟨found, hfound, hstand, hextent⟩ := hA.orbit_spec ha
    have hblock : StandsForBlock S (Quotient.mk'' : X → orbitRel.Quotient M X) found
        (Quotient.mk'' x) := ⟨hstand, hextent.trans (orbit_eq_setOf x)⟩
    refine ⟨found, found, hblock, hblock, fun remain hremove => ?_⟩
    rw [orbitsFrom, hfound, ok_bind, hremove, ok_bind]

omit hA in
/-- Which orbits are taken out depends on what remains, not on the items that are listed. -/
theorem orbitsFrom_items (A : GroupAction) (items : List Value) (members : Roster Value) :
    { A with items, members }.orbitsFrom = A.orbitsFrom := by
  funext bound remain
  induction bound generalizing remain with
  | zero => cases remain <;> rfl
  | succ bound ih =>
    cases remain with
    | nil => rfl
    | cons a rest =>
      rw [orbitsFrom, orbitsFrom, funext ih]
      rfl

/-- The orbits are found, each of them once, in whatever order and however often the items are
listed. -/
theorem orbits_of_standing {items : List Value} (hstand : Standing S items)
    (hextent : extent S items = Set.univ) (members : Roster Value) :
    ∃ blocks, { A with items, members }.orbits = .ok blocks ∧
      ∃ cs : List (orbitRel.Quotient M X), cs.Nodup ∧ (∀ c, c ∈ cs) ∧
        List.Forall₂ (StandsForBlock S Quotient.mk'') blocks cs := by
  obtain ⟨distinct, hdistinct, hstand, hsame⟩ := hA.faithful.exists_distinct hA.keyed_eq hstand
  obtain ⟨blocks, hblocks, hall⟩ := hA.takesBlocks_orbitsFrom.exists_all hA.faithful hstand
    (hsame.trans hextent) Quotient.mk''_surjective le_rfl
  refine ⟨blocks, ?_, hall⟩
  rw [orbits, hdistinct, ok_bind, orbitsFrom_items, hblocks]

/-- The orbits are found, each of them once. -/
theorem orbits_spec : ∃ blocks, A.orbits = .ok blocks ∧ ∃ cs : List (orbitRel.Quotient M X),
    cs.Nodup ∧ (∀ c, c ∈ cs) ∧ List.Forall₂ (StandsForBlock S Quotient.mk'') blocks cs :=
  hA.orbits_of_standing hA.standing hA.extent_items A.members

/-! ## Counting fixed points -/

/-- The items that an element leaves where they are stand for the points that it fixes. -/
theorem exists_fixedPoints {a : Value} {g : M} (ha : R a g) :
    ∃ points, A.fixedPoints a = .ok points ∧ points.Sublist A.items ∧
      extent S points = fixedBy X g := by
  obtain ⟨points, hpoints, hsub, hextent⟩ := hA.faithful.exists_filterM hA.standing
    fun b _ x hx => hA.fixes_spec ha hx
  refine ⟨points, hpoints, hsub, ?_⟩
  rw [hextent, hA.extent_items]
  ext x
  simp

/-- As many items are left where they are as there are points that an element fixes. -/
theorem fixedPoints_spec {a : Value} {g : M} (ha : R a g) :
    ∃ points, A.fixedPoints a = .ok points ∧ points.length = (fixedBy X g).ncard := by
  obtain ⟨points, hpoints, hsub, hextent⟩ := hA.exists_fixedPoints ha
  refine ⟨points, hpoints, ?_⟩
  rw [← hextent, hA.faithful.ncard_extent_of_pairwise (hA.standing.mono fun b hb => hsub.subset hb)
    (hA.distinct.sublist hsub)]

omit hA in
/-- How often the elements leave items where they are is added up. -/
theorem fixedCounts_of_length [Fintype M] (hG : A.group.Realizes R) {count : M → Nat}
    (h : ∀ ⦃a g⦄, R a g → ∃ points, A.fixedPoints a = .ok points ∧ points.length = count g) :
    ∃ counts, A.fixedCounts = .ok counts ∧ counts.values.toList.sum = ∑ g, count g := by
  obtain ⟨pairs, hpairs, hall⟩ := exists_mapM A.group.els
      (f := fun a => do
        let n := (← A.fixedPoints a).length
        return (← a.keyed, n))
      (P := fun a p => ∃ g, R a g ∧ R p.1 g ∧ p.2 = count g) fun a ha => by
    obtain ⟨g, hg⟩ := hG.standing a ha
    obtain ⟨points, hpoints, hlength⟩ := h hg
    obtain ⟨k, hk, hkg⟩ := hG.keyed_eq hg
    exact ⟨(k, points.length), by rw [hpoints, ok_bind, hk]; rfl, g, hg, hkg, hlength⟩
  have hkeys : pairs.Pairwise fun p q => (p.1 == q.1) = false := by
    refine pairwise_of_forall₂ hall (fun a b p q hp hq hab => ?_) hG.pairwise_els
    obtain ⟨g, hag, hpg, -⟩ := hp
    obtain ⟨h, hbh, hqh, -⟩ := hq
    rw [← Bool.not_eq_true, hG.faithful hag hbh] at hab
    rwa [← Bool.not_eq_true, hG.faithful hpg hqh]
  refine ⟨.ofList pairs, by rw [fixedCounts, hpairs]; rfl, ?_⟩
  obtain ⟨gs, hgs, hnodup, hmem⟩ := hG.faithful.exists_enumeration hG.standing hG.pairwise_els
  have hvalues : pairs.map Prod.snd = gs.map count := by
    rw [← List.forall₂_eq_eq_eq, List.forall₂_map_left_iff, List.forall₂_map_right_iff]
    refine (forall₂_comp hall.flip hgs).imp ?_
    rintro p g ⟨a, ⟨h, hah, -, hp⟩, hag⟩
    rw [hp, hG.faithful.unique hag hah]
  rw [← Assignment.map_snd_toList, Assignment.toList_ofList hkeys, hvalues]
  exact sum_map_of_forall_mem hnodup (fun g => (hmem g).2 (hG.surjective g)) _

omit hA in
/-- The sum is divided by the order of the group, which must divide it. -/
theorem burnside_of_length [Fintype M] (hG : A.group.Realizes R) {count : M → Nat}
    (h : ∀ ⦃a g⦄, R a g → ∃ points, A.fixedPoints a = .ok points ∧ points.length = count g) :
    A.burnside = if (∑ g, count g) % A.group.order = 0 then .ok ((∑ g, count g) / A.group.order)
      else .error .failedCheck := by
  obtain ⟨counts, hcounts, hsum⟩ := fixedCounts_of_length hG h
  have hpos : A.group.order ≠ 0 := hG.order_pos.ne'
  rw [burnside, hcounts, ok_bind]
  show (if A.group.order = 0 then _ else if _ % A.group.order = 0 then _ else _) = _
  rw [← List.sum_eq_foldl, hsum, if_neg hpos]
  rfl

/-- All elements together fix as many points as there are orbits, times the order of the group. -/
theorem sum_ncard_fixedBy [Fintype M] :
    ∑ g : M, (fixedBy X g).ncard = Nat.card (orbitRel.Quotient M X) * A.group.order := by
  classical
  have := hA.finite
  have := Fintype.ofFinite X
  have := Fintype.ofFinite (orbitRel.Quotient M X)
  rw [hA.group.order_eq, Nat.card_eq_fintype_card, Nat.card_eq_fintype_card,
    ← sum_card_fixedBy_eq_card_orbits_mul_card_group M X]
  exact Finset.sum_congr rfl fun g _ => Set.ncard_eq_toFinset_card' _ |>.trans (Set.toFinset_card _)

/-- The average number of fixed points is the number of orbits. -/
theorem burnside_eq : A.burnside = .ok (Nat.card (orbitRel.Quotient M X)) := by
  have := hA.group.finite
  have := Fintype.ofFinite M
  rw [burnside_of_length hA.group fun _ _ => hA.fixedPoints_spec, hA.sum_ncard_fixedBy,
    Nat.mul_mod_left, if_pos rfl, Nat.mul_div_cancel _ hA.group.order_pos]

/-! ## Transitivity -/

/-- The action is found to be transitive exactly if there is one orbit. -/
theorem isTransitive_eq :
    A.isTransitive = .ok (Nat.card (orbitRel.Quotient M X) == 1) := by
  have := hA.finite
  obtain ⟨a, rest, hitems⟩ := List.exists_cons_of_ne_nil hA.items_ne
  have hfirst : Position.entry A.items 0 = .ok a := by rw [hitems, entry_cons_zero]
  obtain ⟨x, hx⟩ := hA.standing a (by simp [hitems])
  obtain ⟨found, hfound, hstand, hextent⟩ := hA.orbit_spec hx
  have hwhole : (MulAction.orbit M x).ncard = Nat.card X ↔ MulAction.orbit M x = Set.univ := by
    rw [← Set.ncard_univ]
    exact ⟨fun h => Set.eq_of_subset_of_ncard_le (Set.subset_univ _) h.ge, fun h => by rw [h]⟩
  have hone : MulAction.orbit M x = Set.univ ↔ Nat.card (orbitRel.Quotient M X) = 1 := by
    have : Nonempty (orbitRel.Quotient M X) := ⟨Quotient.mk'' x⟩
    rw [Nat.card_eq_one_iff_unique, and_iff_left this, ← pretransitive_iff_subsingleton_quotient,
      isPretransitive_iff_orbit_eq_univ x]
  rw [isTransitive, hfirst, ok_bind, hfound, ok_bind, pure_eq_ok, Except.ok.injEq,
    Bool.eq_iff_iff, beq_iff_eq, beq_iff_eq, ← hA.faithful.ncard_extent hstand, hextent,
    hA.length_items, hwhole, hone]

theorem isTransitive_iff : A.isTransitive = .ok true ↔ IsPretransitive M X := by
  obtain ⟨a, ha⟩ := List.exists_mem_of_ne_nil _ hA.items_ne
  obtain ⟨x, -⟩ := hA.standing a ha
  have : Nonempty (orbitRel.Quotient M X) := ⟨Quotient.mk'' x⟩
  rw [hA.isTransitive_eq, Except.ok.injEq, beq_iff_eq, Nat.card_eq_one_iff_unique,
    and_iff_left this, pretransitive_iff_subsingleton_quotient]

end Realizes

end GroupAction

end FiniteGroups
