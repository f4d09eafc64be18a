import FiniteGroups.Proofs.ItemPermutations
import FiniteGroups.Proofs.PermImages
import FiniteGroups.Proofs.UncheckedActions

/-!
# Items that are listed several times

How the items of an action are listed makes no difference to its orbits, which are taken out of the
distinct items, nor to whether all stabilizers are trivial. The other questions go through the list:
fixed points are counted as often as they are listed, the size of an orbit is compared with the
length of the list, and the number of an item is the last place at which it stands. In whatever
order the items are listed, each of them once, these questions have the same answers. If an item is
listed again, they have others: the fixed points do not count the orbits any more, no orbit is large
enough, and the numbers of what the items are moved to are no permutation.

`GroupAction.Answers` says so for one list, and `ListedAction.exists_answers` that it is said of all
lists of the same items. In `exists_burnside_repeated` one of two items that are one orbit is listed
again.
-/

set_option linter.unusedSectionVars false

namespace FiniteGroups

open FiniteGroup MulAction

/-! ## Lists with repetitions -/

section

variable {X : Type} {xs : List X}

/-- Positive numbers add up to more where something is listed again. -/
theorem sum_map_dedup_lt [DecidableEq X] {f : X → Nat} (hf : ∀ x, 0 < f x) (h : ¬ xs.Nodup) :
    (xs.dedup.map f).sum < (xs.map f).sum := by
  obtain ⟨rest, hrest⟩ := (List.dedup_sublist xs).exists_perm_append
  have hne : rest ≠ [] := by
    rintro rfl
    rw [List.append_nil] at hrest
    exact h (hrest.nodup_iff.2 (List.nodup_dedup xs))
  obtain ⟨x, rest, rfl⟩ := List.exists_cons_of_ne_nil hne
  have hx := hf x
  rw [(hrest.map f).sum_eq, List.map_append, List.sum_append, List.map_cons, List.sum_cons]
  omega

theorem card_lt_length (hall : ∀ x, x ∈ xs) (h : ¬ xs.Nodup) : Nat.card X < xs.length := by
  classical
  rw [← length_eq_card (List.nodup_dedup xs) fun x => List.mem_dedup.2 (hall x)]
  simpa using sum_map_dedup_lt (f := fun _ => 1) (fun _ => Nat.one_pos) h

/-- A choice from a list that can be made keeps as many members as the property holds for. -/
theorem exists_filterM_length {α : Type} {S : α → X → Prop} {P : X → Prop} [DecidablePred P]
    {f : α → Except Fault Bool} {as : List α} (h : List.Forall₂ S as xs)
    (hf : ∀ a x, S a x → ∃ answer, f a = .ok answer ∧ (answer = true ↔ P x)) :
    ∃ kept, as.filterM f = .ok kept ∧ kept.length = xs.countP (P ·) := by
  have hanswer {a : α} {x : X} (hx : S a x) :
      f a = .ok ((f a).toOption.getD false) ∧ ((f a).toOption.getD false = true ↔ P x) := by
    obtain ⟨b, hb, hP⟩ := hf a x hx
    rw [hb]
    exact ⟨rfl, hP⟩
  refine ⟨as.filter fun a => (f a).toOption.getD false, filterM_eq_filter fun a ha => ?_, ?_⟩
  · obtain ⟨x, -, hx⟩ := exists_of_forall₂ h.flip ha
    exact (hanswer hx).1
  · rw [← List.countP_eq_length_filter]
    induction h with
    | nil => rfl
    | cons hx _ ih =>
      rw [List.countP_cons, List.countP_cons, ih]
      simp only [(hanswer hx).2, decide_eq_true_eq]

variable {M : Type} [Group M] [MulAction M X]

/-- How often the elements fix members of a list, and the orders of the stabilizers of these. -/
theorem sum_countP_fixed [Fintype M] [DecidableEq X] (xs : List X) :
    ∑ g : M, xs.countP (fun x => g • x = x)
      = (xs.map fun x => Nat.card (MulAction.stabilizer M x)).sum := by
  induction xs with
  | nil => simp
  | cons x xs ih =>
    have hcard : Nat.card (MulAction.stabilizer M x) = ∑ g : M, if g • x = x then 1 else 0 := by
      rw [Finset.sum_boole, Nat.cast_id, Nat.card_eq_fintype_card, Fintype.card_subtype]
      rfl
    rw [List.map_cons, List.sum_cons, ← ih, hcard, ← Finset.sum_add_distrib]
    refine Finset.sum_congr rfl fun g _ => ?_
    rw [List.countP_cons, Nat.add_comm]
    simp

end

namespace GroupAction.Realizes

variable {M X : Type} [Group M] [MulAction M X] {R : Value → M → Prop} {S : Value → X → Prop}
  {A : GroupAction} (hA : A.Realizes R S)
include hA

section

variable {items : List Value} {xs : List X} (hxs : List.Forall₂ S items xs)
  (members : Roster Value)
include hxs

theorem exists_fixedPoints_length [DecidableEq X] {a : Value} {g : M} (ha : R a g) :
    ∃ points, { A with items, members }.fixedPoints a = .ok points ∧
      points.length = xs.countP (fun x => g • x = x) :=
  exists_filterM_length hxs fun _ _ hx => hA.fixes_spec ha hx

/-- What is added up are the orders of the stabilizers of the items, as often as these are
listed. -/
theorem burnside_of_forall₂ : { A with items, members }.burnside
    = if (xs.map fun x => Nat.card (MulAction.stabilizer M x)).sum % A.group.order = 0 then
        .ok ((xs.map fun x => Nat.card (MulAction.stabilizer M x)).sum / A.group.order)
      else .error .failedCheck := by
  classical
  have := hA.group.finite
  have := Fintype.ofFinite M
  rw [← sum_countP_fixed]
  exact burnside_of_length (A := { A with items, members }) hA.group fun _ _ ha =>
    hA.exists_fixedPoints_length hxs members ha

omit hxs in
/-- Over the points, each once, the orders of the stabilizers add up to the number of orbits times
the order of the group. -/
theorem sum_card_stabilizer {xs : List X} (hnodup : xs.Nodup) (hall : ∀ x, x ∈ xs) :
    (xs.map fun x => Nat.card (MulAction.stabilizer M x)).sum
      = Nat.card (orbitRel.Quotient M X) * A.group.order := by
  classical
  have := hA.group.finite
  have := hA.finite
  have := Fintype.ofFinite M
  have := Fintype.ofFinite X
  rw [← hA.sum_ncard_fixedBy, ← sum_countP_fixed]
  refine Finset.sum_congr rfl fun g _ => ?_
  rw [List.countP_eq_length_filter, ← List.toFinset_card_of_nodup (hnodup.filter _),
    ← Set.ncard_coe_finset]
  congr 1
  ext x
  simp [hall x]

section

variable (hall : ∀ x, x ∈ xs)
include hall

omit hxs in
/-- If items are listed several times, too much is added up. -/
theorem orbits_mul_order_lt (hrepeated : ¬ xs.Nodup) :
    Nat.card (orbitRel.Quotient M X) * A.group.order
      < (xs.map fun x => Nat.card (MulAction.stabilizer M x)).sum := by
  classical
  have := hA.group.finite
  rw [← hA.sum_card_stabilizer (List.nodup_dedup xs) fun x => List.mem_dedup.2 (hall x)]
  exact sum_map_dedup_lt (fun x => Nat.card_pos) hrepeated

/-- If items are listed several times, no orbit has as many members as are listed. -/
theorem isTransitive_of_repeated (hne : items ≠ []) (hrepeated : ¬ xs.Nodup) :
    { A with items, members }.isTransitive = .ok false := by
  have := hA.finite
  obtain ⟨a, rest, rfl⟩ := List.exists_cons_of_ne_nil hne
  obtain ⟨x, -, hx⟩ := exists_of_forall₂ hxs.flip List.mem_cons_self
  obtain ⟨found, hfound, hstand, hextent⟩ := hA.orbit_spec hx
  have hsize : found.size ≠ (a :: rest).length := by
    rw [← hA.faithful.ncard_extent hstand, hextent, hxs.length_eq]
    exact ((Set.ncard_le_card _).trans_lt (card_lt_length hall hrepeated)).ne
  have horbit : { A with items := a :: rest, members }.orbit a = .ok found := hfound
  rw [isTransitive, entry_cons_zero, ok_bind, horbit, ok_bind, beq_false_of_ne hsize]
  rfl

/-- Every member of `X` has one of the numbers of the items that stand for it. -/
theorem exists_numbers : ∃ numbers, { A with items, members }.numbers = .ok numbers ∧
    ∃ ν : X → Nat, ∀ x, ν x ≤ items.length ∧ ∀ a, S a x → numbers.get? a = some (ν x) := by
  obtain ⟨keys, hkeys, hstand⟩ := exists_mapM (P := fun a k => ∃ x, S a x ∧ S k x) items
      fun a ha => by
    obtain ⟨x, -, hx⟩ := exists_of_forall₂ hxs.flip ha
    obtain ⟨k, hk, hkx⟩ := hA.keyed_eq hx
    exact ⟨k, hk, x, hx, hkx⟩
  have hnumbers : ∀ x, ∃ i, i ≤ items.length ∧
      ∀ a, S a x → (Assignment.ofList (keys.zipIdx 1)).get? a = some i := by
    intro x
    obtain ⟨a, ha, hax⟩ := exists_of_forall₂ hxs (hall x)
    obtain ⟨k, hk, y, hay, hky⟩ := exists_of_forall₂ hstand.flip ha
    obtain rfl := hA.faithful.unique hax hay
    obtain ⟨i, hi, rfl⟩ := List.getElem_of_mem hk
    have hplace : (keys[i], i + 1) ∈ keys.zipIdx 1 := by
      rw [List.mk_mem_zipIdx_iff_le_and_getElem?_sub]
      simp [hi]
    obtain ⟨q, hq, hget⟩ := Assignment.exists_get?_ofList ⟨_, hplace, (hA.faithful hky hax).2 rfl⟩
    have hle := List.snd_lt_add_of_mem_zipIdx hq
    rw [← hstand.length_eq] at hle
    refine ⟨q.2, by omega, fun b hb => ?_⟩
    rw [← hget]
    exact Assignment.get?_congr _ ((hA.faithful hb hax).2 rfl)
  choose ν hle hget using hnumbers
  exact ⟨_, by rw [numbers, hkeys]; rfl, ν, fun x => ⟨hle x, hget x⟩⟩

/-- The numbers that the items have after they were moved, one of which comes again, are refused. -/
theorem permOf_of_repeated (hrepeated : ¬ xs.Nodup) {numbers : Assignment Value Nat} {ν : X → Nat}
    (hν : ∀ x, ν x ≤ items.length ∧ ∀ a, S a x → numbers.get? a = some (ν x)) {a : Value} {g : M}
    (ha : R a g) : ∃ e, { A with items, members }.permOf numbers a = .error e ∧
      (e.category = .structural ∨ e = .badValue ∧ ¬ Writable items.length) := by
  have himages {image : Value → Except Fault Value}
      (himage : ∀ b x, S b x → image b = .ok (.int (ν (g • x)))) :
      (items.mapM image >>= Value.readPerm)
        = Value.readPerm ((xs.map fun x => (ν (g • x) : Int)).map .int) := by
    have hmap : items.mapM image = .ok ((xs.map fun x => (ν (g • x) : Int)).map .int) := by
      rw [List.map_map, mapM_eq_ok_iff, List.forall₂_map_right_iff]
      exact hxs.imp himage
    rw [hmap, ok_bind]
  have hpermOf : { A with items, members }.permOf numbers a
      = Value.readPerm ((xs.map fun x => (ν (g • x) : Int)).map .int) := by
    refine himages fun b x hx => ?_
    obtain ⟨c, hc, hcx⟩ := hA.act_eq ha hx
    obtain ⟨k, hk, hkx⟩ := hA.keyed_eq hcx
    rw [hc, ok_bind, hk, ok_bind, (hν (g • x)).2 k hkx]
    rfl
  rw [hpermOf]
  cases hread : Value.readPerm ((xs.map fun x => (ν (g • x) : Int)).map .int) with
  | ok p => exact absurd ((Value.nodup_of_readPerm hread).of_map _) hrepeated
  | error e =>
    refine ⟨e, rfl, (Value.error_of_readPerm hread).imp_right fun ⟨hbad, i, hi, hlarge⟩ => ?_⟩
    obtain ⟨x, -, rfl⟩ := List.mem_map.1 hi
    exact ⟨hbad, fun hlength => hlarge (hlength.mono (hν (g • x)).1)⟩

/-- If items are listed several times, there is no map to the permutations of their numbers. -/
theorem permRep_of_repeated (hrepeated : ¬ xs.Nodup) :
    ∃ e, { A with items, members }.permRep = .error e ∧
      (e.category = .structural ∨ e = .badValue ∧ ¬ Writable items.length) := by
  obtain ⟨numbers, hnumbers, ν, hν⟩ := hA.exists_numbers hxs members hall
  obtain ⟨a, rest, hels⟩ := List.exists_cons_of_length_pos hA.group.order_pos
  obtain ⟨g, hg⟩ := hA.group.standing a (hels ▸ List.mem_cons_self)
  obtain ⟨e, he, hrefused⟩ := hA.permOf_of_repeated hxs members hall hrepeated hν hg
  refine ⟨e, ?_, hrefused⟩
  have hperms : A.group.els.mapM (fun g => do
      let p ← { A with items, members }.permOf numbers g
      return (← g.keyed, Value.perm p)) = .error e := by
    rw [hels, List.mapM_cons, he, error_bind, error_bind]
  rw [permRep, hnumbers, ok_bind, hperms, error_bind]

end

end

end GroupAction.Realizes

/-! ## The answers for all lists of the same items -/

namespace GroupAction

/-- No item is listed twice. -/
def ListsOnce (A : GroupAction) : Prop := A.items.Pairwise fun a b => (a == b) = false

/-- What is answered about an action with `k` orbits, of which it is known whether it is `free`. -/
structure Answers (A : GroupAction) (k : Nat) (free : Bool) : Prop where
  isAction_eq : A.isAction = .ok true
  exists_orbits : ∃ blocks, A.orbits = .ok blocks ∧ blocks.length = k
  isFree_eq : A.isFree = .ok free
  /-- If no item is listed twice, fixed points count the orbits, the action is found to be
  transitive if there is one orbit, and there is a map to permutations. -/
  of_listsOnce : A.ListsOnce → A.burnside = .ok k ∧ A.isTransitive = .ok (k == 1) ∧
    ∃ f, A.permRep = .ok f
  /-- Otherwise the fixed points are too many, as the stabilizer of an item is counted as often as
  the item is listed, the action is found not to be transitive, and there is no map. -/
  of_repeated : ¬ A.ListsOnce →
    (∃ orders, (A.items.mapM fun a => do return (← A.stabilizer a).order) = .ok orders ∧
      k * A.group.order < orders.sum ∧
      A.burnside = if orders.sum % A.group.order = 0 then .ok (orders.sum / A.group.order)
        else .error .failedCheck) ∧
    A.isTransitive = .ok false ∧
    ∃ e, A.permRep = .error e ∧
      (e.category = .structural ∨ e = .badValue ∧ ¬ Writable A.items.length)

namespace Answers

variable {A : GroupAction} {k : Nat} {free : Bool} (h : A.Answers k free)
include h

/-- Fixed points count the orbits only if no item is listed twice. -/
theorem burnside_eq_iff : A.burnside = .ok k ↔ A.ListsOnce := by
  refine ⟨fun hburnside => by_contra fun hrepeated => ?_, fun hone => (h.of_listsOnce hone).1⟩
  obtain ⟨orders, -, hlt, heq⟩ := (h.of_repeated hrepeated).1
  rw [hburnside] at heq
  split at heq
  · next hdvd =>
    have hk := Except.ok.inj heq
    rw [hk, Nat.div_mul_cancel (Nat.dvd_of_mod_eq_zero hdvd)] at hlt
    exact lt_irrefl _ hlt
  · cases heq

theorem exists_permRep_iff : (∃ f, A.permRep = .ok f) ↔ A.ListsOnce := by
  refine ⟨fun ⟨f, hf⟩ => by_contra fun hrepeated => ?_, fun hone => (h.of_listsOnce hone).2.2⟩
  obtain ⟨e, he, -⟩ := (h.of_repeated hrepeated).2.2
  exact absurd (hf.symm.trans he) (by simp)

end Answers

open Classical in
/-- For every list of the members of `X` the answers are those for the number of orbits of `X`. -/
theorem Realizes.answers {M X : Type} [Group M] [MulAction M X] {R : Value → M → Prop}
    {S : Value → X → Prop} {A : GroupAction} (hA : A.Realizes R S) {items : List Value}
    (hstand : Standing S items) (hall : ∀ x, ∃ a ∈ items, S a x) (hne : items ≠ [])
    (members : Roster Value) :
    { A with items, members }.Answers (Nat.card (orbitRel.Quotient M X))
      (decide (∀ x : X, MulAction.stabilizer M x = ⊥)) := by
  have hextent : extent S items = Set.univ := Set.eq_univ_of_forall hall
  obtain ⟨xs, hxs⟩ := hstand.exists_forall₂
  have hmem (x : X) : x ∈ xs := by
    obtain ⟨a, ha, hax⟩ := hall x
    obtain ⟨y, hy, hay⟩ := exists_of_forall₂ hxs.flip ha
    exact hA.faithful.unique hay hax ▸ hy
  have honce := hA.faithful.pairwise_iff_nodup hxs
  have hlaws : { A with items, members }.LawsOn (· ∈ items) :=
    ⟨(hA.lawsOn.mono hstand).act_one, (hA.lawsOn.mono hstand).act_mul⟩
  obtain ⟨blocks, hblocks, cs, hnodup, hcs, hforall⟩ := hA.orbits_of_standing hstand hextent members
  obtain ⟨free, hfree, hiff⟩ := hA.isFree_of_standing hstand hextent members
  refine ⟨isAction_iff.2 hlaws, ⟨blocks, hblocks, hforall.length_eq.trans
    (length_eq_card hnodup hcs)⟩, ?_, fun hdistinct => ?_, fun hrepeated => ?_⟩
  · rw [hfree, Except.ok.injEq, Bool.eq_iff_iff, hiff, decide_eq_true_iff]
  · have hB : { A with items, members }.Realizes R S :=
      { group := hA.group, faithful := hA.faithful, act_eq := hA.act_eq, keyed_eq := hA.keyed_eq
        equal_eq := hA.equal_eq, items_ne := hne, distinct := hdistinct, standing := hstand
        surjective := hall }
    obtain ⟨f, -, hf, -⟩ := hB.exists_permRep_kernel
    exact ⟨hB.burnside_eq, hB.isTransitive_eq, f, hf⟩
  · have hxs' : ¬ xs.Nodup := fun h => hrepeated (honce.2 h)
    refine ⟨⟨_, ?_, hA.orbits_mul_order_lt hmem hxs', hA.burnside_of_forall₂ hxs members⟩,
      hA.isTransitive_of_repeated hxs members hmem hne hxs',
      hA.permRep_of_repeated hxs members hmem hxs'⟩
    rw [mapM_eq_ok_iff, List.forall₂_map_right_iff]
    refine hxs.imp fun a x hx => ?_
    obtain ⟨K, hK, hconsists⟩ := hA.stabilizer_spec hx
    have horder : K.order = Nat.card (MulAction.stabilizer M x) := by
      rw [hconsists.order_eq hA.group.faithful, ← Nat.card_coe_set_eq]
      rfl
    have hstabilizer : { A with items, members }.stabilizer a = .ok K := hK
    rw [hstabilizer, ok_bind, horder]
    rfl

end GroupAction

/-- An action of a valid group that satisfies the laws, leads from items to items and respects
equality, in which items may be listed several times. -/
structure ListedAction (G : ValidGroup) extends GroupAction where
  group_eq : group = G.toFiniteGroup
  items_ne : items ≠ []
  /-- The values that are used as items. -/
  Domain : Value → Prop
  domain_of_mem : ∀ ⦃a⦄, a ∈ items → Domain a
  keyed_eq : ∀ ⦃a⦄, Domain a → ∃ k, a.keyed = .ok k ∧ Domain k
  equal_eq : ∀ ⦃a b⦄, Domain a → Domain b → a.equal b = .ok (a == b)
  act_mem : ∀ ⦃g a⦄, g ∈ G.els → a ∈ items →
    ∃ b, act g a = .ok b ∧ Domain b ∧ ∃ c ∈ items, (b == c) = true
  act_congr : ∀ ⦃g g' a a' b⦄, G.Domain g → G.Domain g' → Domain a → Domain a' →
    (g == g') = true → (a == a') = true → act g a = .ok b →
    ∃ b', act g' a' = .ok b' ∧ Domain b' ∧ (b == b') = true
  isAction_eq : toGroupAction.isAction = .ok true

/-- A valid action, in which every item is listed once. -/
def ValidAction.listed {G : ValidGroup} (A : ValidAction G) : ListedAction G :=
  { A with }

namespace ListedAction

variable {G : ValidGroup} (L : ListedAction G)

/-- The action with every item listed once. -/
def reduced : ValidAction G where
  toGroupAction := { L.toGroupAction with items := (Roster.ofList L.items).toList }
  group_eq := L.group_eq
  items_ne := by
    obtain ⟨a, ha⟩ := List.exists_mem_of_ne_nil _ L.items_ne
    obtain ⟨b, hb, -⟩ := Roster.contains_iff.1 (Roster.contains_ofList.2 ⟨a, ha, BEq.rfl⟩)
    exact List.ne_nil_of_mem hb
  distinct := Roster.pairwise_toList _
  Domain := L.Domain
  domain_of_mem _ ha := L.domain_of_mem (Roster.mem_of_mem_ofList ha)
  keyed_eq := L.keyed_eq
  equal_eq := L.equal_eq
  act_mem g a hg ha := by
    obtain ⟨b, hb, hdom, c, hc, hbc⟩ := L.act_mem hg (Roster.mem_of_mem_ofList ha)
    obtain ⟨d, hd, hdc⟩ := Roster.contains_iff.1 (Roster.contains_ofList.2 ⟨c, hc, BEq.rfl⟩)
    exact ⟨b, hb, hdom, d, hd, BEq.trans hbc (BEq.symm hdc)⟩
  act_congr := L.act_congr
  isAction_eq := GroupAction.isAction_of_subset L.isAction_eq L.members
    fun _ => Roster.mem_of_mem_ofList

/-- The values are the items in another order or number, or written differently. -/
def Relists (items : List Value) : Prop :=
  (∀ a ∈ items, L.Domain a ∧ ∃ b ∈ L.items, (a == b) = true) ∧
    ∀ b ∈ L.items, ∃ a ∈ items, (a == b) = true

variable {L} {items : List Value}

theorem relists_of_mem_iff (h : ∀ a, a ∈ items ↔ a ∈ L.items) : L.Relists items :=
  ⟨fun a ha => ⟨L.domain_of_mem ((h a).1 ha), a, (h a).1 ha, BEq.rfl⟩,
    fun b hb => ⟨b, (h b).2 hb, BEq.rfl⟩⟩

theorem Relists.ne_nil (h : L.Relists items) : items ≠ [] := by
  obtain ⟨b, hb⟩ := List.exists_mem_of_ne_nil _ L.items_ne
  obtain ⟨a, ha, -⟩ := h.2 b hb
  exact List.ne_nil_of_mem ha

theorem Relists.standing (h : L.Relists items) : Standing L.reduced.Stands items := by
  intro a ha
  obtain ⟨hdom, b, hb, hab⟩ := h.1 a ha
  obtain ⟨c, hc, hcb⟩ := Roster.contains_iff.1 (Roster.contains_ofList.2 ⟨b, hb, BEq.rfl⟩)
  exact ⟨⟨c, hc⟩, hdom, BEq.trans hab (BEq.symm hcb)⟩

theorem Relists.surjective (h : L.Relists items) (x : L.reduced.Item) :
    ∃ a ∈ items, L.reduced.Stands a x := by
  obtain ⟨a, ha, hax⟩ := h.2 x.1 (Roster.mem_of_mem_ofList x.2)
  exact ⟨a, ha, (h.1 a ha).1, hax⟩

/-- The number of orbits and whether the action is free do not depend on how the items are listed.
The other answers are those for a list without repetitions or those for a list with some. -/
theorem exists_answers (L : ListedAction G) {items : List Value} (h : L.Relists items)
    (members : Roster Value) :
    ∃ k free, L.Answers k free ∧
      ({ L.toGroupAction with items, members } : GroupAction).Answers k free := by
  have hA := L.reduced.realizes
  have hself : L.Relists L.items := relists_of_mem_iff fun _ => Iff.rfl
  exact ⟨_, _, hA.answers hself.standing hself.surjective hself.ne_nil L.members,
    hA.answers h.standing h.surjective h.ne_nil members⟩

end ListedAction

/-! ## A group that acts on itself -/

/-- The residues modulo two, of which one is listed again. -/
def zeroOneZero : List Value := [.int 0, .int 1, .int 0]

theorem mem_zeroOneZero {a : Value} : a ∈ zeroOneZero ↔ a ∈ (residues 2).els := by
  have hels : (List.range 2).map Value.ofNat = [.int 0, .int 1] := rfl
  rw [els_residues (by decide), hels, zeroOneZero]
  simp only [List.mem_cons, List.not_mem_nil, or_false]
  tauto

/-- The residues modulo two act on themselves, listed in order and with one of them again. -/
theorem exists_answers_residues :
    ∃ A : ValidAction (validResidues (n := 2) (by decide) (by decide)),
      GroupAction.leftMul (residues 2).candidate = .ok A.toGroupAction ∧
      ∀ members, ∃ k free, A.Answers k free ∧
        ({ A.toGroupAction with items := zeroOneZero, members } : GroupAction).Answers k free := by
  let G := validResidues (n := 2) (by decide) (by decide)
  obtain ⟨members, hmembers⟩ := G.realizes.exists_leftMul
  refine ⟨G.leftAction members, hmembers, fun members' => ?_⟩
  exact (G.leftAction members).listed.exists_answers
    (ListedAction.relists_of_mem_iff fun a => mem_zeroOneZero) members'

theorem card_stabilizer_self {M : Type} [Group M] (x : M) : Nat.card (stabilizer M x) = 1 := by
  rw [Subgroup.card_eq_one, Subgroup.eq_bot_iff_forall]
  exact fun g hg => mul_eq_right.1 hg

/-- If one of the residues modulo two is listed again, fixed points do not count the orbit on which
they are. -/
theorem exists_burnside_repeated :
    let G := validResidues (n := 2) (by decide) (by decide)
    ∃ A B : GroupAction,
      GroupAction.ofItems G.candidate (.list 0 [.int 0, .int 1]) (.op .addMod [.int 2]) = .ok A ∧
      GroupAction.ofItems G.candidate (.list 0 [.int 0, .int 1, .int 0]) (.op .addMod [.int 2])
        = .ok B ∧
      A.isAction = .ok true ∧ B.isAction = .ok true ∧
      A.burnside = .ok 1 ∧ B.burnside = .error .failedCheck ∧
      A.isTransitive = .ok true ∧ B.isTransitive = .ok false := by
  intro G
  have hzero : Residue 2 (.int 0) 1 := ⟨0, le_rfl, by decide, rfl, rfl⟩
  have hone : Residue 2 (.int 1) (Multiplicative.ofAdd 1) := ⟨1, by decide, by decide, rfl, rfl⟩
  have hR := realizes_residues (n := 2) (by decide)
  have hA := hR.leftAction (.ofList zeroOneZero)
  have hshort := List.Forall₂.cons hzero (.cons hone .nil)
  have hlong := List.Forall₂.cons hzero (.cons hone (.cons hzero .nil))
  have hall : ∀ x : Multiplicative (ZMod 2), x ∈ [1, Multiplicative.ofAdd 1] := by decide
  have hall' : ∀ x : Multiplicative (ZMod 2), x ∈ [1, Multiplicative.ofAdd 1, 1] := by decide
  have hanswers := hA.answers (.of_forall₂ hshort) (fun x => exists_of_forall₂ hshort (hall x))
    (by simp) (.ofList [.int 0, .int 1])
  have hanswers' := hA.answers (.of_forall₂ hlong) (fun x => exists_of_forall₂ hlong (hall' x))
    (by simp) (.ofList zeroOneZero)
  have honce := (hA.faithful.pairwise_iff_nodup hshort).2 (by decide)
  have hrepeated := mt (hA.faithful.pairwise_iff_nodup hlong).1 (by decide)
  have hburnside := hA.burnside_of_forall₂ hlong (.ofList zeroOneZero)
  have horder : (leftAction (residues 2) (.ofList zeroOneZero)).group.order = 2 := by
    rw [hA.group.order_eq, Nat.card_eq_fintype_card]
    rfl
  rw [card_orbits_self] at hanswers
  obtain ⟨hcount, htransitive, -⟩ := hanswers.of_listsOnce honce
  refine ⟨partAction (residues 2) [.int 0, .int 1] (.ofList [.int 0, .int 1]),
    partAction (residues 2) zeroOneZero (.ofList zeroOneZero), rfl, rfl, hanswers.isAction_eq,
    hanswers'.isAction_eq, hcount, ?_, htransitive, (hanswers'.of_repeated hrepeated).2.1⟩
  simp only [card_stabilizer_self, List.map_cons, List.map_nil, horder] at hburnside
  exact hburnside

end FiniteGroups
