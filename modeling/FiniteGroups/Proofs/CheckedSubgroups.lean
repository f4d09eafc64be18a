import FiniteGroups.Proofs.Extension
import FiniteGroups.Proofs.Generated
import FiniteGroups.Proofs.Within

/-!
# Lists that are checked before they become subgroups

A list of values becomes a subgroup if it is not empty, holds elements only and is closed under
products. The check asks for the identity and for inverses as well, but since the group is finite
neither can be missing where the products are there (`exists_subgroup_of_mul_mem`). What passes is
a group in which the check of the axioms finds nothing, and everything else is refused
(`ValidGroup.isChecked`).

Values are looked at before they are refused : they are multiplied and inverted, and the text of
the refusal names them. A number of more than `Text.maxDigits` digits cannot be named, and a value
that is equal to an element need not be inverted like the element (`exists_checked_error`).
-/

set_option linter.unusedSectionVars false

namespace FiniteGroups

/-- A run through a list settles if it does at each member. -/
theorem Settles.forM {α β M : Type} {R : β → M → Prop} {label : β → Except Fault String}
    {f : α → Except Fault Unit} {P : α → Prop} {Q : Prop} {xs : List α}
    (h : ∀ a ∈ xs, Settles R label (f a) (fun _ => P a) Q) :
    Settles R label (xs.forM f) (fun _ => ∀ a ∈ xs, P a) Q := by
  induction xs with
  | nil => exact .ok (by simp)
  | cons a xs ih =>
    obtain ⟨ha, hxs⟩ := List.forall_mem_cons.1 h
    exact ha.bind fun _ hPa => (ih hxs).imp fun _ hP => List.forall_mem_cons.2 ⟨hPa, hP⟩

/-- A set that is not empty and closed under products is a subgroup of a finite group. -/
theorem exists_subgroup_of_mul_mem {M : Type} [Group M] [Finite M] {S : Set M} (hne : S.Nonempty)
    (hmul : ∀ x ∈ S, ∀ y ∈ S, x * y ∈ S) : ∃ K : Subgroup M, (K : Set M) = S := by
  let T : Subsemigroup M := ⟨S, fun {x y} hx hy => hmul x hx y hy⟩
  refine ⟨Subgroup.closure S, ?_⟩
  rw [← coe_closure_eq hne]
  exact congrArg SetLike.coe (Subsemigroup.closure_eq T)

/-- Values that can be keys have distinct values. -/
theorem Value.exists_distinct {xs : List Value} (h : ∀ a ∈ xs, ∃ k, a.keyed = .ok k) :
    ∃ r, Value.distinct xs = .ok r := by
  obtain ⟨ks, hks, -⟩ := exists_mapM (P := fun _ _ => True) xs fun a ha => by
    obtain ⟨k, hk⟩ := h a ha
    exact ⟨k, hk, True.intro⟩
  exact ⟨.ofList ks, by rw [Value.distinct, hks]; rfl⟩

namespace FiniteGroup

variable {M : Type} [Group M] {R : Value → M → Prop} {G : FiniteGroup} {els : List Value}

/-- The values are not none, they are elements, and their products are among them. -/
structure IsClosedList (G : FiniteGroup) (els : List Value) : Prop where
  ne_nil : els ≠ []
  contains_eq : ∀ a ∈ els, G.contains a = .ok true
  mul_mem : ∀ a ∈ els, ∀ b ∈ els, ∃ c, G.mul a b = .ok c ∧ ∃ d ∈ els, d.equal c = .ok true

/-- The value may be named when the list is refused. -/
def Mentions (G : FiniteGroup) (els : List Value) (a : Value) : Prop :=
  a = G.identity ∨ (∃ b ∈ els, b.keyed = .ok a) ∨
    ∃ b ∈ els, ∃ c ∈ els, ∃ k l, b.keyed = .ok k ∧ c.keyed = .ok l ∧ G.mul k l = .ok a

/-! ## What passes -/

theorem contains_of_requireProduct {items : Roster Value} {a b : Value}
    (h : G.requireProduct items a b = .ok ()) :
    ∃ c k, G.mul a b = .ok c ∧ c.sought = .ok k ∧ items.contains k = true := by
  obtain ⟨c, hc, h⟩ := bind_eq_ok.1 h
  obtain ⟨k, hk, h⟩ := bind_eq_ok.1 h
  refine ⟨c, k, hc, hk, ?_⟩
  by_contra hout
  rw [Bool.not_eq_true] at hout
  rw [hout, Bool.not_false, if_pos rfl] at h
  obtain ⟨_, -, h⟩ := bind_eq_ok.1 h
  obtain ⟨_, -, h⟩ := bind_eq_ok.1 h
  obtain ⟨_, -, h⟩ := bind_eq_ok.1 h
  exact nomatch h

/-- What passes the check is not empty, and the products of its distinct values are found. -/
theorem of_checkSubgroup_eq_ok (h : G.checkSubgroup els = .ok ()) : els ≠ [] ∧
    ∃ items, Value.distinct els = .ok items ∧
      ∀ a ∈ items.toList, ∀ b ∈ items.toList, G.requireProduct items a b = .ok () := by
  rw [checkSubgroup] at h
  split at h
  · cases h
  · next hne =>
    obtain ⟨items, hitems, h⟩ := bind_eq_ok.1 h
    obtain ⟨_, -, h⟩ := bind_eq_ok.1 h
    obtain ⟨_, -, h⟩ := bind_eq_ok.1 h
    obtain ⟨_, hproducts, -⟩ := bind_eq_ok.1 h
    exact ⟨by simpa using hne, items, hitems, fun a ha b hb =>
      of_forM_eq_ok (of_forM_eq_ok hproducts ha) hb⟩

namespace Realizes

variable (hG : G.Realizes R)
include hG

/-- Products of what passes the check stand for what some value stands for that passes it. -/
theorem mul_mem_of_checkSubgroup (hels : Standing R els) (h : G.checkSubgroup els = .ok ())
    {x y : M} (hx : x ∈ extent R els) (hy : y ∈ extent R els) : x * y ∈ extent R els := by
  obtain ⟨-, items, hitems, hproducts⟩ := of_checkSubgroup_eq_ok h
  obtain ⟨items', hitems', hstand, hextent⟩ := hG.distinct_spec hels
  obtain rfl := Except.ok.inj (hitems.symm.trans hitems')
  rw [← hextent] at hx hy ⊢
  obtain ⟨a, ha, hax⟩ := hx
  obtain ⟨b, hb, hby⟩ := hy
  obtain ⟨c, k, hc, hk, hmem⟩ := contains_of_requireProduct (hproducts a ha b hb)
  obtain ⟨c', hc', hxy⟩ := hG.mul_eq hax hby
  obtain rfl := Except.ok.inj (hc.symm.trans hc')
  obtain ⟨k', hk', hkxy⟩ := hG.sought_eq hxy
  obtain rfl := Except.ok.inj (hk.symm.trans hk')
  exact (hG.faithful.contains_iff hstand hkxy).1 hmem

/-- Elements are a closed list if and only if what they stand for is closed under products. -/
theorem isClosedList_iff (hels : Standing R els) : G.IsClosedList els ↔
    els ≠ [] ∧ ∀ x ∈ extent R els, ∀ y ∈ extent R els, x * y ∈ extent R els := by
  constructor
  · rintro ⟨hne, -, hmul⟩
    refine ⟨hne, ?_⟩
    rintro x ⟨a, ha, hax⟩ y ⟨b, hb, hby⟩
    obtain ⟨c, hc, d, hd, hequal⟩ := hmul a ha b hb
    obtain ⟨c', hc', hxy⟩ := hG.mul_eq hax hby
    obtain rfl := Except.ok.inj (hc.symm.trans hc')
    obtain ⟨z, hz⟩ := hels d hd
    obtain rfl := (hG.equal_iff hz hxy).1 hequal
    exact ⟨d, hd, hz⟩
  · rintro ⟨hne, hmul⟩
    refine ⟨hne, fun a ha => ?_, fun a ha b hb => ?_⟩
    · obtain ⟨x, hx⟩ := hels a ha
      exact hG.contains_eq hx
    · obtain ⟨x, hax⟩ := hels a ha
      obtain ⟨y, hby⟩ := hels b hb
      obtain ⟨c, hc, hxy⟩ := hG.mul_eq hax hby
      obtain ⟨d, hd, hdxy⟩ := hmul x ⟨a, ha, hax⟩ y ⟨b, hb, hby⟩
      exact ⟨c, hc, d, hd, (hG.equal_iff hdxy hxy).2 rfl⟩

/-- A closed list stands for a subgroup. -/
theorem exists_subgroup_of_isClosedList (hels : Standing R els) (h : G.IsClosedList els) :
    ∃ K : Subgroup M, extent R els = K := by
  have := hG.finite
  obtain ⟨hne, hmul⟩ := (hG.isClosedList_iff hels).1 h
  obtain ⟨a, ha⟩ := List.exists_mem_of_ne_nil els hne
  obtain ⟨x, hx⟩ := hels a ha
  obtain ⟨K, hK⟩ := exists_subgroup_of_mul_mem (S := extent R els) ⟨x, a, ha, hx⟩ hmul
  exact ⟨K, hK.symm⟩

/-- Elements that are inverted as members of a set pass the check if and only if they are a closed
list. -/
theorem checkSubgroup_iff (hels : Standing R els)
    (hinv : ∀ a ∈ els, ∀ k, a.keyed = .ok k → G.Invertible R k) :
    G.checkSubgroup els = .ok () ↔ G.IsClosedList els := by
  constructor
  · intro h
    exact (hG.isClosedList_iff hels).2 ⟨(of_checkSubgroup_eq_ok h).1, fun x hx y hy =>
      hG.mul_mem_of_checkSubgroup hels h hx hy⟩
  · intro h
    obtain ⟨K, hK⟩ := hG.exists_subgroup_of_isClosedList hels h
    exact hG.checkSubgroup_of_invertible hels hK hinv

end Realizes

/-! ## What is refused -/

section

/-- The computation gives a result with the property, or it fails with a fault of structure or with
that of writing a value that may be named. -/
abbrev Refuses {σ : Type} (G : FiniteGroup) (els : List Value) (x : Except Fault σ)
    (P : σ → Prop) : Prop :=
  Settles (fun a (_ : Unit) => G.Mentions els a) Value.plain x P True

variable {items : Roster Value} {a b : Value}

theorem refuses_plain (ha : G.Mentions els a) :
    G.Refuses els a.plain fun _ => True := by
  cases hs : a.plain with
  | error e => exact .inr ⟨⟨e, rfl, .inr ⟨a, (), ha, hs⟩⟩, True.intro⟩
  | ok s => exact .ok True.intro

theorem refuses_structural {e : Fault} (he : e.category = .structural) {σ : Type} {P : σ → Prop} :
    G.Refuses els (throw e : Except Fault σ) P :=
  .inr ⟨⟨e, rfl, .inl he⟩, True.intro⟩

/-- A run through a list is refused as one of its steps is. -/
theorem refuses_forM {f : Value → Except Fault Unit} {xs : List Value}
    (h : ∀ a ∈ xs, G.Refuses els (f a) fun _ => True) :
    G.Refuses els (xs.forM f) fun _ => True :=
  (Settles.forM (P := fun _ => True) h).imp fun _ _ => True.intro

theorem refuses_requireInside (htext : ∃ t, G.text = .ok t) (ha : G.Mentions els a) :
    G.Refuses els (G.requireInside a) fun _ => G.elements.contains a = true := by
  rw [requireInside]
  split
  · obtain ⟨t, ht⟩ := htext
    refine (refuses_plain ha).bind fun s _ => ?_
    rw [ht, ok_bind]
    exact refuses_structural rfl
  · next hin => exact .ok (by simpa using hin)

theorem refuses_requireUnit (hk : ∃ k, G.identity.sought = .ok k) :
    G.Refuses els (G.requireUnit items) fun _ => True := by
  obtain ⟨k, hk⟩ := hk
  rw [requireUnit, hk, ok_bind]
  split
  · exact (refuses_plain (.inl rfl)).bind fun s _ => refuses_structural rfl
  · exact .ok True.intro

theorem refuses_requireProduct {c k : Value} (hc : G.mul a b = .ok c) (hk : c.sought = .ok k)
    (ha : G.Mentions els a) (hb : G.Mentions els b) (hmention : G.Mentions els c) :
    G.Refuses els (G.requireProduct items a b) fun _ => True := by
  rw [requireProduct, hc, ok_bind, hk, ok_bind]
  split
  · exact (refuses_plain ha).bind fun _ _ => (refuses_plain hb).bind fun _ _ =>
      (refuses_plain hmention).bind fun _ _ => refuses_structural rfl
  · exact .ok True.intro

theorem refuses_requireInverse {b k : Value} (hb : G.inverse a = .ok b) (hk : b.sought = .ok k)
    (ha : G.Mentions els a) :
    G.Refuses els (G.requireInverse items a) fun _ => True := by
  rw [requireInverse, hb, ok_bind, hk, ok_bind]
  split
  · exact (refuses_plain ha).bind fun _ _ => refuses_structural rfl
  · exact .ok True.intro

end

section

variable (hG : G.Realizes R) {items : Roster Value}
  (hitems : ∀ k ∈ items.toList, (∃ a ∈ els, a.keyed = .ok k) ∧ G.Invertible R k)
include hG hitems

theorem Realizes.refuses_products : G.Refuses els (items.toList.forM fun a =>
    items.toList.forM (G.requireProduct items a)) fun _ => True := by
  refine refuses_forM fun k hk => refuses_forM fun l hl => ?_
  obtain ⟨⟨a, ha, hak⟩, x, -, hx, -⟩ := hitems k hk
  obtain ⟨⟨b, hb, hbl⟩, y, -, hy, -⟩ := hitems l hl
  obtain ⟨c, hc, hxy⟩ := hG.mul_eq hx hy
  obtain ⟨m, hm, -⟩ := hG.sought_eq hxy
  exact refuses_requireProduct hc hm (.inr (.inl ⟨a, ha, hak⟩)) (.inr (.inl ⟨b, hb, hbl⟩))
    (.inr (.inr ⟨a, ha, b, hb, k, l, hak, hbl, hc⟩))

theorem Realizes.refuses_inverses :
    G.Refuses els (items.toList.forM (G.requireInverse items)) fun _ => True := by
  refine refuses_forM fun k hk => ?_
  obtain ⟨hkey, x, b, -, hb, hbx⟩ := hitems k hk
  obtain ⟨m, hm, -⟩ := hG.sought_eq hbx
  exact refuses_requireInverse hb hm (.inr (.inl hkey))

end

/-- If a list is refused of which each key is no element or is inverted like one, it is with a fault
of structure or with that of writing a value. -/
theorem Realizes.refuses_checkSubgroup (hG : G.Realizes R)
    (hels : ∀ a ∈ els, ∃ k, a.keyed = .ok k ∧
      (G.elements.contains k = false ∨ G.Invertible R k)) :
    G.Refuses els (G.checkSubgroup els) fun _ => True := by
  rw [checkSubgroup]
  split
  · exact refuses_structural rfl
  obtain ⟨items, hitems⟩ := Value.exists_distinct fun a ha => (hels a ha).imp fun _ h => h.1
  have hkey : ∀ k ∈ items.toList, (∃ a ∈ els, a.keyed = .ok k) ∧
      (G.elements.contains k = false ∨ G.Invertible R k) := fun k hk => by
    obtain ⟨a, ha, hak⟩ := Value.exists_of_mem_distinct hitems hk
    obtain ⟨k', hk', h⟩ := hels a ha
    obtain rfl := Except.ok.inj (hk'.symm.trans hak)
    exact ⟨⟨a, ha, hak⟩, h⟩
  obtain ⟨e, he, -⟩ := hG.sought_eq hG.one
  rw [hitems, ok_bind]
  refine (Settles.forM fun k hk => refuses_requireInside hG.intact.text_eq
    (.inr (.inl (hkey k hk).1))).bind fun _ hin => (refuses_requireUnit ⟨e, he⟩).bind fun _ _ => ?_
  -- what is no element has been refused
  have hinv : ∀ k ∈ items.toList, (∃ a ∈ els, a.keyed = .ok k) ∧ G.Invertible R k := fun k hk =>
    (hkey k hk).imp_right fun h => h.resolve_left (by simp [hin k hk])
  exact (hG.refuses_products hinv).bind fun _ _ => hG.refuses_inverses hinv

end FiniteGroup

/-! ## Valid groups -/

namespace ValidGroup

open FiniteGroup

variable (G : ValidGroup)

/-- What a list may hold that is to become a subgroup : something that can be a key and is no
element, or a value that is equal to an element and inverted like it. -/
def Submitted (a : Value) : Prop :=
  ∃ k, a.keyed = .ok k ∧
    (G.contains a = .ok false ∨ (∃ x, G.Stands a x) ∧ G.Invertible G.Stands k)

/-- What there is to say about a list that is to become a subgroup. -/
structure IsChecked (els : List Value) : Prop where
  accepted_iff : (∃ H, G.checkedSubgroup els .none = .ok H) ↔ G.IsClosedList els
  /-- A refusal is a fault of structure, unless a value cannot be written that it names. -/
  refused : ∀ ⦃e⦄, G.checkedSubgroup els .none = .error e →
    e.category = .structural ∨ ∃ a, G.Mentions els a ∧ a.plain = .error e
  isSubgroup : ∀ ⦃H⦄, G.checkedSubgroup els .none = .ok H → G.IsSubgroup H
  inverse_eq : ∀ ⦃H⦄, G.checkedSubgroup els .none = .ok H → H.inverse = G.inverse
  order_dvd : ∀ ⦃H⦄, G.checkedSubgroup els .none = .ok H → H.order ∣ G.order
  /-- The elements of the subgroup are the values of the list. -/
  contains_iff : ∀ ⦃H⦄, G.checkedSubgroup els .none = .ok H → ∀ ⦃a x⦄, G.Stands a x →
    (H.contains a = .ok true ↔ ∃ b ∈ els, b.equal a = .ok true)

variable {G} {els : List Value}

/-- What is found to be an element is used as one. -/
theorem stands_of_submitted {a : Value} (ha : G.Submitted a) (h : G.contains a = .ok true) :
    (∃ x, G.Stands a x) ∧ ∀ k, a.keyed = .ok k → G.Invertible G.Stands k := by
  obtain ⟨k, hk, hout | ⟨hx, hinv⟩⟩ := ha
  · rw [h] at hout
    cases hout
  · exact ⟨hx, fun k' hk' => Except.ok.inj (hk.symm.trans hk') ▸ hinv⟩

section

variable (hels : ∀ a ∈ els, G.Submitted a)
include hels

/-- What passes the check consists of elements. -/
theorem contains_of_checkSubgroup_eq_ok (h : G.checkSubgroup els = .ok ()) :
    ∀ a ∈ els, G.contains a = .ok true := by
  intro a ha
  obtain ⟨k, hk, -⟩ := hels a ha
  rw [contains_of_keyed hk, contains_of_checkSubgroup h ha hk]

theorem checkSubgroup_eq_ok_iff : G.checkSubgroup els = .ok () ↔ G.IsClosedList els := by
  by_cases hin : ∀ a ∈ els, G.contains a = .ok true
  · exact G.realizes.checkSubgroup_iff (fun a ha => (stands_of_submitted (hels a ha) (hin a ha)).1)
      fun a ha => (stands_of_submitted (hels a ha) (hin a ha)).2
  · exact iff_of_false (fun h => hin (contains_of_checkSubgroup_eq_ok hels h))
      fun h => hin h.contains_eq

theorem refuses_checkSubgroup : G.Refuses els (G.checkSubgroup els) fun _ => True := by
  refine G.realizes.refuses_checkSubgroup fun a ha => ?_
  obtain ⟨k, hk, hout | ⟨-, hinv⟩⟩ := hels a ha
  · rw [contains_of_keyed hk] at hout
    exact ⟨k, hk, .inl (Except.ok.inj hout)⟩
  · exact ⟨k, hk, .inr hinv⟩

/-- A closed list becomes a subgroup that consists of what the list stands for. -/
theorem exists_checkedSubgroup (h : G.IsClosedList els) : ∃ H,
    G.checkedSubgroup els .none = .ok H ∧ G.IsSubgroup H ∧ ∃ K : Subgroup G.Element,
      extent G.Stands els = K ∧ Consists G.Stands H K := by
  have hG := G.realizes
  have hstand : Standing G.Stands els := fun a ha =>
    (stands_of_submitted (hels a ha) (h.contains_eq a ha)).1
  obtain ⟨K, hK⟩ := hG.exists_subgroup_of_isClosedList hstand h
  obtain ⟨r, hr, -⟩ := hG.subgroup_spec hstand .none .none
  have hmakes := makesOf_of_subgroup (.inl rfl) hr
  have hconsists := hG.consists_of_makesOf hmakes hstand
  rw [hK] at hconsists
  refine ⟨_, ?_, isSubgroup_of_consists ⟨els, hmakes⟩ hconsists ?_, K, hK, hconsists⟩
  · rw [checkedSubgroup, (checkSubgroup_eq_ok_iff hels).2 h, ok_bind, hr]
  · exact hG.invertible_of_makesOf hmakes fun a ha =>
      (stands_of_submitted (hels a ha) (h.contains_eq a ha)).2

theorem isClosedList_of_checkedSubgroup {H : FiniteGroup}
    (h : G.checkedSubgroup els .none = .ok H) : G.IsClosedList els := by
  obtain ⟨_, hcheck, -⟩ := bind_eq_ok.1 h
  exact (checkSubgroup_eq_ok_iff hels).1 hcheck

/-- A list that is not closed is refused by the check. -/
theorem refuses_checkedSubgroup {e : Fault} (h : G.checkedSubgroup els .none = .error e) :
    e.category = .structural ∨ ∃ a, G.Mentions els a ∧ a.plain = .error e := by
  cases hcheck : G.checkSubgroup els with
  | error e' =>
    rw [checkedSubgroup, hcheck] at h
    obtain rfl := Except.error.inj h
    obtain ⟨hstructural | ⟨a, -, ha, hwrite⟩, -⟩ := (refuses_checkSubgroup hels).of_error hcheck
    · exact .inl hstructural
    · exact .inr ⟨a, ha, hwrite⟩
  | ok =>
    obtain ⟨H, hH, -⟩ := exists_checkedSubgroup hels ((checkSubgroup_eq_ok_iff hels).1 hcheck)
    rw [hH] at h
    cases h

/-- A list is made a subgroup exactly if it is closed, and what is made is a subgroup. -/
theorem isChecked : G.IsChecked els := by
  have hmade : ∀ ⦃H⦄, G.checkedSubgroup els .none = .ok H → G.IsSubgroup H ∧
      ∃ K : Subgroup G.Element, extent G.Stands els = K ∧ Consists G.Stands H K := by
    intro H hH
    obtain ⟨H', hH', hmade⟩ :=
      exists_checkedSubgroup hels (isClosedList_of_checkedSubgroup hels hH)
    obtain rfl := Except.ok.inj (hH.symm.trans hH')
    exact hmade
  refine ⟨⟨fun ⟨H, hH⟩ => isClosedList_of_checkedSubgroup hels hH, fun h => ?_⟩,
    fun e => refuses_checkedSubgroup hels, fun H hH => (hmade hH).1,
    fun H hH => (hmade hH).1.isWithin.inverse_eq, fun H hH => ?_, fun H hH a x ha => ?_⟩
  · obtain ⟨H, hH, -⟩ := exists_checkedSubgroup hels h
    exact ⟨H, hH⟩
  · obtain ⟨-, K, -, hK⟩ := hmade hH
    exact (G.realizes.order_dvd hK).2
  · obtain ⟨-, K, hextent, hK⟩ := hmade hH
    have hclosed := isClosedList_of_checkedSubgroup hels hH
    rw [G.realizes.contains_iff hK ha, ← hextent]
    constructor
    · rintro ⟨b, hb, hbx⟩
      exact ⟨b, hb, (G.realizes.equal_iff hbx ha).2 rfl⟩
    · rintro ⟨b, hb, hequal⟩
      obtain ⟨⟨y, hy⟩, -⟩ := stands_of_submitted (hels b hb) (hclosed.contains_eq b hb)
      obtain rfl := (G.realizes.equal_iff hy ha).1 hequal
      exact ⟨b, hb, hy⟩

end

/-- Three residues modulo twelve, which are a subgroup. -/
theorem isChecked_residues :
    let G := validResidues (n := 12) (by decide) (by decide)
    (∀ a ∈ [Value.int 4, .int 8, .int 0], G.Submitted a) ∧
      G.IsChecked [.int 4, .int 8, .int 0] := by
  intro G
  have hsubmitted : ∀ a ∈ [Value.int 4, .int 8, .int 0], G.Submitted a := by
    intro a ha
    have hmem : a ∈ G.els := by
      refine (mem_residues (by decide)).2 ?_
      obtain rfl | ha := List.mem_cons.1 ha
      · exact ⟨4, by decide, rfl⟩
      obtain rfl | ha := List.mem_cons.1 ha
      · exact ⟨8, by decide, rfl⟩
      · exact ⟨0, by decide, List.mem_singleton.1 ha⟩
    obtain ⟨k, hk, -⟩ := G.keyed_eq (G.domain_of_mem hmem)
    exact ⟨k, hk, .inr ⟨G.realizes.standing a hmem, G.realizes.invertible_of_keyed hmem hk⟩⟩
  exact ⟨hsubmitted, isChecked hsubmitted⟩

end ValidGroup

/-! ## Lists that are refused for another reason -/

open FiniteGroup

section

variable {n : Nat} {c : Int} (hpos : 0 < n) (hn : n < 10) (hc : (n : Int) ∣ c + 1)

include hpos in
/-- A number with too many digits is no element, and the refusal cannot name it. -/
theorem checkedSubgroup_of_le {m : Int} (hm : n ≤ m)
    (hdigits : Nat.pow 10 Text.maxDigits ≤ m.natAbs) :
    (machineResidues n c).checkedSubgroup [.int m] .none = .error .badValue := by
  have hout := contains_machineResidues (c := c) hpos hm
  rw [contains_of_keyed rfl, Except.ok.injEq] at hout
  have hrun : (machineResidues n c).checkSubgroup [.int m] = .error .badValue := by
    show ((Roster.ofList [Value.int m]).toList.forM (machineResidues n c).requireInside >>= _) = _
    rw [Roster.toList_ofList (by simp), List.forM, requireInside, hout, plain_of_le hdigits]
    rfl
  rw [checkedSubgroup, hrun]
  rfl

include hpos hn hc

/-- The floating-point number zero is a closed list. -/
theorem isClosedList_zero : (machineResidues n c).IsClosedList [.real (asReal 0)] := by
  have hG := realizes_machineResidues hpos hn hc
  have hzero : WritesResidue n (.real (asReal 0)) 1 := ⟨0, hpos, .real, by simp⟩
  refine (hG.isClosedList_iff (standing_singleton hzero)).2 ⟨by simp, ?_⟩
  rw [hG.faithful.extent_singleton hzero]
  rintro x rfl y rfl
  exact mul_one 1

/-- It is not inverted, so it is refused. -/
theorem checkedSubgroup_zero (hlarge : Decimal.Real.ofInt c = .error .overflow) :
    (machineResidues n c).checkedSubgroup [.real (asReal 0)] .none = .error .overflow := by
  have hG := realizes_machineResidues hpos hn hc
  have hzero : WritesResidue n (.real (asReal 0)) 1 := ⟨0, hpos, .real, by simp⟩
  obtain ⟨K, hK⟩ := hG.exists_subgroup_of_isClosedList (standing_singleton hzero)
    (isClosedList_zero hpos hn hc)
  obtain ⟨items, hitems, -, -, hcheck⟩ :=
    hG.checkSubgroup_inverses (standing_singleton hzero) hK
  obtain rfl : Roster.ofList [.real (asReal 0)] = items := Except.ok.inj hitems
  have hrun : (machineResidues n c).checkSubgroup [.real (asReal 0)] = .error .overflow := by
    rw [hcheck, Roster.toList_ofList (by simp), List.forM, requireInverse, inverse_real hlarge]
    rfl
  rw [checkedSubgroup, hrun]
  rfl

end

/-- A list without an element of the group that is not refused for that, and a closed list of an
element that is refused. -/
theorem exists_checked_error :
    let G := validMachineResidues (n := 1) (by decide) (by decide)
    let m : Int := (Nat.pow 10 Text.maxDigits : Nat)
    (G.contains (.int m) = .ok false ∧ ∃ e,
      G.checkedSubgroup [.int m] .none = .error e ∧ e.category ≠ .structural) ∧
    G.IsClosedList [.real (asReal 0)] ∧
    G.checkedSubgroup [.real (asReal 0)] .none = .error .overflow := by
  intro G m
  have hpow : ∀ d, 1 ≤ Nat.pow 10 d := fun d => Nat.pow_pos (by decide)
  have hm : ((1 : Nat) : Int) ≤ m := Int.ofNat_le.2 (hpow Text.maxDigits)
  have hdvd := dvd_largeFactor 1
  exact ⟨⟨contains_machineResidues (by decide) hm, .badValue,
      checkedSubgroup_of_le (by decide) hm (Int.natAbs_natCast _).ge, by decide⟩,
    isClosedList_zero (by decide) (by decide) hdvd,
    checkedSubgroup_zero (by decide) (by decide) hdvd (ofInt_largeFactor (by decide))⟩

end FiniteGroups
