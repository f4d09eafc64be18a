import FiniteGroups.Proofs.Actions

/-!
# Items that are not kept

Whether a function is an action of a group on some items is found out by checking the two laws for
the items. That an element makes an item of an item is not part of the question. An action on the
items is therefore more than what is asked for (`GroupAction.ActsOn`), and what is found out is
something else: whether the function is an action on everything that is reached from the items
(`ValidGroup.TellsAction`).

A group that acts on its elements is found to act on any part of them (`exists_isAction_escaping`).
-/

set_option linter.unusedSectionVars false

namespace FiniteGroups

open FiniteGroup

namespace GroupAction

variable {A : GroupAction}

/-- What an element makes of a value is equal to one of the values. -/
def KeepsEach (A : GroupAction) (Y : Value → Prop) : Prop :=
  ∀ g ∈ A.group.els, ∀ ⦃a⦄, Y a → ∃ b, A.act g a = .ok b ∧ ∃ c, Y c ∧ b.equal c = .ok true

/-- The function is an action on the values. -/
structure ActsOn (A : GroupAction) (Y : Value → Prop) : Prop extends A.LawsOn Y where
  keepsEach : A.KeepsEach Y

/-- The value is an item, or an element makes it of an item. -/
def Reaches (A : GroupAction) (b : Value) : Prop :=
  b ∈ A.items ∨ ∃ g ∈ A.group.els, ∃ a ∈ A.items, A.act g a = .ok b

/-- To be an action on the items is to satisfy the laws and to keep the items. -/
theorem actsOn_items_iff : A.ActsOn (· ∈ A.items) ↔
    A.isAction = .ok true ∧ A.KeepsEach (· ∈ A.items) := by
  rw [isAction_iff]
  exact ⟨fun h => ⟨h.toLawsOn, h.keepsEach⟩, fun h => ⟨h.1, h.2⟩⟩

/-- The function does not fail: `D` holds the items and what is made of its values, and these can be
compared. -/
structure TotalOn (A : GroupAction) (G : ValidGroup) (D : Value → Prop) : Prop where
  of_mem : ∀ ⦃a⦄, a ∈ A.items → D a
  act_eq : ∀ ⦃g z a⦄, G.Stands g z → D a → ∃ b, A.act g a = .ok b ∧ D b
  exists_equal : ∀ ⦃a b⦄, D a → D b → ∃ answer, a.equal b = .ok answer

/-- The function respects the equality of elements and of values. -/
structure RespectsOn (A : GroupAction) (G : ValidGroup) (D : Value → Prop) : Prop
    extends A.TotalOn G D where
  equal_eq : ∀ ⦃a b⦄, D a → D b → a.equal b = .ok (a == b)
  act_congr : ∀ ⦃g g' z a a' b b'⦄, G.Stands g z → G.Stands g' z → D a → D a' →
    (a == a') = true → A.act g a = .ok b → A.act g' a' = .ok b' → (b == b') = true

variable {G : ValidGroup} {D : Value → Prop}

/-- The question has an answer if the function does not fail. -/
theorem TotalOn.exists_answer (hA : A.group = G.toFiniteGroup) (h : A.TotalOn G D) :
    ∃ answer, A.isAction = .ok answer := by
  have hG := G.realizes
  have hall : ∀ {α : Type} {f : α → Except Fault Bool} (xs : List α),
      (∀ x ∈ xs, ∃ b, f x = .ok b) → ∃ b, xs.allM f = .ok b := fun {α f} xs hxs => by
    obtain ⟨b, hb, -⟩ := exists_allM (P := fun x => f x = .ok true) xs fun x hx => by
      obtain ⟨b, hb⟩ := hxs x hx
      exact ⟨b, hb, by rw [hb, Except.ok.injEq]⟩
    exact ⟨b, hb⟩
  obtain ⟨fixed, hfixed⟩ := hall (f := fun a => do (← A.act A.group.identity a).equal a) A.items
      fun a ha => by
    obtain ⟨b, hb, hdom⟩ := h.act_eq hG.one (h.of_mem ha)
    obtain ⟨answer, hanswer⟩ := h.exists_equal hdom (h.of_mem ha)
    rw [← hA] at hb
    exact ⟨answer, by rw [hb, ok_bind, hanswer]⟩
  obtain ⟨all, hmul⟩ := hall (f := fun g => A.group.els.allM fun h => do
      let gh ← A.group.mul g h
      A.items.allM fun a => do (← A.act gh a).equal (← A.act g (← A.act h a)))
      A.group.els fun g hg => hall _ fun g' hg' => by
    rw [hA] at hg hg' ⊢
    have hself := ValidGroup.stands_self (⟨g, hg⟩ : G.Element)
    have hself' := ValidGroup.stands_self (⟨g', hg'⟩ : G.Element)
    obtain ⟨gh, hgh, hxy⟩ := hG.mul_eq hself hself'
    rw [hgh, ok_bind]
    refine hall _ fun a ha => ?_
    obtain ⟨u, hu, hdomu⟩ := h.act_eq hxy (h.of_mem ha)
    obtain ⟨v, hv, hdomv⟩ := h.act_eq hself' (h.of_mem ha)
    obtain ⟨w, hw, hdomw⟩ := h.act_eq hself hdomv
    obtain ⟨answer, hanswer⟩ := h.exists_equal hdomu hdomw
    exact ⟨answer, by rw [hu, ok_bind, hv, ok_bind, hw, ok_bind, hanswer]⟩
  cases fixed with
  | true => exact ⟨all, by rw [isAction, hfixed, ok_bind, if_pos rfl, hmul]⟩
  | false => exact ⟨false, by rw [isAction, hfixed]; rfl⟩

/-! ## What is reached from the items -/

namespace RespectsOn

/-- The value is equal to what the element `z` makes of an item. -/
def Is (A : GroupAction) (G : ValidGroup) (D : Value → Prop) (b : Value) (z : G.Element)
    (a : Value) : Prop :=
  D b ∧ ∃ c, A.act z.1 a = .ok c ∧ D c ∧ (b == c) = true

variable (hA : A.group = G.toFiniteGroup) (h : A.RespectsOn G D)
include h

theorem is_act {g a b : Value} {z : G.Element} (hg : G.Stands g z) (ha : D a)
    (hb : A.act g a = .ok b) : Is A G D b z a := by
  obtain ⟨b', hb', hdom'⟩ := h.act_eq hg ha
  obtain rfl := Except.ok.inj (hb.symm.trans hb')
  obtain ⟨c, hc, hdom⟩ := h.act_eq (ValidGroup.stands_self z) ha
  exact ⟨hdom', c, hc, hdom, h.act_congr hg (ValidGroup.stands_self z) ha ha BEq.rfl hb hc⟩

omit h in
theorem beq_of_is {b b' a : Value} {z : G.Element} (hb : Is A G D b z a) (hb' : Is A G D b' z a) :
    (b == b') = true := by
  obtain ⟨-, c, hc, -, hbc⟩ := hb
  obtain ⟨-, c', hc', -, hbc'⟩ := hb'
  obtain rfl := Except.ok.inj (hc.symm.trans hc')
  exact BEq.trans hbc (BEq.symm hbc')

theorem equal_of_is {b b' a : Value} {z : G.Element} (hb : Is A G D b z a)
    (hb' : Is A G D b' z a) : b.equal b' = .ok true := by
  rw [h.equal_eq hb.1 hb'.1, beq_of_is hb hb']

include hA
variable (hlaws : A.LawsOn (· ∈ A.items))
include hlaws

/-- What an element makes of a value that is reached from an item. The second law, which holds for
the item, tells it. -/
theorem exists_is_mul {g a b : Value} {x z : G.Element} (hg : G.Stands g x) (ha : a ∈ A.items)
    (hb : Is A G D b z a) : ∃ c, A.act g b = .ok c ∧ Is A G D c (x * z) a := by
  have hG := G.realizes
  obtain ⟨hdomb, v, hv, hdomv, hbv⟩ := hb
  obtain ⟨gh, hgh, hall⟩ := hlaws.act_mul x.1 (hA ▸ x.2) z.1 (hA ▸ z.2)
  rw [hA] at hgh
  have hxz := hG.mul_of_eq (ValidGroup.stands_self x) (ValidGroup.stands_self z) hgh
  obtain ⟨u, v', w, hu, hv', hw, hequal⟩ := hall ha
  obtain rfl := Except.ok.inj (hv.symm.trans hv')
  obtain ⟨c, hc, hdomc⟩ := h.act_eq hg hdomb
  obtain ⟨hdomu, d, hd, hdomd, hud⟩ := h.is_act hxz (h.of_mem ha) hu
  obtain ⟨hdomw, -⟩ := h.is_act (ValidGroup.stands_self x) hdomv hw
  have hcw := h.act_congr hg (ValidGroup.stands_self x) hdomb hdomv hbv hc hw
  have huw : (u == w) = true := by
    rwa [h.equal_eq hdomu hdomw, Except.ok.injEq] at hequal
  exact ⟨c, hc, hdomc, d, hd, hdomd, BEq.trans hcw (BEq.trans (BEq.symm huw) hud)⟩

/-- A value that is reached is what some element makes of some item. -/
theorem exists_is {b : Value} (hb : A.Reaches b) : ∃ a ∈ A.items, ∃ z, Is A G D b z a := by
  obtain hb | ⟨g, hg, a, ha, hact⟩ := hb
  · obtain ⟨c, hc, hequal⟩ := hlaws.act_one hb
    rw [hA] at hc
    obtain ⟨hdom, d, hd, hdomd, hcd⟩ := h.is_act G.realizes.one (h.of_mem hb) hc
    rw [h.equal_eq hdom (h.of_mem hb), Except.ok.injEq] at hequal
    exact ⟨b, hb, 1, h.of_mem hb, d, hd, hdomd, BEq.trans (BEq.symm hequal) hcd⟩
  · rw [hA] at hg
    exact ⟨a, ha, ⟨g, hg⟩, h.is_act (ValidGroup.stands_self _) (h.of_mem ha) hact⟩

/-- If the laws hold for the items, the function is an action on what is reached from them. -/
theorem actsOn_reaches : A.ActsOn A.Reaches where
  act_one b hb := by
    obtain ⟨a, ha, z, hz⟩ := h.exists_is hA hlaws hb
    obtain ⟨c, hc, hcz⟩ := h.exists_is_mul hA hlaws G.realizes.one ha hz
    rw [one_mul] at hcz
    exact ⟨c, hA ▸ hc, h.equal_of_is hcz hz⟩
  act_mul g hg g' hg' := by
    rw [hA] at hg hg'
    have hself := ValidGroup.stands_self (⟨g, hg⟩ : G.Element)
    have hself' := ValidGroup.stands_self (⟨g', hg'⟩ : G.Element)
    obtain ⟨gh, hgh, hxy⟩ := G.realizes.mul_eq hself hself'
    refine ⟨gh, hA ▸ hgh, fun b hb => ?_⟩
    obtain ⟨a, ha, z, hz⟩ := h.exists_is hA hlaws hb
    obtain ⟨u, hu, huz⟩ := h.exists_is_mul hA hlaws hxy ha hz
    obtain ⟨v, hv, hvz⟩ := h.exists_is_mul hA hlaws hself' ha hz
    obtain ⟨w, hw, hwz⟩ := h.exists_is_mul hA hlaws hself ha hvz
    rw [← mul_assoc] at hwz
    exact ⟨u, v, w, hu, hv, hw, h.equal_of_is huz hwz⟩
  keepsEach g hg b hb := by
    rw [hA] at hg
    obtain ⟨a, ha, z, hz⟩ := h.exists_is hA hlaws hb
    obtain ⟨c, hc, hdomc, d, hd, hdomd, hcd⟩ :=
      h.exists_is_mul hA hlaws (ValidGroup.stands_self (⟨g, hg⟩ : G.Element)) ha hz
    refine ⟨c, hc, d, .inr ⟨_, hA ▸ ValidGroup.Element.mem _, a, ha, hd⟩, ?_⟩
    rw [h.equal_eq hdomc hdomd, hcd]

omit hlaws in
/-- What is found out is whether the function is an action on what is reached from the items. -/
theorem isAction_iff_reaches : A.isAction = .ok true ↔ A.ActsOn A.Reaches := by
  rw [isAction_iff]
  exact ⟨h.actsOn_reaches hA, fun hacts => hacts.toLawsOn.mono fun _ => .inl⟩

end RespectsOn

end GroupAction

/-- What is found out about a function of elements of `G` and items. -/
structure ValidGroup.TellsAction (G : ValidGroup) (A : GroupAction) : Prop where
  /-- To be an action on the items is more than to be found to be one. -/
  actsOn_items_iff : A.ActsOn (· ∈ A.items) ↔
    A.isAction = .ok true ∧ A.KeepsEach (· ∈ A.items)
  /-- If the function does not fail, there is an answer, which is whether the laws hold for the
  items. -/
  isAction_spec : ∀ D, A.TotalOn G D →
    ∃ answer, A.isAction = .ok answer ∧ (answer = true ↔ A.LawsOn (· ∈ A.items))
  /-- If the function moreover respects equality, this is to be an action on all that is reached
  from the items. -/
  isAction_iff : ∀ D, A.RespectsOn G D → (A.isAction = .ok true ↔ A.ActsOn A.Reaches)

theorem ValidGroup.tellsAction (G : ValidGroup) {A : GroupAction}
    (hA : A.group = G.toFiniteGroup) : G.TellsAction A where
  actsOn_items_iff := GroupAction.actsOn_items_iff
  isAction_spec D hD := by
    obtain ⟨answer, hanswer⟩ := hD.exists_answer hA
    refine ⟨answer, hanswer, ?_⟩
    rw [← GroupAction.isAction_iff, hanswer, Except.ok.injEq]
  isAction_iff D hD := hD.isAction_iff_reaches hA

/-! ## A group that acts on a part of itself -/

/-- The operation of `G` as a function of elements and of some items. -/
def partAction (G : FiniteGroup) (items : List Value) (members : Roster Value) : GroupAction :=
  { leftAction G members with items }

namespace ValidGroup

variable (G : ValidGroup) {items : List Value} (members : Roster Value)

theorem respectsOn_partAction (hitems : Standing G.Stands items) :
    (partAction G.toFiniteGroup items members).RespectsOn G fun a => ∃ x, G.Stands a x where
  of_mem a ha := hitems a ha
  act_eq := by
    rintro g z a hg ⟨x, hx⟩
    obtain ⟨c, hc, hcx⟩ := (G.realizes.leftAction members).act_eq hg hx
    exact ⟨c, hc, _, hcx⟩
  exists_equal := by
    rintro a b ⟨x, hx⟩ ⟨y, hy⟩
    exact ⟨_, G.realizes.equal_eq hx hy⟩
  equal_eq := by
    rintro a b ⟨x, hx⟩ ⟨y, hy⟩
    exact G.realizes.equal_eq hx hy
  act_congr := by
    rintro g g' z a a' b b' hg hg' ⟨x, hx⟩ ⟨x', hx'⟩ ha hb hb'
    obtain rfl := (faithful hx hx').1 ha
    obtain ⟨c, hc, hcx⟩ := (G.realizes.leftAction members).act_eq hg hx
    obtain ⟨c', hc', hcx'⟩ := (G.realizes.leftAction members).act_eq hg' hx'
    obtain rfl := Except.ok.inj (hb.symm.trans hc)
    obtain rfl := Except.ok.inj (hb'.symm.trans hc')
    exact (faithful hcx hcx').2 rfl

/-- A group is found to act on any part of itself. -/
theorem isAction_partAction (hitems : ∀ a ∈ items, a ∈ G.els) :
    (partAction G.toFiniteGroup items members).isAction = .ok true :=
  GroupAction.isAction_of_subset (G.realizes.leftAction members).isAction_eq members hitems

variable {G members} in
/-- It acts on no part but the whole, since every element leads to every other one. -/
theorem exists_item_of_actsOn (hitems : Standing G.Stands items) (hne : items ≠ [])
    (h : (partAction G.toFiniteGroup items members).ActsOn (· ∈ items)) {g : Value}
    (hg : g ∈ G.els) : ∃ c ∈ items, (g == c) = true := by
  obtain ⟨a, ha⟩ := List.exists_mem_of_ne_nil items hne
  obtain ⟨x, hx⟩ := hitems a ha
  have hself := stands_self (⟨g, hg⟩ : G.Element)
  let z : G.Element := ⟨g, hg⟩ * x⁻¹
  obtain ⟨b, hb, c, hc, hequal⟩ := h.keepsEach z.1 z.2 ha
  obtain ⟨b', hb', hgx⟩ := (G.realizes.leftAction members).act_eq (stands_self z) hx
  obtain rfl := Except.ok.inj (hb.symm.trans hb')
  obtain ⟨y, hy⟩ := hitems c hc
  rw [smul_eq_mul, inv_mul_cancel_right] at hgx
  obtain rfl := (G.realizes.equal_iff hgx hy).1 hequal
  exact ⟨c, hc, (faithful hself hy).2 rfl⟩

end ValidGroup

theorem tellsAction_residues :
    let G := validResidues (n := 2) (by decide) (by decide)
    ∃ A : GroupAction,
      GroupAction.ofItems G.candidate (.list 0 [.int 0]) (.op .addMod [.int 2]) = .ok A ∧
      A.group = G.toFiniteGroup ∧ (∃ D, A.RespectsOn G D) ∧ G.TellsAction A := by
  intro G
  exact ⟨partAction (residues 2) [.int 0] (.ofList [.int 0]), rfl, rfl,
    ⟨_, G.respectsOn_partAction _ (standing_singleton G.realizes.one)⟩, G.tellsAction rfl⟩

/-- The residues modulo two are found to act on the residue zero alone. -/
theorem exists_isAction_escaping :
    let G := validResidues (n := 2) (by decide) (by decide)
    ∃ A : GroupAction,
      GroupAction.ofItems G.candidate (.list 0 [.int 0]) (.op .addMod [.int 2]) = .ok A ∧
      A.isAction = .ok true ∧ ¬A.ActsOn (· ∈ A.items) := by
  intro G
  have hzero : ∀ a ∈ [Value.int 0], a ∈ G.els := by
    intro a ha
    rw [List.mem_singleton.1 ha]
    exact G.realizes.identity_mem
  refine ⟨partAction (residues 2) [.int 0] (.ofList [.int 0]), rfl,
    G.isAction_partAction _ hzero, fun hacts => ?_⟩
  obtain ⟨c, hc, hone⟩ := ValidGroup.exists_item_of_actsOn (G := G)
    (standing_singleton G.realizes.one) (by simp) hacts
    ((mem_residues (by decide)).2 ⟨1, by decide, rfl⟩)
  rw [List.mem_singleton.1 hc] at hone
  exact absurd (beq_int.1 hone) (by decide)

end FiniteGroups
