import FiniteGroups.Proofs.Commuting
import FiniteGroups.Proofs.Generation
import FiniteGroups.Proofs.Orders
import FiniteGroups.Proofs.RealResidues

/-!
# Direct products

The pairs of elements of two groups are multiplied and inverted part by part. So pairs compute in
the product of the groups that their parts compute in (`recipe_pair`), and generators of the two
groups, each with the identity of the other one, generate all pairs (`closure_pairs`). What
`ValidGroup.IsDirectProduct` says of the group that is built follows from the group theory of
products.

A pair that is found by the closure has products as its parts, and these need not be written as the
elements are listed. An inverse that is given for the elements as they are listed is therefore not
enough: the product of two valid groups can be a group whose elements are not inverted
(`exists_directProduct_not_verified`).
-/

set_option linter.unusedSectionVars false

namespace FiniteGroups

open FiniteGroup

variable {M N : Type} {R : Value → M → Prop} {S : Value → N → Prop}

/-! ## Pairs as values -/

/-- A pair of values stands for the pair of what they stand for. -/
inductive StandsForPair (R : Value → M → Prop) (S : Value → N → Prop) : Value → M × N → Prop
  | intro {a b : Value} {x : M} {y : N} (ha : R a x) (hb : S b y) :
      StandsForPair R S (.tuple [a, b]) (x, y)

/-- As an entry of a tuple a value is compared as it is on its own. There entries that are one thing
are not compared, as they are equal. -/
def ComparesEntries (R : Value → M → Prop) : Prop :=
  ∀ ⦃a b x y⦄, R a x → R b y → Value.compareEach [a] [b] = .ok (a == b)

theorem beq_pair (a b a' b' : Value) :
    (Value.tuple [a, b] == .tuple [a', b']) = (a == a' && b == b') := by
  show Value.same (.tuple [a, b]) (.tuple [a', b']) = (Value.same a a' && Value.same b b')
  simp only [Value.same, Value.sameEach, List.isEmpty_nil, Bool.and_true]

/-- Values that are not one object are compared as entries as they are on their own. -/
theorem compareEach_of_compare {a b : Value} (hidentical : a.identical b = false)
    (hcompare : a.compare b = .ok (a == b)) : Value.compareEach [a] [b] = .ok (a == b) := by
  rw [Value.compareEach.eq_def]
  simp only [hcompare, hidentical]
  cases a == b <;> rfl

theorem compareEach_cons (a b : Value) (xs ys : List Value) :
    Value.compareEach (a :: xs) (b :: ys) = (do
      if ← Value.compareEach [a] [b] then Value.compareEach xs ys else return false) := by
  have hnil : Value.compareEach [] [] = .ok true := by rw [Value.compareEach]; rfl
  simp only [Value.compareEach.eq_def (a :: xs), Value.compareEach.eq_def [a], hnil]
  cases a.identical b with
  | true => rfl
  | false =>
    cases a.compare b with
    | error e => rfl
    | ok agree => cases agree <;> rfl

theorem faithful_pair (hR : Faithful R) (hS : Faithful S) : Faithful (StandsForPair R S) := by
  rintro _ _ _ _ ⟨ha, hb⟩ ⟨ha', hb'⟩
  rw [beq_pair, Bool.and_eq_true, hR ha ha', hS hb hb', Prod.mk.injEq]

theorem equal_pair (hR : ComparesEntries R) (hS : ComparesEntries S) {p q : Value} {z w : M × N}
    (hp : StandsForPair R S p z) (hq : StandsForPair R S q w) : p.equal q = .ok (p == q) := by
  obtain @⟨a, b, x, y, ha, hb⟩ := hp
  obtain @⟨a', b', x', y', ha', hb'⟩ := hq
  rw [Value.equal]
  split
  · rfl
  · rw [Value.compare, compareEach_cons, hR ha ha', ok_bind, hS hb hb', beq_pair]
    cases a == a' <;> rfl

theorem keyed_pair {a b k l : Value} (ha : a.keyed = .ok k) (hb : b.keyed = .ok l) :
    (Value.tuple [a, b]).keyed = .ok (.tuple [k, l]) := by
  rw [Value.keyed, Value.keyedEach, ha, Value.keyedEach, hb, Value.keyedEach]
  rfl

/-! ## Numbers as entries -/

theorem compareEach_writes {m n : Nat} {a b : Value} (ha : Writes m a) (hb : Writes n b) :
    Value.compareEach [a] [b] = .ok (a == b) := by
  refine compareEach_of_compare ?_ ?_
  · obtain _ | _ := ha <;> rfl
  · obtain _ | _ := ha <;> obtain _ | _ := hb <;> exact Value.compare.eq_def ..

theorem compares_writesResidue {n : Nat} : ComparesEntries (WritesResidue n) := by
  rintro _ _ _ _ ⟨j, -, ha, -⟩ ⟨k, -, hb, -⟩
  exact compareEach_writes ha hb

theorem compares_residue {n : Nat} : ComparesEntries (Residue n) := fun _ _ _ _ ha hb =>
  compares_writesResidue (writesResidue_of_residue ha) (writesResidue_of_residue hb)

/-! ## Pairs of elements -/

/-- The family of the direct product of two groups. -/
def productFamily (G H : FiniteGroup) : Family :=
  ⟨0, .directProduct, [G.value, H.value]⟩

/-- The identities as a pair. -/
def identityPair (G H : FiniteGroup) : Value :=
  .tuple [G.identity, H.identity]

variable {G H : FiniteGroup}

theorem mul_pair (hG : G.Intact) (hH : H.Intact) (a b a' b' : Value) :
    (productFamily G H).op.meaning.call₂ (.tuple [a, b]) (.tuple [a', b']) = (do
      return .tuple [← G.mul a a', ← H.mul b b']) := by
  show (Value.op .product [G.value, H.value]).meaning.call [.tuple [a, b], .tuple [a', b']] = _
  rw [Value.meaning, Value.meaningWith.eq_def]
  show (do
    let mul ← G.value.meaning.op
    let x ← mul a a'
    let mul ← H.value.meaning.op
    return Value.tuple [x, ← mul b b']) = _
  rw [hG.op_eq, hH.op_eq]
  rfl

theorem inverse_pair (hG : G.Intact) (hH : H.Intact) (a b : Value) :
    (Value.method 0 (productFamily G H).value "inverse").meaning.call [.tuple [a, b]] = (do
      return .tuple [← G.inverse a, ← H.inverse b]) := by
  rw [meaning_method, Family.value, Value.meaning, Value.meaningWith.eq_def]
  show (do
    let inverse ← G.value.meaning.inverse
    let x ← inverse a
    let inverse ← H.value.meaning.inverse
    return Value.tuple [x, ← inverse b]) = _
  rw [hG.inverse_eq, hH.inverse_eq]
  rfl

section

variable [Group M] [Group N] (hG : G.Realizes R) (hH : H.Realizes S)
include hG hH

theorem multiplies_pair :
    Multiplies (StandsForPair R S) (productFamily G H).op.meaning.call₂ where
  mul_eq := by
    rintro _ _ _ _ ⟨ha, hb⟩ ⟨ha', hb'⟩
    obtain ⟨c, hc, hcx⟩ := hG.mul_eq ha ha'
    obtain ⟨d, hd, hdy⟩ := hH.mul_eq hb hb'
    refine ⟨_, ?_, .intro hcx hdy⟩
    rw [mul_pair hG.intact hH.intact, hc, hd]
    rfl
  faithful := faithful_pair hG.faithful hH.faithful
  keyed_eq := by
    rintro _ _ ⟨ha, hb⟩
    obtain ⟨k, hk, hkx⟩ := hG.keyed_eq ha
    obtain ⟨l, hl, hly⟩ := hH.keyed_eq hb
    exact ⟨_, keyed_pair hk hl, .intro hkx hly⟩

theorem card_pairs : Nat.card (M × N) = G.order * H.order := by
  rw [Nat.card_prod, hG.order_eq, hH.order_eq]

theorem identityPair_stands : StandsForPair R S (identityPair G H) 1 :=
  .intro hG.one hH.one

/-- A pair whose parts are inverted is inverted part by part. -/
theorem inverse_pair_spec {a b : Value} {x : M} {y : N} (ha : R a x) (hb : S b y)
    (hinvG : G.Invertible R a) (hinvH : H.Invertible S b) :
    ∃ q, (Value.method 0 (productFamily G H).value "inverse").meaning.call [.tuple [a, b]] = .ok q ∧
      StandsForPair R S q (x, y)⁻¹ := by
  obtain ⟨x', c, hax, hc, hcx⟩ := hinvG
  obtain ⟨y', d, hby, hd, hdy⟩ := hinvH
  obtain rfl := hG.faithful.unique ha hax
  obtain rfl := hH.faithful.unique hb hby
  refine ⟨_, ?_, .intro hcx hdy⟩
  rw [inverse_pair hG.intact hH.intact, hc, hd]
  rfl

theorem recipe_pair (hcompareG : ComparesEntries R) (hcompareH : ComparesEntries S)
    (hinvG : ∀ ⦃a x⦄, R a x → G.Invertible R a) (hinvH : ∀ ⦃b y⦄, S b y → H.Invertible S b) :
    Recipe (StandsForPair R S) (productFamily G H).op
      (.method 0 (productFamily G H).value "inverse") (identityPair G H) where
  toMultiplies := multiplies_pair hG hH
  equal_eq _ _ _ _ := equal_pair hcompareG hcompareH
  ne_none := by
    rintro _ _ ⟨-, -⟩
    exact nofun
  one := identityPair_stands hG hH
  inverse_eq := by
    rintro _ _ ⟨ha, hb⟩
    exact inverse_pair_spec hG hH ha hb (hinvG ha) (hinvH hb)
  inverse_keyed := by
    intro p hp
    obtain ⟨k, hk, -⟩ := hG.keyed_eq hG.one
    obtain ⟨l, hl, -⟩ := hH.keyed_eq hH.one
    rw [identityPair, ← Except.ok.inj ((keyed_pair hk hl).symm.trans hp),
      inverse_pair hG.intact hH.intact, inverse_pair hG.intact hH.intact,
      hG.inverse_keyed hG.identity_mem hk, hH.inverse_keyed hH.identity_mem hl]

end

/-! ## Generators -/

/-- The generators are not known, or they are a list of values that generate `M`. -/
def GensGenerate [Group M] (R : Value → M → Prop) (G : FiniteGroup) : Prop :=
  G.gens = .none ∨ ∃ place gs, G.gens = .list place gs ∧ Standing R gs ∧
    Subgroup.closure (extent R gs) = ⊤

theorem closure_els [Group M] (hG : G.Realizes R) : Subgroup.closure (extent R G.els) = ⊤ := by
  rw [hG.extent_els, Subgroup.closure_univ]

/-- Generators that are not known are all elements, and so are no generators at all. -/
theorem gensOf_spec [Group M] (hG : G.Realizes R) (h : GensGenerate R G) :
    ∃ gs, Family.gensOf G.value = .ok gs ∧ Standing R gs ∧
      Subgroup.closure (extent R gs) = ⊤ := by
  have heq : Family.gensOf G.value = (do
      if ← G.gens.truthy then G.gens.entries else return G.els) := rfl
  rw [heq]
  obtain hnone | ⟨place, gs, hlist, hgs, hall⟩ := h
  · rw [hnone]
    exact ⟨G.els, rfl, hG.standing, closure_els hG⟩
  · rw [hlist]
    cases gs with
    | nil => exact ⟨G.els, rfl, hG.standing, closure_els hG⟩
    | cons g gs => exact ⟨g :: gs, rfl, hgs, hall⟩

/-- Generators of two groups generate the product, if each is taken with the identity of the other
group. -/
theorem closure_pairs [Group M] [Group N] {X : Set M} {Y : Set N}
    (hX : Subgroup.closure X = ⊤) (hY : Subgroup.closure Y = ⊤) :
    Subgroup.closure ((fun x => (x, (1 : N))) '' X ∪ (fun y => ((1 : M), y)) '' Y) = ⊤ := by
  have hleft : Subgroup.closure ((fun x => (x, (1 : N))) '' X) = (MonoidHom.inl M N).range := by
    rw [MonoidHom.range_eq_map, ← hX, MonoidHom.map_closure]
    rfl
  have hright : Subgroup.closure ((fun y => ((1 : M), y)) '' Y) = (MonoidHom.inr M N).range := by
    rw [MonoidHom.range_eq_map, ← hY, MonoidHom.map_closure]
    rfl
  rw [Subgroup.closure_union, hleft, hright]
  refine (Subgroup.eq_top_iff' _).2 fun ⟨x, y⟩ => ?_
  have hmul : (x, y) = MonoidHom.inl M N x * MonoidHom.inr M N y := by simp
  rw [hmul]
  exact mul_mem (Subgroup.mem_sup_left ⟨x, rfl⟩) (Subgroup.mem_sup_right ⟨y, rfl⟩)

/-- The elements of two lists as pairs with the identities. -/
def unitPairs (G H : FiniteGroup) (gs hs : List Value) : List Value :=
  gs.map (fun g => .tuple [g, H.identity]) ++ hs.map fun h => .tuple [G.identity, h]

theorem gens_productFamily {gs hs : List Value} (hgs : Family.gensOf G.value = .ok gs)
    (hhs : Family.gensOf H.value = .ok hs) :
    (productFamily G H).gens = .ok (unitPairs G H gs hs) := by
  show (do
    let gs := (← Family.gensOf G.value).map fun g => Value.tuple [g, H.identity]
    return gs ++ (← Family.gensOf H.value).map fun h => Value.tuple [G.identity, h]) = _
  rw [hgs, hhs]
  rfl

theorem unitPairs_spec [Group M] [Group N] (hG : G.Realizes R) (hH : H.Realizes S)
    {gs hs : List Value} (hgs : Standing R gs) (hhs : Standing S hs) :
    Standing (StandsForPair R S) (unitPairs G H gs hs) ∧
      extent (StandsForPair R S) (unitPairs G H gs hs) =
        (fun x => (x, 1)) '' extent R gs ∪ (fun y => (1, y)) '' extent S hs := by
  have hpairs := faithful_pair hG.faithful hH.faithful
  obtain ⟨hleft, hextentL⟩ := hG.faithful.extent_map hpairs hgs
    (f := fun g => Value.tuple [g, H.identity]) fun g x hx => .intro hx hH.one
  obtain ⟨hright, hextentR⟩ := hH.faithful.extent_map hpairs hhs
    (f := fun h => Value.tuple [G.identity, h]) fun h y hy => .intro hG.one hy
  exact ⟨hleft.append hright, by rw [unitPairs, extent_append, hextentL, hextentR]⟩

/-! ## Building the product -/

theorem exists_name_product (hG : G.Intact) (hH : H.Intact) :
    ∃ s, (productFamily G H).name = .ok s := by
  obtain ⟨s, hs⟩ := hG.text_eq
  obtain ⟨t, ht⟩ := hH.text_eq
  refine ⟨s!"{s}x{t}", ?_⟩
  show (do return s!"{← G.value.plain}x{← H.value.plain}") = _
  rw [plain_value hs, plain_value ht]
  rfl

/-- The product is what the generators generate, if it has as many elements as there are pairs. -/
theorem group_product {P : FiniteGroup} {gens : List Value} {s : String}
    (hgens : (productFamily G H).gens = .ok gens) (hname : (productFamily G H).name = .ok s)
    (hP : (generate gens (productFamily G H).op (identityPair G H)
      (.method 0 (productFamily G H).value "inverse") (.text s)).outcome = .ok P)
    (horder : P.order = G.order * H.order) :
    Family.group .directProduct [G.value, H.value] = .ok P := by
  show ((productFamily G H).build .none).outcome = _
  rw [Family.build_none hname]
  refine Family.build_of_generate hgens rfl hP (.inr ?_) nofun
  rw [horder]
  rfl

section

variable [Group M] [Group N] (hG : G.Realizes R) (hH : H.Realizes S)
include hG hH

/-- The group of all pairs is built. -/
theorem exists_realizes_pairs (hcompareG : ComparesEntries R) (hcompareH : ComparesEntries S)
    (hinvG : ∀ ⦃a x⦄, R a x → G.Invertible R a) (hinvH : ∀ ⦃b y⦄, S b y → H.Invertible S b)
    (hgensG : GensGenerate R G) (hgensH : GensGenerate S H) :
    ∃ P : FiniteGroup, Family.group .directProduct [G.value, H.value] = .ok P ∧
      P.Realizes (StandsForPair R S) := by
  have := hG.finite
  have := hH.finite
  obtain ⟨gs, hgs, hstandG, hallG⟩ := gensOf_spec hG hgensG
  obtain ⟨hs, hhs, hstandH, hallH⟩ := gensOf_spec hH hgensH
  obtain ⟨hstand, hextent⟩ := unitPairs_spec hG hH hstandG hstandH
  obtain ⟨s, hs⟩ := exists_name_product hG.intact hH.intact
  obtain ⟨P, hP, hrealizes⟩ := (recipe_pair hG hH hcompareG hcompareH hinvG hinvH).generate_spec
    (by simp) hstand (hextent ▸ closure_pairs hallG hallH) (.inr ⟨s, rfl⟩)
  refine ⟨P, group_product (gens_productFamily hgs hhs) hs hP ?_, hrealizes⟩
  rw [hrealizes.order_eq, card_pairs hG hH]

/-! ## What is computed in the product -/

variable {P : FiniteGroup} (hP : P.Realizes (StandsForPair R S))
include hP

/-- The order of a pair is the least common multiple of the orders of its parts. -/
theorem elementOrder_pair {a b : Value} {x : M} {y : N} (ha : R a x) (hb : S b y) :
    ∃ m n, G.elementOrder a = .ok m ∧ H.elementOrder b = .ok n ∧
      P.elementOrder (.tuple [a, b]) = .ok (m.lcm n) := by
  obtain ⟨m, hm, hx⟩ := hG.elementOrder_spec ha
  obtain ⟨n, hn, hy⟩ := hH.elementOrder_spec hb
  obtain ⟨l, hl, hxy⟩ := hP.elementOrder_spec (.intro ha hb)
  refine ⟨m, n, hm, hn, hl.trans (congrArg Except.ok ?_)⟩
  refine Nat.dvd_right_iff_eq.1 fun k => ?_
  rw [← hxy, Nat.lcm_dvd_iff, ← hx, ← hy, Prod.pow_mk, Prod.mk_eq_one]

theorem exponent_product : ∃ m n : Nat, G.exponent = .ok (m : Int) ∧ H.exponent = .ok (n : Int) ∧
    P.exponent = .ok (m.lcm n : Int) := by
  refine ⟨_, _, hG.exponent_eq, hH.exponent_eq, hP.exponent_eq.trans ?_⟩
  rw [Monoid.exponent_prod, lcm_eq_nat_lcm]

theorem isAbelian_product : ∃ b c, G.isAbelian = .ok b ∧ H.isAbelian = .ok c ∧
    P.isAbelian = .ok (b && c) := by
  obtain ⟨b, hb, hbM⟩ := hG.isAbelian_spec
  obtain ⟨c, hc, hcN⟩ := hH.isAbelian_spec
  obtain ⟨d, hd, hdMN⟩ := hP.isAbelian_spec
  refine ⟨b, c, hb, hc, hd.trans (congrArg Except.ok (Bool.eq_iff_iff.2 ?_))⟩
  rw [Bool.and_eq_true, hbM, hcN, hdMN]
  constructor
  · exact fun h => ⟨fun x y => congrArg Prod.fst (h (x, 1) (y, 1)),
      fun x y => congrArg Prod.snd (h (1, x) (1, y))⟩
  · exact fun h z w => Prod.ext (h.1 z.1 w.1) (h.2 z.2 w.2)

/-- The product is cyclic exactly if both groups are and have orders without a common divisor. -/
theorem isCyclic_product : ∃ b c, G.isCyclic = .ok b ∧ H.isCyclic = .ok c ∧
    P.isCyclic = .ok (b && c && G.order.gcd H.order == 1) := by
  obtain ⟨b, hb, hbM⟩ := hG.isCyclic_spec
  obtain ⟨c, hc, hcN⟩ := hH.isCyclic_spec
  obtain ⟨d, hd, hdMN⟩ := hP.isCyclic_spec
  refine ⟨b, c, hb, hc, hd.trans (congrArg Except.ok (Bool.eq_iff_iff.2 ?_))⟩
  rw [Bool.and_eq_true, Bool.and_eq_true, beq_iff_eq, hbM, hcN, hdMN, Group.isCyclic_prod_iff,
    hG.order_eq, hH.order_eq, and_assoc]

end

/-! ## Products of valid groups -/

namespace ValidGroup

variable {G H : ValidGroup}

/-- What is asked of a factor of a direct product. -/
structure IsFactor (G : ValidGroup) : Prop where
  /-- A part of a pair is inverted even if it is not written as an element is. -/
  inverts : G.Inverts
  compares : ComparesEntries G.Stands
  gensGenerate : GensGenerate G.Stands G.toFiniteGroup

/-- What there is to say about the direct product `P` of `G` and `H`. -/
structure IsDirectProduct (G H : ValidGroup) (P : FiniteGroup) : Prop where
  /-- The check of the axioms finds nothing, however long its list may get. -/
  verify_eq : ∀ ⦃most m⦄, most.index = .ok m → P.verify most = .ok ⟨[]⟩
  order_eq : P.order = G.order * H.order
  /-- Each element of the product is equal to a pair of elements. -/
  exists_pair : ∀ p ∈ P.els, ∃ g ∈ G.els, ∃ h ∈ H.els, p.equal (.tuple [g, h]) = .ok true
  /-- Each pair of elements is an element of the product. -/
  contains_pair : ∀ g ∈ G.els, ∀ h ∈ H.els, P.contains (.tuple [g, h]) = .ok true
  /-- The order of a pair is the least common multiple of the orders of its parts, however these
  are written. -/
  elementOrder_pair : ∀ ⦃a x b y⦄, G.Stands a x → H.Stands b y → ∃ m n,
    G.elementOrder a = .ok m ∧ H.elementOrder b = .ok n ∧
      P.elementOrder (.tuple [a, b]) = .ok (m.lcm n)
  exponent_eq : ∃ m n : Nat, G.exponent = .ok (m : Int) ∧ H.exponent = .ok (n : Int) ∧
    P.exponent = .ok (m.lcm n : Int)
  isAbelian_eq : ∃ b c, G.isAbelian = .ok b ∧ H.isAbelian = .ok c ∧ P.isAbelian = .ok (b && c)
  isCyclic_eq : ∃ b c, G.isCyclic = .ok b ∧ H.isCyclic = .ok c ∧
    P.isCyclic = .ok (b && c && G.order.gcd H.order == 1)

theorem isDirectProduct {P : FiniteGroup} (hP : P.Realizes (StandsForPair G.Stands H.Stands)) :
    G.IsDirectProduct H P where
  verify_eq _ _ := hP.verify_eq
  order_eq := hP.order_eq.trans (card_pairs G.realizes H.realizes)
  exists_pair p hp := by
    obtain ⟨⟨x, y⟩, hxy⟩ := hP.standing p hp
    exact ⟨x.1, x.2, y.1, y.2, hP.equal_eq_true hxy (.intro (stands_self x) (stands_self y))⟩
  contains_pair g hg h hh :=
    hP.contains_eq (.intro (stands_self ⟨g, hg⟩) (stands_self ⟨h, hh⟩))
  elementOrder_pair _ _ _ _ ha hb := FiniteGroups.elementOrder_pair G.realizes H.realizes hP ha hb
  exponent_eq := exponent_product G.realizes H.realizes hP
  isAbelian_eq := isAbelian_product G.realizes H.realizes hP
  isCyclic_eq := isCyclic_product G.realizes H.realizes hP

/-- The direct product of two valid groups is built. -/
theorem exists_directProduct (hG : G.IsFactor) (hH : H.IsFactor) :
    ∃ P, Family.group .directProduct [G.value, H.value] = .ok P ∧ G.IsDirectProduct H P := by
  obtain ⟨P, hP, hrealizes⟩ := exists_realizes_pairs G.realizes H.realizes hG.compares hH.compares
    hG.inverts hH.inverts hG.gensGenerate hH.gensGenerate
  exact ⟨P, hP, isDirectProduct hrealizes⟩

section

variable {n : Nat} {hn : 0 < n} {hbound : n ≤ 2 ^ 63}

theorem isFactor_residues : (validResidues hn hbound).IsFactor where
  inverts := inverts_residues
  compares := by
    rintro _ _ _ _ ⟨⟨_, hx⟩, -⟩ ⟨⟨_, hy⟩, -⟩
    exact compares_residue hx hy
  gensGenerate := .inl rfl

end

theorem exists_directProduct_residues :
    (validResidues (n := 2) (by decide) (by decide)).IsFactor ∧
    (validResidues (n := 3) (by decide) (by decide)).IsFactor ∧
    ∃ P, Family.group .directProduct [(validResidues (n := 2) (by decide) (by decide)).value,
        (validResidues (n := 3) (by decide) (by decide)).value] = .ok P ∧
      (validResidues (n := 2) (by decide) (by decide)).IsDirectProduct
        (validResidues (n := 3) (by decide) (by decide)) P :=
  ⟨isFactor_residues, isFactor_residues, exists_directProduct isFactor_residues isFactor_residues⟩

end ValidGroup

/-! ## A product whose elements are not inverted -/

/-- The residues modulo `2`. -/
abbrev TwoResidues : Type := Multiplicative (ZMod 2)

/-- The family of a product of residues modulo `2`, where the first modulus is a floating-point
number. -/
abbrev mixedFamily (c : Int) : Family := productFamily (machineResidues 2 c) (residues 2)

/-- The pair is that of a residue with an identity, or its first part is a floating-point number. -/
def UnitOrReal (p : Value) (z : TwoResidues × TwoResidues) : Prop :=
  StandsForPair (WritesResidue 2) (Residue 2) p z ∧
    ((z.1 = 1 ∨ z.2 = 1) ∨ ∃ r b, p = .tuple [.real r, b])

section

variable {c : Int} (hc : ((2 : Nat) : Int) ∣ c + 1)
include hc

/-- The first part of a product is a floating-point number, since the modulus is one. -/
theorem multiplies_unitOrReal : Multiplies UnitOrReal (mixedFamily c).op.meaning.call₂ := by
  have hG := realizes_machineResidues (n := 2) (by decide) (by decide) hc
  have hH := realizes_residues (n := 2) (by decide)
  refine (multiplies_pair hG hH).of_products ?_ ?_
  · rintro _ _ q _ _ ⟨ha, hb⟩ ⟨ha', hb'⟩ hq
    obtain ⟨d, hd, -, hreal⟩ := add_writesResidue (by decide) (by decide) .real ha ha'
    obtain ⟨r, rfl⟩ := hreal rfl
    obtain ⟨e, he, -⟩ := hH.mul_eq hb hb'
    have hd : (machineResidues 2 c).mul _ _ = .ok _ := hd
    rw [mul_pair hG.intact hH.intact, hd, he] at hq
    exact .inr ⟨r, e, (Except.ok.inj hq).symm⟩
  · rintro _ k _ ⟨ha, hb⟩ hform hk
    refine hform.imp_right ?_
    rintro ⟨r, b, h⟩
    obtain ⟨rfl, rfl⟩ : _ = Value.real r ∧ _ = b := by simpa using h
    obtain ⟨l, hl, -⟩ := hH.keyed_eq hb
    exact ⟨r, l, Except.ok.inj (hk.symm.trans (keyed_pair rfl hl))⟩

/-- The generators are pairs of elements with an identity, and so are their inverses. -/
theorem invertible_unitPairs : ∀ p ∈ unitPairs (machineResidues 2 c) (residues 2)
      (machineResidues 2 c).els (residues 2).els, ∃ z q, UnitOrReal p z ∧
    (Value.method 0 (mixedFamily c).value "inverse").meaning.call [p] = .ok q ∧
    UnitOrReal q z⁻¹ := by
  have hG := realizes_machineResidues (n := 2) (by decide) (by decide) hc
  have hH := realizes_residues (n := 2) (by decide)
  intro p hp
  obtain hp | hp := List.mem_append.1 hp <;> obtain ⟨a, ha, rfl⟩ := List.mem_map.1 hp
  · obtain ⟨x, hx⟩ := hG.standing a ha
    obtain ⟨q, hq, hstands⟩ := inverse_pair_spec hG hH hx hH.one (hG.invertible_of_mem ha)
      (hH.invertible_of_mem hH.identity_mem)
    exact ⟨_, q, ⟨.intro hx hH.one, .inl (.inr rfl)⟩, hq, hstands, .inl (.inr inv_one)⟩
  · obtain ⟨y, hy⟩ := hH.standing a ha
    obtain ⟨q, hq, hstands⟩ := inverse_pair_spec hG hH hG.one hy
      (hG.invertible_of_mem hG.identity_mem) (hH.invertible_of_mem ha)
    exact ⟨_, q, ⟨.intro hG.one hy, .inl (.inl rfl)⟩, hq, hstands, .inl (.inl inv_one)⟩

/-- The generators and their inverses are found, and generate all pairs. -/
theorem seeds_unitPairs : ∃ seed,
    seeds (unitPairs (machineResidues 2 c) (residues 2) (machineResidues 2 c).els (residues 2).els)
      (some fun p => (Value.method 0 (mixedFamily c).value "inverse").meaning.call [p]) = .ok seed ∧
    Standing UnitOrReal seed ∧ Subgroup.closure (extent UnitOrReal seed) = ⊤ := by
  have hG := realizes_machineResidues (n := 2) (by decide) (by decide) hc
  have hH := realizes_residues (n := 2) (by decide)
  have hinvert := invertible_unitPairs hc
  obtain ⟨seed, hseed, -, hstand, hclosure⟩ :=
    (multiplies_unitOrReal hc).faithful.exists_seeds hinvert
  refine ⟨seed, hseed, hstand, ?_⟩
  rw [hclosure, ← top_le_iff, ← closure_pairs (closure_els hG) (closure_els hH),
    ← (unitPairs_spec hG hH hG.standing hH.standing).2]
  refine Subgroup.closure_mono ?_
  rintro z ⟨p, hp, hz⟩
  obtain ⟨w, -, hw, -⟩ := hinvert p hp
  obtain rfl := (faithful_pair hG.faithful hH.faithful).unique hz hw.1
  exact ⟨p, hp, hw⟩

/-- The product has an element whose first part is a floating-point number. -/
theorem exists_real_mem_product : ∃ els gens name,
    Family.group .directProduct [(machineResidues 2 c).value, (residues 2).value] =
      .ok (ofRoster els (mixedFamily c).op (identityPair (machineResidues 2 c) (residues 2))
        (.method 0 (mixedFamily c).value "inverse") gens name) ∧
    ∃ r b, .tuple [.real r, b] ∈
      (els.promote (identityPair (machineResidues 2 c) (residues 2))).toList := by
  have hG := realizes_machineResidues (n := 2) (by decide) (by decide) hc
  have hH := realizes_residues (n := 2) (by decide)
  have hmul := multiplies_unitOrReal hc
  have hequal : ∀ ⦃p q z w⦄, UnitOrReal p z → UnitOrReal q w → p.equal q = .ok (p == q) :=
    fun p q z w hp hq => equal_pair compares_writesResidue compares_residue hp.1 hq.1
  have hone : UnitOrReal (identityPair (machineResidues 2 c) (residues 2)) 1 :=
    ⟨identityPair_stands hG hH, .inl (.inl rfl)⟩
  obtain ⟨seed, hseed, hstand, hall⟩ := seeds_unitPairs hc
  obtain ⟨s, hs⟩ := exists_name_product hG.intact hH.intact
  obtain ⟨els, hels, hstand', hextent, -⟩ := exists_generate hmul hequal hone
    (by simp [identityPair]) (by simp) hseed hstand hall (.text s)
  refine ⟨els, _, _, group_product (gens_productFamily rfl rfl) hs hels ?_, ?_⟩
  · rw [order_ofRoster hmul hone hstand' hextent, card_pairs hG hH]
  · have heverything := (hmul.faithful.extent_promote hstand' hone).2.trans hextent
    -- the pair of two residues that are no identities
    obtain ⟨p, hp, -, hunit | ⟨r, b, rfl⟩⟩ := heverything.superset
      (Set.mem_univ ((Multiplicative.ofAdd 1, Multiplicative.ofAdd 1) : TwoResidues × TwoResidues))
    · exact absurd hunit (by decide)
    · exact ⟨r, b, hp⟩

end

/-- A direct product of valid groups in which the check of the axioms does not find nothing: it
stops at an element that is not inverted. -/
theorem exists_directProduct_not_verified :
    (validMachineResidues (n := 2) (by decide) (by decide)).gens = .none ∧
    (validResidues (n := 2) (by decide) (by decide)).gens = .none ∧
    ∃ P, Family.group .directProduct
        [(validMachineResidues (n := 2) (by decide) (by decide)).value,
          (validResidues (n := 2) (by decide) (by decide)).value] = .ok P ∧
      ¬ P.Verified := by
  have hc := dvd_largeFactor 2
  have hG := realizes_machineResidues (n := 2) (by decide) (by decide) hc
  have hH := realizes_residues (n := 2) (by decide)
  obtain ⟨els, gens, name, hP, r, b, hmem⟩ := exists_real_mem_product hc
  refine ⟨rfl, rfl, _, hP, fun hverified => ?_⟩
  obtain ⟨d, hd, -⟩ := hverified.exists_inverse hmem
  have hd : (Value.method 0 (mixedFamily (largeFactor 2)).value "inverse").meaning.call
    [.tuple [.real r, b]] = .ok d := hd
  rw [inverse_pair hG.intact hH.intact, inverse_real (ofInt_largeFactor (by decide))] at hd
  cases hd

end FiniteGroups
