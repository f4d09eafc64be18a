import FiniteGroups.Proofs.Correspondence
import FiniteGroups.Proofs.Generated
import FiniteGroups.Proofs.Normality
import FiniteGroups.Proofs.Within

/-!
# Cosets as a partition

The cosets of a subgroup on either side are listed once each, as sets of elements. They are a
partition of the group into sets of the size of the subgroup, so that this size divides that of
the group. The right cosets are the inverses of the left ones (`range_product_right`).

`ValidGroup.exists_cosetPartitions` says it for valid groups. What is asked for an inverse must be
inverted as it is written, which is no matter for the elements as they are listed : a
representative for which cosets are compared, the elements of a subgroup that is checked, and the
members of cosets, which are products. In `exists_coset_error` none of the three is inverted.
-/

set_option linter.unusedSectionVars false

namespace FiniteGroups

open FiniteGroup
open scoped Pointwise

variable {M : Type} [Group M] {R : Value → M → Prop} {N : Subgroup M}

/-! ## Cosets of a subgroup -/

/-- The inverses of a left coset are a right coset. -/
theorem inv_image_product (x : M) :
    (Side.left.product x '' (N : Set M))⁻¹ = Side.right.product x⁻¹ '' (N : Set M) := by
  rw [← Set.image_inv_eq_inv, Set.image_image]
  have hinv : ∀ y, (Side.left.product x y)⁻¹ = Side.right.product x⁻¹ y⁻¹ := fun y =>
    mul_inv_rev x y
  simp only [hinv]
  rw [← Set.image_image (Side.right.product x⁻¹) Inv.inv, Set.image_inv_eq_inv, inv_coe_set]

theorem image_product_right (x : M) :
    Side.right.product x '' (N : Set M) = (Side.left.product x⁻¹ '' (N : Set M))⁻¹ := by
  rw [inv_image_product, inv_inv]

/-- Two left cosets are the same if the quotient of their representatives is in the subgroup. -/
theorem image_product_left_eq_iff {x y : M} :
    Side.left.product x '' (N : Set M) = Side.left.product y '' (N : Set M) ↔ x⁻¹ * y ∈ N := by
  rw [image_product_left, image_product_left, ← QuotientGroup.eq]
  constructor
  · exact fun h => h.subset rfl
  · intro h
    rw [h]

/-- An element is in a coset if this is the coset of the element. -/
theorem mem_image_product_iff (side : Side) {x y : M} :
    y ∈ side.product x '' (N : Set M) ↔
      side.product x '' (N : Set M) = side.product y '' (N : Set M) := by
  have hleft : ∀ {x y : M}, y ∈ Side.left.product x '' (N : Set M) ↔
      Side.left.product x '' (N : Set M) = Side.left.product y '' (N : Set M) := fun {x y} => by
    rw [image_product_left_eq_iff, image_product_left, Set.mem_ofPred_eq, eq_comm, QuotientGroup.eq]
  cases side with
  | left => exact hleft
  | right => rw [image_product_right, image_product_right, Set.mem_inv, inv_inj, hleft]

/-- A coset has as many elements as the subgroup. -/
theorem ncard_image_product (side : Side) (x : M) :
    (side.product x '' (N : Set M)).ncard = (N : Set M).ncard := by
  refine Set.ncard_image_of_injective _ ?_
  cases side with
  | left => exact mul_right_injective x
  | right => exact mul_left_injective x

/-- The right cosets are the inverses of the left cosets. -/
theorem range_product_right :
    (Set.range fun x => Side.right.product x '' (N : Set M)) =
      Inv.inv '' Set.range fun x => Side.left.product x '' (N : Set M) := by
  ext S
  simp only [Set.mem_range, Set.mem_image, exists_exists_eq_and, image_product_right]
  constructor
  · rintro ⟨x, rfl⟩
    exact ⟨x⁻¹, rfl⟩
  · rintro ⟨x, rfl⟩
    exact ⟨x⁻¹, by rw [inv_inv]⟩

/-- There are as many cosets on either side as the index says. -/
theorem ncard_range_product (side : Side) :
    (Set.range fun x => side.product x '' (N : Set M)).ncard = N.index := by
  have hleft : (Set.range fun x => Side.left.product x '' (N : Set M)).ncard = N.index := by
    have hrange : (Set.range fun x => Side.left.product x '' (N : Set M)) =
        Set.range fun q : M ⧸ N => {z : M | (z : M ⧸ N) = q} := by
      simp only [image_product_left]
      exact QuotientGroup.mk_surjective.range_comp fun q : M ⧸ N => {z : M | (z : M ⧸ N) = q}
    have hinjective : Function.Injective fun q : M ⧸ N => {z : M | (z : M ⧸ N) = q} := by
      intro p q h
      obtain ⟨x, rfl⟩ := QuotientGroup.mk_surjective p
      exact h.subset rfl
    rw [hrange, ← Set.image_univ, Set.ncard_image_of_injective _ hinjective, Set.ncard_univ,
      Subgroup.index]
  cases side with
  | left => exact hleft
  | right => rw [range_product_right, Set.ncard_image_of_injective _ inv_injective, hleft]

/-! ## Cosets as values -/

theorem cosetMembers_eq {members : List Value} {state : Coset.State}
    (h : ∀ e, state ≠ .faulty e) : Value.cosetMembers members state = .ok members := by
  cases state with
  | faulty e => exact absurd rfl (h e)
  | loose => rfl
  | settled => rfl

namespace FiniteGroup.Realizes

variable {G H : FiniteGroup} (hG : G.Realizes R)
include hG

/-- The coset through an element holds what it should. -/
theorem gathers_coset (side : Side) {S : Set M} (hH : Consists R H S) {a : Value} {x : M}
    (ha : R a x) : ∃ c, G.candidate.coset side H.candidate a = .ok c ∧
      Gathers R c (side.product x '' S) := by
  obtain ⟨members, hmembers, hstand, hextent⟩ := hG.cosetProducts_spec side hH ha
  exact ⟨_, hG.cosetOf_eq ha hmembers, .intro loose_ne_faulty hstand hextent⟩

/-- A coset that is listed is kept with an element, and with each of its members once. -/
theorem exists_roster_of_mem_cosets {side : Side} {S : Set M} (hH : Consists R H S)
    {cosets : List Value} (h : G.candidate.cosets side H.candidate = .ok cosets) {c : Value}
    (hc : c ∈ cosets) : ∃ (g : Value) (x : M) (members : Roster Value), R g x ∧
      c = .coset side 0 G.value H.value g members.toList .settled ∧
      cosetProducts side G.value.meaning H.value g = .ok members ∧
      Standing R members.toList ∧ extent R members.toList = side.product x '' S := by
  obtain ⟨els, hels, h⟩ := bind_eq_ok.1 h
  obtain rfl := Except.ok.inj hels
  obtain ⟨found, hfound, h⟩ := bind_eq_ok.1 h
  obtain rfl := Except.ok.inj h
  obtain ⟨g, hg, hgc⟩ := exists_of_mem_mapM hfound (Roster.mem_of_mem_ofList hc)
  obtain ⟨x, hx⟩ := hG.standing g hg
  obtain ⟨members, hmembers, hstand, hextent⟩ := hG.cosetProducts_spec side hH hx
  obtain ⟨d, hd, hdc⟩ := bind_eq_ok.1 hgc
  obtain rfl := Except.ok.inj ((hG.cosetOf_eq hx hmembers).symm.trans hd)
  rw [keyed_coset loose_ne_faulty] at hdc
  exact ⟨g, x, members, hx, (Except.ok.inj hdc).symm, hmembers, hstand, hextent⟩

/-- Whether something is in a coset is found out. -/
theorem contains_coset {c : Value} {S : Set M} (hc : Gathers R c S) {a : Value} {x : M}
    (ha : R a x) : ∃ answer, c.contains a = .ok answer ∧ (answer = true ↔ x ∈ S) := by
  obtain ⟨k, hk, hkx⟩ := hG.sought_eq ha
  obtain ⟨hstate, hmembers, rfl⟩ := hc
  refine ⟨_, by rw [Value.contains, cosetMembers_eq hstate, ok_bind, Value.memberOf, hk]; rfl, ?_⟩
  rw [List.contains_iff_exists_mem_beq]
  constructor
  · rintro ⟨b, hb, hkb⟩
    obtain ⟨y, hy⟩ := hmembers b hb
    exact ⟨b, hb, (hG.faithful hkx hy).1 hkb ▸ hy⟩
  · rintro ⟨b, hb, hbx⟩
    exact ⟨b, hb, (hG.faithful hkx hbx).2 rfl⟩

/-- The members of a listed coset are given, each of them once. -/
theorem elementSet_coset {side : Side} {S : Set M} (hH : Consists R H S)
    {cosets : List Value} (h : G.candidate.cosets side H.candidate = .ok cosets) {c : Value}
    (hc : c ∈ cosets) : ∃ (x : M) (members : Roster Value), c.elementSet = .ok members.toList ∧
      Standing R members.toList ∧ extent R members.toList = side.product x '' S ∧
      Gathers R c (side.product x '' S) := by
  obtain ⟨g, x, members, -, rfl, -, hstand, hextent⟩ := hG.exists_roster_of_mem_cosets hH h hc
  exact ⟨x, members, rfl, hstand, hextent, .intro settled_ne_faulty hstand hextent⟩

end FiniteGroup.Realizes

/-! ## Valid groups -/

namespace ValidGroup

variable (G : ValidGroup)

/-- The cosets are a partition of the group into sets of the size of `H`. -/
structure IsPartition (H : FiniteGroup) (cosets : List Value) : Prop where
  /-- A coset has different elements of the group, as many as `H`. -/
  elementSet : ∀ c ∈ cosets, ∃ members, c.elementSet = .ok members ∧
    (∀ a ∈ members, G.contains a = .ok true) ∧
    (members.Pairwise fun a b => (a == b) = false) ∧ members.length = H.order
  /-- Every value that is equal to an element is in one coset, and found not to be in others. -/
  contains : ∀ ⦃a x⦄, G.Stands a x → (∀ c ∈ cosets, ∃ answer, c.contains a = .ok answer) ∧
    ∃! i : Fin cosets.length, cosets[i].contains a = .ok true
  length_eq : cosets.length = G.order / H.order

/-- The inverses of the members of `c` are the members of `d`. -/
def AreInverse (c d : Value) : Prop :=
  ∃ members inverses others, c.elementSet = .ok members ∧
    members.mapM G.inverse = .ok inverses ∧ d.elementSet = .ok others ∧
    Value.sameSet inverses others = true

/-- What there is to say about the left and the right cosets of `H`. -/
structure ArePartitions (H : FiniteGroup) (left right : List Value) : Prop where
  isPartition_left : G.IsPartition H left
  isPartition_right : G.IsPartition H right
  order_dvd : H.order ∣ G.order
  /-- The elements pass as a subgroup, and the index is the number of cosets. -/
  index : (∀ a ∈ H.els, ∀ k, a.keyed = .ok k → G.Invertible G.Stands k) →
    ∃ K, G.checkedSubgroup H.els .none = .ok K ∧ K.indexIn G.order = .ok left.length
  /-- Whether cosets are equal is told by the quotient of their representatives. The first one is
  an element as it is listed, or another value that is inverted. -/
  equal_iff : ∀ ⦃a b y⦄, a ∈ G.els ∨ G.Invertible G.Stands a → G.Stands b y →
    ∃ c d i m answer, G.candidate.coset .left H.candidate a = .ok c ∧
      G.candidate.coset .left H.candidate b = .ok d ∧ G.inverse a = .ok i ∧ G.mul i b = .ok m ∧
      c.equal d = .ok answer ∧ H.contains m = .ok answer
  /-- The inverses of each left coset are one right coset, and conversely. -/
  inverse : (∀ c ∈ left, ∀ members, c.elementSet = .ok members →
      ∀ a ∈ members, G.Invertible G.Stands a) →
    (∀ i : Fin left.length, ∃! j : Fin right.length, G.AreInverse left[i] right[j]) ∧
      ∀ j : Fin right.length, ∃! i : Fin left.length, G.AreInverse left[i] right[j]

variable {G} {H : FiniteGroup} {N : Subgroup G.Element} (hH : Consists G.Stands H N)
include hH

section

variable {side : Side} {cosets : List Value}
  (h : G.candidate.cosets side H.candidate = .ok cosets)
  (hstand : Standing (Gathers G.Stands) cosets)
  (hextent : extent (Gathers G.Stands) cosets =
    Set.range fun x => side.product x '' (N : Set G.Element))
include h hstand hextent

/-- The coset that an element is in is that of the element. -/
theorem contains_iff_gathers {a : Value} {x : G.Element} (ha : G.Stands a x) {c : Value}
    (hc : c ∈ cosets) :
    c.contains a = .ok true ↔ Gathers G.Stands c (side.product x '' (N : Set G.Element)) := by
  obtain ⟨S, hS⟩ := hstand c hc
  obtain ⟨y, rfl⟩ := hextent.subset ⟨c, hc, hS⟩
  obtain ⟨answer, hanswer, hiff⟩ := G.realizes.contains_coset hS ha
  rw [hanswer, Except.ok.injEq, hiff, mem_image_product_iff]
  constructor
  · intro heq
    rwa [← heq]
  · exact fun hx => (faithful_gathers faithful hS hx).1 BEq.rfl

theorem isPartition_cosets : G.IsPartition H cosets := by
  have hG := G.realizes
  have hpairwise := Candidate.pairwise_cosets h
  refine ⟨fun c hc => ?_, fun a x ha => ⟨fun c hc => ?_, ?_⟩, ?_⟩
  · obtain ⟨x, members, hmembers, hmstand, hmextent, -⟩ := hG.elementSet_coset hH h hc
    refine ⟨members.toList, hmembers, fun a ha => ?_, members.pairwise_toList, ?_⟩
    · obtain ⟨y, hy⟩ := hmstand a ha
      exact hG.contains_eq hy
    · rw [← faithful.ncard_extent_of_pairwise hmstand members.pairwise_toList, hmextent,
        ncard_image_product, hH.order_eq faithful]
  · obtain ⟨S, hS⟩ := hstand c hc
    obtain ⟨answer, hanswer, -⟩ := hG.contains_coset hS ha
    exact ⟨answer, hanswer⟩
  · have hiff := fun i : Fin cosets.length =>
      contains_iff_gathers hH h hstand hextent ha (List.getElem_mem i.2)
    exact (existsUnique_congr hiff).2
      ((faithful_gathers faithful).existsUnique_of_pairwise hpairwise (hextent.superset ⟨x, rfl⟩))
  · rw [← (faithful_gathers faithful).ncard_extent_of_pairwise hstand hpairwise, hextent,
      ncard_range_product, hG.index_eq hH]

end

/-- The elements of a subgroup that are inverted pass as a subgroup, of which the index is found. -/
theorem exists_index (hinv : ∀ a ∈ H.els, ∀ k, a.keyed = .ok k → G.Invertible G.Stands k) :
    ∃ K, G.checkedSubgroup H.els .none = .ok K ∧ K.indexIn G.order = .ok (G.order / H.order) := by
  have hG := G.realizes
  obtain ⟨r, hr, hstand, hextent⟩ := hG.subgroup_spec hH.standing_els .none .none
  have hK := hG.consists_subgroupOf hstand .none .none
  rw [hextent, hH.extent_els] at hK
  have hcheck := hG.checkSubgroup_of_invertible hH.standing_els hH.extent_els hinv
  refine ⟨_, ?_, by rw [hG.indexIn_eq hK, hG.index_eq hH]⟩
  rw [checkedSubgroup, hcheck, ok_bind, hr]

/-- Whether two left cosets are equal is told by the quotient of their representatives. -/
theorem exists_equal_cosets {a b : Value} {y : G.Element}
    (ha : a ∈ G.els ∨ G.Invertible G.Stands a) (hb : G.Stands b y) :
    ∃ c d i m answer, G.candidate.coset .left H.candidate a = .ok c ∧
      G.candidate.coset .left H.candidate b = .ok d ∧ G.inverse a = .ok i ∧ G.mul i b = .ok m ∧
      c.equal d = .ok answer ∧ H.contains m = .ok answer := by
  have hG := G.realizes
  obtain ⟨x, i, hx, hi, hix⟩ := ha.elim hG.invertible_of_mem id
  obtain ⟨c, hc, hgather⟩ := hG.gathers_coset .left hH hx
  obtain ⟨d, hd, hgather'⟩ := hG.gathers_coset .left hH hb
  obtain ⟨m, hm, hmxy⟩ := hG.mul_eq hix hb
  obtain ⟨answer, hanswer, hiff⟩ := hG.contains_spec hH hmxy
  refine ⟨c, d, i, m, answer, hc, hd, hi, hm, ?_, hanswer⟩
  rw [Value.equal_of_isSimple hgather.isSimple hgather'.isSimple, Except.ok.injEq, Bool.eq_iff_iff,
    faithful_gathers faithful hgather hgather', image_product_left_eq_iff, hiff, SetLike.mem_coe]

section

variable {left right : List Value} (hleft : G.candidate.leftCosets H.candidate = .ok left)
  (hright : G.candidate.rightCosets H.candidate = .ok right)
include hleft hright

/-- The inverses of a left coset are the right coset of the inverse. -/
theorem areInverse_iff (hinv : ∀ c ∈ left, ∀ members, c.elementSet = .ok members →
      ∀ a ∈ members, G.Invertible G.Stands a) {c d : Value} (hc : c ∈ left) (hd : d ∈ right)
    {S T : Set G.Element} (hS : Gathers G.Stands c S) (hT : Gathers G.Stands d T) :
    G.AreInverse c d ↔ T = S⁻¹ := by
  have hG := G.realizes
  obtain ⟨x, members, hmembers, hmstand, hmextent, hcx⟩ := hG.elementSet_coset hH hleft hc
  obtain ⟨y, others, hothers, hostand, hoextent, hdy⟩ := hG.elementSet_coset hH hright hd
  obtain rfl := (faithful_gathers faithful hS hcx).1 BEq.rfl
  obtain rfl := (faithful_gathers faithful hT hdy).1 BEq.rfl
  obtain ⟨inverses, hinverses, hstand, hextent⟩ :=
    faithful.exists_inverses (hinv c hc members.toList hmembers)
  have hsame : Value.sameSet inverses others.toList = true ↔
      Side.right.product y '' (N : Set G.Element) =
        (Side.left.product x '' (N : Set G.Element))⁻¹ := by
    rw [faithful.sameSet_values_iff hstand hostand, hextent, hmextent, hoextent,
      Set.image_inv_eq_inv, eq_comm]
  rw [← hsame]
  constructor
  · rintro ⟨members', inverses', others', hmembers', hinverses', hothers', h⟩
    obtain rfl := Except.ok.inj (hmembers.symm.trans hmembers')
    obtain rfl := Except.ok.inj (hinverses.symm.trans hinverses')
    obtain rfl := Except.ok.inj (hothers.symm.trans hothers')
    exact h
  · exact fun h => ⟨_, inverses, _, hmembers, hinverses, hothers, h⟩

/-- Inversion sends the left cosets to the right cosets, each to one and from one. -/
theorem existsUnique_inverse (hinv : ∀ c ∈ left, ∀ members, c.elementSet = .ok members →
      ∀ a ∈ members, G.Invertible G.Stands a)
    (hlstand : Standing (Gathers G.Stands) left)
    (hlextent : extent (Gathers G.Stands) left =
      Set.range fun x => Side.left.product x '' (N : Set G.Element))
    (hrstand : Standing (Gathers G.Stands) right)
    (hrextent : extent (Gathers G.Stands) right =
      Set.range fun x => Side.right.product x '' (N : Set G.Element)) :
    (∀ i : Fin left.length, ∃! j : Fin right.length, G.AreInverse left[i] right[j]) ∧
      ∀ j : Fin right.length, ∃! i : Fin left.length, G.AreInverse left[i] right[j] := by
  have hfaithful := faithful_gathers (faithful (G := G))
  have hiff : ∀ (i : Fin left.length) (j : Fin right.length) {S T : Set G.Element},
      Gathers G.Stands left[i] S → Gathers G.Stands right[j] T →
      (G.AreInverse left[i] right[j] ↔ T = S⁻¹) := fun i j S T hS hT =>
    areInverse_iff hH hleft hright hinv (List.getElem_mem i.2) (List.getElem_mem j.2) hS hT
  rw [range_product_right, ← hlextent] at hrextent
  constructor
  · intro i
    obtain ⟨S, hS⟩ := hlstand left[i] (List.getElem_mem i.2)
    have hmem : S⁻¹ ∈ extent (Gathers G.Stands) right :=
      hrextent.superset ⟨S, ⟨left[i], List.getElem_mem i.2, hS⟩, rfl⟩
    exact hfaithful.existsUnique_of_iff hrstand (Candidate.pairwise_cosets hright) hmem
      fun j T hT => hiff i j hS hT
  · intro j
    obtain ⟨T, hT⟩ := hrstand right[j] (List.getElem_mem j.2)
    obtain ⟨S, hS, rfl⟩ := hrextent.subset ⟨right[j], List.getElem_mem j.2, hT⟩
    refine hfaithful.existsUnique_of_iff hlstand (Candidate.pairwise_cosets hleft) hS
      fun i S' hS' => ?_
    rw [hiff i j hS' hT, inv_inj, eq_comm]

end

/-- The cosets of a subgroup of a valid group on either side are a partition of the group, and
inversion sends the left ones to the right ones. -/
theorem exists_cosetPartitions : ∃ left right,
    G.candidate.leftCosets H.candidate = .ok left ∧
      G.candidate.rightCosets H.candidate = .ok right ∧ G.ArePartitions H left right := by
  have hG := G.realizes
  obtain ⟨left, hleft, hlstand, hlextent⟩ := hG.cosets_spec .left hH
  obtain ⟨right, hright, hrstand, hrextent⟩ := hG.cosets_spec .right hH
  have hpartition := isPartition_cosets hH hleft hlstand hlextent
  refine ⟨left, right, hleft, hright, hpartition,
    isPartition_cosets hH hright hrstand hrextent, (hG.order_dvd hH).2, fun hinv => ?_,
    fun a b y => exists_equal_cosets hH, fun hinv =>
      existsUnique_inverse hH hleft hright hinv hlstand hlextent hrstand hrextent⟩
  rw [hpartition.length_eq]
  exact exists_index hH hinv

omit hH in
/-- The cosets of the multiples of three among the residues modulo six. -/
theorem exists_cosetPartitions_threes :
    let G := validResidues (n := 6) (by decide) (by decide)
    G.Inverts ∧ ∃ N : Subgroup G.Element, Consists G.Stands threes N ∧ ∃ left right,
      G.candidate.leftCosets threes.candidate = .ok left ∧
      G.candidate.rightCosets threes.candidate = .ok right ∧ G.ArePartitions threes left right := by
  obtain ⟨N, -, hconsists⟩ := exists_consists_threes
  exact ⟨inverts_residues, N, hconsists, exists_cosetPartitions hconsists⟩

end ValidGroup

/-! ## Values that are not inverted -/

theorem exists_of_mem_cosetProducts {G H : FiniteGroup} (hG : G.Intact) {g : Value}
    {members : Roster Value} (h : cosetProducts .left G.value.meaning H.value g = .ok members)
    {b : Value} (hb : b ∈ members.toList) :
    ∃ a ∈ H.els, (do (← G.mul g a).keyed) = .ok b := by
  rw [cosetProducts, hG.op_eq, ok_bind] at h
  obtain ⟨els, hels, h⟩ := bind_eq_ok.1 h
  obtain rfl := Except.ok.inj hels
  obtain ⟨products, hproducts, h⟩ := bind_eq_ok.1 h
  obtain rfl := Except.ok.inj h
  exact exists_of_mem_mapM hproducts (Roster.mem_of_mem_ofList hb)

section

variable {n : Nat} {c : Int} (hpos : 0 < n) (hn : n < 10) (hc : (n : Int) ∣ c + 1)
  (hlarge : Decimal.Real.ofInt c = .error .overflow) {H : FiniteGroup}
  {N : Subgroup (Multiplicative (ZMod n))} (hH : Consists (WritesResidue n) H N)
include hpos hn hc hlarge hH

omit hpos hc hlarge in
/-- As members of a set the elements stay as they are. -/
theorem mem_items_of_mem {items : Roster Value} (hitems : Value.distinct H.els = .ok items)
    {a : Value} (ha : a ∈ H.els) : a ∈ items.toList := by
  have hkeyed : ∀ b ∈ H.els, b.keyed = .ok b := fun b hb => by
    obtain ⟨_, _, -, hwrites, -⟩ := hH.standing_els b hb
    exact hwrites.keyed_eq
  obtain ⟨b, hb, hba⟩ := Roster.contains_iff.1 (contains_of_distinct hitems ha (hkeyed a ha))
  obtain ⟨d, hd, hdb⟩ := Value.exists_of_mem_distinct hitems hb
  obtain rfl := Except.ok.inj ((hkeyed d hd).symm.trans hdb)
  obtain ⟨x, hx⟩ := hH.standing_els a ha
  obtain ⟨y, hy⟩ := hH.standing_els d hd
  obtain rfl := (faithful_writesResidue hn hy hx).1 hba
  rwa [← hH.eq_of_stands (faithful_writesResidue hn) hd ha hy hx]

/-- A subgroup with a floating-point number among its elements does not pass as one. -/
theorem checkedSubgroup_real (hreal : ∃ z, .real z ∈ H.els) :
    (machineResidues n c).checkedSubgroup H.els .none = .error .overflow := by
  have hG := realizes_machineResidues hpos hn hc
  obtain ⟨items, hitems, hstand, hmem, hcheck⟩ :=
    hG.checkSubgroup_inverses hH.standing_els hH.extent_els
  have hrun : (machineResidues n c).checkSubgroup H.els = .error .overflow := by
    rw [hcheck]
    refine forM_eq_error (fun a ha => ?_) ?_
    · obtain ⟨x, hx⟩ := hstand a ha
      obtain ⟨ha', -⟩ | herror := inverse_cases hpos hc hlarge hx
      · obtain ⟨b, hb, hbx, -⟩ := hG.inverse_eq ha' hx
        exact .inl (hG.check_inverse_eq hstand hmem ha hx hb hbx)
      · rw [requireInverse, herror]
        exact .inr rfl
    · obtain ⟨z, hz⟩ := hreal
      refine ⟨.real z, mem_items_of_mem hn hH hitems hz, ?_⟩
      rw [requireInverse, inverse_real hlarge]
      rfl
  rw [checkedSubgroup, hrun]
  rfl

/-- The members of the left cosets are not inverted. -/
theorem inverse_coset_real {cosets : List Value}
    (h : (machineResidues n c).candidate.leftCosets H.candidate = .ok cosets) {d : Value}
    (hd : d ∈ cosets) : ∃ members, d.elementSet = .ok members ∧
      members.mapM (machineResidues n c).inverse = .error .overflow := by
  have hG := realizes_machineResidues hpos hn hc
  obtain ⟨g, x, members, hg, rfl, hmembers, hstand, hextent⟩ :=
    hG.exists_roster_of_mem_cosets hH h hd
  refine ⟨members.toList, rfl, mapM_inverse_real hpos hc hlarge hstand ?_⟩
  obtain ⟨b, hb, -⟩ := hextent.superset ⟨1, N.one_mem, rfl⟩
  obtain ⟨a, ha, hab⟩ := exists_of_mem_cosetProducts hG.intact hmembers hb
  obtain ⟨y, hy⟩ := hH.standing_els a ha
  obtain ⟨p, hp, ⟨_, -, hwrites, -⟩, hreal⟩ := add_writesResidue hpos hn .real hg hy
  obtain ⟨z, rfl⟩ := hreal rfl
  have hkeyed : (do (← (machineResidues n c).mul g a).keyed) = .ok (.real z) := by
    show (do (← (Value.op .addMod [.real (asReal n)]).meaning.call₂ g a).keyed) = _
    rw [hp, ok_bind, hwrites.keyed_eq]
  obtain rfl := Except.ok.inj (hkeyed.symm.trans hab)
  exact ⟨z, hb⟩

end

/-- A valid group with a subgroup that does not pass as one when it is made of its elements, with
cosets whose members are not inverted, and with a value equal to an element that is not inverted. -/
theorem exists_coset_error :
    let G := validMachineResidues (n := 4) (by decide) (by decide)
    (∃ H, ∃ N : Subgroup G.Element, G.span [.int 1] = .ok H ∧ Consists G.Stands H N ∧
      G.checkedSubgroup H.els .none = .error .overflow) ∧
    (∃ T, ∃ N : Subgroup G.Element, G.trivial = .ok T ∧ Consists G.Stands T N ∧
      ∃ left, G.candidate.leftCosets T.candidate = .ok left ∧ left ≠ [] ∧
        ∀ c ∈ left, ∃ members, c.elementSet = .ok members ∧
          members.mapM G.inverse = .error .overflow) ∧
    ∃ a, G.contains a = .ok true ∧ G.inverse a = .error .overflow := by
  intro G
  have hc := dvd_largeFactor 4
  have hlarge := ofInt_largeFactor (n := 4) (by decide)
  have hG := realizes_machineResidues (n := 4) (by decide) (by decide) hc
  have hreal : WritesResidue 4 (.real (asReal 1)) (Multiplicative.ofAdd 1) :=
    ⟨1, by decide, .real, rfl⟩
  refine ⟨?_, ?_, .real (asReal 1), hG.contains_eq hreal, inverse_real hlarge _⟩
  · have hmem : .int 1 ∈ G.els := (mem_residues (by decide)).2 ⟨1, by decide, rfl⟩
    obtain ⟨H, hH, -, hfloat⟩ := exists_real_of_span hc
    obtain ⟨H', hH', hconsists⟩ := G.realizes.span_spec_all fun g hg =>
      List.mem_singleton.1 hg ▸ G.realizes.invertible_of_mem hmem
    obtain ⟨H'', hH'', hconsists'⟩ := hG.span_spec_all fun g hg =>
      List.mem_singleton.1 hg ▸ hG.invertible_of_mem hmem
    obtain rfl := Except.ok.inj (hH.symm.trans hH')
    obtain rfl := Except.ok.inj (hH.symm.trans hH'')
    exact ⟨H, _, hH, hconsists,
      checkedSubgroup_real (by decide) (by decide) hc hlarge hconsists' hfloat⟩
  · obtain ⟨T, hT, hconsists⟩ := G.realizes.subgroup_identity_spec .none .none
    obtain ⟨T', hT', hconsists'⟩ := hG.subgroup_identity_spec .none .none
    obtain rfl := Except.ok.inj (hT.symm.trans hT')
    obtain ⟨left, hleft, -, hextent⟩ := hG.cosets_spec .left hconsists'
    refine ⟨T, _, hT, hconsists, left, hleft, ?_, fun c hmem =>
      inverse_coset_real (by decide) (by decide) hc hlarge hconsists' hleft hmem⟩
    obtain ⟨c, hmem, -⟩ := hextent.superset ⟨1, rfl⟩
    exact List.ne_nil_of_mem hmem

end FiniteGroups
