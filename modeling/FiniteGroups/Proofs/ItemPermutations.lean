import FiniteGroups.Proofs.Bijectivity
import FiniteGroups.Proofs.Stabilizers

/-!
# The permutations of the items

An action on numbered items is a homomorphism onto a group of permutations of the numbers. The
permutation of an element sends the number of an item to the number of what the element makes of
it. The kernel has the elements that are in all stabilizers, so the map is one-to-one exactly if no
element other than the identity leaves every item where it is.

`ValidAction.exists_permutations` says it for valid actions. Nothing but this homomorphism tells
that the permutations, which are collected without being checked, are a group. In
`exists_permRep_error` an action tells equal items apart, and the numbers of its images are no
permutation.
-/

set_option linter.unusedSectionVars false

namespace FiniteGroups

open FiniteGroup MulAction

/-- What moves no member of `X` is what is in all stabilizers. -/
theorem mem_ker_toPermHom_iff {M X : Type} [Group M] [MulAction M X] {y : M} :
    y ∈ (toPermHom M X).ker ↔ ∀ x : X, y ∈ stabilizer M x := by
  simp only [MonoidHom.mem_ker, Equiv.ext_iff, toPermHom_apply, toPerm_apply, Equiv.Perm.one_apply,
    mem_stabilizer_iff]

/-- Different elements move `X` differently if only the identity fixes everything. -/
theorem toPermHom_injective_iff {M X : Type} [Group M] [MulAction M X] :
    Function.Injective (toPermHom M X) ↔ ∀ y : M, y ≠ 1 → fixedBy X y ≠ Set.univ := by
  simp only [← MonoidHom.ker_eq_bot_iff, Subgroup.eq_bot_iff_forall, mem_ker_toPermHom_iff,
    mem_stabilizer_iff, Ne, Set.eq_univ_iff_forall, mem_fixedBy]
  exact forall_congr' fun y => not_imp_not.symm

theorem pointAction_injective_iff {M X : Type} [Group M] [MulAction M X] {n : Nat}
    {e : Point n ≃ X} :
    Function.Injective (pointAction (M := M) e) ↔ Function.Injective (toPermHom M X) := by
  rw [← MonoidHom.ker_eq_bot_iff, ker_pointAction, MonoidHom.ker_eq_bot_iff]

namespace GroupAction

/-- The permutation sends the number of an item to the number of what the element makes of the
item. -/
def Permutes (A : GroupAction) (g : Value) (p : Perm) : Prop :=
  ∀ k (hk : k < A.items.length), ∃ b l, ∃ hl : l < A.items.length, A.act g A.items[k] = .ok b ∧
    b.equal A.items[l] = .ok true ∧ p.apply (k + 1 : Nat) = .ok (l + 1)

namespace Realizes

variable {M X : Type} [Group M] [MulAction M X] {R : Value → M → Prop} {S : Value → X → Prop}
  {A : GroupAction} (hA : A.Realizes R S)
include hA

/-- A permutation that moves the numbers as an element moves the items sends them on. -/
theorem permutes {e : Point A.items.length ≃ X} (he : Numbers S A.items e) {g : Value} {y : M}
    (hg : R g y) {p : Perm} (hp : p.Moves (pointAction e y)) : A.Permutes g p := by
  intro k hk
  obtain ⟨i, hi, hix⟩ := he.exists_point hk
  obtain ⟨b, hb, hbx⟩ := hA.act_eq hg hix
  obtain ⟨l, hl, hj, hjx⟩ := he.exists_place (pointAction e y i)
  have himage : e (pointAction e y i) = y • e i := e.apply_symm_apply _
  rw [himage] at hjx
  refine ⟨b, l, hl, hb, (hA.equal_iff hbx hjx).2 rfl, ?_⟩
  rw [← hi, hp.apply_eq, hj]

/-- Some item is moved exactly if not everything is fixed. -/
theorem exists_moved_iff {a : Value} {g : M} (ha : R a g) :
    (∃ points, A.fixedPoints a = .ok points ∧ ∃ b ∈ A.items, b ∉ points) ↔
      fixedBy X g ≠ Set.univ := by
  obtain ⟨points, hpoints, hsub, hextent⟩ := hA.exists_fixedPoints ha
  rw [Set.ne_univ_iff_exists_notMem, ← hextent]
  constructor
  · rintro ⟨points', hpoints', b, hb, hmoved⟩
    obtain rfl := Except.ok.inj (hpoints.symm.trans hpoints')
    obtain ⟨x, hx⟩ := hA.standing b hb
    -- items are distinct, so the fixed item that stands for `x` would be `b` itself
    refine ⟨x, fun ⟨c, hc, hcx⟩ => hmoved ?_⟩
    rwa [hA.eq_of_stands hb (hsub.subset hc) hx hcx]
  · rintro ⟨x, hx⟩
    obtain ⟨b, hb, hbx⟩ := hA.surjective x
    exact ⟨points, hpoints, b, hb, fun hmem => hx ⟨b, hmem, hbx⟩⟩

end Realizes

end GroupAction

/-! ## Valid actions -/

namespace ValidAction

variable {G : ValidGroup} (A : ValidAction G)

/-- What there is to say about the map `f` to the permutations of the items. -/
structure IsPermRep (f : GroupMap) : Prop where
  src_eq : f.src = G.toFiniteGroup
  /-- The permutations are a valid group of permutations of the numbers of the items. -/
  exists_valid : ∃ P : ValidGroup, P.toFiniteGroup = f.tgt
  mul_eq : ∀ p q, f.tgt.mul (.perm p) (.perm q) = Value.perm <$> p.mul q
  exists_perm : ∀ b ∈ f.tgt.els, ∃ p, b = .perm p ∧ p.degree = A.items.length
  isHom_eq : f.isHom = .ok true
  isSurjective_eq : f.isSurjective = .ok true
  isOnto : f.IsOnto
  apply : ∀ ⦃g y⦄, G.Stands g y → ∃ p, f.apply g = .ok (.perm p) ∧
    p.degree = A.items.length ∧ A.Permutes g p
  kernel : ∃ K, f.kernel = .ok K ∧ (∃ N : Subgroup G.Element, Consists G.Stands K N) ∧
    ∀ ⦃g y⦄, G.Stands g y → (K.contains g = .ok true ↔
      ∀ a ∈ A.items, ∃ L, A.stabilizer a = .ok L ∧ L.contains g = .ok true)
  /-- The map is found to be one-to-one exactly if every element other than the identity moves an
  item. -/
  isInjective_iff : ∃ answer, f.isInjective = .ok answer ∧ (answer = true ↔
    ∀ g ∈ G.els, g.equal G.identity = .ok false →
      ∃ points, A.fixedPoints g = .ok points ∧ ∃ a ∈ A.items, a ∉ points)

variable {A}

/-- An element is in all stabilizers exactly if it moves no item. -/
theorem forall_stabilizer_iff {g : Value} {y : G.Element} (hg : G.Stands g y) :
    (∀ a ∈ A.items, ∃ L, A.stabilizer a = .ok L ∧ L.contains g = .ok true) ↔
      y ∈ (toPermHom G.Element A.Item).ker := by
  have hA := A.realizes
  have hstabilizer {a : Value} {x : A.Item} (ha : A.Stands a x) :
      (∃ L, A.stabilizer a = .ok L ∧ L.contains g = .ok true) ↔ y ∈ stabilizer G.Element x := by
    obtain ⟨L, hL, hconsists⟩ := hA.stabilizer_spec ha
    rw [← SetLike.mem_coe, ← G.realizes.contains_iff hconsists hg]
    constructor
    · rintro ⟨L', hL', hcontains⟩
      rwa [Except.ok.inj (hL.symm.trans hL')]
    · exact fun hcontains => ⟨L, hL, hcontains⟩
  rw [mem_ker_toPermHom_iff]
  constructor
  · exact fun h x => (hstabilizer (stands_self x)).1 (h x.1 x.2)
  · exact fun h a ha => (hstabilizer (stands_self ⟨a, ha⟩)).2 (h ⟨a, ha⟩)

/-- A map that sends elements to the permutations by which they move the numbers is what it should
be. -/
theorem isPermRep_of_sends {e : Point A.items.length ≃ A.Item} (he : Numbers A.Stands A.items e)
    {f : GroupMap} (hsrc : f.src = G.toFiniteGroup)
    (htgt : ∃ els one name, f.tgt = permGroup A.items.length els one name .plain [])
    (h : f.Sends G.Stands (IsPermOf (pointAction (M := G.Element) e).range.subtype)
      (pointAction (M := G.Element) e).rangeRestrict) : A.IsPermRep f := by
  have hA := A.realizes
  have hG := G.realizes
  have hsurjective := (pointAction (M := G.Element) e).rangeRestrict_surjective
  -- permutations are inverted as bijections are, whether they are listed or not
  have hinv : ∀ b ∈ f.send.values.toList, ∀ k, b.keyed = .ok k →
      f.tgt.Invertible (IsPermOf (pointAction (M := G.Element) e).range.subtype) k := by
    intro b hb k hk
    obtain ⟨x, hx⟩ := h.standing_values b hb
    obtain ⟨els, one, name, htgt⟩ := htgt
    exact htgt ▸ invertible_permGroup (h.tgt.stands_of_keyed hx hk)
  exact {
    src_eq := hsrc
    exists_valid := ⟨.ofRealizes h.tgt, rfl⟩
    mul_eq := by
      obtain ⟨els, one, name, htgt⟩ := htgt
      exact htgt ▸ mul_permGroup
    exists_perm := by
      intro b hb
      obtain ⟨x, p, rfl, hp⟩ := h.tgt.standing b hb
      exact ⟨p, rfl, hp.1⟩
    isHom_eq := h.isHom_eq
    isSurjective_eq := (eq_ok_true_iff (h.isSurjective_spec hinv)).2 hsurjective
    isOnto := h.isOnto_iff.2 hsurjective
    apply := by
      intro g y hg
      obtain ⟨b, hb, p, rfl, hp⟩ := h.apply_spec hg
      exact ⟨p, hb, hp.1, hA.permutes he hg hp⟩
    kernel := by
      obtain ⟨K, hK, hconsists⟩ := h.kernel_spec
      rw [MonoidHom.ker_rangeRestrict, ker_pointAction] at hconsists
      refine ⟨K, hK, ⟨_, hconsists⟩, fun g y hg => ?_⟩
      rw [hG.contains_iff hconsists hg, SetLike.mem_coe, forall_stabilizer_iff hg]
    isInjective_iff := by
      obtain ⟨answer, hanswer, hiff⟩ := h.isInjective_spec
      rw [MonoidHom.rangeRestrict_injective_iff, pointAction_injective_iff,
        toPermHom_injective_iff] at hiff
      exact ⟨answer, hanswer, hiff.trans (hG.forall_ne_identity_iff fun g y _ hy _ =>
        hA.exists_moved_iff hy).symm⟩ }

/-- The map of a valid action to the permutations of the items is made, and it is what it should
be. -/
theorem exists_permutations (A : ValidAction G) : ∃ f, A.permRep = .ok f ∧ A.IsPermRep f := by
  have hA := A.realizes
  obtain ⟨e, he⟩ := hA.exists_numbering
  obtain ⟨f, hf, hsrc, htgt, hsends⟩ := hA.permRep_spec he
    (pointAction (M := G.Element) e).rangeRestrict_surjective
    (pointAction (M := G.Element) e).range.subtype_injective fun x => rfl
  exact ⟨f, hf, isPermRep_of_sends he (hsrc.trans A.group_eq) htgt hsends⟩

end ValidAction

/-- The residues modulo six are sent to the permutations by which they are added. -/
theorem exists_permutations_residues :
    ∃ A : ValidAction (validResidues (n := 6) (by decide) (by decide)),
      GroupAction.leftMul (residues 6).candidate = .ok A.toGroupAction ∧
      ∃ f, A.permRep = .ok f ∧ A.IsPermRep f := by
  let G := validResidues (n := 6) (by decide) (by decide)
  obtain ⟨members, hmembers⟩ := G.realizes.exists_leftMul
  exact ⟨G.leftAction members, hmembers, (G.leftAction members).exists_permutations⟩

/-! ## Images that are no permutation -/

/-- The numbers of the two items. As a key the rounded number is the first one. -/
theorem exists_numbers_sumAction : ∃ numbers, sumAction.numbers = .ok numbers ∧
    numbers.get? lower = some 1 ∧ numbers.get? upper = some 2 ∧ numbers.get? rounded = some 1 := by
  obtain ⟨hlower, -, -, -, hne⟩ := beq_rounded
  have hlist : (Assignment.ofList [(lower, 1), (upper, 2)]).toList = [(lower, 1), (upper, 2)] :=
    Assignment.toList_ofList (by simp [hne])
  -- a key that is equal to an item is looked up under the number of the item
  have hget {a k : Value} {m : Nat} (hmem : (k, m) ∈ [(lower, 1), (upper, 2)])
      (hka : (k == a) = true) :
      (Assignment.ofList [(lower, 1), (upper, 2)]).get? a = some m :=
    Assignment.get?_eq_some_iff.2 ⟨k, hlist.symm ▸ hmem, hka⟩
  exact ⟨_, rfl, hget (by simp) BEq.rfl, hget (by simp) BEq.rfl, hget (by simp) hlower⟩

/-- Both items are sent to the number of the first one, which is refused. -/
theorem permRep_sumAction : sumAction.permRep = .error (.imageRepeated "1" "(1, 1)") := by
  obtain ⟨numbers, hnumbers, hlower, hupper, hrounded⟩ := exists_numbers_sumAction
  have hkeyed : lower.keyed = .ok lower ∧ upper.keyed = .ok upper ∧ rounded.keyed = .ok rounded :=
    ⟨rfl, rfl, rfl⟩
  have hzero : sumAction.permOf numbers (.int 0) = Value.readPerm [.int 1, .int 2] := by
    show ([lower, upper].mapM _ >>= Value.readPerm) = _
    simp [act_zero, hkeyed, hlower, hupper, Value.ofNat]
  have hone : sumAction.permOf numbers (.real 1) = Value.readPerm [.int 1, .int 1] := by
    show ([lower, upper].mapM _ >>= Value.readPerm) = _
    simp [act_real, hkeyed, hrounded, Value.ofNat]
  obtain ⟨p, hp⟩ : ∃ p, Value.readPerm [.int 1, .int 2] = .ok p := ⟨_, rfl⟩
  have hrefused : Value.readPerm [.int 1, .int 1] = .error (.imageRepeated "1" "(1, 1)") := rfl
  have hkey : (Value.int 0).keyed = .ok (.int 0) := rfl
  rw [GroupAction.permRep, hnumbers, ok_bind]
  show (do
    let perms ← twoResidues.els.mapM fun g => do
      let p ← sumAction.permOf numbers g
      return (← g.keyed, Value.perm p)
    _) = _
  rw [els_twoResidues]
  simp [hzero, hp, hkey, hone, hrefused]

/-- An action of a valid group that satisfies the laws and leads from items to items, without a map
to permutations. -/
theorem exists_permRep_error :
    let G := validTwoResidues
    ∃ A, GroupAction.ofItems G.candidate
        (.list 0 [.int 9007199254740992, .int 9007199254740993]) (.op .add []) = .ok A ∧
      A.items.Pairwise (fun a b => (a == b) = false) ∧
      (∀ g ∈ G.els, ∀ a ∈ A.items, ∃ b, A.act g a = .ok b ∧ ∃ c ∈ A.items, (b == c) = true) ∧
      A.isAction = .ok true ∧ A.permRep = .error (.imageRepeated "1" "(1, 1)") := by
  intro G
  exact ⟨sumAction, ofItems_sumAction, distinct_sumAction, fun g hg a ha => act_mem_sumAction hg ha,
    isAction_sumAction, permRep_sumAction⟩

end FiniteGroups
