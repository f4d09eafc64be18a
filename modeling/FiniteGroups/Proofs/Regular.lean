import FiniteGroups.Proofs.Orders
import FiniteGroups.Proofs.PermRep
import FiniteGroups.Regular

/-!
# Cayley's theorem

Every valid group is the group of the permutations by which its elements multiply the numbered
elements. The group of permutations is built for every valid group, and what there is to say about
it is `ValidGroup.IsRegular` : it is valid, the map to it is an isomorphism, orders are kept, and
only the identity has fixed points (`ValidGroup.exists_regular`). The action of the group on itself
by left multiplication is another way to the same permutations, with the same numbers.
-/

set_option linter.unusedSectionVars false

namespace FiniteGroups

open FiniteGroup

variable {M : Type} [Group M] {R : Value → M → Prop} {n : Nat} {e : Point n ≃ M}

/-- Elements, each with a permutation that stands for it. -/
def Permutes (R : Value → M → Prop) (e : Point n ≃ M) (g : Value) (q : Value × Value) : Prop :=
  ∃ x, R g x ∧ Paired R (IsPermOf (leftRegular e)) q (x, x)

namespace FiniteGroup.Realizes

variable {G : FiniteGroup} (hG : G.Realizes R)
include hG

/-! ## The permutation of an element -/

theorem regularPerm_spec (hn : 0 < n) {els : List Value} (he : Numbers R els e)
    {numbers : Assignment Value Value}
    (hnumbers : ∀ a x, R a x → numbers.get? a = some (Value.ofNat (e.symm x).1)) {a : Value}
    {x : M} (ha : R a x) :
    ∃ p, regularPerm G.mul els numbers a = .ok p ∧ p.Moves (leftRegular e x) := by
  refine he.exists_readPerm hn _ fun b i hb => ?_
  obtain ⟨c, hc, hxy⟩ := hG.mul_eq ha hb
  obtain ⟨k, hk, hkxy⟩ := hG.keyed_eq hxy
  rw [hc, ok_bind, hk, ok_bind, hnumbers k _ hkxy]
  rfl

end FiniteGroup.Realizes

/-! ## The regular representation -/

/-- What the group of the permutations refers to. -/
def regularLinks (G : FiniteGroup) (numbers : Assignment Value Value)
    (perms : List (Value × Value)) : List Value :=
  [G.value, .list 0 G.els, .ofAssignment numbers, .ofAssignment (.ofList perms)]

/-- The representation by given numbers and permutations of the elements. -/
def regularGroup (G : FiniteGroup) (numbers : Assignment Value Value)
    (perms : List (Value × Value)) (one : Perm) (name : String) : RegularGroup where
  source := G.value
  ordered := .list 0 G.els
  index := .ofAssignment numbers
  sent := .ofAssignment (.ofList perms)
  group := permGroup G.order (.ofList (perms.map Prod.snd)) one name .regular
    (regularLinks G numbers perms)

/-- A group acting on its elements by left multiplication. -/
def leftAction (G : FiniteGroup) (members : Roster Value) : GroupAction where
  place := 0
  group := G
  listing := 0
  items := G.els
  members := members
  rule := G.op
  act := G.op.meaning.call₂

/-- The representation is the group of the permutations by which elements multiply. -/
structure RegularGroup.Represents (P : RegularGroup) (G : FiniteGroup) (R : Value → M → Prop)
    (e : Point n ≃ M) : Prop where
  source_eq : P.source = G.value
  ordered_eq : P.ordered.listed = G.els
  index : ∃ numbers, P.index = Value.ofAssignment numbers ∧
    ∀ a x, R a x → numbers.get? a = some (Value.ofNat (e.symm x).1)
  sent : ∃ m, P.sent = Value.ofAssignment m ∧
    Standing (Paired R (IsPermOf (leftRegular e))) m.toList ∧
    extent (Paired R (IsPermOf (leftRegular e))) m.toList
      = Set.range fun x => (x, MonoidHom.id M x)
  realizes : P.group.Realizes (IsPermOf (leftRegular e))
  invertible : ∀ b x, IsPermOf (leftRegular e) b x →
    P.group.Invertible (IsPermOf (leftRegular e)) b

namespace FiniteGroup.Realizes

variable {G : FiniteGroup} (hG : G.Realizes R) {e : Point G.order ≃ M}
include hG

/-- Every element gets a permutation that stands for it. -/
theorem exists_regularPerms (he : Numbers R G.els e) {keys : List Value}
    (hsame : List.Forall₂ (fun a k => ∃ x, R a x ∧ R k x) G.els keys)
    {numbers : Assignment Value Value}
    (hnumbers : ∀ a x, R a x → numbers.get? a = some (Value.ofNat (e.symm x).1)) :
    ∃ perms, (keys.mapM fun g => do return (g, Value.perm (← regularPerm G.mul G.els numbers g)))
        = .ok perms ∧ List.Forall₂ (Permutes R e) G.els perms := by
  obtain ⟨perms, hperms, hall⟩ := exists_mapM (P := Permutes R e) keys
      (f := fun g => do return (g, Value.perm (← regularPerm G.mul G.els numbers g)))
      fun k hk => by
    obtain ⟨a, -, x, -, hkx⟩ := exists_of_forall₂ hsame hk
    obtain ⟨p, hp, hmoves⟩ := hG.regularPerm_spec hG.order_pos he hnumbers hkx
    exact ⟨(k, .perm p), by rw [hp]; rfl, x, hkx, hkx, p, rfl, hmoves⟩
  refine ⟨perms, hperms, (forall₂_comp hsame hall).imp ?_⟩
  rintro a q ⟨k, ⟨x, hx, hkx⟩, y, hky, hq⟩
  obtain rfl := hG.faithful.unique hkx hky
  exact ⟨x, hx, hq⟩

theorem represents_regularGroup {numbers : Assignment Value Value}
    (hnumbers : ∀ a x, R a x → numbers.get? a = some (Value.ofNat (e.symm x).1))
    {perms : List (Value × Value)} (hperms : List.Forall₂ (Permutes R e) G.els perms) {one : Perm}
    (hone : one.Moves (1 : Equiv.Perm (Point G.order))) (name : String) :
    (regularGroup G numbers perms one name).Represents G R e := by
  have hlinks : ∀ v ∈ regularLinks G numbers perms, ∃ m, v.length = .ok m := by
    simp [regularLinks, value, Value.length, Value.ofAssignment]
  obtain ⟨hP, hstand, hgraph⟩ := hG.realizes_perms (φ := MonoidHom.id M) Function.surjective_id
    (leftRegular_injective e) hperms hone name .regular hlinks
  exact {
    source_eq := rfl
    ordered_eq := rfl
    index := ⟨numbers, rfl, hnumbers⟩
    sent := ⟨.ofList perms, rfl, hstand, hgraph⟩
    realizes := hP
    invertible := fun _ _ hb => invertible_permGroup hb }

/-- The representation is made. -/
theorem exists_represents (he : Numbers R G.els e) :
    ∃ P, RegularGroup.make G.candidate = .ok P ∧ P.Represents G R e := by
  obtain ⟨keys, hkeys, hsame, hnumbered⟩ := he.exists_keys hG.faithful hG.keyed_eq
  have hnumbers := fun a x => hnumbered.get?_map_zipIdx (a := a) (x := x) hG.faithful
  obtain ⟨perms, hperms, hpermutes⟩ := hG.exists_regularPerms he hsame hnumbers
  obtain ⟨one, hone, hmoves⟩ := Perm.exists_identity hG.order_pos
  obtain ⟨s, hs⟩ := hG.intact.text_eq
  refine ⟨_, ?_, hG.represents_regularGroup hnumbers hpermutes hmoves s!"Cayley({s})"⟩
  rw [RegularGroup.make]
  show (do
    let keys ← G.els.mapM Value.keyed
    _) = _
  rw [hkeys, ok_bind, hperms, ok_bind, hone, ok_bind, hs]
  rfl

/-! ## Left multiplication as an action -/

theorem exists_leftMul : ∃ members,
    GroupAction.leftMul G.candidate = .ok (leftAction G members) := by
  obtain ⟨members, hmembers, -, -⟩ := hG.distinct_spec hG.standing
  have hne : G.els ≠ [] := List.ne_nil_of_length_pos hG.order_pos
  refine ⟨members, ?_⟩
  simp [GroupAction.leftMul, GroupAction.make, Candidate.group, Candidate.required, candidate,
    hne, hmembers, leftAction]

/-- A group that realizes `M` acts on its elements as `M` acts on itself. -/
theorem leftAction (members : Roster Value) :
    (FiniteGroups.leftAction G members).Realizes R R where
  group := hG
  faithful := hG.faithful
  act_eq a b g x ha hb := by
    show ∃ c, G.op.meaning.call₂ a b = .ok c ∧ R c (g * x)
    rw [hG.intact.call_op]
    exact hG.mul_eq ha hb
  keyed_eq := hG.keyed_eq
  equal_eq := hG.equal_eq
  items_ne := List.ne_nil_of_length_pos hG.order_pos
  distinct := hG.pairwise_els
  standing := hG.standing
  surjective := hG.surjective

/-- The action of a group on itself is a map to the same permutations. -/
theorem exists_permRep (he : Numbers R G.els e) :
    ∃ A f, GroupAction.leftMul G.candidate = .ok A ∧ A.permRep = .ok f ∧
      f.Sends R (IsPermOf (leftRegular e)) (MonoidHom.id M) := by
  obtain ⟨members, hmembers⟩ := hG.exists_leftMul
  obtain ⟨f, hf, -, -, hsends⟩ := (hG.leftAction members).permRep_spec he (φ := MonoidHom.id M)
    Function.surjective_id (leftRegular_injective e) fun x => rfl
  exact ⟨_, f, hmembers, hf, hsends⟩

end FiniteGroup.Realizes

/-! ## What holds of the representation -/

/-- An element has the order of its permutation. -/
theorem FiniteGroup.Realizes.elementOrder_eq {G : FiniteGroup} (hG : G.Realizes R) {a : Value}
    {x : M} (ha : R a x) {p : Perm} (hp : p.Moves (leftRegular e x)) :
    G.elementOrder a = .ok p.order := by
  obtain ⟨m, hm, hpow⟩ := hG.elementOrder_spec ha
  have hdvd (k : Nat) : p.order ∣ k ↔ m ∣ k := by
    rw [← hp.pow_eq_one_iff, ← map_pow, map_eq_one_iff _ (leftRegular_injective e), hpow]
  rw [hm, Nat.dvd_antisymm ((hdvd _).2 dvd_rfl) ((hdvd _).1 dvd_rfl)]

/-- No point is fixed unless by the identity. -/
theorem fixedPoints_eq_nil {x : M} (hx : x ≠ 1) {p : Perm} (hp : p.Moves (leftRegular e x)) :
    p.fixedPoints = [] := by
  refine List.eq_nil_iff_forall_not_mem.2 fun k hk => ?_
  obtain ⟨i, -, hi⟩ := hp.mem_fixedPoints.1 hk
  exact leftRegular_apply_ne e hx i hi

namespace RegularGroup.Represents

variable {P : RegularGroup} {G : FiniteGroup} (h : P.Represents G R e) (hG : G.Realizes R)
include h hG

theorem perm_spec (hn : 0 < n) (he : Numbers R G.els e) {a : Value} {x : M} (ha : R a x) :
    ∃ p, P.perm a = .ok p ∧ p.Moves (leftRegular e x) := by
  obtain ⟨numbers, hindex, hnumbers⟩ := h.index
  have hnumbers' : ∀ b y, R b y →
      P.index.assignment.get? b = some (Value.ofNat (e.symm y).1) := fun b y hb => by
    rw [hindex, Value.get?_assignment, hnumbers b y hb]
  obtain ⟨p, hp, hmoves⟩ := hG.regularPerm_spec hn he hnumbers' ha
  refine ⟨p, ?_, hmoves⟩
  rw [RegularGroup.perm, h.source_eq, hG.intact.op_eq, ok_bind, h.ordered_eq, hp]

theorem item_spec {a : Value} {x : M} (ha : R a x) :
    P.index.item a = .ok (Value.ofNat (e.symm x).1) := by
  obtain ⟨numbers, hindex, hnumbers⟩ := h.index
  obtain ⟨k, hk, hkx⟩ := hG.keyed_eq ha
  rw [hindex, Value.item_ofAssignment hk (hnumbers k x hkx)]

/-- The map to the permutations sends every element to its permutation. -/
theorem hom_spec : ∃ f, P.hom = .ok f ∧ f.tgt = P.group ∧
    f.Sends R (IsPermOf (leftRegular e)) (MonoidHom.id M) ∧ f.isIso = .ok true := by
  obtain ⟨m, hm, hstand, hgraph⟩ := h.sent
  rw [← Value.toList_assignment, ← hm] at hstand hgraph
  obtain ⟨f, hf, -, htgt, hsends⟩ :=
    GroupMap.ofAssignment_spec hG.reread h.realizes hstand hgraph
  refine ⟨f, ?_, htgt, hsends, ?_⟩
  · rw [RegularGroup.hom, h.source_eq, Value.candidate, hG.intact.ofValue?_value]
    exact hf
  · refine (eq_ok_true_iff (hsends.isIso_spec fun b hb k hk => ?_)).2 Function.bijective_id
    obtain ⟨x, hx⟩ := hsends.standing_values b hb
    rw [htgt]
    exact h.invertible k x (h.realizes.stands_of_keyed hx hk)

end RegularGroup.Represents

/-! ## Valid groups -/

namespace ValidGroup

/-- What there is to say about the regular representation. -/
structure IsRegular (G : ValidGroup) (P : RegularGroup) : Prop where
  /-- The check of the axioms finds nothing. -/
  verify_eq : ∀ most m, most.index = .ok m → P.group.verify most = .ok ⟨[]⟩
  /-- The map that sends every element to its permutation is an isomorphism. -/
  hom : ∃ f, P.hom = .ok f ∧ f.tgt = P.group ∧ f.isHom = .ok true ∧ f.isIso = .ok true ∧
    ∀ a x, G.Stands a x → ∃ p, P.perm a = .ok p ∧ f.apply a = .ok (.perm p)
  /-- Orders are kept, no point is fixed unless by the identity, and the number of the identity
  is sent to that of the element. -/
  perm : ∀ a x, G.Stands a x → ∃ p, P.perm a = .ok p ∧
    P.group.contains (.perm p) = .ok true ∧ G.elementOrder a = .ok p.order ∧
    (a.equal G.identity = .ok false → p.fixedPoints = []) ∧
    ∃ i j : Nat, P.index.item G.identity = .ok (.int i) ∧ P.index.item a = .ok (.int j) ∧
      p.apply i = .ok j
  /-- The action by left multiplication gives the same permutations. -/
  permRep : ∃ A f, GroupAction.leftMul G.candidate = .ok A ∧ A.permRep = .ok f ∧
    ∀ a x, G.Stands a x → ∃ p, P.perm a = .ok p ∧ f.apply a = .ok (.perm p)

/-- Every valid group is a group of permutations. -/
theorem exists_regular (G : ValidGroup) :
    ∃ P, RegularGroup.make G.candidate = .ok P ∧ G.IsRegular P := by
  have hG := G.realizes
  obtain ⟨e, he⟩ := hG.exists_numbering
  obtain ⟨P, hP, h⟩ := hG.exists_represents he
  have hperm {a : Value} {x : G.Element} (ha : G.Stands a x) :=
    h.perm_spec hG hG.order_pos he ha
  -- a map that sends elements as the representation does sends each to its permutation
  have happly {f : GroupMap} (hf : f.Sends G.Stands (IsPermOf (leftRegular e)) (MonoidHom.id _))
      {a : Value} {x : G.Element} (ha : G.Stands a x) :
      ∃ p, P.perm a = .ok p ∧ f.apply a = .ok (.perm p) := by
    obtain ⟨p, hp, hmoves⟩ := hperm ha
    obtain ⟨b, hb, q, rfl, hq⟩ := hf.apply_spec ha
    exact ⟨p, hp, hmoves.ext hq ▸ hb⟩
  refine ⟨P, hP, fun most m hmost => ?_, ?_, fun a x ha => ?_, ?_⟩
  · exact h.realizes.verify_eq hmost
  · obtain ⟨f, hf, htgt, hsends, hiso⟩ := h.hom_spec hG
    exact ⟨f, hf, htgt, hsends.isHom_eq, hiso, fun a x ha => happly hsends ha⟩
  · obtain ⟨p, hp, hmoves⟩ := hperm ha
    refine ⟨p, hp, h.realizes.contains_eq ⟨p, rfl, hmoves⟩, hG.elementOrder_eq ha hmoves,
      fun hne => fixedPoints_eq_nil (fun hx => ?_) hmoves, _, _, h.item_spec hG hG.one,
      h.item_spec hG ha, ?_⟩
    · rw [hG.equal_eq_true (hx ▸ ha) hG.one] at hne
      cases hne
    · rw [hmoves.apply_eq, leftRegular_apply, e.apply_symm_apply, mul_one]
  · obtain ⟨A, f, hA, hf, hsends⟩ := hG.exists_permRep he
    exact ⟨A, f, hA, hf, fun a x ha => happly hsends ha⟩

end ValidGroup

end FiniteGroups
