import FiniteGroups.Proofs.CheckedSubgroups
import FiniteGroups.Proofs.UncheckedSubgroups

/-!
# Lists that are found to be closed

There are two checks of whether some values are a subgroup. One refuses a list that does not become
a subgroup, the other one answers whether a list is closed. They look at the same things, except
that only the first one asks whether the values are elements of the group
(`FiniteGroup.checkSubgroup_eq_ok_iff_isClosed`).

For elements this makes no difference. A list that reaches outside the group may be found to be
closed while it is refused (`exists_isClosed_outside`), and the answer for a subgroup is that for
the group in which it was made. `ValidGroup.FindsClosed` says what the answer says in each case.
-/

namespace FiniteGroups

/-- A check of all members passes exactly if it passes for each of them. -/
theorem forM_eq_ok_iff {ε α : Type} {f : α → Except ε Unit} {xs : List α} :
    xs.forM f = .ok () ↔ ∀ x ∈ xs, f x = .ok () :=
  ⟨fun h _ => of_forM_eq_ok h, forM_eq_ok⟩

/-- A step without a result is followed by the next one if it succeeds. -/
theorem step_eq_ok_iff {ε β : Type} {x : Except ε Unit} {f : Unit → Except ε β} {b : β} :
    x >>= f = .ok b ↔ x = .ok () ∧ f () = .ok b := by
  cases x <;> simp

theorem allM_eq_true_iff {ε α : Type} {f : α → Except ε Bool} {xs : List α} :
    xs.allM f = .ok true ↔ ∀ x ∈ xs, f x = .ok true :=
  ⟨of_allM_eq_true, allM_eq_true⟩

/-- A question that has some answer for each member has one for all of them. -/
theorem exists_allM_of_forall {ε α : Type} {f : α → Except ε Bool} {xs : List α}
    (h : ∀ x ∈ xs, ∃ b, f x = .ok b) : ∃ b, xs.allM f = .ok b := by
  obtain ⟨b, hb, -⟩ := exists_allM (P := fun x => f x = .ok true) xs fun x hx => by
    obtain ⟨b, hb⟩ := h x hx
    exact ⟨b, hb, by rw [hb, Except.ok.injEq]⟩
  exact ⟨b, hb⟩

namespace FiniteGroup

variable {G : FiniteGroup} {els : List Value} {items : Roster Value} {a b : Value}

/-! ## What both checks look at -/

/-- The value that a computation gives can be looked for, and it is among the items. -/
def Finds (items : Roster Value) (x : Except Fault Value) : Prop :=
  ∃ a k, x = .ok a ∧ a.sought = .ok k ∧ items.contains k = true

/-- The identity is among the items, and so are their inverses and their products. -/
structure ClosedOn (G : FiniteGroup) (items : Roster Value) : Prop where
  finds_identity : Finds items (.ok G.identity)
  finds_inverse : ∀ a ∈ items.toList, Finds items (G.inverse a)
  finds_mul : ∀ a ∈ items.toList, ∀ b ∈ items.toList, Finds items (G.mul a b)

theorem find_eq_true_iff {x : Except Fault Value} :
    (do return items.contains (← (← x).sought)) = .ok true ↔ Finds items x := by
  simp only [bind_eq_ok, pure_eq_ok, Except.ok.injEq, Finds]
  tauto

/-- Another question is asked if a value is found among the items. -/
theorem find_and_eq_true_iff {x : Except Fault Value} {y : Except Fault Bool} :
    (do if items.contains (← (← x).sought) then y else return false) = .ok true ↔
      Finds items x ∧ y = .ok true := by
  rw [← find_eq_true_iff, ← ite_false_eq_true]
  simp only [bind_assoc, pure_bind]

/-- What fails in the end does not succeed. -/
theorem bind_throw_ne_ok {α β : Type} {x : Except Fault α} {f : α → Fault} {b : β} :
    (x >>= fun a => throw (f a)) ≠ .ok b := by
  cases x <;> nofun

/-- Items are refused if a value is not found among them. -/
theorem refuse_eq_ok_iff {x : Except Fault Value} {refuse : Value → Except Fault Unit}
    (h : ∀ c, refuse c ≠ .ok ()) :
    (do let c ← x; if !items.contains (← c.sought) then refuse c) = .ok () ↔ Finds items x := by
  simp only [bind_eq_ok, Finds]
  refine exists_congr fun c => ?_
  rw [← exists_and_left]
  refine exists_congr fun k => and_congr_right fun _ => and_congr_right fun _ => ?_
  cases items.contains k with
  | true => exact iff_of_true rfl rfl
  | false => exact iff_of_false (h c) Bool.false_ne_true

theorem requireUnit_eq_ok_iff :
    G.requireUnit items = .ok () ↔ Finds items (.ok G.identity) :=
  refuse_eq_ok_iff (x := .ok G.identity) fun _ => bind_throw_ne_ok

theorem requireProduct_eq_ok_iff :
    G.requireProduct items a b = .ok () ↔ Finds items (G.mul a b) := by
  refine refuse_eq_ok_iff fun c h => ?_
  obtain ⟨_, -, h⟩ := bind_eq_ok.1 h
  obtain ⟨_, -, h⟩ := bind_eq_ok.1 h
  exact bind_throw_ne_ok h

theorem requireInverse_eq_ok_iff :
    G.requireInverse items a = .ok () ↔ Finds items (G.inverse a) :=
  refuse_eq_ok_iff fun _ => bind_throw_ne_ok

theorem requireInside_eq_ok_iff :
    G.requireInside a = .ok () ↔ G.elements.contains a = true := by
  rw [requireInside]
  cases G.elements.contains a with
  | true => exact iff_of_true rfl rfl
  | false =>
    refine iff_of_false (fun h => ?_) Bool.false_ne_true
    obtain ⟨_, -, h⟩ := bind_eq_ok.1 h
    exact bind_throw_ne_ok h

/-- A list passes the one check if its values are elements and it is closed. -/
theorem checkSubgroup_eq_ok_iff : G.checkSubgroup els = .ok () ↔
    ∃ items, Value.distinct els = .ok items ∧
      (∀ a ∈ items.toList, G.elements.contains a = true) ∧ G.ClosedOn items := by
  rw [checkSubgroup]
  split
  · next hempty =>
    -- the identity would not be found
    refine iff_of_false (by rintro ⟨⟩) ?_
    rintro ⟨items, hitems, -, ⟨_, k, -, -, hk⟩, -⟩
    obtain ⟨b, hb, -⟩ := Roster.contains_iff.1 hk
    obtain ⟨a, ha, -⟩ := Value.exists_of_mem_distinct hitems hb
    rw [List.isEmpty_iff.1 hempty] at ha
    cases ha
  · rw [bind_eq_ok]
    refine exists_congr fun items => and_congr_right fun _ => ?_
    simp only [step_eq_ok_iff, forM_eq_ok_iff, requireInside_eq_ok_iff, requireUnit_eq_ok_iff,
      requireProduct_eq_ok_iff, requireInverse_eq_ok_iff]
    refine and_congr_right fun _ => ?_
    constructor
    · rintro ⟨hidentity, hmul, hinverse⟩
      exact ⟨hidentity, hinverse, hmul⟩
    · rintro ⟨hidentity, hinverse, hmul⟩
      exact ⟨hidentity, hmul, hinverse⟩

/-- A list passes the other check if it is closed. -/
theorem isClosed_eq_true_iff : G.candidate.isClosed els = .ok true ↔
    ∃ items, Value.distinct els = .ok items ∧ G.ClosedOn items := by
  simp only [Candidate.isClosed, candidate]
  rw [bind_eq_ok]
  refine exists_congr fun items => and_congr_right fun _ => find_and_eq_true_iff.trans ?_
  simp only [ok_bind, allM_eq_true_iff, find_and_eq_true_iff, find_eq_true_iff]
  constructor
  · rintro ⟨hidentity, hmember⟩
    exact ⟨hidentity, fun a ha => (hmember a ha).1, fun a ha => (hmember a ha).2⟩
  · rintro ⟨hidentity, hinverse, hmul⟩
    exact ⟨hidentity, fun a ha => ⟨hinverse a ha, hmul a ha⟩⟩

/-- Each value of a list has a key, which is found among the distinct values. -/
theorem exists_key_of_distinct (h : Value.distinct els = .ok items) (ha : a ∈ els) :
    ∃ k, a.keyed = .ok k ∧ items.contains k = true := by
  obtain ⟨ks, hks, -⟩ := bind_eq_ok.1 h
  obtain ⟨k, -, hk⟩ := exists_of_forall₂ (mapM_eq_ok_iff.1 hks).flip ha
  exact ⟨k, hk, contains_of_distinct h ha hk⟩

/-- One check is the other one with the question whether the values are elements. -/
theorem checkSubgroup_eq_ok_iff_isClosed : G.checkSubgroup els = .ok () ↔
    G.candidate.isClosed els = .ok true ∧ ∀ a ∈ els, G.contains a = .ok true := by
  rw [checkSubgroup_eq_ok_iff, isClosed_eq_true_iff]
  constructor
  · rintro ⟨items, hitems, hinside, hclosed⟩
    refine ⟨⟨items, hitems, hclosed⟩, fun a ha => ?_⟩
    obtain ⟨k, hk, hmem⟩ := exists_key_of_distinct hitems ha
    obtain ⟨l, hl, hlk⟩ := Roster.contains_iff.1 hmem
    rw [contains_of_keyed hk, ← G.elements.contains_congr hlk, hinside l hl]
  · rintro ⟨⟨items, hitems, hclosed⟩, hinside⟩
    refine ⟨items, hitems, fun k hk => ?_, hclosed⟩
    obtain ⟨a, ha, hak⟩ := Value.exists_of_mem_distinct hitems hk
    have h := hinside a ha
    rwa [contains_of_keyed hak, Except.ok.injEq] at h

/-- What is closed does not depend on the group in which the operations are. -/
theorem IsWithin.isClosed_eq {H : FiniteGroup} (h : G.IsWithin H) :
    H.candidate.isClosed els = G.candidate.isClosed els := by
  simp only [Candidate.isClosed, candidate, h.mul_eq, h.inverse_eq, h.identity_eq]

/-! ## Whether there is an answer -/

/-- The computation gives a value that can be looked for. -/
def Seeks (x : Except Fault Value) : Prop :=
  ∃ a k, x = .ok a ∧ a.sought = .ok k

/-- The operations lead from the distinct values of a list to values that can be looked for. -/
structure OperatesOn (G : FiniteGroup) (els : List Value) : Prop where
  seeks_inverse : ∀ a ∈ els, ∀ k, a.keyed = .ok k → Seeks (G.inverse k)
  seeks_mul : ∀ a ∈ els, ∀ b ∈ els, ∀ k l, a.keyed = .ok k → b.keyed = .ok l → Seeks (G.mul k l)

theorem exists_find {x : Except Fault Value} (hx : Seeks x) :
    ∃ answer, (do return items.contains (← (← x).sought)) = .ok answer := by
  obtain ⟨a, k, rfl, hk⟩ := hx
  exact ⟨items.contains k, by rw [ok_bind, hk]; rfl⟩

theorem exists_find_and {x : Except Fault Value} {y : Except Fault Bool} (hx : Seeks x)
    (hy : ∃ answer, y = .ok answer) :
    ∃ answer, (do if items.contains (← (← x).sought) then y else return false) = .ok answer := by
  obtain ⟨a, k, rfl, hk⟩ := hx
  rw [ok_bind, hk, ok_bind]
  split
  · exact hy
  · exact ⟨false, rfl⟩

/-- If the operations have results, it is answered whether the list is closed. -/
theorem exists_isClosed (hkeys : ∀ a ∈ els, ∃ k, a.keyed = .ok k)
    (hidentity : Seeks (.ok G.identity)) (hels : G.OperatesOn els) :
    ∃ answer, G.candidate.isClosed els = .ok answer := by
  obtain ⟨items, hitems⟩ := Value.exists_distinct hkeys
  simp only [Candidate.isClosed, candidate]
  rw [hitems, ok_bind]
  refine exists_find_and hidentity (exists_allM_of_forall fun k hk => ?_)
  obtain ⟨a, ha, hak⟩ := Value.exists_of_mem_distinct hitems hk
  refine exists_find_and (hels.seeks_inverse a ha k hak) (exists_allM_of_forall fun l hl => ?_)
  obtain ⟨b, hb, hbl⟩ := Value.exists_of_mem_distinct hitems hl
  exact exists_find (hels.seeks_mul a ha b hb k l hak hbl)

end FiniteGroup

/-! ## Valid groups -/

namespace ValidGroup

open FiniteGroup

variable (G : ValidGroup)

/-- Something that can be a key and is used as an element if it is found to be one. -/
def Recognizes (a : Value) : Prop :=
  ∃ k, a.keyed = .ok k ∧ (G.contains a = .ok false ∨ ∃ x, G.Stands a x)

/-- The values are elements, and what they are keyed by is inverted as they are. -/
structure InvertsKeys (els : List Value) : Prop where
  standing : Standing G.Stands els
  invertible : ∀ a ∈ els, ∀ k, a.keyed = .ok k → G.Invertible G.Stands k

/-- What is found out about a list when it is asked whether it is closed. -/
structure FindsClosed (els : List Value) : Prop where
  /-- The list becomes a subgroup if it is found to be closed and consists of elements. -/
  accepted_iff : (∃ H, G.checkedSubgroup els .none = .ok H) ↔
    G.candidate.isClosed els = .ok true ∧ ∀ a ∈ els, G.contains a = .ok true
  /-- Elements are found to be closed exactly if they are those of a subgroup. -/
  isClosed_iff : G.InvertsKeys els → ∃ answer, G.candidate.isClosed els = .ok answer ∧
    (answer = true ↔ ∃ K : Subgroup G.Element, (K : Set G.Element) = extent G.Stands els)
  /-- Elements of a group in which `G` was made are found to be closed in the same way, whether or
  not they are elements of `G`. -/
  isClosed_within : ∀ P : ValidGroup, P.IsSubgroup G.toFiniteGroup → P.InvertsKeys els →
    ∃ answer, G.candidate.isClosed els = .ok answer ∧
      (answer = true ↔ ∃ K : Subgroup P.Element, (K : Set P.Element) = extent P.Stands els)
  /-- Of other values it is found out whether the operations lead out of the list. -/
  isClosed_of_operatesOn : G.OperatesOn els → ∃ answer, G.candidate.isClosed els = .ok answer ∧
    (answer = true ↔ ∃ items, Value.distinct els = .ok items ∧ G.ClosedOn items)

variable {G} {els : List Value}

theorem InvertsKeys.isClosed (h : G.InvertsKeys els) :
    ∃ answer, G.candidate.isClosed els = .ok answer ∧
      (answer = true ↔ ∃ K : Subgroup G.Element, (K : Set G.Element) = extent G.Stands els) :=
  G.realizes.isClosed_of_invertible h.standing h.invertible

/-- Of a list of values that can be keys it is found out whether it is closed. -/
theorem findsClosed (hels : ∀ a ∈ els, G.Recognizes a) : G.FindsClosed els where
  accepted_iff := by
    rw [← checkSubgroup_eq_ok_iff_isClosed]
    constructor
    · rintro ⟨H, hH⟩
      obtain ⟨_, hcheck, -⟩ := bind_eq_ok.1 hH
      exact hcheck
    · intro hcheck
      have hstand : Standing G.Stands els := by
        intro a ha
        obtain ⟨k, -, hout | hx⟩ := hels a ha
        · rw [(checkSubgroup_eq_ok_iff_isClosed.1 hcheck).2 a ha] at hout
          cases hout
        · exact hx
      obtain ⟨r, hr, -⟩ := G.realizes.subgroup_spec hstand .none .none
      exact ⟨_, by rw [checkedSubgroup, hcheck, ok_bind, hr]⟩
  isClosed_iff := InvertsKeys.isClosed
  isClosed_within P hP h := hP.isWithin.isClosed_eq ▸ h.isClosed
  isClosed_of_operatesOn h := by
    have hkeys : ∀ a ∈ els, ∃ k, a.keyed = .ok k := fun a ha => (hels a ha).imp fun _ h => h.1
    obtain ⟨e, he, -⟩ := G.realizes.sought_eq G.realizes.one
    obtain ⟨answer, hanswer⟩ := exists_isClosed hkeys ⟨_, e, rfl, he⟩ h
    exact ⟨answer, hanswer, by rw [← isClosed_eq_true_iff, hanswer, Except.ok.injEq]⟩

/-- Of the residues modulo six, `0` and `3` are a subgroup, and `0` and `7` are not. -/
theorem findsClosed_residues :
    let G := validResidues (n := 6) (by decide) (by decide)
    let halves := [Value.int 0, .int 3]
    let outside := [Value.int 0, .int 7]
    (∀ a ∈ halves, G.Recognizes a) ∧ G.FindsClosed halves ∧ G.InvertsKeys halves ∧
      G.candidate.isClosed halves = .ok true ∧
      (∀ a ∈ outside, G.Recognizes a) ∧ G.FindsClosed outside := by
  intro G halves outside
  let three : G.Element := ⟨.int 3, (mem_residues (by decide)).2 ⟨3, by decide, rfl⟩⟩
  have hzero : ∃ x, G.Stands (.int 0) x := ⟨1, unit_stands⟩
  have hthree : ∃ x, G.Stands (.int 3) x := ⟨three, stands_self three⟩
  have hseven : G.contains (.int 7) = .ok false := by cbv
  have hhalves : Standing G.Stands halves :=
    List.forall_mem_cons.2 ⟨hzero, List.forall_mem_singleton.2 hthree⟩
  have hleft : ∀ a ∈ halves, G.Recognizes a := List.forall_mem_cons.2
    ⟨⟨_, rfl, .inr hzero⟩, List.forall_mem_singleton.2 ⟨_, rfl, .inr hthree⟩⟩
  have hright : ∀ a ∈ outside, G.Recognizes a := List.forall_mem_cons.2
    ⟨⟨_, rfl, .inr hzero⟩, List.forall_mem_singleton.2 ⟨_, rfl, .inl hseven⟩⟩
  have hinverts : G.InvertsKeys halves := ⟨hhalves, fun a ha k hk => by
    obtain ⟨x, hx⟩ := hhalves a ha
    exact inverts_residues (G.realizes.stands_of_keyed hx hk)⟩
  exact ⟨hleft, findsClosed hleft, hinverts, by cbv, hright, findsClosed hright⟩

/-! ## A list that reaches outside -/

/-- The group of the residue zero within the residues modulo two. -/
def zeroAlone : FiniteGroup :=
  (residues 2).subgroupOf (.ofList [.int 0]) .none .none

theorem contains_zeroAlone (m : Int) :
    zeroAlone.elements.contains (.int m) = true ↔ m = 0 := by
  show (Roster.promote _ _).contains _ = true ↔ _
  rw [Roster.contains_promote, Roster.contains_ofList]
  simp only [List.mem_singleton, exists_eq_left, beq_int]
  exact eq_comm

theorem checkSubgroup_zeroAlone :
    zeroAlone.checkSubgroup [.int 0, .int 1] = .error (.outsideParent "1" "Subgroup(1, 2)") := by
  have hin : zeroAlone.elements.contains (.int 0) = true := (contains_zeroAlone 0).2 rfl
  have hout : zeroAlone.elements.contains (.int 1) = false := by
    rw [← Bool.not_eq_true, contains_zeroAlone]
    decide
  have htext : zeroAlone.text = .ok "Subgroup(1, 2)" := by cbv
  have hplain : (Value.int 1).plain = .ok "1" := rfl
  have hlist : (Roster.ofList [Value.int 0, .int 1]).toList = [.int 0, .int 1] := by cbv
  show ((Roster.ofList [Value.int 0, .int 1]).toList.forM zeroAlone.requireInside >>= _) = _
  rw [hlist]
  simp only [List.forM, requireInside, hin, hout, hplain, htext, ok_bind]
  rfl

/-- Two residues modulo two, of which one is no element of the subgroup of the other one. -/
theorem exists_isClosed_outside :
    let G := validResidues (n := 2) (by decide) (by decide)
    let els := [Value.int 0, .int 1]
    ∃ H, G.trivial = .ok H ∧ G.IsSubgroup H ∧ H.candidate.isClosed els = .ok true ∧
      H.checkedSubgroup els .none = .error (.outsideParent "1" "Subgroup(1, 2)") := by
  intro G els
  obtain ⟨H, hH, hsub⟩ := isSubgroup_trivial (G := G)
  have htrivial : G.trivial = .ok zeroAlone := by cbv
  obtain rfl := Except.ok.inj (hH.symm.trans htrivial)
  exact ⟨_, hH, hsub, by cbv, by rw [checkedSubgroup, checkSubgroup_zeroAlone, error_bind]⟩

end ValidGroup

end FiniteGroups
