import FiniteGroups.Proofs.Cosets
import FiniteGroups.Proofs.DirectProducts
import FiniteGroups.Proofs.Maps

/-!
# Maps as values

A map between groups is a value that can be a key, can be compared, composed and inverted. Such a
value stands for the function that its mapping is the graph of (`StandsForMap`), and what is done to
it is done to the function: maps are equal exactly if they are one function (`faithful_map`,
`equal_map`), the composition of two maps stands for that of the functions
(`StandsForMap.compose_spec`), and a map is inverted exactly if it is a bijection
(`StandsForMap.inverse_cases`).
-/

set_option linter.unusedSectionVars false

namespace FiniteGroups

open FiniteGroup

variable {M N P : Type} {R : Value → M → Prop} {S : Value → N → Prop} {T : Value → P → Prop}

/-! ## Graphs of functions -/

namespace Tabulates

variable {m : Assignment Value Value} {φ : M → N} (hm : Tabulates R S m φ)
include hm

theorem of_toList {m' : Assignment Value Value} (h : m'.toList = m.toList) : Tabulates R S m' φ :=
  ⟨h ▸ hm.standing, h ▸ hm.graph⟩

theorem pairwise_keys : m.toList.Pairwise fun p q => (p.1 == q.1) = false := by
  have hpairwise := m.keys.pairwise_toList
  rwa [← Assignment.map_fst_toList, List.pairwise_map] at hpairwise

/-- A function is one-to-one exactly if no value comes twice in its graph. -/
theorem injective_iff (hR : Faithful R) (hS : Faithful S) : Function.Injective φ ↔
    (m.toList.map Prod.snd).Pairwise fun a b => (a == b) = false := by
  rw [List.pairwise_map]
  constructor
  · intro hφ
    refine hm.pairwise_keys.imp_of_mem fun {p q} hp hq hne => ?_
    obtain ⟨x, hx, hφx⟩ := hm.exists_of_mem hp
    obtain ⟨y, hy, hφy⟩ := hm.exists_of_mem hq
    rw [← Bool.not_eq_true, hR hx hy] at hne
    rw [← Bool.not_eq_true, hS hφx hφy]
    exact fun heq => hne (hφ heq)
  · intro hpairwise x y heq
    obtain ⟨p, hp, hx, hφx⟩ := hm.exists_mem x
    obtain ⟨q, hq, hy, hφy⟩ := hm.exists_mem y
    have hsame : (p.2 == q.2) = true := (hS hφx hφy).2 heq
    have hpq : p = q := by
      by_contra hne
      have : Std.Symm fun p q : Value × Value => (p.2 == q.2) = false :=
        ⟨fun p q h => BEq.comm.trans h⟩
      have hdiffer : (p.2 == q.2) = false := hpairwise.forall hp hq hne
      rw [hsame] at hdiffer
      exact Bool.noConfusion hdiffer
    subst hpq
    exact hR.unique hx hy

/-- The pairs of a bijection are those of its inverse the other way round. -/
theorem swap (hR : Faithful R) (hS : Faithful S) {e : M ≃ N} (he : ⇑e = φ)
    {back : Assignment Value Value} (hback : back.toList = m.toList.map Prod.swap) :
    Tabulates S R back e.symm := by
  subst he
  obtain ⟨hstand, hextent⟩ := (hR.paired hS).extent_map (hS.paired hR) (f := Prod.swap)
    (φ := Prod.swap) hm.standing fun p z hz => ⟨hz.2, hz.1⟩
  refine ⟨hback ▸ hstand, ?_⟩
  rw [hback, hextent, hm.graph, ← Set.range_comp]
  ext ⟨y, x⟩
  constructor
  · rintro ⟨x, h⟩
    obtain ⟨rfl, rfl⟩ := Prod.mk.inj h
    exact ⟨e x, by simp⟩
  · rintro ⟨y, h⟩
    obtain ⟨rfl, rfl⟩ := Prod.mk.inj h
    exact ⟨e.symm y, by simp [Prod.swap]⟩

end Tabulates

/-! ## Values sent back -/

/-- The pairs of a map are turned round one by one, unless a value comes twice. -/
theorem Value.reversed_cases (label : Except Fault String) {pairs : List (Value × Value)}
    (hkeyed : ∀ p ∈ pairs, ∃ k, p.2.keyed = .ok k) (back : Assignment Value Value) :
    ((back.keys.toList ++ pairs.map Prod.snd).Pairwise (fun a b => (a == b) = false) ∧
        ∃ m, reversed label pairs back = .ok m ∧
          m.toList = back.toList ++ pairs.map Prod.swap) ∨
      ¬(back.keys.toList ++ pairs.map Prod.snd).Pairwise (fun a b => (a == b) = false) ∧
        reversed label pairs back = (do throw (.notInjective (← label))) := by
  induction pairs generalizing back with
  | nil => exact .inl ⟨by simpa using back.keys.pairwise_toList, back, rfl, by simp⟩
  | cons p pairs ih =>
    obtain ⟨k, hk⟩ := hkeyed p List.mem_cons_self
    rw [reversed, hk, ok_bind, Roster.contains_congr _ (beq_of_keyed hk)]
    cases hnew : back.keys.contains p.2 with
    | true =>
      refine .inr ⟨fun hpairwise => ?_, rfl⟩
      obtain ⟨b, hb, hsame⟩ := Roster.contains_iff.1 hnew
      have hne := (List.pairwise_append.1 hpairwise).2.2 b hb p.2 (by simp)
      rw [hsame] at hne
      exact Bool.noConfusion hne
    | false =>
      -- the value is a key from now on
      have hset := Assignment.toList_set_of_new p.1 hnew
      have hkeys : (back.set p.2 p.1).keys.toList = back.keys.toList ++ [p.2] := by
        rw [← Assignment.map_fst_toList, hset, List.map_append, Assignment.map_fst_toList]
        rfl
      have ih := ih (fun q hq => hkeyed q (List.mem_cons_of_mem p hq)) (back.set p.2 p.1)
      rw [hkeys, hset, List.append_assoc, List.append_assoc] at ih
      exact ih

/-! ## Comparison of mappings -/

namespace Value

/-- How entries are compared tells how the comparison goes on. -/
theorem compareEntry_bind {a b : Value} {answer : Bool} {α : Type}
    (h : compareEach [a] [b] = .ok answer) (next : Bool → Except Fault α) :
    (if identical a b then pure true >>= next else compare a b >>= next) = next answer := by
  have hnil : compareEach [] [] = .ok true := by rw [compareEach]; rfl
  rw [compareEach.eq_def] at h
  simp only [hnil] at h
  split at h
  · next hidentical =>
    rw [if_pos hidentical]
    obtain rfl := Except.ok.inj h
    rfl
  · next hdiffer =>
    rw [if_neg hdiffer]
    obtain ⟨agree, hagree, h⟩ := bind_eq_ok.1 h
    rw [hagree]
    cases agree <;> obtain rfl := Except.ok.inj h <;> rfl

end Value

/-- Mappings are compared as the functions whose graphs they are. -/
theorem comparePairs_spec (hR : Faithful R) (hS : Faithful S) (hcompare : ComparesEntries S)
    {m : Assignment Value Value} {φ ψ : M → N} (hm : Tabulates R S m ψ)
    {pairs : List (Value × Value)} (hpairs : ∀ p ∈ pairs, ∃ x, Paired R S p (x, φ x)) :
    ∃ answer, Value.comparePairs (pairs.map fun (k, v) => .tuple [k, v])
        (m.toList.map fun (k, v) => .tuple [k, v]) = .ok answer ∧
      (answer = true ↔ ∀ x ∈ extent R (pairs.map Prod.fst), φ x = ψ x) := by
  induction pairs with
  | nil => exact ⟨true, by rw [List.map_nil, Value.comparePairs], by simp⟩
  | cons p pairs ih =>
    obtain ⟨x, hx, hφx⟩ := hpairs p List.mem_cons_self
    obtain ⟨w, hw, hψx⟩ := hm.get?_spec hR hx
    obtain ⟨answer, hanswer, hiff⟩ := exists_ite_false (hS hφx hψx)
      (ih fun q hq => hpairs q (List.mem_cons_of_mem p hq))
    refine ⟨answer, ?_, hiff.trans ?_⟩
    · rw [← hanswer, List.map_cons, Value.comparePairs.eq_def]
      simp only [Value.lookup?_of_get? hw]
      exact Value.compareEntry_bind (hcompare hφx hψx) _
    · rw [List.map_cons, hR.extent_cons hx, Set.forall_mem_insert]

/-! ## Values that are maps -/

/-- The value is a map from `G` to `H` that sends elements as `φ` does. If it was looked for
already, it is known by the mapping that it has. -/
inductive StandsForMap (G H : FiniteGroup) (R : Value → M → Prop) (S : Value → N → Prop) :
    Value → (M → N) → Prop
  | intro {m : Assignment Value Value} {trace : Value} {φ : M → N}
      (hkey : Value.keyImages (.ofAssignment m) trace = .ofAssignment m)
      (hm : Tabulates R S m φ) :
      StandsForMap G H R S (.map G.value H.value (.ofAssignment m) trace) φ

theorem GroupMap.Sends.standsForMap [Group M] [Group N] {f : GroupMap} {φ : M → N}
    (h : f.Sends R S φ) : StandsForMap f.src f.tgt R S f.value φ :=
  .intro rfl h.tabulates

variable {G H K : FiniteGroup}

/-- The pairs of a mapping as values. -/
theorem extent_tuples (hR : Faithful R) (hS : Faithful S) {m : Assignment Value Value} {φ : M → N}
    (hm : Tabulates R S m φ) :
    Standing (StandsForPair R S) (m.toList.map fun (k, v) => .tuple [k, v]) ∧
      extent (StandsForPair R S) (m.toList.map fun (k, v) => .tuple [k, v])
        = Set.range fun x => (x, φ x) := by
  obtain ⟨hstand, hextent⟩ := (hR.paired hS).extent_map (faithful_pair hR hS)
    (f := fun (k, v) => Value.tuple [k, v]) (φ := id) hm.standing fun p z hz => .intro hz.1 hz.2
  rw [Set.image_id, hm.graph] at hextent
  exact ⟨hstand, hextent⟩

theorem range_graph_eq_iff {φ ψ : M → N} :
    (Set.range fun x => (x, φ x)) = (Set.range fun x => (x, ψ x)) ↔ φ = ψ := by
  constructor
  · intro h
    funext x
    obtain ⟨y, hy⟩ := h.subset ⟨x, rfl⟩
    obtain ⟨rfl, heq⟩ := Prod.mk.inj hy
    exact heq.symm
  · rintro rfl
    rfl

/-- Maps between the same groups are the same exactly if they are one function. -/
theorem faithful_map [Group M] [Group N] (hR : Faithful R) (hS : Faithful S) :
    Faithful (StandsForMap G H R S) := by
  rintro _ _ _ _ ⟨hkey, hm⟩ ⟨hkey', hm'⟩
  obtain ⟨hstand, hextent⟩ := extent_tuples hR hS hm
  obtain ⟨hstand', hextent'⟩ := extent_tuples hR hS hm'
  have hset := (faithful_pair hR hS).sameSet_values_iff hstand hstand'
  rw [hextent, hextent', range_graph_eq_iff] at hset
  show Value.same _ _ = true ↔ _
  rw [Value.same_map, hkey, hkey', ← hset]
  simp [Value.same_refl, Value.same, Value.ofAssignment, Value.head, Value.members]

/-- The groups of a map are compared before the map is. -/
theorem equal_value_eq (G H : FiniteGroup) : G.value.equal H.value = G.value.compare H.value := by
  rw [Value.equal, if_neg (by simp [value, Value.isSimple])]

/-- A group is equal to itself if its operation is, which is compared part by part. -/
theorem equal_value_self {G : FiniteGroup} (hop : G.op.compare G.op = .ok true) :
    G.value.equal G.value = .ok true := by
  have hmembers : Value.sameMembers G.elements.toList G.elements.toList = true := by
    rw [Value.sameMembers, Value.sameEach_refl fun x _ => Value.same_refl x, Bool.true_or]
  simp [equal_value_eq_ite, hmembers, hop]

/-- Each member of a set is a member of a set with the same members. -/
theorem Value.exists_of_sameMembers {xs ys : List Value} (h : sameMembers xs ys = true) {x : Value}
    (hx : x ∈ xs) : ∃ y ∈ ys, (x == y) = true := by
  rw [sameMembers, Bool.or_eq_true] at h
  obtain heach | hset := h
  · exact (sameEach_covers heach).1 x hx
  · have hmem : (Roster.ofList xs).contains x = true := Roster.contains_ofList.2 ⟨x, hx, BEq.rfl⟩
    rw [Roster.sameSet_iff.1 hset] at hmem
    obtain ⟨y, hy, hyx⟩ := Roster.contains_ofList.1 hmem
    exact ⟨y, hy, BEq.symm hyx⟩

/-- Sets in which the same is contained have the same members. -/
theorem Value.sameMembers_of_contains {r s : Roster Value} (h : ∀ a, r.contains a = s.contains a) :
    sameMembers r.toList s.toList = true := by
  have hlist : ∀ (r : Roster Value) a, (Roster.ofList r.toList).contains a = r.contains a := by
    intro r a
    rw [Bool.eq_iff_iff, Roster.contains_ofList, Roster.contains_iff]
  have hset : (Roster.ofList r.toList).sameSet (Roster.ofList s.toList) = true :=
    Roster.sameSet_iff.2 fun a => by rw [hlist, hlist, h]
  rw [sameMembers, hset, Bool.or_true]

/-- Groups that are equal have the same elements. -/
theorem sameMembers_of_equal_value {G H : FiniteGroup} (h : G.value.equal H.value = .ok true) :
    Value.sameMembers G.elements.toList H.elements.toList = true := by
  rw [equal_value_eq_ite] at h
  by_contra hdiffer
  simp [hdiffer] at h

/-- Groups with different operations are not equal. -/
theorem equal_value_of_compare_op {G H : FiniteGroup} (hop : G.op.compare H.op = .ok false) :
    G.value.equal H.value = .ok false := by
  simp [equal_value_eq_ite, hop]

variable [Group M] [Group N] [Group P]

theorem Tabulates.length_eq (hG : G.Realizes R) {m : Assignment Value Value} {φ : M → N}
    (hm : Tabulates R S m φ) : m.toList.length = Nat.card M := by
  rw [Assignment.length_toList, Assignment.size_eq hm.standing hG.faithful,
    hm.extent_keys hG.faithful, Set.ncard_univ]

/-- The keys of the pairs of a graph are pairs of it. -/
theorem exists_keyedEach (hG : G.Realizes R) (hH : H.Realizes S) {φ : M → N}
    {pairs : List (Value × Value)} (hpairs : ∀ p ∈ pairs, ∃ x, Paired R S p (x, φ x)) :
    ∃ keys, Value.keyedEach (pairs.map fun (k, v) => .tuple [k, v])
        = .ok (keys.map fun (k, v) => .tuple [k, v]) ∧
      List.Forall₂ (fun p q => ∃ z, Paired R S p z ∧ Paired R S q (id z)) pairs keys := by
  induction pairs with
  | nil => exact ⟨[], by rw [List.map_nil, Value.keyedEach], .nil⟩
  | cons p pairs ih =>
    obtain ⟨x, hx, hφx⟩ := hpairs p List.mem_cons_self
    obtain ⟨k, hk, hkx⟩ := hG.keyed_eq hx
    obtain ⟨l, hl, hlx⟩ := hH.keyed_eq hφx
    obtain ⟨keys, hkeys, hall⟩ := ih fun q hq => hpairs q (List.mem_cons_of_mem p hq)
    refine ⟨(k, l) :: keys, ?_, .cons ⟨(x, φ x), ⟨hx, hφx⟩, hkx, hlx⟩ hall⟩
    rw [List.map_cons, Value.keyedEach, keyed_pair hk hl, ok_bind, hkeys]
    rfl

namespace StandsForMap

variable {v w : Value} {φ ψ : M → N}

/-- A map that can be a key is one of the same function. -/
theorem keyed_spec (hG : G.Realizes R) (hH : H.Realizes S) (hv : StandsForMap G H R S v φ) :
    ∃ k, v.keyed = .ok k ∧ StandsForMap G H R S k φ := by
  obtain @⟨m, trace, _, hkey, hm⟩ := hv
  by_cases htrace : trace = .none
  · subst htrace
    obtain ⟨keys, hkeys, hall⟩ := exists_keyedEach hG hH fun p hp => hm.exists_of_mem hp
    have hpaired := hG.faithful.paired hH.faithful
    obtain ⟨hstand, hextent⟩ := hpaired.extent_of_forall₂ hpaired hall
    have htoList : (Assignment.ofList keys).toList = keys := by
      refine Assignment.toList_ofList (pairwise_of_forall₂ hall ?_ hm.pairwise_keys)
      rintro p q p' q' ⟨z, hz, hz'⟩ ⟨z', hw, hw'⟩ hne
      rw [← Bool.not_eq_true, hG.faithful hz.1 hw.1] at hne
      rwa [← Bool.not_eq_true, hG.faithful hz'.1 hw'.1]
    have hmapping : Value.ofAssignment (.ofList keys)
        = .mapping 0 (keys.map fun (k, v) => .tuple [k, v]) := by rw [Value.ofAssignment, htoList]
    refine ⟨.map G.value H.value (.ofAssignment (.ofList keys)) (.ofAssignment (.ofList keys)),
      ?_, .intro (by rw [hmapping]; rfl) ⟨by rwa [htoList], ?_⟩⟩
    · rw [hmapping, Value.ofAssignment, Value.keyed, hkeys]
      rfl
    · rw [htoList, hextent, Set.image_id, hm.graph]
  · -- the mapping by which it is known already stays
    have hknown : Value.keyImages (.ofAssignment m) trace = trace := by
      cases trace <;> first | rfl | exact absurd rfl htrace
    obtain rfl := hknown.symm.trans hkey
    exact ⟨_, rfl, .intro hkey hm⟩

/-- Maps between groups that are equal are found equal exactly if they are one function. -/
theorem equal_spec {G' H' : FiniteGroup} (hG : G.Realizes R) (hH : H.Realizes S)
    (hcompare : ComparesEntries S) (hsrc : G.value.equal G'.value = .ok true)
    (htgt : H.value.equal H'.value = .ok true) (hv : StandsForMap G H R S v φ)
    (hw : StandsForMap G' H' R S w ψ) :
    ∃ answer, v.equal w = .ok answer ∧ (answer = true ↔ φ = ψ) := by
  obtain ⟨-, hm⟩ := hv
  obtain ⟨-, hm'⟩ := hw
  obtain ⟨answer, hanswer, hiff⟩ := comparePairs_spec hG.faithful hH.faithful hcompare hm'
    fun p hp => hm.exists_of_mem hp
  refine ⟨answer, ?_, hiff.trans ?_⟩
  · rw [equal_value_eq] at hsrc htgt
    rw [Value.equal, if_neg (by simp [Value.isSimple]), Value.compare]
    simp only [hsrc, htgt, ok_bind, if_true]
    rw [Value.ofAssignment, Value.ofAssignment, Value.compare]
    simp only [List.length_map, hm.length_eq hG, hm'.length_eq hG, if_true]
    exact hanswer
  · rw [Assignment.map_fst_toList, hm.extent_keys hG.faithful]
    exact ⟨fun h => funext fun x => h x (Set.mem_univ x), fun h x _ => congrFun h x⟩

end StandsForMap

/-! ## Composition and inversion -/

theorem mapBetween_value (G H : FiniteGroup) (m : Assignment Value Value) :
    Value.mapBetween G.value H.value m = (do return (← GroupMap.ofAssignment G H m).value) := by
  show (do
    return Value.map G.value H.value
      (.ofAssignment (.ofList (← Value.tabulate G.els m))) .none) = _
  rw [GroupMap.ofAssignment]
  cases Value.tabulate G.els m <;> rfl

/-- An assignment that stands for a graph describes a map. -/
theorem Tabulates.mapBetween_spec (hG : G.Realizes R) (hH : H.Realizes S)
    {m : Assignment Value Value} {φ : M → N} (hm : Tabulates R S m φ) :
    ∃ f : GroupMap, Value.mapBetween G.value H.value m = .ok f.value ∧ f.src = G ∧ f.tgt = H ∧
      f.Sends R S φ := by
  obtain ⟨f, hf, hsrc, htgt, hsends⟩ := GroupMap.ofAssignment_spec hG hH hm.standing hm.graph
  exact ⟨f, by rw [mapBetween_value, hf]; rfl, hsrc, htgt, hsends⟩

/-- What is asked of each element of the target before a map is inverted. -/
def requireReached (back : Assignment Value Value) (refuse : Except Fault (ForInStep Unit))
    (h : Value) : Except Fault (ForInStep Unit) := do
  if !back.keys.contains (← h.keyed) then refuse else pure (.yield ())

/-- The text of a map names its groups. -/
theorem exists_plain (hG : G.Intact) (hH : H.Intact) (send trace : Value) :
    ∃ s, (Value.map G.value H.value send trace).plain = .ok s := by
  obtain ⟨s, hs⟩ := hG.text_eq
  obtain ⟨t, ht⟩ := hH.text_eq
  have hs := plain_value hs
  have ht := plain_value ht
  rw [Value.plain] at hs ht ⊢
  rw [Value.write.eq_def]
  simp only [hs, ht, ok_bind]
  exact ⟨_, rfl⟩

/-- What stands for `y` can be a key, and it is the same as what stands for `σ y`. -/
def Carried {N' : Type} (S : Value → N → Prop) (S' : Value → N' → Prop) (σ : N → N') : Prop :=
  ∀ ⦃b y⦄, S b y → (∃ l, b.keyed = .ok l) ∧ ∃ b', (b == b') = true ∧ S' b' (σ y)

theorem FiniteGroup.Realizes.carried_id (hG : G.Realizes R) : Carried R R id := by
  intro b y hb
  obtain ⟨l, hl, -⟩ := hG.keyed_eq hb
  exact ⟨⟨l, hl⟩, b, BEq.rfl, hb⟩

namespace StandsForMap

variable {v w : Value} {φ : M → N}

/-- A map is read from its value. -/
theorem ofValue?_spec (hG : G.Realizes R) (hH : H.Realizes S) (hv : StandsForMap G H R S v φ) :
    ∃ f, GroupMap.ofValue? v = some f ∧ f.src = G.reread ∧ f.tgt = H.reread ∧ f.Sends R S φ := by
  obtain @⟨m, trace, _, -, hm⟩ := hv
  have hsame := hm.of_toList (Value.toList_assignment m)
  refine ⟨⟨G.reread, H.reread, (Value.ofAssignment m).assignment⟩, ?_, rfl, rfl,
    hG.reread, hH.reread, hsame.standing, hsame.graph⟩
  rw [GroupMap.ofValue?, hG.intact.ofValue?_value, hH.intact.ofValue?_value]
  rfl

/-- Maps that fit are composed. The values of the first one are looked up in the second one, where
what is the same may be written in another way and stand for something in another group. -/
theorem compose_carried {N' : Type} {S' : Value → N' → Prop} {H' : FiniteGroup} {ψ : N' → P}
    {σ : N → N'} (hG : G.Realizes R) (hS' : Faithful S') (hK : K.Realizes T)
    (hmid : H.value.equal H'.value = .ok true) (hσ : Carried S S' σ)
    (hv : StandsForMap G H R S v φ) (hw : StandsForMap H' K S' T w ψ) :
    ∃ f : GroupMap, Value.composeMaps v w = .ok f.value ∧ f.src = G ∧ f.tgt = K ∧
      f.Sends R T (ψ ∘ σ ∘ φ) := by
  obtain @⟨m, trace, _, -, hm⟩ := hv
  obtain @⟨m', trace', _, -, hm'⟩ := hw
  -- the step of the run is found in the program by unification
  have hrun : ∃ pairs, Value.composeMaps (.map G.value H.value (.ofAssignment m) trace)
      (.map H'.value K.value (.ofAssignment m') trace') =
        Value.mapBetween G.value K.value (.ofList pairs) ∧
      List.Forall₂ (fun g p => ∃ x, R g x ∧ Paired R T p (x, (ψ ∘ σ ∘ φ) x)) G.els pairs := by
    rw [Value.composeMaps, hmid, ok_bind, if_pos rfl,
      show G.value.entries = .ok G.els from rfl, ok_bind]
    refine (exists_mapM G.els fun g hg => ?_).imp fun pairs ⟨hpairs, hall⟩ =>
      ⟨congrArg (· >>= _) hpairs, hall⟩
    obtain ⟨x, hx⟩ := hG.standing g hg
    obtain ⟨k, hk, hkx⟩ := hG.keyed_eq hx
    obtain ⟨b, hb, hbx⟩ := hm.get?_spec hG.faithful hkx
    obtain ⟨⟨l, hl⟩, b', hsame, hbx'⟩ := hσ hbx
    obtain ⟨c, hc, hcx⟩ := hm'.get?_spec hS' hbx'
    rw [← m'.get?_congr (BEq.trans (Value.beq_of_keyed hl) hsame)] at hc
    refine ⟨(g, c), ?_, x, hx, hx, hcx⟩
    simp only [hk, ok_bind, Value.get?_assignment, hb, hl, hc]
    rfl
  obtain ⟨pairs, hcompose, hall⟩ := hrun
  obtain ⟨hsends, -⟩ := GroupMap.sends_ofList hG hK hall
  obtain ⟨f, hf, hspec⟩ := hsends.tabulates.mapBetween_spec hG hK
  exact ⟨f, hcompose.trans hf, hspec⟩

/-- Maps between groups in which the same values stand for the same are composed. -/
theorem compose_spec {H' : FiniteGroup} {ψ : N → P} (hG : G.Realizes R) (hH' : H'.Realizes S)
    (hK : K.Realizes T) (hmid : H.value.equal H'.value = .ok true)
    (hv : StandsForMap G H R S v φ) (hw : StandsForMap H' K S T w ψ) :
    ∃ f : GroupMap, Value.composeMaps v w = .ok f.value ∧ f.src = G ∧ f.tgt = K ∧
      f.Sends R T (ψ ∘ φ) :=
  hv.compose_carried (σ := id) hG hH'.faithful hK hmid hH'.carried_id hw

/-- The product of maps is their composition, the right one first. -/
theorem times_spec {H' : FiniteGroup} {ψ : N → P} (hG : G.Realizes R) (hH' : H'.Realizes S)
    (hK : K.Realizes T) (hmid : H.value.equal H'.value = .ok true) (hw : StandsForMap H' K S T w ψ)
    (hv : StandsForMap G H R S v φ) :
    ∃ u, w.times v = .ok u ∧ StandsForMap G K R T u (ψ ∘ φ) := by
  obtain ⟨f, hf, rfl, rfl, hsends⟩ := hv.compose_spec hG hH' hK hmid hw
  obtain ⟨-, -⟩ := hv
  obtain ⟨-, -⟩ := hw
  exact ⟨f.value, hf, hsends.standsForMap⟩

/-- Whether the values of a map reach everything is found out element by element. -/
theorem surjective_cases (hH : H.Realizes S) {m back : Assignment Value Value}
    (hm : Tabulates R S m φ) (hback : back.toList = m.toList.map Prod.swap) {e : Fault}
    (refuse : Except Fault (ForInStep Unit)) (hrefuse : refuse = .error e) :
    (Function.Surjective φ ∧ forIn H.els () (fun h _ => requireReached back refuse h) = .ok ()) ∨
      ¬Function.Surjective φ ∧
        forIn H.els () (fun h _ => requireReached back refuse h) = .error e := by
  have hkeys : back.keys.toList = m.values.toList := by
    rw [← Assignment.map_fst_toList, hback, List.map_map, ← Assignment.map_snd_toList]
    rfl
  have hextent := hm.extent_values hH.faithful
  have hstand := hm.standing_values
  rw [← hkeys] at hextent hstand
  have hstep : ∀ h ∈ H.els,
      ((∀ y, S h y → y ∈ Set.range φ) ∧ requireReached back refuse h = .ok (.yield ())) ∨
        ¬(∀ y, S h y → y ∈ Set.range φ) ∧ requireReached back refuse h = .error e := by
    intro h hh
    obtain ⟨y, hy⟩ := hH.standing h hh
    obtain ⟨k, hk, hky⟩ := hH.keyed_eq hy
    have hiff := hH.faithful.contains_iff hstand hky
    rw [hextent] at hiff
    rw [requireReached, hk, ok_bind]
    cases hcontains : back.keys.contains k with
    | true => exact .inl ⟨fun z hz => hH.faithful.unique hy hz ▸ hiff.1 hcontains, rfl⟩
    | false =>
      refine .inr ⟨fun hall => ?_, hrefuse⟩
      rw [hiff.2 (hall y hy)] at hcontains
      exact Bool.noConfusion hcontains
  have hsurjective : (∀ h ∈ H.els, ∀ y, S h y → y ∈ Set.range φ) ↔ Function.Surjective φ := by
    constructor
    · intro hall y
      obtain ⟨h, hh, hy⟩ := hH.surjective y
      exact hall h hh y hy
    · exact fun hφ h _ y _ => hφ y
  rw [← hsurjective]
  exact forIn_cases hstep

/-- A map is inverted exactly if it is a bijection. -/
theorem inverse_cases (hG : G.Realizes R) (hH : H.Realizes S) (hv : StandsForMap G H R S v φ) :
    (∃ e : M ≃ N, ⇑e = φ ∧ ∃ f : GroupMap, v.inverseMap = .ok f.value ∧ f.src = H ∧ f.tgt = G ∧
        f.Sends S R e.symm) ∨
      ¬Function.Bijective φ ∧ ∃ e, v.inverseMap = .error e ∧ e.category = .precondition := by
  obtain @⟨m, trace, _, -, hm⟩ := hv
  obtain ⟨s, hs⟩ := exists_plain hG.intact hH.intact (.ofAssignment m) trace
  have hkeyed : ∀ p ∈ m.toList, ∃ k, p.2.keyed = .ok k := by
    intro p hp
    obtain ⟨x, hx⟩ := hm.exists_of_mem hp
    obtain ⟨k, hk, -⟩ := hH.keyed_eq hx.2
    exact ⟨k, hk⟩
  have hreversed := Value.reversed_cases
    (Value.map G.value H.value (.ofAssignment m) trace).plain hkeyed .empty
  have hinjective := hm.injective_iff hG.faithful hH.faithful
  have hempty : (Assignment.empty : Assignment Value Value).keys.toList = [] := rfl
  rw [hempty, List.nil_append, ← hinjective, ← Value.toList_assignment m] at hreversed
  rw [Value.inverseMap]
  obtain ⟨hφ, back, hrun, hback⟩ | ⟨hφ, hrun⟩ := hreversed
  · rw [Assignment.toList_empty, List.nil_append, Value.toList_assignment] at hback
    have hloop := surjective_cases (e := .notSurjective s) hH hm hback (do
      throw (.notSurjective (← (Value.map G.value H.value (.ofAssignment m) trace).plain))
      pure (.yield ())) (by rw [hs]; rfl)
    rw [hrun, ok_bind]
    obtain ⟨hsurjective, hloop⟩ | ⟨hsurjective, hloop⟩ := hloop
    · let e := Equiv.ofBijective φ ⟨hφ, hsurjective⟩
      have hswap := hm.swap hG.faithful hH.faithful (e := e) rfl hback
      obtain ⟨f, hf, hspec⟩ := hswap.mapBetween_spec hH hG
      refine .inl ⟨e, rfl, f, ?_, hspec⟩
      rw [← hf]
      exact congrArg (· >>= fun _ => Value.mapBetween H.value G.value back) hloop
    · refine .inr ⟨fun h => hsurjective h.2, .notSurjective s, ?_, rfl⟩
      exact congrArg (· >>= fun _ => Value.mapBetween H.value G.value back) hloop
  · refine .inr ⟨fun h => hφ h.1, .notInjective s, ?_, rfl⟩
    rw [hrun, hs]
    rfl

theorem inverse_spec {e : M ≃ N} (hG : G.Realizes R) (hH : H.Realizes S)
    (hv : StandsForMap G H R S v e) :
    ∃ u, v.inverseMap = .ok u ∧ StandsForMap H G S R u e.symm := by
  obtain ⟨e', he, f, hf, rfl, rfl, hsends⟩ | ⟨hnot, -⟩ := hv.inverse_cases hG hH
  · obtain rfl := DFunLike.coe_injective he
    exact ⟨f.value, hf, hsends.standsForMap⟩
  · exact absurd e.bijective hnot

end StandsForMap

end FiniteGroups
