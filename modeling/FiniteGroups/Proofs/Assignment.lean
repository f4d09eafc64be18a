import FiniteGroups.Assignment
import FiniteGroups.Proofs.Extent

/-!
# Assignments as lists of pairs

An assignment is read as the list of its keys with their values, in which every key is written
once. The value of a key is the one that stands beside it (`Assignment.get?_eq_some_iff`), a new
key goes to the end (`Assignment.toList_push`), and a list of pairs without repeated keys is the
list of its assignment (`Assignment.toList_ofList`).

When keys and values stand for something, so do the pairs (`Paired`), and an assignment stands for
the graph of a function : its `extent`. A key has at most one value there
(`Assignment.graph_unique`).
-/

set_option linter.unusedSectionVars false

namespace FiniteGroups

namespace Assignment

variable {α β : Type} [BEq α] [Hashable α]

@[simp] theorem toList_empty : (empty : Assignment α β).toList = [] :=
  rfl

theorem length_values (m : Assignment α β) : m.values.toList.length = m.keys.toList.length :=
  m.aligned

@[simp] theorem map_fst_toList (m : Assignment α β) : m.toList.map Prod.fst = m.keys.toList :=
  List.map_fst_zip m.length_values.ge

@[simp] theorem map_snd_toList (m : Assignment α β) : m.toList.map Prod.snd = m.values.toList :=
  List.map_snd_zip m.length_values.le

@[simp] theorem length_toList (m : Assignment α β) : m.toList.length = m.size := by
  rw [← List.length_map Prod.fst, map_fst_toList]
  rfl

theorem since_eq_drop (m : Assignment α β) (i : Nat) : m.since i = m.toList.drop i := by
  have hvalues : (m.values.extract i m.values.size).toList = m.values.toList.drop i := by
    rw [Array.toList_extract, List.extract_eq_take_drop, List.take_of_length_le (by simp)]
  rw [since, toList, Roster.since_eq_drop, hvalues]
  exact List.drop_zipWith.symm

theorem mem_keys {m : Assignment α β} {p : α × β} (hp : p ∈ m.toList) : p.1 ∈ m.keys.toList := by
  rw [← map_fst_toList]
  exact List.mem_map_of_mem hp

variable [EquivBEq α] [LawfulHashable α]

/-- The value of a key stands beside it in the list. -/
theorem get?_eq_some_iff {m : Assignment α β} {a : α} {b : β} :
    m.get? a = some b ↔ ∃ k, (k, b) ∈ m.toList ∧ (k == a) = true := by
  rw [get?, Option.bind_eq_some_iff]
  constructor
  · rintro ⟨i, hi, hb⟩
    obtain ⟨hlt, hk⟩ := Roster.find?_eq_some_iff.1 hi
    obtain ⟨hlt', rfl⟩ := Array.getElem?_eq_some_iff.1 hb
    refine ⟨m.keys.toList[i], List.mem_iff_getElem.2 ⟨i, ?_, ?_⟩, hk⟩
    · rw [length_toList]
      exact hlt
    · simp [toList]
  · rintro ⟨k, hk, hka⟩
    obtain ⟨i, hi, hp⟩ := List.getElem_of_mem hk
    simp only [toList, List.getElem_zip, Prod.mk.injEq] at hp
    obtain ⟨rfl, rfl⟩ := hp
    have hlt : i < m.keys.toList.length := by rwa [length_toList] at hi
    exact ⟨i, Roster.find?_eq_some_iff.2 ⟨hlt, hka⟩, by simp⟩

theorem get?_congr (m : Assignment α β) {a a' : α} (h : (a == a') = true) :
    m.get? a = m.get? a' := by
  rw [get?, get?, m.keys.find?_congr h]

theorem get?_empty (a : α) : (empty : Assignment α β).get? a = none := by
  rw [← Option.not_isSome_iff_eq_none, Option.isSome_iff_exists]
  rintro ⟨b, hb⟩
  obtain ⟨k, hk, -⟩ := get?_eq_some_iff.1 hb
  cases hk

theorem exists_get?_of_contains {m : Assignment α β} {a : α} (h : m.keys.contains a = true) :
    ∃ b, m.get? a = some b := by
  obtain ⟨k, hk, hka⟩ := Roster.contains_iff.1 h
  rw [← map_fst_toList] at hk
  obtain ⟨p, hp, rfl⟩ := List.mem_map.1 hk
  exact ⟨p.2, get?_eq_some_iff.2 ⟨p.1, hp, hka⟩⟩

/-! ## New pairs -/

/-- A new key goes to the end. -/
theorem toList_push (m : Assignment α β) (a : α) (b : β) (new : m.keys.contains a = false) :
    (m.push a b new).toList = m.toList ++ [(a, b)] := by
  show (m.keys.push a new).toList.zip (m.values.push b).toList = _
  rw [Roster.toList_push, Array.toList_push, List.zip_append m.length_values.symm]
  rfl

theorem toList_set_of_new {m : Assignment α β} {a : α} (b : β)
    (new : m.keys.contains a = false) : (m.set a b).toList = m.toList ++ [(a, b)] := by
  rw [set, dif_pos new, toList_push]

/-- A pair of the new assignment is an old one, or an old key with the new value. -/
theorem mem_toList_set_of_old {m : Assignment α β} {a : α} {b : β} {p : α × β}
    (old : m.keys.contains a = true) (hp : p ∈ (m.set a b).toList) :
    p ∈ m.toList ∨ p.1 ∈ m.keys.toList ∧ (p.1 == a) = true ∧ p.2 = b := by
  obtain ⟨i, hi, rfl⟩ := List.getElem_of_mem hp
  have hset : (m.set a b).toList =
      m.keys.toList.zip (m.values.toList.set ((m.keys.find? a).getD 0) b) := by
    rw [set, dif_neg (by simp [old]), toList, Array.toList_setIfInBounds]
  simp only [hset, List.getElem_zip, List.getElem_set]
  simp only [hset, List.length_zip, List.length_set, Nat.lt_min] at hi
  obtain ⟨hlt, hlt'⟩ := hi
  split
  · next hfound =>
    obtain ⟨j, hj⟩ : ∃ j, m.keys.find? a = some j := by
      rw [← Option.isSome_iff_exists, ← Option.ne_none_iff_isSome, Ne, Roster.find?_eq_none_iff,
        old]
      simp
    rw [hj, Option.getD_some] at hfound
    subst hfound
    obtain ⟨_, hk⟩ := Roster.find?_eq_some_iff.1 hj
    exact Or.inr ⟨List.getElem_mem _, hk, rfl⟩
  · refine Or.inl (List.mem_iff_getElem.2 ⟨i, ?_, ?_⟩)
    · rw [length_toList]
      exact hlt
    · simp [toList]

theorem get?_push {m : Assignment α β} {a : α} (b : β) (new : m.keys.contains a = false) (a' : α) :
    (m.push a b new).get? a' = if a == a' then some b else m.get? a' := by
  show ((m.keys.push a new).find? a').bind ((m.values.push b)[·]?) = _
  rw [Roster.find?_push]
  split
  · rw [Option.bind_some, ← m.aligned, Array.getElem?_push_size]
  · rw [get?]
    cases hfind : m.keys.find? a' with
    | none => rfl
    | some i =>
      have hi : i < m.values.size := by
        obtain ⟨hi, -⟩ := Roster.find?_eq_some_iff.1 hfind
        rwa [m.aligned, ← Roster.length_toList]
      rw [Option.bind_some, Option.bind_some, Array.getElem?_push_lt hi,
        Array.getElem?_eq_getElem hi]

/-- A key has the value that it was given, and other keys have the values that they had. -/
theorem get?_set (m : Assignment α β) (a : α) (b : β) (a' : α) :
    (m.set a b).get? a' = if a == a' then some b else m.get? a' := by
  cases hnew : m.keys.contains a with
  | false => rw [set, dif_pos hnew, get?_push]
  | true =>
    obtain ⟨j, hj⟩ : ∃ j, m.keys.find? a = some j := by
      rw [← Option.isSome_iff_exists, ← Option.ne_none_iff_isSome, Ne, Roster.find?_eq_none_iff,
        hnew]
      simp
    obtain ⟨hlt, hja⟩ := Roster.find?_eq_some_iff.1 hj
    rw [Roster.length_toList, ← m.aligned] at hlt
    have hget : (m.set a b).get? a' =
        (m.keys.find? a').bind ((m.values.setIfInBounds j b)[·]?) := by
      have hplace : (m.keys.find? a).getD 0 = j := by rw [hj]; rfl
      rw [set, dif_neg (by simp [hnew])]
      show (m.keys.find? a').bind ((m.values.setIfInBounds ((m.keys.find? a).getD 0) b)[·]?) = _
      rw [hplace]
    rw [hget]
    split
    · next heq =>
      rw [← m.keys.find?_congr heq, hj, Option.bind_some,
        Array.getElem?_setIfInBounds_self_of_lt hlt]
    · next hne =>
      rw [get?]
      cases hfind : m.keys.find? a' with
      | none => rfl
      | some i =>
        -- at the place of the key stands no other one
        have hij : j ≠ i := by
          rintro rfl
          obtain ⟨_, hia⟩ := Roster.find?_eq_some_iff.1 hfind
          exact hne (BEq.trans (BEq.symm hja) hia)
        rw [Option.bind_some, Option.bind_some, Array.getElem?_setIfInBounds_ne hij]

theorem toList_foldl_set {xs : List (α × β)}
    (hxs : xs.Pairwise fun p q => (p.1 == q.1) = false) :
    ∀ m : Assignment α β, (∀ p ∈ xs, m.keys.contains p.1 = false) →
      (xs.foldl (fun m p => m.set p.1 p.2) m).toList = m.toList ++ xs := by
  induction xs with
  | nil => simp
  | cons p xs ih =>
    intro m hnew
    obtain ⟨hp, hxs⟩ := List.pairwise_cons.1 hxs
    have hpnew := hnew p (by simp)
    rw [List.foldl_cons, ih hxs, toList_set_of_new _ hpnew, List.append_assoc,
      List.singleton_append]
    intro q hq
    rw [set, dif_pos hpnew, ← Bool.not_eq_true]
    show ¬(m.keys.push p.1 hpnew).contains q.1 = true
    rw [Roster.contains_push, hnew q (by simp [hq]), hp q hq]
    simp

/-- A list of pairs without repeated keys is the list of its assignment. -/
theorem toList_ofList {xs : List (α × β)}
    (hxs : xs.Pairwise fun p q => (p.1 == q.1) = false) : (ofList xs).toList = xs := by
  rw [ofList, toList_foldl_set hxs _ fun p _ => Roster.contains_empty p.1]
  rfl

theorem get?_singleton (a : α) (b : β) : (ofList [(a, b)]).get? a = some b := by
  refine get?_eq_some_iff.2 ⟨a, ?_, BEq.rfl⟩
  rw [toList_ofList (by simp)]
  simp

theorem get?_ofList_concat (xs : List (α × β)) (p : α × β) (a : α) :
    (ofList (xs ++ [p])).get? a = if p.1 == a then some p.2 else (ofList xs).get? a := by
  rw [ofList, List.foldl_concat, get?_set, ofList]

/-- A key that does not come up again keeps its value. -/
theorem get?_ofList_append {xs ys : List (α × β)} {a : α} (h : ∀ p ∈ ys, (p.1 == a) = false) :
    (ofList (xs ++ ys)).get? a = (ofList xs).get? a := by
  induction ys using List.reverseRecOn with
  | nil => rw [List.append_nil]
  | append_singleton ys p ih =>
    rw [← List.append_assoc, get?_ofList_concat, h p (by simp), if_neg Bool.false_ne_true]
    exact ih fun q hq => h q (List.mem_append_left [p] hq)

/-- A key that is in a list of pairs has the value of some pair of the list. -/
theorem exists_get?_ofList {xs : List (α × β)} {a : α} (h : ∃ p ∈ xs, (p.1 == a) = true) :
    ∃ p ∈ xs, (ofList xs).get? a = some p.2 := by
  induction xs using List.reverseRecOn with
  | nil => simp at h
  | append_singleton xs p ih =>
    by_cases hp : (p.1 == a) = true
    · exact ⟨p, by simp, by rw [get?_ofList_concat, if_pos hp]⟩
    · obtain ⟨q, hq, hqa⟩ := h
      rw [List.mem_append, List.mem_singleton] at hq
      obtain ⟨q', hq', hget⟩ := ih ⟨q, hq.resolve_right fun h => hp (h ▸ hqa), hqa⟩
      exact ⟨q', List.mem_append_left [p] hq', by rw [get?_ofList_concat, if_neg hp, hget]⟩

end Assignment

/-! ## Graphs -/

section Paired

variable {α β M N : Type} {R : α → M → Prop} {S : β → N → Prop}

/-- A pair stands for what its members stand for. -/
def Paired (R : α → M → Prop) (S : β → N → Prop) (p : α × β) (z : M × N) : Prop :=
  R p.1 z.1 ∧ S p.2 z.2

variable [BEq α] [Hashable α] [EquivBEq α] [LawfulHashable α] [BEq β] [EquivBEq β]

instance instEquivBEqProd : EquivBEq (α × β) where
  rfl := Bool.and_eq_true_iff.2 ⟨BEq.rfl, BEq.rfl⟩
  symm h := by
    obtain ⟨h, h'⟩ := Bool.and_eq_true_iff.1 h
    exact Bool.and_eq_true_iff.2 ⟨BEq.symm h, BEq.symm h'⟩
  trans h k := by
    obtain ⟨h, h'⟩ := Bool.and_eq_true_iff.1 h
    obtain ⟨k, k'⟩ := Bool.and_eq_true_iff.1 k
    exact Bool.and_eq_true_iff.2 ⟨BEq.trans h k, BEq.trans h' k'⟩

theorem Faithful.paired (hR : Faithful R) (hS : Faithful S) : Faithful (Paired R S) := by
  rintro ⟨a, b⟩ ⟨a', b'⟩ ⟨x, y⟩ ⟨x', y'⟩ ⟨hx, hy⟩ ⟨hx', hy'⟩
  show ((a == a' && b == b') = true) ↔ _
  rw [Bool.and_eq_true, hR hx hx', hS hy hy', Prod.mk.injEq]

namespace Assignment

variable {m : Assignment α β}

theorem standing_keys (hm : Standing (Paired R S) m.toList) : Standing R m.keys.toList := by
  intro a ha
  rw [← map_fst_toList] at ha
  obtain ⟨p, hp, rfl⟩ := List.mem_map.1 ha
  obtain ⟨z, hz, -⟩ := hm p hp
  exact ⟨z.1, hz⟩

theorem extent_keys (hm : Standing (Paired R S) m.toList) (hR : Faithful R) :
    extent R m.keys.toList = Prod.fst '' extent (Paired R S) m.toList := by
  ext x
  constructor
  · rintro ⟨a, ha, hx⟩
    rw [← map_fst_toList] at ha
    obtain ⟨p, hp, rfl⟩ := List.mem_map.1 ha
    obtain ⟨z, hz⟩ := hm p hp
    exact ⟨z, ⟨p, hp, hz⟩, hR.unique hz.1 hx⟩
  · rintro ⟨z, ⟨p, hp, hz⟩, rfl⟩
    exact ⟨p.1, mem_keys hp, hz.1⟩

/-- The value that is found for a key is the one in the graph. -/
theorem exists_get?_iff (hm : Standing (Paired R S) m.toList) (hR : Faithful R)
    {a : α} {x : M} (ha : R a x) {y : N} :
    (∃ b, m.get? a = some b ∧ S b y) ↔ (x, y) ∈ extent (Paired R S) m.toList := by
  constructor
  · rintro ⟨b, hb, hy⟩
    obtain ⟨k, hk, hka⟩ := get?_eq_some_iff.1 hb
    obtain ⟨z, hz⟩ := hm _ hk
    exact ⟨_, hk, (hR hz.1 ha).1 hka ▸ hz.1, hy⟩
  · rintro ⟨p, hp, hx, hy⟩
    exact ⟨p.2, get?_eq_some_iff.2 ⟨p.1, hp, (hR hx ha).2 rfl⟩, hy⟩

/-- A graph has one value for a key at most. -/
theorem graph_unique (hm : Standing (Paired R S) m.toList) (hR : Faithful R) (hS : Faithful S)
    {x : M} {y y' : N} (hy : (x, y) ∈ extent (Paired R S) m.toList)
    (hy' : (x, y') ∈ extent (Paired R S) m.toList) : y = y' := by
  obtain ⟨p, hp, hpx, hpy⟩ := hy
  obtain ⟨b, hb, hby⟩ := (exists_get?_iff hm hR hpx).2 ⟨p, hp, hpx, hpy⟩
  obtain ⟨b', hb', hby'⟩ := (exists_get?_iff hm hR hpx).2 hy'
  rw [hb] at hb'
  obtain rfl := Option.some.inj hb'
  exact hS.unique hby hby'

/-- What is looked up is new, or it has an image in the graph. -/
theorem get?_cases (hm : Standing (Paired R S) m.toList) (hR : Faithful R) {a : α} {x : M}
    (ha : R a x) : (m.keys.contains a = false ∧ m.get? a = none) ∨
      m.keys.contains a = true ∧
        ∃ b y, m.get? a = some b ∧ S b y ∧ (x, y) ∈ extent (Paired R S) m.toList := by
  cases hcontains : m.keys.contains a with
  | false =>
    refine Or.inl ⟨rfl, ?_⟩
    rw [get?, Roster.find?_eq_none_iff.2 hcontains, Option.bind_none]
  | true =>
    obtain ⟨b, hb⟩ := exists_get?_of_contains hcontains
    obtain ⟨k, hk, hka⟩ := get?_eq_some_iff.1 hb
    obtain ⟨⟨x', y⟩, hx', hy⟩ := hm _ hk
    obtain rfl := (hR hx' ha).1 hka
    exact Or.inr ⟨rfl, b, y, hb, hy, _, hk, hx', hy⟩

theorem size_eq (hm : Standing (Paired R S) m.toList) (hR : Faithful R) :
    m.size = (extent R m.keys.toList).ncard :=
  (hR.ncard_extent (standing_keys hm)).symm

theorem graph_set_of_new (hm : Standing (Paired R S) m.toList) (hR : Faithful R)
    (hS : Faithful S) {a : α} {b : β} {x : M} {y : N} (ha : R a x) (hb : S b y)
    (new : m.keys.contains a = false) :
    Standing (Paired R S) (m.set a b).toList ∧
      extent (Paired R S) (m.set a b).toList = insert (x, y) (extent (Paired R S) m.toList) := by
  have hab : Paired R S (a, b) (x, y) := ⟨ha, hb⟩
  rw [toList_set_of_new b new, extent_append, (hR.paired hS).extent_singleton hab,
    Set.union_singleton]
  exact ⟨hm.append (standing_singleton hab), rfl⟩

/-- A key may be given the value that it has already. -/
theorem graph_set_of_mem (hm : Standing (Paired R S) m.toList) (hR : Faithful R)
    (hS : Faithful S) {a : α} {b : β} {x : M} {y : N} (ha : R a x) (hb : S b y)
    (hxy : (x, y) ∈ extent (Paired R S) m.toList) :
    Standing (Paired R S) (m.set a b).toList ∧
      extent (Paired R S) (m.set a b).toList = extent (Paired R S) m.toList := by
  obtain ⟨c, hc, hcy⟩ := (exists_get?_iff hm hR ha).2 hxy
  obtain ⟨k, hk, hka⟩ := get?_eq_some_iff.1 hc
  have old : m.keys.contains a = true := Roster.contains_iff.2 ⟨k, mem_keys hk, hka⟩
  have hkeys : (m.set a b).keys = m.keys := by
    rw [set, dif_neg (by simp [old])]
  -- a pair of the new list stands for one that is there already
  have hpair : ∀ p ∈ (m.set a b).toList, ∃ z ∈ extent (Paired R S) m.toList, Paired R S p z := by
    intro p hp
    rcases mem_toList_set_of_old old hp with hp | ⟨hp, hpa, hpb⟩
    · obtain ⟨z, hz⟩ := hm p hp
      exact ⟨z, ⟨p, hp, hz⟩, hz⟩
    · obtain ⟨x', hx'⟩ := standing_keys hm p.1 hp
      obtain rfl := (hR hx' ha).1 hpa
      exact ⟨(x', y), hxy, hx', hpb ▸ hb⟩
  have hstand : Standing (Paired R S) (m.set a b).toList := by
    intro p hp
    obtain ⟨z, -, hz⟩ := hpair p hp
    exact ⟨z, hz⟩
  refine ⟨hstand, Set.Subset.antisymm ?_ ?_⟩
  · rintro z ⟨p, hp, hz⟩
    obtain ⟨z', hz', hpz'⟩ := hpair p hp
    rwa [(hR.paired hS).unique hz hpz']
  · rintro ⟨x', y'⟩ hz
    -- the key is there, and what it has is what it had
    have hx' : x' ∈ extent R (m.set a b).keys.toList := by
      rw [hkeys, extent_keys hm hR]
      exact ⟨_, hz, rfl⟩
    rw [extent_keys hstand hR] at hx'
    obtain ⟨⟨_, y''⟩, ⟨p, hp, hpz⟩, rfl⟩ := hx'
    obtain ⟨z', hz', hpz'⟩ := hpair p hp
    rw [← (hR.paired hS).unique hpz hpz'] at hz'
    rw [← graph_unique hm hR hS hz' hz]
    exact ⟨p, hp, hpz⟩

end Assignment

end Paired

end FiniteGroups
