import FiniteGroups.Roster
import Mathlib.Data.Fintype.EquivFin
import Mathlib.Data.List.Pairwise

/-!
# Rosters as lists and as sets

Every question about a roster is a question about its list of members. Membership in a roster that
is built from a list is membership in the list up to `==` (`Roster.contains_ofList`), a list
without repetitions is left as it is (`Roster.toList_ofList`), and two rosters with the same
members have the same size (`Roster.sameSet_iff`).
-/

set_option linter.unusedSectionVars false

namespace FiniteGroups.Roster

variable {α : Type} [BEq α] [Hashable α]

@[simp] theorem toList_empty : (empty : Roster α).toList = [] :=
  rfl

@[simp] theorem length_toList (r : Roster α) : r.toList.length = r.size :=
  rfl

theorem pairwise_toList (r : Roster α) : r.toList.Pairwise fun a b => (a == b) = false :=
  r.distinct

theorem since_eq_drop (r : Roster α) (i : Nat) : r.since i = r.toList.drop i := by
  rw [since, Array.toList_extract, List.extract_eq_take_drop, toList, ← Array.length_toList]
  exact List.take_of_length_le (by simp)

theorem get?_eq_getElem? (r : Roster α) (i : Nat) : r.get? i = r.toList[i]? := by
  rw [get?, toList, Array.getElem?_toList]

theorem find?_eq_findIdx? (r : Roster α) (a : α) : r.find? a = r.toList.findIdx? (· == a) := by
  rw [find?_eq, toList]
  have hitems : r.items = r.items.toList.toArray := Array.toArray_toList.symm
  conv_lhs => rw [hitems]
  exact List.findIdx?_toArray ..

variable [EquivBEq α] [LawfulHashable α]

theorem contains_of_mem {r : Roster α} {a : α} (h : a ∈ r.toList) : r.contains a = true :=
  contains_iff.2 ⟨a, h, BEq.rfl⟩

/-- Members that are equal are one. -/
theorem eq_of_beq {r : Roster α} {a b : α} (ha : a ∈ r.toList) (hb : b ∈ r.toList)
    (h : (a == b) = true) : a = b := by
  have : Std.Symm fun x y : α => (x == y) = false := ⟨fun x y hxy => by rwa [BEq.comm]⟩
  by_contra hne
  rw [r.pairwise_toList.forall ha hb hne] at h
  exact Bool.noConfusion h

theorem nodup_toList (r : Roster α) : r.toList.Nodup :=
  r.pairwise_toList.imp fun h => by
    rintro rfl
    simp at h

/-- The position of a value is where the member equal to it stands. -/
theorem find?_eq_some_iff {r : Roster α} {a : α} {i : Nat} :
    r.find? a = some i ↔ ∃ h : i < r.toList.length, (r.toList[i] == a) = true := by
  rw [find?_eq_findIdx?, List.findIdx?_eq_some_iff_getElem]
  constructor
  · rintro ⟨h, hi, -⟩
    exact ⟨h, hi⟩
  · rintro ⟨h, hi⟩
    refine ⟨h, hi, fun j hj hji => ?_⟩
    have hne := List.pairwise_iff_getElem.1 r.pairwise_toList j i (by omega) h hj
    rw [BEq.trans hji (BEq.symm hi)] at hne
    exact Bool.noConfusion hne

theorem find?_push {r : Roster α} {a : α} (new : r.contains a = false) (b : α) :
    (r.push a new).find? b = if a == b then some r.size else r.find? b :=
  Std.HashMap.getElem?_insert

theorem find?_eq_none_iff {r : Roster α} {a : α} : r.find? a = none ↔ r.contains a = false := by
  rw [find?_eq_findIdx?, List.findIdx?_eq_none_iff, ← Bool.not_eq_true, contains_iff]
  simp

/-! ## Newcomers -/

theorem contains_push {r : Roster α} {a b : α} (new : r.contains a = false) :
    (r.push a new).contains b = true ↔ r.contains b = true ∨ (a == b) = true := by
  rw [contains_iff, contains_iff, toList_push]
  simp [or_and_right, exists_or]

theorem contains_insert {r : Roster α} {a b : α} :
    (r.insert a).contains b = true ↔ r.contains b = true ∨ (a == b) = true := by
  unfold insert
  split
  · next h => exact ⟨Or.inl, fun hb => hb.elim id fun hab => by rwa [← r.contains_congr hab]⟩
  · exact contains_push _

theorem contains_foldl_insert (xs : List α) {a : α} :
    ∀ {r : Roster α}, (xs.foldl insert r).contains a = true ↔
      r.contains a = true ∨ ∃ x ∈ xs, (x == a) = true := by
  induction xs with
  | nil => simp
  | cons x xs ih =>
    intro r
    rw [List.foldl_cons, ih, contains_insert]
    simp [or_assoc]

theorem mem_of_mem_foldl_insert (xs : List α) {a : α} :
    ∀ {r : Roster α}, a ∈ (xs.foldl insert r).toList → a ∈ r.toList ∨ a ∈ xs := by
  induction xs with
  | nil => exact Or.inl
  | cons x xs ih =>
    intro r h
    rcases ih h with h | h
    · rw [toList_insert] at h
      split at h
      · exact Or.inl h
      · rcases List.mem_append.1 h with h | h
        · exact Or.inl h
        · exact Or.inr (by rw [List.mem_singleton.1 h]; simp)
    · exact Or.inr (List.mem_cons_of_mem x h)

/-- Of newcomers that are all different, those that are not there yet go to the end. -/
theorem toList_foldl_insert {xs : List α} (hxs : xs.Pairwise fun a b => (a == b) = false) :
    ∀ r : Roster α, (xs.foldl insert r).toList = r.toList ++ xs.filter fun a => !r.contains a := by
  induction xs with
  | nil => simp
  | cons x xs ih =>
    intro r
    obtain ⟨hx, hxs⟩ := List.pairwise_cons.1 hxs
    rw [List.foldl_cons, ih hxs, toList_insert]
    have hkeep : (xs.filter fun a => !(r.insert x).contains a) =
        xs.filter fun a => !r.contains a := by
      refine List.filter_congr fun a ha => ?_
      congr 1
      rw [Bool.eq_iff_iff, contains_insert, hx a ha]
      simp
    rw [hkeep]
    cases h : r.contains x <;> simp [h]

theorem contains_empty (a : α) : (empty : Roster α).contains a = false := by
  simp [contains, empty]

theorem contains_ofList {xs : List α} {a : α} :
    (ofList xs).contains a = true ↔ ∃ x ∈ xs, (x == a) = true := by
  rw [ofList, contains_foldl_insert, contains_empty]
  simp

/-- Newcomers that are all there already change nothing. -/
theorem foldl_insert_of_contains {xs : List α} :
    ∀ {r : Roster α}, (∀ x ∈ xs, r.contains x = true) → xs.foldl insert r = r := by
  induction xs with
  | nil => exact fun _ => rfl
  | cons x xs ih =>
    intro r h
    rw [List.foldl_cons, insert, dif_pos (h x (by simp))]
    exact ih fun y hy => h y (List.mem_cons_of_mem x hy)

/-- What is equal to something before it adds nothing. -/
theorem ofList_append {xs ys : List α} (h : ∀ y ∈ ys, ∃ x ∈ xs, (x == y) = true) :
    ofList (xs ++ ys) = ofList xs := by
  rw [ofList, List.foldl_append]
  exact foldl_insert_of_contains fun y hy => contains_ofList.2 (h y hy)

theorem mem_of_mem_ofList {xs : List α} {a : α} (h : a ∈ (ofList xs).toList) : a ∈ xs := by
  simpa using mem_of_mem_foldl_insert xs h

/-- A list without repetitions is the list of its roster. -/
theorem toList_ofList {xs : List α} (hxs : xs.Pairwise fun a b => (a == b) = false) :
    (ofList xs).toList = xs := by
  rw [ofList, toList_foldl_insert hxs]
  simp [contains_empty]

/-- What is promoted goes to the front, and what is equal to it leaves its place. -/
theorem toList_promote {r : Roster α} {a : α} (h : r.contains a = true) :
    (r.promote a).toList = a :: r.toList.filter fun b => !(a == b) := by
  have hone : (insert empty a).toList = [a] := by rw [toList_insert, contains_empty]; simp
  rw [promote, if_pos h, ofList, List.foldl_cons, toList_foldl_insert r.pairwise_toList, hone,
    List.singleton_append]
  congr 1
  refine List.filter_congr fun b _ => ?_
  congr 1
  rw [Bool.eq_iff_iff, contains_insert, contains_empty]
  simp

theorem contains_promote {r : Roster α} {a b : α} :
    (r.promote a).contains b = r.contains b := by
  rw [promote]
  split
  · next h =>
    rw [Bool.eq_iff_iff, contains_ofList]
    constructor
    · rintro ⟨x, hx, hxb⟩
      rcases List.mem_cons.1 hx with rfl | hx
      · rwa [← r.contains_congr hxb]
      · exact contains_iff.2 ⟨x, hx, hxb⟩
    · intro hb
      obtain ⟨x, hx, hxb⟩ := contains_iff.1 hb
      exact ⟨x, List.mem_cons_of_mem a hx, hxb⟩
  · rfl

/-- A member that was promoted stands in front as it is written. -/
theorem head?_promote {r : Roster α} {a : α} (h : (r.promote a).contains a = true) :
    (r.promote a).toList.head? = some a := by
  rw [List.head?_eq_getElem?, ← get?_eq_getElem?]
  exact get?_promote h

theorem mem_of_mem_promote {r : Roster α} {a b : α} (h : b ∈ (r.promote a).toList) :
    b = a ∨ b ∈ r.toList := by
  rw [promote] at h
  split at h
  · exact List.mem_cons.1 (mem_of_mem_ofList h)
  · exact Or.inr h

/-! ## Rosters as sets -/

theorem subset_iff {r s : Roster α} :
    r.subset s = true ↔ ∀ a, r.contains a = true → s.contains a = true := by
  have hall : r.subset s = true ↔ ∀ b ∈ r.toList, s.contains b = true := by
    rw [subset, Array.all_eq_true_iff_forall_mem]
    simp [toList]
  rw [hall]
  constructor
  · intro h a ha
    obtain ⟨b, hb, hba⟩ := contains_iff.1 ha
    rw [← s.contains_congr hba]
    exact h b hb
  · exact fun h b hb => h b (contains_of_mem hb)

/-- A roster whose members are members of another one takes different places in it. -/
theorem exists_embedding {r s : Roster α}
    (h : ∀ a, r.contains a = true → s.contains a = true) :
    ∃ f : Fin r.toList.length → Fin s.toList.length, Function.Injective f ∧
      ∀ i, (s.toList[f i] == r.toList[i]) = true := by
  have hplace : ∀ i : Fin r.toList.length, ∃ j : Fin s.toList.length,
      (s.toList[j] == r.toList[i]) = true := by
    intro i
    obtain ⟨b, hb, hbi⟩ := contains_iff.1 (h _ (contains_of_mem (List.getElem_mem i.2)))
    obtain ⟨j, hj, rfl⟩ := List.getElem_of_mem hb
    exact ⟨⟨j, hj⟩, hbi⟩
  choose f hf using hplace
  refine ⟨f, fun i j hij => ?_, hf⟩
  have hi := hf i
  simp only [hij] at hi
  have := eq_of_beq (List.getElem_mem i.2) (List.getElem_mem j.2) (BEq.trans (BEq.symm hi) (hf j))
  exact Fin.ext ((r.nodup_toList.getElem_inj_iff).1 this)

theorem size_le_of_subset {r s : Roster α} (h : ∀ a, r.contains a = true → s.contains a = true) :
    r.size ≤ s.size := by
  obtain ⟨f, hf, -⟩ := exists_embedding h
  have hcard := Fintype.card_le_of_injective f hf
  rwa [Fintype.card_fin, Fintype.card_fin] at hcard

/-- Two rosters are the same set when they have the same members. -/
theorem sameSet_iff {r s : Roster α} :
    r.sameSet s = true ↔ ∀ a, r.contains a = s.contains a := by
  rw [sameSet, Bool.and_eq_true, beq_iff_eq, subset_iff]
  constructor
  · rintro ⟨hsize, hsub⟩ a
    refine Bool.eq_iff_iff.2 ⟨hsub a, fun ha => ?_⟩
    obtain ⟨f, hf, hfs⟩ := exists_embedding hsub
    obtain ⟨b, hb, hba⟩ := contains_iff.1 ha
    obtain ⟨j, hj, rfl⟩ := List.getElem_of_mem hb
    have hcard : Fintype.card (Fin r.toList.length) = Fintype.card (Fin s.toList.length) := by
      rw [Fintype.card_fin, Fintype.card_fin]
      exact hsize
    obtain ⟨i, hi⟩ := ((Fintype.bijective_iff_injective_and_card f).2 ⟨hf, hcard⟩).2 ⟨j, hj⟩
    have hji := hfs i
    simp only [hi] at hji
    exact contains_iff.2 ⟨_, List.getElem_mem i.2, BEq.trans (BEq.symm hji) hba⟩
  · intro h
    have hrs : ∀ a, r.contains a = true → s.contains a = true := fun a ha => by rwa [← h]
    have hsr : ∀ a, s.contains a = true → r.contains a = true := fun a ha => by rwa [h]
    exact ⟨le_antisymm (size_le_of_subset hrs) (size_le_of_subset hsr), hrs⟩

end FiniteGroups.Roster
