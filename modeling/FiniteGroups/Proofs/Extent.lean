import FiniteGroups.Proofs.Computation
import FiniteGroups.Proofs.Roster
import Mathlib.Data.Set.Card

/-!
# What the members of a list stand for

Values are compared by `==`, which is not equality: `1` and `1.0` are two ways to write one
number. Statements about sets of values are therefore statements about what the values stand for.
A relation `R` says it: `R a x` if the value `a` stands for `x`. It is `Faithful` if two values
are equal exactly when they stand for the same thing, and the `extent` of a list is the set of
what its members stand for.

* `Faithful.contains_iff` : to be a member of a roster is to stand for something in its extent;
* `Faithful.ncard_extent` : a roster has as many members as its extent;
* `Faithful.subset_iff`, `Faithful.sameSet_iff` : rosters are compared as their extents are.
-/

set_option linter.unusedSectionVars false

namespace FiniteGroups

variable {α M : Type} {R : α → M → Prop}

/-- Members that are related are at one place if those at different places are not. -/
theorem eq_of_pairwise_not {r : α → α → Prop} (hsymm : ∀ a b, r a b → r b a) {xs : List α}
    (h : xs.Pairwise fun a b => ¬r a b) {i j : Fin xs.length} (hij : r (xs.get i) (xs.get j)) :
    i = j := by
  rcases lt_trichotomy i.1 j.1 with hlt | heq | hlt
  · exact absurd hij (List.pairwise_iff_getElem.1 h i j i.2 j.2 hlt)
  · exact Fin.ext heq
  · exact absurd (hsymm _ _ hij) (List.pairwise_iff_getElem.1 h j i j.2 i.2 hlt)

/-- Every member of the list stands for something. -/
def Standing (R : α → M → Prop) (xs : List α) : Prop :=
  ∀ a ∈ xs, ∃ x, R a x

/-- What the members of a list stand for. -/
def extent (R : α → M → Prop) (xs : List α) : Set M :=
  {x | ∃ a ∈ xs, R a x}

theorem mem_extent {xs : List α} {x : M} : x ∈ extent R xs ↔ ∃ a ∈ xs, R a x :=
  Iff.rfl

@[simp] theorem extent_nil : extent R [] = ∅ := by
  ext x
  simp [mem_extent]

theorem extent_append (xs ys : List α) : extent R (xs ++ ys) = extent R xs ∪ extent R ys := by
  ext x
  simp [mem_extent, or_and_right, exists_or]

theorem extent_mono {xs ys : List α} (h : ∀ a ∈ xs, a ∈ ys) : extent R xs ⊆ extent R ys := by
  rintro x ⟨a, ha, hx⟩
  exact ⟨a, h a ha, hx⟩

/-- What is kept of a list for a property of what it stands for stands for what has it. -/
theorem extent_filter {xs : List α} {p : α → Bool} {P : M → Prop}
    (h : ∀ a ∈ xs, ∀ x, R a x → (p a = true ↔ P x)) :
    extent R (xs.filter p) = {x ∈ extent R xs | P x} := by
  ext x
  simp only [mem_extent, List.mem_filter, Set.mem_ofPred_eq]
  constructor
  · rintro ⟨a, ⟨ha, hp⟩, hx⟩
    exact ⟨⟨a, ha, hx⟩, (h a ha x hx).1 hp⟩
  · rintro ⟨⟨a, ha, hx⟩, hPx⟩
    exact ⟨a, ⟨ha, (h a ha x hx).2 hPx⟩, hx⟩

theorem Standing.mono {xs ys : List α} (hys : Standing R ys) (h : ∀ a ∈ xs, a ∈ ys) :
    Standing R xs :=
  fun a ha => hys a (h a ha)

theorem Standing.append {xs ys : List α} (hxs : Standing R xs) (hys : Standing R ys) :
    Standing R (xs ++ ys) := by
  intro a ha
  rcases List.mem_append.1 ha with ha | ha
  · exact hxs a ha
  · exact hys a ha

theorem Standing.cons {xs : List α} (hxs : Standing R xs) {a : α} {x : M} (h : R a x) :
    Standing R (a :: xs) := by
  intro b hb
  rcases List.mem_cons.1 hb with rfl | hb
  · exact ⟨x, h⟩
  · exact hxs b hb

theorem standing_singleton {a : α} {x : M} (h : R a x) : Standing R [a] := by
  intro b hb
  rw [List.mem_singleton.1 hb]
  exact ⟨x, h⟩

theorem Standing.of_forall₂ {as : List α} {xs : List M} (h : List.Forall₂ R as xs) :
    Standing R as := by
  intro a ha
  obtain ⟨x, -, hx⟩ := exists_of_forall₂ h.flip ha
  exact ⟨x, hx⟩

/-- Each member of a list stands for something, in turn. -/
theorem Standing.exists_forall₂ {as : List α} (h : Standing R as) :
    ∃ xs, List.Forall₂ R as xs := by
  induction as with
  | nil => exact ⟨[], .nil⟩
  | cons a as ih =>
    obtain ⟨x, hx⟩ := h a List.mem_cons_self
    obtain ⟨xs, hxs⟩ := ih (h.mono fun b hb => List.mem_cons_of_mem a hb)
    exact ⟨x :: xs, .cons hx hxs⟩

variable [BEq α] [EquivBEq α]

/-- Values are equal exactly when they stand for the same thing. -/
def Faithful (R : α → M → Prop) : Prop :=
  ∀ ⦃a b x y⦄, R a x → R b y → ((a == b) = true ↔ x = y)

namespace Faithful

variable (hR : Faithful R)
include hR

theorem unique {a : α} {x y : M} (hx : R a x) (hy : R a y) : x = y :=
  (hR hx hy).1 BEq.rfl

theorem extent_cons {a : α} {x : M} (h : R a x) (xs : List α) :
    extent R (a :: xs) = insert x (extent R xs) := by
  ext y
  simp only [mem_extent, List.mem_cons, exists_eq_or_imp, Set.mem_insert_iff]
  refine or_congr_left ⟨fun hy => hR.unique hy h, fun hy => ?_⟩
  rwa [hy]

theorem extent_singleton {a : α} {x : M} (h : R a x) : extent R [a] = {x} := by
  rw [hR.extent_cons h, extent_nil, insert_empty_eq]

theorem finite_extent {xs : List α} (hxs : Standing R xs) : (extent R xs).Finite := by
  induction xs with
  | nil => simp
  | cons a xs ih =>
    obtain ⟨x, hx⟩ := hxs a (by simp)
    rw [hR.extent_cons hx]
    exact (ih (hxs.mono fun b hb => List.mem_cons_of_mem a hb)).insert x

/-- A value that is equal to no member of a list stands for something else. -/
theorem notMem_extent {a : α} {x : M} (ha : R a x) {xs : List α}
    (h : ∀ b ∈ xs, (a == b) = false) : x ∉ extent R xs := by
  rintro ⟨b, hb, hbx⟩
  have hab := (hR ha hbx).2 rfl
  rw [h b hb] at hab
  exact Bool.noConfusion hab

/-- Different values stand for different things. -/
theorem pairwise_iff_nodup {as : List α} {xs : List M} (h : List.Forall₂ R as xs) :
    (as.Pairwise fun a b => (a == b) = false) ↔ xs.Nodup := by
  constructor
  · refine pairwise_of_forall₂ h fun a b x y hx hy hab => ?_
    rwa [← Bool.not_eq_true, hR hx hy] at hab
  · refine pairwise_of_forall₂ h.flip fun x y a b hx hy hxy => ?_
    rwa [← Bool.not_eq_true, hR hx hy]

/-- What a list without repetitions stands for is at one place. -/
theorem existsUnique_of_pairwise {xs : List α} (hne : xs.Pairwise fun a b => (a == b) = false)
    {x : M} (hx : x ∈ extent R xs) : ∃! i, R (xs.get i) x := by
  obtain ⟨a, ha, hax⟩ := hx
  obtain ⟨i, hi, rfl⟩ := List.getElem_of_mem ha
  refine ⟨⟨i, hi⟩, hax, fun j hj => ?_⟩
  exact eq_of_pairwise_not (r := fun a b => (a == b) = true) (fun a b h => BEq.symm h)
    (hne.imp fun h => by simp [h]) ((hR hj hax).2 rfl)

/-- At one place there is what satisfies a condition, if only what stands for `x` does. -/
theorem existsUnique_of_iff {xs : List α} (hxs : Standing R xs)
    (hne : xs.Pairwise fun a b => (a == b) = false) {x : M} (hx : x ∈ extent R xs)
    {p : Fin xs.length → Prop} (h : ∀ i y, R (xs.get i) y → (p i ↔ y = x)) : ∃! i, p i := by
  refine (existsUnique_congr fun i => ?_).2 (hR.existsUnique_of_pairwise hne hx)
  obtain ⟨y, hy⟩ := hxs _ (xs.get_mem i)
  rw [h i y hy]
  constructor
  · rintro rfl
    exact hy
  · exact fun hix => hR.unique hy hix

/-- A list without repetitions has as many members as its extent. -/
theorem ncard_extent_of_pairwise {xs : List α} (hxs : Standing R xs)
    (hne : xs.Pairwise fun a b => (a == b) = false) : (extent R xs).ncard = xs.length := by
  induction xs with
  | nil => simp
  | cons a xs ih =>
    obtain ⟨hxa, hne⟩ := List.pairwise_cons.1 hne
    have hrest : Standing R xs := hxs.mono fun b hb => List.mem_cons_of_mem a hb
    obtain ⟨x, hx⟩ := hxs a (by simp)
    rw [hR.extent_cons hx, Set.ncard_insert_of_notMem (hR.notMem_extent hx hxa)
      (hR.finite_extent hrest), ih hrest hne, List.length_cons]

/-- A list of images stands for the image. -/
theorem extent_of_forall₂ {β N : Type} [BEq β] [EquivBEq β] {S : β → N → Prop} (hS : Faithful S)
    {f : M → N} {xs : List α} {ys : List β}
    (h : List.Forall₂ (fun a b => ∃ x, R a x ∧ S b (f x)) xs ys) :
    Standing S ys ∧ extent S ys = f '' extent R xs := by
  induction h with
  | nil => simp [Standing]
  | cons hab _ ih =>
    obtain ⟨x, ha, hb⟩ := hab
    rw [hR.extent_cons ha, hS.extent_cons hb, ih.2, Set.image_insert_eq]
    exact ⟨ih.1.cons hb, rfl⟩

theorem extent_map {β N : Type} [BEq β] [EquivBEq β] {S : β → N → Prop} (hS : Faithful S)
    {f : α → β} {φ : M → N} {xs : List α} (hxs : Standing R xs)
    (h : ∀ ⦃a x⦄, R a x → S (f a) (φ x)) :
    Standing S (xs.map f) ∧ extent S (xs.map f) = φ '' extent R xs :=
  hR.extent_of_forall₂ hS <| List.forall₂_map_right_iff.2 <| List.forall₂_same.2 fun a ha => by
    obtain ⟨x, hx⟩ := hxs a ha
    exact ⟨x, hx, h hx⟩

/-- A run that gives for each member what stands for its image gives the image of the extent. -/
theorem exists_images {ε β N : Type} [BEq β] [EquivBEq β] {S : β → N → Prop} (hS : Faithful S)
    {f : α → Except ε β} {φ : M → N} {xs : List α} (hxs : Standing R xs)
    (h : ∀ a ∈ xs, ∀ x, R a x → ∃ b, f a = .ok b ∧ S b (φ x)) :
    ∃ ys, xs.mapM f = .ok ys ∧ Standing S ys ∧ extent S ys = φ '' extent R xs := by
  obtain ⟨ys, hys, hall⟩ := exists_mapM (P := fun a b => ∃ x, R a x ∧ S b (φ x)) xs fun a ha => by
    obtain ⟨x, hx⟩ := hxs a ha
    obtain ⟨b, hb, hbx⟩ := h a ha x hx
    exact ⟨b, hb, x, hx, hbx⟩
  exact ⟨ys, hys, hR.extent_of_forall₂ hS hall⟩

/-- What the members of a list without repetitions stand for, each once. -/
theorem exists_enumeration {xs : List α} (hxs : Standing R xs)
    (hne : xs.Pairwise fun a b => (a == b) = false) :
    ∃ ms : List M, List.Forall₂ R xs ms ∧ ms.Nodup ∧ ∀ x, x ∈ ms ↔ x ∈ extent R xs := by
  induction xs with
  | nil => exact ⟨[], .nil, .nil, by simp⟩
  | cons a xs ih =>
    obtain ⟨hxa, hne⟩ := List.pairwise_cons.1 hne
    obtain ⟨x, hx⟩ := hxs a (by simp)
    obtain ⟨ms, hall, hnodup, hmem⟩ := ih (hxs.mono fun b hb => List.mem_cons_of_mem a hb) hne
    refine ⟨x :: ms, .cons hx hall, List.nodup_cons.2 ⟨?_, hnodup⟩, fun y => ?_⟩
    · rw [hmem]
      exact hR.notMem_extent hx hxa
    · rw [hR.extent_cons hx, List.mem_cons, hmem, Set.mem_insert_iff]

/-! ## Questions

A question about values that depends only on what they stand for is a question about the extent. -/

section

variable {ε : Type} {f : α → Except ε Bool} {P : M → Prop} {xs : List α}

/-- A choice of what has a property gives the part of the extent that has it. -/
theorem exists_filterM (hxs : Standing R xs)
    (h : ∀ a ∈ xs, ∀ x, R a x → ∃ b, f a = .ok b ∧ (b = true ↔ P x)) :
    ∃ ys, xs.filterM f = .ok ys ∧ ys.Sublist xs ∧ extent R ys = {x ∈ extent R xs | P x} := by
  have hanswer : ∀ a ∈ xs, ∀ x, R a x →
      f a = .ok ((f a).toOption.getD false) ∧ ((f a).toOption.getD false = true ↔ P x) := by
    intro a ha x hx
    obtain ⟨b, hb, hP⟩ := h a ha x hx
    rw [hb]
    exact ⟨rfl, hP⟩
  refine ⟨_, filterM_eq_filter fun a ha => ?_, List.filter_sublist,
    extent_filter fun a ha x hx => (hanswer a ha x hx).2⟩
  obtain ⟨x, hx⟩ := hxs a ha
  exact (hanswer a ha x hx).1

/-- A question that is answered for each member is answered for the whole extent. -/
theorem exists_allM (hxs : Standing R xs)
    (h : ∀ a ∈ xs, ∀ x, R a x → ∃ b, f a = .ok b ∧ (b = true ↔ P x)) :
    ∃ b, xs.allM f = .ok b ∧ (b = true ↔ ∀ x ∈ extent R xs, P x) := by
  obtain ⟨b, hb, hall⟩ := FiniteGroups.exists_allM (P := fun a => ∀ x, R a x → P x) xs
      fun a ha => by
    obtain ⟨x, hx⟩ := hxs a ha
    obtain ⟨b, hb, hP⟩ := h a ha x hx
    refine ⟨b, hb, hP.trans ⟨fun hPx y hy => ?_, fun hall => hall x hx⟩⟩
    rwa [hR.unique hy hx]
  refine ⟨b, hb, hall.trans ⟨?_, fun hP a ha x hx => hP x ⟨a, ha, hx⟩⟩⟩
  rintro hP x ⟨a, ha, hx⟩
  exact hP a ha x hx

end

/-! ## Rosters -/

variable [Hashable α] [LawfulHashable α]

/-- Of different values only one stands for `x`. -/
theorem eq_of_pairwise {xs : List α} (hne : xs.Pairwise fun a b => (a == b) = false) {a b : α}
    (ha : a ∈ xs) (hb : b ∈ xs) {x : M} (hax : R a x) (hbx : R b x) : a = b := by
  rw [← Roster.toList_ofList hne] at ha hb
  exact Roster.eq_of_beq ha hb ((hR hax hbx).2 rfl)

theorem ncard_extent {r : Roster α} (hr : Standing R r.toList) :
    (extent R r.toList).ncard = r.size := by
  rw [hR.ncard_extent_of_pairwise hr r.pairwise_toList, Roster.length_toList]

theorem size_le_card [Finite M] {r : Roster α} (hr : Standing R r.toList) :
    r.size ≤ Nat.card M := by
  rw [← hR.ncard_extent hr]
  exact Set.ncard_le_card _

/-- To be a member is to stand for something in the extent. -/
theorem contains_iff {r : Roster α} (hr : Standing R r.toList) {a : α} {x : M} (ha : R a x) :
    r.contains a = true ↔ x ∈ extent R r.toList := by
  rw [Roster.contains_iff]
  constructor
  · rintro ⟨b, hb, hba⟩
    obtain ⟨y, hy⟩ := hr b hb
    rw [← (hR hy ha).1 hba]
    exact ⟨b, hb, hy⟩
  · rintro ⟨b, hb, hbx⟩
    exact ⟨b, hb, (hR hbx ha).2 rfl⟩

theorem extent_ofList {xs : List α} (hxs : Standing R xs) :
    extent R (Roster.ofList xs).toList = extent R xs := by
  refine Set.Subset.antisymm (extent_mono fun a => Roster.mem_of_mem_ofList) ?_
  rintro x ⟨a, ha, hx⟩
  have hstand : Standing R (Roster.ofList xs).toList :=
    hxs.mono fun b => Roster.mem_of_mem_ofList
  exact (hR.contains_iff hstand hx).1 (Roster.contains_ofList.2 ⟨a, ha, BEq.rfl⟩)

/-- To be in front is to be written differently at most. -/
theorem extent_promote {r : Roster α} (hr : Standing R r.toList) {a : α} {x : M} (ha : R a x) :
    Standing R (r.promote a).toList ∧ extent R (r.promote a).toList = extent R r.toList := by
  have hstand : Standing R (r.promote a).toList := by
    intro b hb
    rcases Roster.mem_of_mem_promote hb with rfl | hb
    · exact ⟨x, ha⟩
    · exact hr b hb
  refine ⟨hstand, Set.Subset.antisymm ?_ ?_⟩
  · rintro y ⟨b, hb, hy⟩
    have hmem := Roster.contains_of_mem hb
    rw [Roster.contains_promote] at hmem
    exact (hR.contains_iff hr hy).1 hmem
  · rintro y ⟨b, hb, hy⟩
    have hmem := Roster.contains_of_mem hb
    rw [← r.contains_promote (a := a)] at hmem
    exact (hR.contains_iff hstand hy).1 hmem

theorem subset_iff {r s : Roster α} (hr : Standing R r.toList) (hs : Standing R s.toList) :
    r.subset s = true ↔ extent R r.toList ⊆ extent R s.toList := by
  rw [Roster.subset_iff]
  constructor
  · rintro h x ⟨a, ha, hx⟩
    exact (hR.contains_iff hs hx).1 (h a (Roster.contains_of_mem ha))
  · intro h a ha
    obtain ⟨b, hb, hba⟩ := Roster.contains_iff.1 ha
    obtain ⟨x, hx⟩ := hr b hb
    rw [← s.contains_congr hba]
    exact (hR.contains_iff hs hx).2 (h ⟨b, hb, hx⟩)

theorem sameSet_iff {r s : Roster α} (hr : Standing R r.toList) (hs : Standing R s.toList) :
    r.sameSet s = true ↔ extent R r.toList = extent R s.toList := by
  rw [Roster.sameSet_iff]
  constructor
  · intro h
    refine Set.Subset.antisymm ((hR.subset_iff hr hs).1 ?_) ((hR.subset_iff hs hr).1 ?_) <;>
      refine Roster.subset_iff.2 fun a ha => ?_
    · rwa [← h]
    · rwa [h]
  · intro h a
    have hrs := Roster.subset_iff.1 ((hR.subset_iff hr hs).2 h.subset)
    have hsr := Roster.subset_iff.1 ((hR.subset_iff hs hr).2 h.superset)
    exact Bool.eq_iff_iff.2 ⟨hrs a, hsr a⟩

end Faithful

end FiniteGroups
