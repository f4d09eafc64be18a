import FiniteGroups.Value.Basic

/-!
# Sameness of values

`Value.same` is an equivalence relation and the hash respects it, which is what rosters of values
need. Sameness is read as a statement about heads and parts (`same_iff`), and everything follows
from it by an induction in which a value comes after its parts (`induct`).
-/

namespace FiniteGroups.Value

/-- What tells a map apart is its mapping or what that was before. -/
theorem keyImages_eq (send trace : Value) :
    keyImages send trace = send ∨ keyImages send trace = trace := by
  cases trace <;> simp [keyImages]

/-- The owner of a function is the only value that the function may be known by. -/
theorem eq_owner_of_mem {x owner : Value} {place : Nat} (h : x ∈ methodOwner place owner) :
    x = owner := by
  unfold methodOwner at h
  split at h <;> simp_all

/-- The parts of a value that its comparison looks at are smaller than it. -/
theorem sizeOf_part {a x : Value} (h : x ∈ a.ordered ∨ x ∈ a.members) : sizeOf x < sizeOf a := by
  cases a <;> simp only [ordered, members, List.not_mem_nil, or_false, false_or,
    List.mem_cons] at h <;> simp
  case map src tgt send trace =>
    rcases h with rfl | rfl | rfl | rfl
    · omega
    · omega
    · omega
    · rcases keyImages_eq send trace with h | h <;> rw [h] <;> omega
  case method =>
    rw [eq_owner_of_mem h]
    omega
  all_goals first
    | (rcases h with rfl | h
       · omega
       · have := List.sizeOf_lt_of_mem h
         omega)
    | (have hx := List.sizeOf_lt_of_mem h
       omega)

/-- A property of all values follows from a proof for each value that may use the property of its
parts. -/
theorem induct {P : Value → Prop}
    (step : ∀ a, (∀ x, x ∈ a.ordered ∨ x ∈ a.members → P x) → P a) (a : Value) : P a :=
  step a fun x _ => induct step x
termination_by sizeOf a
decreasing_by exact sizeOf_part ‹_›

/-- Each member of one list is the same as some member of the other. -/
theorem within_iff {xs ys : List Value} :
    within xs ys = true ↔ ∀ x ∈ xs, ∃ y ∈ ys, same x y = true := by
  induction xs with
  | nil => simp [within]
  | cons x xs ih => simp [within, ih]

/-- Some member of the list is the same as the value. -/
theorem meets_iff {xs : List Value} {y : Value} :
    meets xs y = true ↔ ∃ x ∈ xs, same x y = true := by
  induction xs with
  | nil => simp [meets]
  | cons x xs ih => simp [meets, ih]

/-- Of lists that agree entry by entry each covers the other. -/
theorem sameEach_covers {xs ys : List Value} (h : sameEach xs ys = true) :
    (∀ x ∈ xs, ∃ y ∈ ys, same x y = true) ∧ ∀ y ∈ ys, ∃ x ∈ xs, same x y = true := by
  induction xs generalizing ys with
  | nil => cases ys <;> simp_all [sameEach]
  | cons x xs ih =>
    cases ys with
    | nil => simp [sameEach] at h
    | cons y ys =>
      simp only [sameEach, Bool.and_eq_true] at h
      obtain ⟨forth, back⟩ := ih h.2
      simp only [List.mem_cons, forall_eq_or_imp, exists_eq_or_imp]
      exact ⟨⟨.inl h.1, fun z hz => .inr (forth z hz)⟩,
        ⟨.inl h.1, fun z hz => .inr (back z hz)⟩⟩

/-- Sets are the same when each member of one is a member of the other. -/
theorem sameSet_iff {xs ys : List Value} :
    sameSet xs ys = true ↔
      (∀ x ∈ xs, ∃ y ∈ ys, same x y = true) ∧ ∀ y ∈ ys, ∃ x ∈ xs, same x y = true := by
  cases xs with
  | nil =>
    cases ys with
    | nil => simp [sameSet]
    | cons y ys => simpa [sameSet] using ⟨y, fun h => absurd rfl h⟩
  | cons x xs =>
    cases ys with
    | nil => simpa [sameSet] using ⟨x, fun h => absurd rfl h⟩
    | cons y ys =>
      have whole : sameSet (x :: xs) (y :: ys) = true ↔
          sameEach (x :: xs) (y :: ys) = true ∨
            (∀ z ∈ x :: xs, ∃ w ∈ y :: ys, same z w = true) ∧
              ∀ w ∈ y :: ys, ∃ z ∈ x :: xs, same z w = true := by
        simp [sameSet, sameEach, within_iff, meets_iff]
      exact whole.trans ⟨fun h => h.elim sameEach_covers id, .inr⟩

/-- Maps are the same when their parts are, the last of which is the stamp. -/
theorem same_map {src tgt send trace src' tgt' send' trace' : Value} :
    same (.map src tgt send trace) (.map src' tgt' send' trace') =
      (same src src' && (same tgt tgt' && (same send send' &&
        same (keyImages send trace) (keyImages send' trace')))) := by
  cases trace <;> simp [same, keyImages]

/-- Functions are the same when they have one name and one place, or owners that are the same. -/
theorem same_method {p q : Nat} {owner owner' : Value} {name name' : String} :
    same (.method p owner name) (.method q owner' name') = true ↔
      (methodPlace p owner = methodPlace q owner' ∧ name = name') ∧
        sameEach (methodOwner p owner) (methodOwner q owner') = true := by
  simp only [same, head, ordered, methodOwner, Bool.and_eq_true, beq_iff_eq, Head.method.injEq,
    Bool.or_eq_true, bne_iff_ne]
  by_cases h : methodPlace p owner = methodPlace q owner'
  · by_cases h0 : methodPlace q owner' = 0 <;> simp [h, h0, sameEach] <;> grind
  · simp [h, Ne.symm h]

/-- Values are the same when their heads are and their parts are. -/
theorem same_iff {a b : Value} :
    same a b = true ↔
      a.head = b.head ∧ sameEach a.ordered b.ordered = true ∧
        sameSet a.members b.members = true := by
  cases a <;> cases b
  case map.map => simp [same_map, head, ordered, members, sameEach, sameSet]
  case method.method => simp [same_method, head, ordered, members, sameSet]
  all_goals simp [same, head, ordered, members, sameEach, sameSet]
  all_goals grind

/-- A list agrees with itself when each of its members does. -/
theorem sameEach_refl {xs : List Value} (h : ∀ x ∈ xs, same x x = true) :
    sameEach xs xs = true := by
  induction xs with
  | nil => simp [sameEach]
  | cons x xs ih => simp_all [sameEach]

/-- Agreement of lists goes both ways when that of the members does. -/
theorem sameEach_symm {xs ys : List Value}
    (h : ∀ x ∈ xs, ∀ b, same x b = true → same b x = true) :
    sameEach xs ys = true → sameEach ys xs = true := by
  induction xs generalizing ys with
  | nil => cases ys <;> simp [sameEach]
  | cons x xs ih =>
    cases ys with
    | nil => simp [sameEach]
    | cons y ys =>
      simp only [sameEach, Bool.and_eq_true]
      intro both
      exact ⟨h x (by simp) y both.1, ih (fun z hz => h z (by simp [hz])) both.2⟩

/-- Agreement of lists is transitive when that of the members is. -/
theorem sameEach_trans {xs ys zs : List Value}
    (h : ∀ x ∈ xs, ∀ b c, same x b = true → same b c = true → same x c = true) :
    sameEach xs ys = true → sameEach ys zs = true → sameEach xs zs = true := by
  induction xs generalizing ys zs with
  | nil => cases ys <;> simp [sameEach]
  | cons x xs ih =>
    cases ys <;> cases zs <;> simp only [sameEach, Bool.and_eq_true] <;> try simp
    intro hxy hrest hyz hrest'
    exact ⟨h x (by simp) _ _ hxy hyz, ih (fun z hz => h z (by simp [hz])) hrest hrest'⟩

/-- Lists whose members agree in order have one hash. -/
theorem digestEach_congr {xs ys : List Value}
    (h : ∀ x ∈ xs, ∀ b, same x b = true → digest x = digest b) :
    sameEach xs ys = true → digestEach xs = digestEach ys := by
  induction xs generalizing ys with
  | nil => cases ys <;> simp [sameEach]
  | cons x xs ih =>
    cases ys with
    | nil => simp [sameEach]
    | cons y ys =>
      simp only [sameEach, Bool.and_eq_true, digestEach]
      intro both
      rw [h x (by simp) y both.1, ih (fun z hz => h z (by simp [hz])) both.2]

/-- A value is the same as itself. -/
protected theorem same_refl (a : Value) : same a a = true := by
  induction a using induct with
  | step a ih =>
    refine same_iff.2 ⟨rfl, sameEach_refl fun x hx => ih x (.inl hx), sameSet_iff.2 ⟨?_, ?_⟩⟩ <;>
      exact fun x hx => ⟨x, hx, ih x (.inr hx)⟩

/-- Sameness goes both ways. -/
protected theorem same_symm {a : Value} : ∀ {b : Value}, same a b = true → same b a = true := by
  induction a using induct with
  | step a ih =>
    intro b h
    rw [same_iff, sameSet_iff] at *
    refine ⟨h.1.symm, sameEach_symm (fun x hx b => ih x (.inl hx)) h.2.1, ?_, ?_⟩
    · intro y hy
      obtain ⟨x, hx, hxy⟩ := h.2.2.2 y hy
      exact ⟨x, hx, ih x (.inr hx) hxy⟩
    · intro x hx
      obtain ⟨y, hy, hxy⟩ := h.2.2.1 x hx
      exact ⟨y, hy, ih x (.inr hx) hxy⟩

/-- Two values that are the same as a third are the same. -/
protected theorem same_trans {a : Value} :
    ∀ {b c : Value}, same a b = true → same b c = true → same a c = true := by
  induction a using induct with
  | step a ih =>
    intro b c hab hbc
    rw [same_iff, sameSet_iff] at *
    refine ⟨hab.1.trans hbc.1,
      sameEach_trans (fun x hx b c => ih x (.inl hx)) hab.2.1 hbc.2.1, ?_, ?_⟩
    · intro x hx
      obtain ⟨y, hy, hxy⟩ := hab.2.2.1 x hx
      obtain ⟨z, hz, hyz⟩ := hbc.2.2.1 y hy
      exact ⟨z, hz, ih x (.inr hx) hxy hyz⟩
    · intro z hz
      obtain ⟨y, hy, hyz⟩ := hbc.2.2.2 z hz
      obtain ⟨x, hx, hxy⟩ := hab.2.2.2 y hy
      exact ⟨x, hx, ih x (.inr hx) hxy hyz⟩

instance : EquivBEq Value where
  rfl := Value.same_refl _
  symm := Value.same_symm
  trans := Value.same_trans

/-- A bound on the larger of two hashes bounds both. -/
theorem max_le_iff {a b c : UInt64} : max a b ≤ c ↔ a ≤ c ∧ b ≤ c := by
  simp only [Max.max, UInt64.le_iff_toNat_le]
  split <;> omega

/-- The largest hash in a list is the least bound of the hashes of its members. -/
theorem largestDigest_le {xs : List Value} {d : UInt64} :
    largestDigest xs ≤ d ↔ ∀ x ∈ xs, digest x ≤ d := by
  induction xs with
  | nil => simp [largestDigest, UInt64.le_iff_toNat_le]
  | cons x xs ih =>
    simp only [largestDigest, List.mem_cons, forall_eq_or_imp, ← ih]
    exact max_le_iff

/-- Sets with the same members have one hash. -/
theorem largestDigest_congr {xs ys : List Value}
    (h : ∀ x ∈ xs, ∀ b, same x b = true → digest x = digest b) (hs : sameSet xs ys = true) :
    largestDigest xs = largestDigest ys := by
  rw [sameSet_iff] at hs
  apply UInt64.le_antisymm
  · rw [largestDigest_le]
    intro x hx
    obtain ⟨y, hy, hxy⟩ := hs.1 x hx
    rw [h x hx y hxy]
    exact largestDigest_le.1 (UInt64.le_refl _) y hy
  · rw [largestDigest_le]
    intro y hy
    obtain ⟨x, hx, hxy⟩ := hs.2 y hy
    rw [← h x hx y hxy]
    exact largestDigest_le.1 (UInt64.le_refl _) x hx

/-- The hash in terms of the head and the hashes of the parts. -/
def digestOf : Head → List Value → List Value → UInt64
  | .number m, _, _ => hash m
  | .nan p trail, _, _ => mixHash (hash p) trail
  | .text s, _, _ => hash s
  | .perm p, _, _ => hash p
  | .row, xs, _ | .list, xs, _ | .lookup, xs, _ => digestEach xs
  | .op r, xs, _ => mixHash (hash r) (digestEach xs)
  | .mapping, _, xs | .set, _, xs | .group, _, xs | .coset, _, xs | .cls, _, xs => largestDigest xs
  | .map, [_, _, _, stamp], _ => digest stamp
  | .method place name, _, _ => mixHash (hash name) (hash place)
  | .rule p, _, _ | .family p, _, _ | .action p, _, _ => hash p
  | _, _, _ => 7

/-- The hash depends on the head and the parts alone. -/
theorem digest_eq (a : Value) : a.digest = digestOf a.head a.ordered a.members := by
  cases a
  case map trace => cases trace <;> simp [digest, digestOf, head, ordered, keyImages]
  all_goals simp [digest, digestOf, head, ordered, members]

/-- Values that are the same have one hash. -/
theorem digest_congr {a : Value} : ∀ {b : Value}, same a b = true → digest a = digest b := by
  induction a using induct with
  | step a ih =>
    intro b h
    rw [same_iff] at h
    obtain ⟨hh, ho, hm⟩ := h
    have each := digestEach_congr (fun x hx b => ih x (.inl hx)) ho
    have largest := largestDigest_congr (fun x hx b => ih x (.inr hx)) hm
    rw [digest_eq a, digest_eq b, ← hh]
    cases a <;> simp only [head] at hh <;> simp only [head, digestOf, each, largest]
    · cases b <;> simp at hh
      simp only [ordered, sameEach, Bool.and_eq_true] at ho ⊢
      exact ih _ (.inl (by simp [ordered])) ho.2.2.2.1

instance : LawfulHashable Value where
  hash_eq _ _ h := digest_congr h

end FiniteGroups.Value
