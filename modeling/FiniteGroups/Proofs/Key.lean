import FiniteGroups.Proofs.Computation
import FiniteGroups.Proofs.Roster
import FiniteGroups.Value.Collection

/-!
# Keys

A value that becomes a key stays the same value (`Value.beq_of_keyed`), and a value that can be a
key is looked for in a set as that key (`Value.sought_of_keyed`).
-/

namespace FiniteGroups.Value

mutual

/-- A key is the same as the value it was made of. -/
theorem same_of_keyed (a : Value) {k : Value} (h : keyed a = .ok k) : same k a = true := by
  unfold keyed at h
  split at h
  case h_6 frozen xs =>
    -- a set is a key if it cannot change
    cases frozen <;> cases h
    exact Value.same_refl _
  case h_7 xs =>
    obtain ⟨ys, hys, hk⟩ := bind_eq_ok.1 h
    cases hk
    simpa [same] using sameEach_of_keyedEach xs hys
  case h_8 xs =>
    obtain ⟨ys, hys, hk⟩ := bind_eq_ok.1 h
    cases hk
    simpa [same, head, ordered] using sameEach_of_keyedEach xs hys
  case h_9 xs =>
    -- the images are settled, and they are those that the map has now
    obtain ⟨ys, hys, hk⟩ := bind_eq_ok.1 h
    cases hk
    have hset := sameSet_iff.2 (sameEach_covers (sameEach_of_keyedEach xs hys))
    simpa [same, keyImages, head, members, Value.same_refl] using hset
  case h_11 =>
    split at h <;> cases h
    refine same_iff.2 ⟨rfl, by simp [ordered, sameEach], sameSet_iff.2 ⟨?_, ?_⟩⟩ <;>
      exact fun x hx => ⟨x, hx, Value.same_refl x⟩
  case h_12 =>
    cases h
    exact Value.same_refl _
  all_goals cases h
termination_by sizeOf a

theorem sameEach_of_keyedEach (xs : List Value) {ys : List Value} (h : keyedEach xs = .ok ys) :
    sameEach ys xs = true := by
  cases xs with
  | nil =>
    cases h
    simp [sameEach]
  | cons x xs =>
    rw [keyedEach] at h
    obtain ⟨k, hk, h⟩ := bind_eq_ok.1 h
    obtain ⟨ks, hks, h⟩ := bind_eq_ok.1 h
    cases h
    simp [sameEach, same_of_keyed x hk, sameEach_of_keyedEach xs hks]
termination_by sizeOf xs

end

theorem beq_of_keyed {a k : Value} (h : a.keyed = .ok k) : (k == a) = true :=
  same_of_keyed a h

mutual

/-- A key is a key as it is. -/
theorem keyed_of_keyed (a : Value) {k : Value} (h : keyed a = .ok k) : keyed k = .ok k := by
  have hkey := h
  unfold keyed at h
  split at h
  case h_6 frozen xs =>
    cases frozen <;> cases h
    simp [keyed]
  case h_7 xs =>
    obtain ⟨ys, hys, hk⟩ := bind_eq_ok.1 h
    cases hk
    simp [keyed, keyedEach_of_keyedEach xs hys]
  case h_8 xs =>
    obtain ⟨ys, hys, hk⟩ := bind_eq_ok.1 h
    cases hk
    simp [keyed, keyedEach_of_keyedEach xs hys]
  case h_9 xs =>
    obtain ⟨ys, -, hk⟩ := bind_eq_ok.1 h
    cases hk
    simp [keyed]
  case h_11 =>
    split at h <;> cases h
    simp [keyed]
  case h_12 =>
    cases h
    exact hkey
  all_goals cases h
termination_by sizeOf a

theorem keyedEach_of_keyedEach (xs : List Value) {ys : List Value} (h : keyedEach xs = .ok ys) :
    keyedEach ys = .ok ys := by
  cases xs with
  | nil =>
    cases h
    simp [keyedEach]
  | cons x xs =>
    rw [keyedEach] at h
    obtain ⟨k, hk, h⟩ := bind_eq_ok.1 h
    obtain ⟨ks, hks, h⟩ := bind_eq_ok.1 h
    cases h
    simp [keyedEach, keyed_of_keyed x hk, keyedEach_of_keyedEach xs hks]
termination_by sizeOf xs

end

/-- A value that can be a key is looked for as that key. -/
theorem sought_of_keyed {a k : Value} (h : a.keyed = .ok k) : a.sought = .ok k := by
  unfold sought
  split
  · next frozen xs =>
    cases frozen <;> simp_all [keyed]
  · exact h

/-- Only what is missing is equal to what is missing. -/
theorem eq_none_of_beq {a : Value} (h : (a == .none) = true) : a = .none := by
  have hhead := (same_iff.1 h).1
  cases a with
  | none => rfl
  | _ => cases hhead

/-- The distinct values of a list are keys of its members. -/
theorem exists_of_mem_distinct {xs : List Value} {r : Roster Value} (h : distinct xs = .ok r)
    {a : Value} (ha : a ∈ r.toList) : ∃ x ∈ xs, x.keyed = .ok a := by
  obtain ⟨ks, hks, h⟩ := bind_eq_ok.1 h
  cases h
  exact exists_of_mem_mapM hks (Roster.mem_of_mem_ofList ha)

/-- The distinct values of a list are keys as they are. -/
theorem keyed_of_mem_distinct {xs : List Value} {r : Roster Value} (h : distinct xs = .ok r)
    {a : Value} (ha : a ∈ r.toList) : a.keyed = .ok a := by
  obtain ⟨x, -, hx⟩ := exists_of_mem_distinct h ha
  exact keyed_of_keyed x hx

end FiniteGroups.Value
