import FiniteGroups.Proofs.Numbers
import FiniteGroups.Proofs.PermValues

/-!
# Images that are no permutation

Integers are read as the images of a permutation if they are the points `1, …, n` in some order
(`Value.images_of_readPerm`, `Value.moves_of_readPerm`). Otherwise they are refused as no
permutation, or because the report of this has a number with too many digits
(`Value.error_of_readPerm`).
-/

namespace FiniteGroups

namespace Perm

variable {α : Type} {entry : α → Option Int} {label : α → String} {all : String} {xs : List α}

theorem category_of_firstFlaw {m : Nat} {seen : List Int} {e : Fault}
    (h : firstFlaw entry label all m seen xs = some e) : e.category = .structural := by
  induction xs generalizing seen with
  | nil => cases h
  | cons x xs ih =>
    rw [firstFlaw] at h
    split at h
    · split at h
      · exact Option.some.inj h ▸ rfl
      split at h
      · exact Option.some.inj h ▸ rfl
      · exact ih h
    · exact Option.some.inj h ▸ rfl

/-- Images that are no permutation are refused as such. -/
theorem category_of_read {e : Fault} (h : read entry label all xs = .error e) :
    e.category = .structural := by
  unfold read at h
  split at h
  · next hflaw => exact Except.error.inj h ▸ category_of_firstFlaw hflaw
  · split at h
    · exact Except.error.inj h ▸ rfl
    · cases h

theorem images_of_read {p : Perm} (h : read entry label all xs = .ok p) :
    p.images.toList = (xs.filterMap entry).map Int.toNat := by
  unfold read at h
  split at h
  · cases h
  · split at h
    · cases h
    · exact Except.ok.inj h ▸ rfl

end Perm

namespace Value

/-! ## Writing integers -/

theorem quoted_int (m : Int) : (Value.int m).quoted = Text.ofInt m := by
  rw [quoted, write]

/-- Integers are written if none of them has too many digits. -/
theorem mapM_quoted_int (ms : List Int) :
    ((∀ m ∈ ms, Writable m) ∧ ∃ texts, (ms.map Value.int).mapM quoted = .ok texts) ∨
      ((∃ m ∈ ms, ¬ Writable m) ∧ (ms.map Value.int).mapM quoted = .error .badValue) := by
  by_cases h : ∀ m ∈ ms, Writable m
  · have hwritten : List.Forall₂ (fun v s => quoted v = .ok s) (ms.map Value.int)
        (ms.map toString) := by
      refine List.forall₂_map_left_iff.2 (List.forall₂_map_right_iff.2 (List.forall₂_same.2 ?_))
      exact fun m hm => (quoted_int m).trans (ofInt_of_writable (h m hm))
    exact .inl ⟨h, _, mapM_eq_ok_iff.2 hwritten⟩
  · have hex : ∃ m ∈ ms, ¬ Writable m := by
      simpa only [not_forall, exists_prop] using h
    refine .inr ⟨hex, mapM_eq_error (List.forall_mem_map.2 fun m _ => ?_) ?_⟩
    · rw [quoted_int]
      by_cases hm : Writable m
      · exact .inl ⟨_, ofInt_of_writable hm⟩
      · exact .inr (ofInt_of_not_writable hm)
    · obtain ⟨m, hm, hlarge⟩ := hex
      exact ⟨_, List.mem_map_of_mem hm, (quoted_int m).trans (ofInt_of_not_writable hlarge)⟩

theorem writeEach_eq_mapM (xs : List Value) : writeEach xs = xs.mapM quoted := by
  induction xs with
  | nil => rw [writeEach, List.mapM_nil, pure_eq_ok]
  | cons x xs ih => rw [writeEach, List.mapM_cons, ih, quoted]

/-! ## Reading integers -/

variable {ms : List Int} {p : Perm} {e : Fault}

/-- A permutation that is read has the integers as its images. -/
theorem images_of_readPerm (h : readPerm (ms.map .int) = .ok p) :
    p.images.toList = ms.map Int.toNat := by
  rw [readPerm] at h
  split at h
  · next hread =>
    rw [← Except.ok.inj h, Perm.images_of_read hread, List.filterMap_map]
    simp
  · next hread =>
    obtain ⟨_, -, h⟩ := bind_eq_ok.1 h
    cases h

/-- Integers that repeat are not read. -/
theorem nodup_of_readPerm (h : readPerm (ms.map .int) = .ok p) : ms.Nodup :=
  (images_of_readPerm h ▸ p.distinct).of_map _

/-- Integers are refused as no permutation, or because one of them is not written. -/
theorem error_of_readPerm (h : readPerm (ms.map .int) = .error e) :
    e.category = .structural ∨ e = .badValue ∧ ∃ m ∈ ms, ¬ Writable m := by
  rw [readPerm] at h
  split at h
  · cases h
  · next hread =>
    obtain ⟨-, texts, hquoted⟩ | ⟨hlarge, hquoted⟩ := mapM_quoted_int ms
    · rw [hquoted] at h
      exact .inl (Except.error.inj h ▸ Perm.category_of_read hread)
    · rw [hquoted] at h
      exact .inr ⟨(Except.error.inj h).symm, hlarge⟩

variable {n : Nat} {f : Point n → Point n}

theorem imageList_eq_map (f : Point n → Point n) :
    imageList f = ((pointList n).map fun i => ((f i).1 : Int)).map Value.int := by
  rw [imageList, List.map_map]
  rfl

/-- If a permutation is read from the images under a function, the function is a bijection. -/
theorem moves_of_readPerm (h : readPerm (imageList f) = .ok p) :
    ∃ σ : Equiv.Perm (Point n), ⇑σ = f ∧ p.Moves σ := by
  rw [imageList_eq_map] at h
  have hdegree : p.degree = n := by
    rw [Perm.degree, ← Array.length_toList, images_of_readPerm h, List.length_map, List.length_map,
      length_pointList]
  have hinj : Function.Injective f := fun i j hij =>
    List.inj_on_of_nodup_map (nodup_of_readPerm h) (mem_pointList i) (mem_pointList j) (by rw [hij])
  let σ := Equiv.ofBijective f (Finite.injective_iff_bijective.1 hinj)
  obtain ⟨q, hq, hmoves⟩ := readPerm_spec (hdegree ▸ p.degree_pos) σ
  rw [imageList_eq_map] at hq
  exact ⟨σ, rfl, Except.ok.inj (hq.symm.trans h) ▸ hmoves⟩

end Value

end FiniteGroups
