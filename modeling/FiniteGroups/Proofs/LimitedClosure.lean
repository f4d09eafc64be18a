import FiniteGroups.Proofs.Products

/-!
# Closures that are cut short

A search for a closure can be told to stop at some number of elements. It asks only when it has
found a new element, so the seeds are kept whatever their number is, and one more element if there
is one.

The search with a limit does what the search without a limit does until it is full. `CutShort`
says so of a part of the search, whatever the limit; it is carried through the products with one
element (`extendBy_cutShort`), a round (`sweep_cutShort`) and all rounds (`Roster.rounds_cutShort`).
None of this needs a law: a search that has an end has it also with a limit. Nor does the end
itself, if the products stay among finitely many values (`FiniteOperation.exists_closure`).

The main statement is `FiniteOperation.spanned_stopAt` : with a limit the elements are the first
ones of those that are found without a limit, and how many they are.
-/

set_option linter.unusedSectionVars false

namespace FiniteGroups

open FiniteGroup

/-! ## A search beside the same search with a limit -/

section

variable {α : Type} [BEq α] [Hashable α] [EquivBEq α] [LawfulHashable α]

/-- What was found when a search stopped. -/
def Search.found {σ : Type} : Search σ → σ
  | .going found => found
  | .full found => found

/-- How a search with a limit ends that without a limit goes on from `found` to `next` : it is full
at the first size after that of `found` that the limit names, and goes on if it names none. -/
inductive CutShort (limit : Nat → Bool) (found next : Roster α) : Search (Roster α) → Prop
  | going : (∀ k, found.size < k → k ≤ next.size → limit k = false) →
      CutShort limit found next (.going next)
  | full {last : Roster α} : found.size < last.size → last.toList <+: next.toList →
      limit last.size = true → (∀ k, found.size < k → k < last.size → limit k = false) →
      CutShort limit found next (.full last)

namespace CutShort

variable {limit : Nat → Bool} {found step next last : Roster α} {result : Search (Roster α)}

theorem refl (limit : Nat → Bool) (found : Roster α) :
    CutShort limit found found (.going found) :=
  .going fun _ hlt hle => absurd hlt (Nat.not_lt.2 hle)

/-- What is full stays as it is. -/
theorem full_mono (h : CutShort limit found step (.full last))
    (hnext : step.toList <+: next.toList) : CutShort limit found next (.full last) := by
  cases h with
  | full hlt hgrows hlimit hfirst => exact .full hlt (hgrows.trans hnext) hlimit hfirst

/-- What was not full on the way to `step` goes on from there. -/
theorem trans (h : CutShort limit found step (.going step))
    (hgrows : found.toList <+: step.toList) (hrest : CutShort limit step next result) :
    CutShort limit found next result := by
  cases h with
  | going hnone =>
    have hsize : found.size ≤ step.size := hgrows.length_le
    have hbefore {m : Nat} (hm : ∀ k, step.size < k → k < m → limit k = false) :
        ∀ k, found.size < k → k < m → limit k = false := fun k hlt hkm =>
      (Nat.lt_or_ge step.size k).elim (hm k · hkm) (hnone k hlt)
    cases hrest with
    | going hnone' =>
      exact .going fun k hlt hle =>
        hbefore (m := next.size + 1) (fun k hk hkm => hnone' k hk (Nat.le_of_lt_succ hkm)) k hlt
          (Nat.lt_succ_of_le hle)
    | full hlt hgrows' hlimit hfirst =>
      exact .full (hsize.trans_lt hlt) hgrows' hlimit (hbefore hfirst)

/-- A limit that names all sizes from `m` on leaves `m` elements, or one more than there were. -/
theorem toList_found {m : Int} (h : CutShort (fun k => decide (m ≤ k)) found next result) :
    result.found.toList
      = next.toList.take (min next.toList.length (max m (found.size + 1)).toNat) := by
  cases h with
  | going hnone =>
    have hle : next.size ≤ (max m (found.size + 1)).toNat := by
      by_contra hlt
      have hnot := of_decide_eq_false (hnone next.size (by omega) le_rfl)
      omega
    rw [Roster.length_toList, Nat.min_eq_left hle]
    exact List.take_length.symm
  | @full last hlt hgrows hlimit hfirst =>
    have hm : m ≤ last.size := of_decide_eq_true hlimit
    have hleast : last.size ≤ (max m (found.size + 1)).toNat := by
      by_contra hgt
      have hnot := of_decide_eq_false (hfirst (last.size - 1) (by omega) (by omega))
      omega
    have hlength : last.size ≤ next.size := hgrows.length_le
    have hmin : min next.size (max m (found.size + 1)).toNat = last.size := by omega
    rw [Roster.length_toList, hmin]
    exact List.prefix_iff_eq_take.1 hgrows

end CutShort

variable {mul : α → α → Except Fault α} (limit : Nat → Bool) {seeds : List α} {found : Roster α}

/-- The products of an element with the seeds, with a limit and without. -/
theorem extendBy_cutShort {a : α} {result : Search (Roster α)}
    (h : extendBy mul unlimited a seeds found = .ok result) :
    ∃ next, result = .going next ∧ found.toList <+: next.toList ∧
      ∃ short, extendBy mul (fun n => .ok (limit n)) a seeds found = .ok short ∧
        CutShort limit found next short := by
  induction seeds generalizing found with
  | nil =>
    obtain rfl := Except.ok.inj h
    exact ⟨found, rfl, List.prefix_rfl, _, rfl, .refl limit found⟩
  | cons b seeds ih =>
    obtain ⟨c, hc, h⟩ := bind_eq_ok.1 h
    rw [extendBy, hc, ok_bind]
    by_cases new : found.contains c = false
    · rw [dif_pos new] at h ⊢
      have hpush : found.toList <+: (found.push c new).toList := by
        rw [Roster.toList_push]
        exact List.prefix_append _ _
      have hsize : (found.push c new).size = found.size + 1 := by
        rw [← Roster.length_toList, Roster.toList_push, List.length_append, Roster.length_toList,
          List.length_singleton]
      obtain ⟨next, hresult, hgrows, short, hshort, hcut⟩ := ih h
      refine ⟨next, hresult, hpush.trans hgrows, ?_⟩
      rw [ok_bind]
      by_cases hlimit : limit (found.push c new).size = true
      · exact ⟨_, if_pos hlimit, .full (by omega) hgrows hlimit (by omega)⟩
      · refine ⟨short, by rw [if_neg hlimit, hshort],
          .trans (.going fun k hlt hle => ?_) hpush hcut⟩
        obtain rfl : k = (found.push c new).size := by omega
        exact Bool.eq_false_iff.2 hlimit
    · rw [dif_neg new] at h ⊢
      exact ih h

/-- A round, with a limit and without. -/
theorem sweep_cutShort {boundary : List α} {result : Search (Roster α)}
    (h : sweep mul unlimited seeds boundary found = .ok result) :
    ∃ next, result = .going next ∧ found.toList <+: next.toList ∧
      ∃ short, sweep mul (fun n => .ok (limit n)) seeds boundary found = .ok short ∧
        CutShort limit found next short := by
  induction boundary generalizing found with
  | nil =>
    obtain rfl := Except.ok.inj h
    exact ⟨found, rfl, List.prefix_rfl, _, rfl, .refl limit found⟩
  | cons a boundary ih =>
    obtain ⟨_, hstep, h⟩ := bind_eq_ok.1 h
    obtain ⟨step, rfl, hgrows, short, hshort, hcut⟩ := extendBy_cutShort limit hstep
    obtain ⟨next, hresult, hgrows', short', hshort', hcut'⟩ := ih h
    refine ⟨next, hresult, hgrows.trans hgrows', ?_⟩
    rw [sweep, hshort, ok_bind]
    cases hcut with
    | going hnone => exact ⟨short', hshort', .trans (.going hnone) hgrows hcut'⟩
    | full hlt hlast hlimit hfirst =>
      exact ⟨_, rfl, .full_mono (.full hlt hlast hlimit hfirst) hgrows'⟩

/-- All rounds of a search that comes to an end, with a limit and without. -/
theorem Roster.rounds_cutShort {text : String} {start : Nat} {report : Report (Roster α)}
    (h : found.rounds mul unlimited seeds text start = some report) {next : Roster α}
    (hnext : report.outcome = .ok next) :
    found.toList <+: next.toList ∧ ∃ said short,
      found.rounds mul (fun n => .ok (limit n)) seeds text start = some ⟨said, .ok short.found⟩ ∧
        CutShort limit found next short := by
  refine Roster.rounds.partial_correctness mul unlimited seeds
    (fun text start found report => ∀ next, report.outcome = .ok next →
      found.toList <+: next.toList ∧ ∃ said short,
        found.rounds mul (fun n => .ok (limit n)) seeds text start = some ⟨said, .ok short.found⟩ ∧
          CutShort limit found next short) ?_ text start found report h next hnext
  intro rounds ih text start found report hrun next hnext
  rw [Roster.rounds]
  split at hrun
  · next hend =>
    obtain rfl := Option.some.inj hrun
    obtain rfl := Except.ok.inj hnext
    exact ⟨List.prefix_rfl, _, .going found, if_pos hend, .refl limit found⟩
  · next hend =>
    rw [if_neg hend]
    dsimp only at hrun ⊢
    cases hsweep : sweep mul unlimited seeds (found.since start) found with
    | error e =>
      rw [hsweep] at hrun
      obtain rfl := Option.some.inj hrun
      cases hnext
    | ok result =>
      obtain ⟨step, rfl, hgrows, short, hshort, hcut⟩ := sweep_cutShort limit hsweep
      rw [hsweep] at hrun
      obtain ⟨hgrows', said, short', hshort', hcut'⟩ := ih _ _ _ _ hrun next hnext
      refine ⟨hgrows.trans hgrows', ?_⟩
      rw [hshort]
      cases hcut with
      | going hnone => exact ⟨said, short', hshort', .trans (.going hnone) hgrows hcut'⟩
      | @full last hlt hlast hlimit hfirst =>
        exact ⟨_, .full last, rfl, .full_mono (.full hlt hlast hlimit hfirst) hgrows'⟩

/-- A closure with a limit has the first elements of the closure without a limit. -/
theorem closure_cutShort {gens next : Roster α}
    (h : (closure gens mul unlimited).outcome = .ok next) :
    ∃ short, (closure gens mul fun n => .ok (limit n)).outcome = .ok short.found ∧
      CutShort limit gens next short := by
  cases hrun : gens.rounds mul unlimited gens.toList "" 0 with
  | none =>
    rw [closure, hrun] at h
    cases h
  | some report =>
    rw [closure, hrun] at h
    obtain ⟨-, said, short, hshort, hcut⟩ := Roster.rounds_cutShort limit hrun h
    refine ⟨short, ?_, hcut⟩
    rw [closure, hshort]
    rfl

/-! ## Searches that come to an end -/

/-- Different values each of which is equal to one of some values are not more than these. -/
theorem length_le_of_forall_exists_beq {xs us : List α}
    (hxs : xs.Pairwise fun a b => (a == b) = false) (h : ∀ a ∈ xs, ∃ u ∈ us, (u == a) = true) :
    xs.length ≤ us.length := by
  have hindex {a : α} (ha : a ∈ xs) : us.findIdx (· == a) < us.length :=
    List.findIdx_lt_length.2 (h a ha)
  have hnodup : (xs.map fun a => us.findIdx (· == a)).Nodup := by
    refine List.pairwise_map.2 (hxs.imp_of_mem fun {a b} ha hb hab heq => ?_)
    have hfound : (us.get ⟨_, hindex ha⟩ == a) = true := List.findIdx_getElem (w := hindex ha)
    have hfound' : (us.get ⟨_, hindex hb⟩ == b) = true := List.findIdx_getElem (w := hindex hb)
    simp only [heq] at hfound
    exact Bool.noConfusion (hab.symm.trans (BEq.trans (BEq.symm hfound) hfound'))
  have hsub : (xs.map fun a => us.findIdx (· == a)) ⊆ List.range us.length := by
    intro i hi
    obtain ⟨a, ha, rfl⟩ := List.mem_map.1 hi
    exact List.mem_range.2 (hindex ha)
  simpa using hnodup.length_le_of_subset hsub

variable {D : α → Prop} (hmul : ∀ ⦃a b⦄, D a → D b → ∃ c, mul a b = .ok c ∧ D c)
include hmul

theorem exists_extendBy {a : α} (ha : D a) (hseeds : ∀ b ∈ seeds, D b)
    (hfound : ∀ b ∈ found.toList, D b) :
    ∃ next, extendBy mul unlimited a seeds found = .ok (.going next) ∧ ∀ b ∈ next.toList, D b := by
  induction seeds generalizing found with
  | nil => exact ⟨found, rfl, hfound⟩
  | cons b seeds ih =>
    obtain ⟨hb, hseeds⟩ := List.forall_mem_cons.1 hseeds
    obtain ⟨c, hc, hdom⟩ := hmul ha hb
    rw [extendBy, hc, ok_bind]
    by_cases new : found.contains c = false
    · rw [dif_pos new]
      have hpush : ∀ b ∈ (found.push c new).toList, D b := by
        rw [Roster.toList_push]
        exact List.forall_mem_append.2 ⟨hfound, List.forall_mem_singleton.2 hdom⟩
      -- a search without a limit is not stopped by what is new
      exact ih hseeds hpush
    · rw [dif_neg new]
      exact ih hseeds hfound

theorem exists_sweep {boundary : List α} (hboundary : ∀ a ∈ boundary, D a)
    (hseeds : ∀ b ∈ seeds, D b) (hfound : ∀ b ∈ found.toList, D b) :
    ∃ next, sweep mul unlimited seeds boundary found = .ok (.going next) ∧
      ∀ b ∈ next.toList, D b := by
  induction boundary generalizing found with
  | nil => exact ⟨found, rfl, hfound⟩
  | cons a boundary ih =>
    obtain ⟨ha, hboundary⟩ := List.forall_mem_cons.1 hboundary
    obtain ⟨step, hstep, hwithin⟩ := exists_extendBy hmul ha hseeds hfound
    rw [sweep, hstep, ok_bind]
    exact ih hboundary hwithin

/-- If the products stay among finitely many values up to `==`, the rounds come to an end. -/
theorem Roster.exists_rounds (hfinite : ∃ us : List α, ∀ a, D a → ∃ u ∈ us, (u == a) = true)
    (hseeds : ∀ b ∈ seeds, D b) (text : String) {start : Nat} (hstart : start ≤ found.size)
    (hfound : ∀ b ∈ found.toList, D b) :
    ∃ said last, found.rounds mul unlimited seeds text start = some ⟨said, .ok last⟩ := by
  obtain ⟨us, hus⟩ := hfinite
  -- the boundary moves on in each round, and no more values are found than there are
  induction hn : us.length - start using Nat.strong_induction_on
    generalizing start found text with
  | _ n ih =>
    rw [Roster.rounds]
    by_cases hend : start = found.size
    · exact ⟨_, found, if_pos hend⟩
    · have hsize : found.size ≤ us.length :=
        length_le_of_forall_exists_beq found.pairwise_toList fun a ha => hus a (hfound a ha)
      have hboundary : ∀ a ∈ found.since start, D a := by
        rw [Roster.since_eq_drop]
        exact fun a ha => hfound a (List.mem_of_mem_drop ha)
      obtain ⟨next, hnext, hwithin⟩ := exists_sweep hmul hboundary hseeds hfound
      obtain ⟨_, hresult, hgrows, -⟩ := sweep_cutShort (fun _ => false) hnext
      obtain rfl := Search.going.inj hresult
      rw [if_neg hend, hnext]
      exact ih _ (by omega) _ hgrows.length_le hwithin rfl

theorem exists_closure (hfinite : ∃ us : List α, ∀ a, D a → ∃ u ∈ us, (u == a) = true)
    {gens : Roster α} (hgens : ∀ a ∈ gens.toList, D a) :
    ∃ found, (closure gens mul unlimited).outcome = .ok found := by
  obtain ⟨said, last, hrun⟩ :=
    Roster.exists_rounds hmul hfinite hgens "" (Nat.zero_le gens.size) hgens
  refine ⟨last, ?_⟩
  rw [closure, hrun]
  rfl

end

/-! ## Operations on finitely many values -/

/-- A number of elements at which a search is told to stop, if it is not zero. -/
theorem stopAt_int {m : Int} (hm : m ≠ 0) :
    stopAt (.int m) = fun k => .ok (decide (m ≤ k)) := by
  funext k
  have htruthy : (Value.int m).truthy = .ok true := congrArg _ (bne_iff_ne.2 hm)
  rw [stopAt, htruthy]
  rfl

/-- An operation on values that can be elements of a group, of which there are finitely many up to
`==`. It stays among them, and need not be associative. -/
structure FiniteOperation where
  Domain : Value → Prop
  mul : Value → Value → Except Fault Value
  keyed_eq : ∀ ⦃a⦄, Domain a → ∃ k, a.keyed = .ok k ∧ Domain k
  mul_eq : ∀ ⦃a b⦄, Domain a → Domain b → ∃ c, mul a b = .ok c ∧ Domain c
  finite : ∃ us : List Value, ∀ a, Domain a → ∃ u ∈ us, (u == a) = true

/-- An associative operation on finitely many values. -/
def AssociativeOperation.toFiniteOperation (A : AssociativeOperation) : FiniteOperation :=
  { A with }

namespace FiniteOperation

variable (A : FiniteOperation)

theorem exists_keyedProduct ⦃a b : Value⦄ (ha : A.Domain a) (hb : A.Domain b) :
    ∃ c, keyedProduct A.mul a b = .ok c ∧ A.Domain c := by
  obtain ⟨c, hc, hdom⟩ := A.mul_eq ha hb
  rw [keyedProduct, hc, ok_bind]
  exact A.keyed_eq hdom

/-- The distinct values of a list are values of the list as keys. -/
theorem exists_distinct {xs : List Value} (hxs : ∀ a ∈ xs, A.Domain a) :
    ∃ r, Value.distinct xs = .ok r ∧ ∀ a ∈ r.toList, A.Domain a := by
  obtain ⟨ks, hks, hall⟩ := exists_mapM (P := fun _ k => A.Domain k) xs
    fun a ha => A.keyed_eq (hxs a ha)
  refine ⟨Roster.ofList ks, by rw [Value.distinct, hks]; rfl, fun k hk => ?_⟩
  obtain ⟨a, -, hdom⟩ := exists_of_forall₂ hall (Roster.mem_of_mem_ofList hk)
  exact hdom

/-- What is spanned with a limit are the first ones of the elements that are spanned without a
limit: as many as the limit says, but at least one more than the distinct seeds, and not more than
there are. -/
theorem spanned_stopAt {gens : List Value} {inv : Option (Value → Except Fault Value)}
    (hgens : ∀ g ∈ gens, A.Domain g) (hne : gens ≠ [])
    (hinv : ∀ f ∈ inv, ∀ g ∈ gens, ∃ h, f g = .ok h ∧ A.Domain h) (identity : Value) :
    ∃ seed first found, seeds gens inv = .ok seed ∧ Value.distinct seed = .ok first ∧
      (spanned gens A.mul inv identity (stopAt .none)).outcome = .ok found ∧
      ∀ most : Int, most ≠ 0 →
        (spanned gens A.mul inv identity (stopAt (.int most))).outcome
          = .ok (found.take (min found.length (max most (first.size + 1)).toNat)) := by
  obtain ⟨seed, hseed, hseedne, hdom⟩ := exists_seeds_within hgens hne hinv
  obtain ⟨first, hfirst, hwithin⟩ := A.exists_distinct hdom
  obtain ⟨found, hfound⟩ := exists_closure A.exists_keyedProduct A.finite hwithin
  have hspanned (stop : Nat → Except Fault Bool) {last : Roster Value}
      (h : (closure first (keyedProduct A.mul) stop).outcome = .ok last) :
      (spanned gens A.mul inv identity stop).outcome = .ok last.toList := by
    simp [spanned, hseed, hseedne, hfirst, h]
  refine ⟨seed, first, found.toList, hseed, hfirst, ?_, fun most hmost => ?_⟩
  · rw [stopAt_none]
    exact hspanned unlimited hfound
  · obtain ⟨short, hshort, hcut⟩ := closure_cutShort (fun k => decide (most ≤ k)) hfound
    rw [stopAt_int hmost, hspanned _ hshort, hcut.toList_found]

/-- The residues modulo six, spanned by `1` and its inverse. A limit that is reached before anything
is found leaves one element more than these. -/
theorem spanned_stopAt_residues : ∃ found,
    (spanned [.int 1] (residues 6).mul (some (residues 6).inverse) (.int 0)
      (stopAt .none)).outcome = .ok found ∧
    (spanned [.int 1] (residues 6).mul (some (residues 6).inverse) (.int 0)
      (stopAt (.int (-1)))).outcome = .ok (found.take (min found.length 3)) ∧
    (spanned [.int 1] (residues 6).mul (some (residues 6).inverse) (.int 0)
      (stopAt (.int 5))).outcome = .ok (found.take (min found.length 5)) := by
  have hG := realizes_residues (n := 6) (by decide)
  let A := (AssociativeOperation.ofRealizes hG).toFiniteOperation
  have hdom : ∀ m : Int, 0 ≤ m → m < 6 → A.Domain (.int m) :=
    fun m hm hlt => ⟨_, m, hm, hlt, rfl, rfl⟩
  have hinverse : (residues 6).inverse (.int 1) = .ok (.int 5) := inverse_residues (by decide) 1
  have hgens : ∀ g ∈ [Value.int 1], A.Domain g :=
    List.forall_mem_singleton.2 (hdom 1 (by decide) (by decide))
  have hinv : ∀ f ∈ some (residues 6).inverse, ∀ g ∈ [Value.int 1],
      ∃ h, f g = .ok h ∧ A.Domain h := by
    rintro f ⟨⟩
    exact List.forall_mem_singleton.2 ⟨_, hinverse, hdom 5 (by decide) (by decide)⟩
  obtain ⟨seed, first, found, hseed, hfirst, hfound, hstop⟩ :=
    A.spanned_stopAt hgens (by simp) hinv (.int 0)
  have hsize : first.size = 2 := by
    have hseeds : seeds [.int 1] (some (residues 6).inverse) = .ok [.int 1, .int 5] := by
      simp [seeds, hinverse]
    obtain rfl := Except.ok.inj (hseed.symm.trans hseeds)
    obtain rfl : Roster.ofList [.int 1, .int 5] = first := Except.ok.inj hfirst
    rw [← Roster.length_toList, Roster.toList_ofList (by decide +kernel)]
    rfl
  rw [hsize] at hstop
  exact ⟨found, hfound, hstop (-1) (by decide), hstop 5 (by decide)⟩

end FiniteOperation

end FiniteGroups
