import FiniteGroups.Report
import Mathlib.Data.List.Forall2

/-!
# Computations without faults

A computation that may fail is followed step by step as long as nothing goes wrong. The runs
through a list (`mapM`, `filterM`, `allM`, `foldlM`, …) succeed when they succeed on each member,
and then give what the plain run through the list gives.

* `bind_eq_ok` : one step after another;
* `mapM_eq_ok_iff`, `exists_mapM` : a list of results, member by member;
* `exists_foldlM` : an invariant that each step keeps holds at the end.
-/

namespace FiniteGroups

variable {ε α β σ : Type}

@[simp] theorem pure_eq_ok (a : α) : (pure a : Except ε α) = .ok a :=
  rfl

@[simp] theorem ok_bind (a : α) (f : α → Except ε β) : (.ok a >>= f) = f a :=
  rfl

@[simp] theorem error_bind (e : ε) (f : α → Except ε β) : (.error e >>= f) = .error e :=
  rfl

/-- A sequence of two steps succeeds when both do. -/
theorem bind_eq_ok {x : Except ε α} {f : α → Except ε β} {b : β} :
    x >>= f = .ok b ↔ ∃ a, x = .ok a ∧ f a = .ok b := by
  cases x <;> simp

/-- A step of a report that reports nothing has the outcome of the step. -/
@[simp] theorem outcome_liftM (x : Except Fault α) : (liftM x : Report α).outcome = x :=
  rfl

/-! ## Questions -/

/-- A question that is answered by whether `P` holds is answered with yes exactly if it does. -/
theorem eq_ok_true_iff {x : Except ε Bool} {P : Prop}
    (h : ∃ answer, x = .ok answer ∧ (answer = true ↔ P)) : x = .ok true ↔ P := by
  obtain ⟨answer, rfl, hiff⟩ := h
  rw [Except.ok.injEq, hiff]

/-- Questions that are answered by whether `P` holds have the same answer. -/
theorem exists_same_answer {x y : Except ε Bool} {P : Prop}
    (hx : ∃ answer, x = .ok answer ∧ (answer = true ↔ P))
    (hy : ∃ answer, y = .ok answer ∧ (answer = true ↔ P)) :
    ∃ answer, x = .ok answer ∧ y = .ok answer := by
  obtain ⟨a, rfl, ha⟩ := hx
  obtain ⟨b, rfl, hb⟩ := hy
  exact ⟨a, rfl, by rw [Bool.eq_iff_iff.2 (ha.trans hb.symm)]⟩

/-- Two questions of which the second is asked if the first is answered with yes. -/
theorem exists_ite_false {b : Bool} {x : Except ε Bool} {P Q : Prop} (hb : b = true ↔ P)
    (hx : ∃ c, x = .ok c ∧ (c = true ↔ Q)) :
    ∃ c, (if b then x else return false) = .ok c ∧ (c = true ↔ P ∧ Q) := by
  cases b with
  | true =>
    obtain ⟨c, hc, hQ⟩ := hx
    exact ⟨c, hc, by rw [hQ, ← hb]; simp⟩
  | false => exact ⟨false, rfl, by rw [← hb]; simp⟩

/-- Both of them are then answered with yes, or the answer is another one. -/
theorem ite_false_eq_true {x y : Except ε Bool} :
    (do if ← x then y else return false) = .ok true ↔ x = .ok true ∧ y = .ok true := by
  cases x with
  | error e => simp
  | ok answer => cases answer <;> simp

/-! ## Runs through a list -/

/-- The results of a run are those of the members. -/
theorem mapM_eq_ok_iff {f : α → Except ε β} {xs : List α} {ys : List β} :
    xs.mapM f = .ok ys ↔ List.Forall₂ (fun x y => f x = .ok y) xs ys := by
  induction xs generalizing ys with
  | nil => simp [eq_comm]
  | cons x xs ih =>
    simp only [List.mapM_cons, bind_eq_ok, ih, pure_eq_ok, Except.ok.injEq,
      List.forall₂_cons_left_iff]
    constructor
    · rintro ⟨y, hy, ys', hys, rfl⟩
      exact ⟨y, ys', hy, hys, rfl⟩
    · rintro ⟨y, ys', hy, hys, rfl⟩
      exact ⟨y, hy, ys', hys, rfl⟩

theorem exists_of_forall₂ {P : α → β → Prop} {xs : List α} {ys : List β}
    (h : List.Forall₂ P xs ys) {y : β} (hy : y ∈ ys) : ∃ x ∈ xs, P x y := by
  induction h with
  | nil => cases hy
  | cons hxy _ ih =>
    rcases List.mem_cons.1 hy with rfl | hy
    · exact ⟨_, by simp, hxy⟩
    · obtain ⟨x, hx, hp⟩ := ih hy
      exact ⟨x, List.mem_cons_of_mem _ hx, hp⟩

/-- What is different on one side of related lists is different on the other side. -/
theorem pairwise_of_forall₂ {P : α → β → Prop} {r : α → α → Prop} {s : β → β → Prop}
    {xs : List α} {ys : List β} (h : List.Forall₂ P xs ys)
    (hrs : ∀ a b p q, P a p → P b q → r a b → s p q) (hxs : xs.Pairwise r) : ys.Pairwise s := by
  induction h with
  | nil => exact .nil
  | @cons a p xs ys hap hrest ih =>
    obtain ⟨ha, hxs⟩ := List.pairwise_cons.1 hxs
    refine List.pairwise_cons.2 ⟨fun q hq => ?_, ih hxs⟩
    obtain ⟨i, hi, rfl⟩ := List.getElem_of_mem hq
    have hi' : i < xs.length := hrest.length_eq ▸ hi
    exact hrs a xs[i] p ys[i] hap (hrest.get hi' hi) (ha _ (List.getElem_mem hi'))

/-- Relations of lists member by member are composed as those of the members are. -/
theorem forall₂_comp {γ : Type} {P : α → β → Prop} {Q : β → γ → Prop} {xs : List α} {ys : List β}
    {zs : List γ} (h : List.Forall₂ P xs ys) (k : List.Forall₂ Q ys zs) :
    List.Forall₂ (fun x z => ∃ y, P x y ∧ Q y z) xs zs := by
  induction h generalizing zs with
  | nil =>
    cases k
    exact .nil
  | cons hp _ ih =>
    obtain _ | ⟨hq, k⟩ := k
    exact .cons ⟨_, hp, hq⟩ (ih k)

theorem exists_of_mem_mapM {f : α → Except ε β} {xs : List α} {ys : List β}
    (h : xs.mapM f = .ok ys) {y : β} (hy : y ∈ ys) : ∃ x ∈ xs, f x = .ok y :=
  exists_of_forall₂ (mapM_eq_ok_iff.1 h) hy

/-- A run that succeeds on each member succeeds, with a result for each member. -/
theorem exists_mapM {f : α → Except ε β} {P : α → β → Prop} (xs : List α)
    (h : ∀ x ∈ xs, ∃ y, f x = .ok y ∧ P x y) :
    ∃ ys, xs.mapM f = .ok ys ∧ List.Forall₂ P xs ys := by
  induction xs with
  | nil => exact ⟨[], rfl, .nil⟩
  | cons x xs ih =>
    obtain ⟨y, hy, hp⟩ := h x (by simp)
    obtain ⟨ys, hys, hps⟩ := ih fun z hz => h z (by simp [hz])
    exact ⟨y :: ys, by simp [hy, hys], .cons hp hps⟩

/-- A run that succeeds on each member as a function tells gives the values of the function. -/
theorem mapM_eq_map {f : α → Except ε β} {g : α → β} {xs : List α}
    (h : ∀ x ∈ xs, f x = .ok (g x)) : xs.mapM f = .ok (xs.map g) := by
  induction xs with
  | nil => rfl
  | cons x xs ih =>
    rw [List.mapM_cons, h x (by simp), ih fun z hz => h z (by simp [hz])]
    rfl

/-- A run in which something fails, always in the same way, fails in this way. -/
theorem mapM_eq_error {f : α → Except ε β} {e : ε} {xs : List α}
    (h : ∀ x ∈ xs, (∃ y, f x = .ok y) ∨ f x = .error e) (hex : ∃ x ∈ xs, f x = .error e) :
    xs.mapM f = .error e := by
  induction xs with
  | nil => simp at hex
  | cons x xs ih =>
    obtain ⟨hx, hxs⟩ := List.forall_mem_cons.1 h
    rw [List.mapM_cons]
    obtain ⟨y, hy⟩ | hx := hx
    · have hrest : ∃ z ∈ xs, f z = .error e := by
        rw [List.exists_mem_cons_iff, hy] at hex
        exact hex.resolve_left nofun
      rw [hy, ok_bind, ih hxs hrest, error_bind]
    · rw [hx, error_bind]

theorem forM_eq_ok {f : α → Except ε Unit} {xs : List α} (h : ∀ x ∈ xs, f x = .ok ()) :
    xs.forM f = .ok () := by
  induction xs with
  | nil => rfl
  | cons x xs ih =>
    rw [List.forM, h x (by simp)]
    exact ih fun z hz => h z (by simp [hz])

/-- If a check of all members passes, it passes for each of them. -/
theorem of_forM_eq_ok {f : α → Except ε Unit} {xs : List α} (h : xs.forM f = .ok ()) {x : α}
    (hx : x ∈ xs) : f x = .ok () := by
  induction xs with
  | nil => exact absurd hx (by simp)
  | cons y ys ih =>
    obtain ⟨_, hy, hys⟩ := bind_eq_ok.1 h
    obtain rfl | hx := List.mem_cons.1 hx
    · exact hy
    · exact ih hys hx

/-- A check of all members fails as it does for one of them. -/
theorem exists_of_forM_eq_error {f : α → Except ε Unit} {xs : List α} {e : ε}
    (h : xs.forM f = .error e) : ∃ x ∈ xs, f x = .error e := by
  induction xs with
  | nil => cases h
  | cons x xs ih =>
    rw [List.forM] at h
    cases hx : f x with
    | error e' =>
      rw [hx] at h
      exact ⟨x, List.mem_cons_self, hx.trans h⟩
    | ok =>
      rw [hx] at h
      obtain ⟨y, hy, hfy⟩ := ih h
      exact ⟨y, List.mem_cons_of_mem x hy, hfy⟩

/-- A check that only fails in one way, and does for some member, fails in this way. -/
theorem forM_eq_error {f : α → Except ε Unit} {e : ε} {xs : List α}
    (h : ∀ x ∈ xs, f x = .ok () ∨ f x = .error e) (hex : ∃ x ∈ xs, f x = .error e) :
    xs.forM f = .error e := by
  cases hrun : xs.forM f with
  | ok =>
    obtain ⟨x, hx, hfx⟩ := hex
    exact absurd (hfx.symm.trans (of_forM_eq_ok hrun hx)) (by simp)
  | error e' =>
    obtain ⟨x, hx, hfx⟩ := exists_of_forM_eq_error hrun
    obtain hok | herror := h x hx
    · exact absurd (hfx.symm.trans hok) (by simp)
    · rw [Except.error.inj (hfx.symm.trans herror)]

/-- A run through a list that may be refused fails exactly if some member is refused. -/
theorem forIn_cases {f : α → Except ε (ForInStep Unit)} {P : α → Prop} {e : ε} {xs : List α}
    (h : ∀ x ∈ xs, (P x ∧ f x = .ok (.yield ())) ∨ (¬P x ∧ f x = .error e)) :
    ((∀ x ∈ xs, P x) ∧ forIn xs () (fun x _ => f x) = .ok ()) ∨
      ((¬∀ x ∈ xs, P x) ∧ forIn xs () (fun x _ => f x) = .error e) := by
  induction xs with
  | nil => exact .inl ⟨by simp, rfl⟩
  | cons x xs ih =>
    simp only [List.forIn_cons, List.forall_mem_cons]
    obtain ⟨hx, hrun⟩ | ⟨hx, hrun⟩ := h x List.mem_cons_self
    · rw [hrun, ok_bind]
      simpa [hx] using ih fun y hy => h y (List.mem_cons_of_mem x hy)
    · rw [hrun, error_bind]
      exact .inr ⟨fun hall => hx hall.1, rfl⟩

/-- A question that has an answer for each member is answered for all of them. -/
theorem exists_allM {f : α → Except ε Bool} {P : α → Prop} (xs : List α)
    (h : ∀ x ∈ xs, ∃ b, f x = .ok b ∧ (b = true ↔ P x)) :
    ∃ b, xs.allM f = .ok b ∧ (b = true ↔ ∀ x ∈ xs, P x) := by
  induction xs with
  | nil => exact ⟨true, rfl, by simp⟩
  | cons x xs ih =>
    obtain ⟨b, hb, hx⟩ := h x (by simp)
    obtain ⟨c, hc, hxs⟩ := ih fun z hz => h z (by simp [hz])
    rw [List.allM_cons, hb, ok_bind]
    simp only [List.forall_mem_cons, ← hx, ← hxs]
    cases b with
    | true => exact ⟨c, hc, by simp⟩
    | false => exact ⟨false, rfl, by simp⟩

/-- All members have a property if it is found for each of them. -/
theorem of_allM_eq_true {f : α → Except ε Bool} {xs : List α} (h : xs.allM f = .ok true) :
    ∀ x ∈ xs, f x = .ok true := by
  induction xs with
  | nil => simp
  | cons x xs ih =>
    rw [List.allM_cons] at h
    obtain ⟨b, hb, h⟩ := bind_eq_ok.1 h
    cases b with
    | true => exact List.forall_mem_cons.2 ⟨hb, ih h⟩
    | false => cases h

theorem allM_eq_true {f : α → Except ε Bool} {xs : List α} (h : ∀ x ∈ xs, f x = .ok true) :
    xs.allM f = .ok true := by
  induction xs with
  | nil => rfl
  | cons x xs ih =>
    rw [List.allM_cons, h x (by simp)]
    exact ih fun z hz => h z (by simp [hz])

/-- A question that has an answer for each member is answered for one of them. -/
theorem exists_anyM_iff {f : α → Except ε Bool} {P : α → Prop} (xs : List α)
    (h : ∀ x ∈ xs, ∃ b, f x = .ok b ∧ (b = true ↔ P x)) :
    ∃ b, xs.anyM f = .ok b ∧ (b = true ↔ ∃ x ∈ xs, P x) := by
  induction xs with
  | nil => exact ⟨false, rfl, by simp⟩
  | cons x xs ih =>
    obtain ⟨b, hb, hx⟩ := h x (by simp)
    obtain ⟨c, hc, hxs⟩ := ih fun z hz => h z (by simp [hz])
    rw [List.anyM_cons, hb, ok_bind]
    simp only [List.exists_mem_cons_iff, ← hx, ← hxs]
    cases b with
    | true => exact ⟨true, rfl, by simp⟩
    | false => exact ⟨c, hc, by simp⟩

/-- A question that has some answer for each member has one for the list. -/
theorem exists_anyM {f : α → Except ε Bool} {xs : List α} (h : ∀ x ∈ xs, ∃ b, f x = .ok b) :
    ∃ b, xs.anyM f = .ok b := by
  obtain ⟨b, hb, -⟩ := exists_anyM_iff (P := fun x => f x = .ok true) xs fun x hx => by
    obtain ⟨b, hb⟩ := h x hx
    exact ⟨b, hb, by rw [hb, Except.ok.injEq]⟩
  exact ⟨b, hb⟩

/-- A search among members of which one has the property finds one that has it. -/
theorem exists_findM? {f : α → Except ε Bool} {P : α → Prop} (xs : List α)
    (h : ∀ x ∈ xs, ∃ b, f x = .ok b ∧ (b = true ↔ P x)) (hex : ∃ x ∈ xs, P x) :
    ∃ x ∈ xs, xs.findM? f = .ok (some x) ∧ P x := by
  induction xs with
  | nil => simp at hex
  | cons x xs ih =>
    obtain ⟨b, hb, hx⟩ := h x (by simp)
    rw [List.findM?, hb, ok_bind]
    cases b with
    | true => exact ⟨x, by simp, rfl, hx.1 rfl⟩
    | false =>
      have hrest : ∃ y ∈ xs, P y := by
        obtain ⟨y, hy, hPy⟩ := hex
        obtain rfl | hy := List.mem_cons.1 hy
        · exact absurd (hx.2 hPy) Bool.false_ne_true
        · exact ⟨y, hy, hPy⟩
      obtain ⟨y, hy, hfound, hPy⟩ := ih (fun z hz => h z (by simp [hz])) hrest
      exact ⟨y, by simp [hy], hfound, hPy⟩

theorem filterAuxM_eq_filter {f : α → Except ε Bool} {p : α → Bool} {xs : List α}
    (h : ∀ x ∈ xs, f x = .ok (p x)) (found : List α) :
    xs.filterAuxM f found = .ok ((xs.filter p).reverse ++ found) := by
  induction xs generalizing found with
  | nil => rfl
  | cons x xs ih =>
    rw [List.filterAuxM, h x (by simp), ok_bind, ih fun z hz => h z (by simp [hz])]
    cases hp : p x <;> simp [hp]

/-- A choice that can be made for each member chooses what the plain choice does. -/
theorem filterM_eq_filter {f : α → Except ε Bool} {p : α → Bool} {xs : List α}
    (h : ∀ x ∈ xs, f x = .ok (p x)) : xs.filterM f = .ok (xs.filter p) := by
  rw [List.filterM, filterAuxM_eq_filter h]
  simp

/-- A choice among images chooses the images of what is chosen. -/
theorem filterM_map_eq {f : β → Except ε Bool} {g : α → β} {p : α → Bool} {xs : List α}
    (h : ∀ x ∈ xs, f (g x) = .ok (p x)) : (xs.map g).filterM f = .ok ((xs.filter p).map g) := by
  have hanswer : ∀ y ∈ xs.map g, f y = .ok ((f y).toOption.getD false) := by
    intro y hy
    obtain ⟨x, hx, rfl⟩ := List.mem_map.1 hy
    rw [h x hx]
    rfl
  have hsame : xs.filter ((fun y => (f y).toOption.getD false) ∘ g) = xs.filter p :=
    List.filter_congr fun x hx => by rw [Function.comp_apply, h x hx]; rfl
  rw [filterM_eq_filter hanswer, List.filter_map, hsame]

/-- A question about images is answered for one of them. -/
theorem anyM_map_eq {f : β → Except ε Bool} {g : α → β} {p : α → Bool} {xs : List α}
    (h : ∀ x ∈ xs, f (g x) = .ok (p x)) : (xs.map g).anyM f = .ok (xs.any p) := by
  induction xs with
  | nil => rfl
  | cons x xs ih =>
    rw [List.map_cons, List.anyM_cons, h x (by simp), ok_bind, ih fun z hz => h z (by simp [hz]),
      List.any_cons]
    cases p x <;> rfl

/-- What holds at the start and is kept by each step, of which none fails, holds at the end. The
invariant may depend on the members that were met. -/
theorem exists_foldlM {f : σ → α → Except ε σ} {xs : List α} (Inv : List α → σ → Prop)
    (step : ∀ met x rest s, met ++ x :: rest = xs → Inv met s →
      ∃ s', f s x = .ok s' ∧ Inv (met ++ [x]) s')
    {s : σ} (start : Inv [] s) : ∃ s', xs.foldlM f s = .ok s' ∧ Inv xs s' := by
  suffices key : ∀ (rest met : List α) (s : σ), met ++ rest = xs → Inv met s →
      ∃ s', rest.foldlM f s = .ok s' ∧ Inv xs s' from key xs [] s rfl start
  intro rest
  induction rest with
  | nil =>
    rintro met s rfl h
    exact ⟨s, rfl, by simpa using h⟩
  | cons x rest ih =>
    intro met s hxs h
    obtain ⟨s₁, hs₁, h₁⟩ := step met x rest s hxs h
    obtain ⟨s₂, hs₂, h₂⟩ := ih (met ++ [x]) s₁ (by simpa using hxs) h₁
    exact ⟨s₂, by rw [List.foldlM_cons, hs₁, ok_bind, hs₂], h₂⟩

/-- A run through a list in which each step keeps what holds or is refused: none is refused, or the
run is refused as one of them is. -/
theorem foldlM_cases {f : σ → α → Except ε σ} {P : α → Prop} {Q : ε → Prop} {xs : List α}
    (Inv : σ → Prop)
    (step : ∀ x ∈ xs, ∀ s, Inv s → (P x ∧ ∃ s', f s x = .ok s' ∧ Inv s') ∨
      (¬P x ∧ ∃ e, f s x = .error e ∧ Q e)) {s : σ} (start : Inv s) :
    ((∀ x ∈ xs, P x) ∧ ∃ s', xs.foldlM f s = .ok s' ∧ Inv s') ∨
      ((¬∀ x ∈ xs, P x) ∧ ∃ e, xs.foldlM f s = .error e ∧ Q e) := by
  induction xs generalizing s with
  | nil => exact .inl ⟨by simp, s, rfl, start⟩
  | cons x xs ih =>
    simp only [List.foldlM_cons, List.forall_mem_cons]
    obtain ⟨hx, s', hs', hkeep⟩ | ⟨hx, e, he, hQ⟩ := step x List.mem_cons_self s start
    · rw [hs', ok_bind]
      simpa [hx] using ih (fun y hy => step y (List.mem_cons_of_mem x hy)) hkeep
    · rw [he, error_bind]
      exact .inr ⟨fun hall => hx hall.1, e, rfl, hQ⟩

/-- What is gathered from parts is run through part by part. -/
theorem foldlM_flatMap (f : σ → β → Except ε σ) (g : α → List β) (xs : List α) (s : σ) :
    (xs.flatMap g).foldlM f s = xs.foldlM (fun s x => (g x).foldlM f s) s := by
  induction xs generalizing s with
  | nil => rfl
  | cons x xs ih =>
    rw [List.flatMap_cons, List.foldlM_append, List.foldlM_cons]
    exact congrArg _ (funext ih)

/-- Steps that change nothing. -/
theorem foldlM_eq_self {f : σ → α → Except ε σ} {xs : List α} {s : σ}
    (h : ∀ x ∈ xs, f s x = .ok s) : xs.foldlM f s = .ok s := by
  induction xs with
  | nil => rfl
  | cons x xs ih =>
    rw [List.foldlM_cons, h x (by simp), ok_bind, ih fun z hz => h z (by simp [hz])]

/-- What holds at the start and is kept by each step holds of the result, if there is one. -/
theorem of_foldlM_eq_ok {f : σ → α → Except ε σ} {xs : List α} (Inv : σ → Prop)
    (step : ∀ x ∈ xs, ∀ s s', Inv s → f s x = .ok s' → Inv s') {s s' : σ} (start : Inv s)
    (h : xs.foldlM f s = .ok s') : Inv s' := by
  induction xs generalizing s with
  | nil =>
    obtain rfl := Except.ok.inj h
    exact start
  | cons x xs ih =>
    rw [List.foldlM_cons] at h
    obtain ⟨s₁, hs₁, h⟩ := bind_eq_ok.1 h
    exact ih (fun z hz => step z (by simp [hz])) (step x (by simp) s s₁ start hs₁) h

end FiniteGroups
