import FiniteGroups.Fault

/-!
# Reports

A search that takes long says how far it has come. `Report α` is the outcome of such a
computation, a value or a fault, together with the text it has reported up to its end; what was
said before a fault stays said. The text never influences the outcome: `outcome_bind` states
that outcomes combine as if nothing were reported.
-/

namespace FiniteGroups

/-- A value or a fault, and the text reported on the way. -/
structure Report (α : Type) where
  text : String
  outcome : Except Fault α

namespace Report

variable {α β : Type}

/-- Reports a piece of text. -/
def say (s : String) : Report Unit := ⟨s, .ok ()⟩

/-- A computation that reports nothing. -/
def quietly (x : Except Fault α) : Report α := ⟨"", x⟩

/-- One computation after another. -/
def andThen (r : Report α) (f : α → Report β) : Report β :=
  match r.outcome with
  | .error e => ⟨r.text, .error e⟩
  | .ok a => let s := f a; ⟨r.text ++ s.text, s.outcome⟩

/-- The report of a computation that may never end. -/
def ended (r : Option (Report α)) : Report α := r.getD (quietly (.error .exhausted))

instance : Monad Report where
  pure a := ⟨"", .ok a⟩
  bind := andThen

instance : MonadLift (Except Fault) Report := ⟨quietly⟩

instance : MonadExceptOf Fault Report where
  throw e := ⟨"", .error e⟩
  tryCatch r handle :=
    match r.outcome with
    | .ok _ => r
    | .error e => let s := handle e; ⟨r.text ++ s.text, s.outcome⟩

/-- A value alone is its own outcome. -/
@[simp]
theorem outcome_pure (a : α) : (pure a : Report α).outcome = .ok a := rfl

/-- Outcomes follow each other whatever is reported. -/
@[simp]
theorem outcome_bind (r : Report α) (f : α → Report β) :
    (r >>= f).outcome = r.outcome >>= fun a => (f a).outcome := by
  show (andThen r f).outcome = _
  unfold andThen
  cases r.outcome <;> rfl

/-- Reporting never fails. -/
@[simp]
theorem outcome_say (s : String) : (say s).outcome = .ok () := rfl

/-- A computation that reports nothing keeps its outcome. -/
@[simp]
theorem outcome_quietly (x : Except Fault α) : (quietly x).outcome = x := rfl

/-- Runs through a list with a state, collecting the text as it comes. -/
def fold {σ : Type} (f : σ → α → Report σ) (state : σ) (xs : List α) : Report σ :=
  go "" state xs
where
  /-- Continues after `text` was reported. -/
  go (text : String) (state : σ) : List α → Report σ
    | [] => ⟨text, .ok state⟩
    | x :: xs =>
      let r := f state x
      match r.outcome with
      | .error e => ⟨text ++ r.text, .error e⟩
      | .ok state => go (text ++ r.text) state xs

/-- The text reported before does not matter to the rest of the list. -/
theorem outcome_go {σ : Type} (f : σ → α → Report σ) (text : String) (state : σ)
    (xs : List α) :
    (fold.go f text state xs).outcome = xs.foldlM (fun s x => (f s x).outcome) state := by
  induction xs generalizing text state with
  | nil => rfl
  | cons x xs ih =>
    rw [fold.go, List.foldlM_cons]
    cases h : (f state x).outcome with
    | error e => rfl
    | ok s => exact ih _ _

/-- The outcome of a run through a list is the run of the outcomes. -/
theorem outcome_fold {σ : Type} (f : σ → α → Report σ) (state : σ) (xs : List α) :
    (fold f state xs).outcome = xs.foldlM (fun s x => (f s x).outcome) state :=
  outcome_go f "" state xs

end Report

end FiniteGroups
