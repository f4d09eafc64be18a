import Mathlib
import FiniteGroups.Options.Basic
import FiniteGroups.Proofs.Assignment
import FiniteGroups.Proofs.Literals

/-!
# The values of options

Options are read from a list of arguments. A text is a literal, it is none and stands for itself, or
it is faulty : a set or a dictionary in it has a member or a key that is not hashable, or an integer
in it is too large (`Datum.ParsesText`). Only a faulty value keeps a list of arguments from being
read, and it does (`exists_read_error`). Otherwise each argument sets an option, the last one for an
option decides, and the arguments without a dash and without an equals sign are kept in their order
(`Options.ReadsTexts`).
-/

namespace FiniteGroups

namespace Datum

/-! ## Texts -/

/-- The text is a literal for the datum. -/
def IsLiteral (s : String) (d : Datum) : Prop :=
  ∃ x, Form.read s = some x ∧ x.Literal d

/-- The text would be a literal, but for a fault. -/
def IsFaulty (s : String) (e : Fault) : Prop :=
  ∃ x, Form.read s = some x ∧ x.Faults e

/-- What a text is as the value of an option. -/
structure ParsesText (s : String) : Prop where
  parse_literal : ∀ d, IsLiteral s d → parse s = .ok d
  /-- A text that is no literal is left as it is if it is not faulty. -/
  parse_text : (∀ d, ¬IsLiteral s d) → (∀ e, ¬IsFaulty s e) → parse s = .ok (ofString s)
  parse_error_iff : ∀ e, parse s = .error e ↔ IsFaulty s e
  /-- A faulty text has a part that is not hashable and has to be, or a number that is too large. -/
  exists_breaks : ∀ e, IsFaulty s e → ∃ x y, Form.read s = some x ∧ Form.Within y x ∧ y.Breaks e

/-- A faulty text is the only one whose value is a fault. -/
theorem parse_eq_error_iff {s : String} {e : Fault} : parse s = .error e ↔ IsFaulty s e := by
  rw [IsFaulty]
  cases hx : Form.read s with
  | none => simp [parse, hx]
  | some x =>
    simp only [Option.some.injEq, exists_eq_left', ← Form.value_eq_fault_iff, parse, hx]
    split <;> simp_all

theorem parsesText (s : String) : ParsesText s where
  parse_literal := by
    rintro d ⟨x, hx, h⟩
    simp only [parse, hx, Form.value_eq_ok_iff.2 h]
  parse_text hliteral hfaulty := by
    cases hx : Form.read s with
    | none => simp only [parse, hx]
    | some x =>
      cases hvalue : x.value with
      | ok d => exact absurd ⟨x, hx, Form.value_eq_ok_iff.1 hvalue⟩ (hliteral d)
      | error r =>
        cases r with
        | notLiteral => simp only [parse, hx, hvalue]
        | fault e => exact absurd ⟨x, hx, Form.value_eq_fault_iff.1 hvalue⟩ (hfaulty e)
  parse_error_iff _ := parse_eq_error_iff
  exists_breaks := by
    rintro e ⟨x, hx, h⟩
    obtain ⟨y, hy, hbreaks⟩ := h.exists_breaks
    exact ⟨x, y, hx, hy, hbreaks⟩

-- a part that is no literal hides the fault behind it
example : parse "\x7bx, []\x7d" = .ok (ofString "\x7bx, []\x7d") := by cbv

end Datum

namespace Options

/-! ## Single arguments -/

/-- The text behind the first equals sign of an argument. -/
def valueText? (arg : String) : Option String :=
  match arg.toList.dropWhile (· ≠ '=') with
  | _ :: value => some (.ofList value)
  | [] => none

/-- The argument gives an option a faulty value. -/
def ArgumentFaults (arg : String) (e : Fault) : Prop :=
  ∃ s, valueText? arg = some s ∧ Datum.IsFaulty s e

/-- Whether an argument is kept in its place : it has no equals sign and no dash in front. -/
def isPositional (arg : String) : Bool :=
  (valueText? arg).isNone && arg.toList.head? ≠ some '-'

/-- The option that an argument sets. -/
def optionName (arg : String) : String :=
  if (valueText? arg).isSome then withoutDashes (arg.toList.takeWhile (· ≠ '='))
  else if arg.toList.head? = some '-' then withoutDashes arg.toList
  else arg

/-- The option that an argument sets and its value, which is `True` if none is given. -/
def setting (arg : String) : Except Fault (String × Datum) := do
  match valueText? arg with
  | some s => return (optionName arg, ← Datum.parse s)
  | none => return (optionName arg, .bool true)

theorem add_eq (o : Options) (arg : String) : o.add arg = do
    let p ← setting arg
    return ⟨o.positional ++ [arg].filter isPositional, o.named.set p.1 p.2⟩ := by
  have hpositional : [arg].filter isPositional = if isPositional arg then [arg] else [] := by
    cases h : isPositional arg <;> simp [h]
  rw [hpositional, add, setting, isPositional, optionName, valueText?]
  cases arg.toList.dropWhile (· ≠ '=') with
  | nil => by_cases hdash : arg.toList.head? = some '-' <;> simp [hdash]
  | cons c value => simp

theorem fst_of_setting {arg : String} {p : String × Datum} (h : setting arg = .ok p) :
    p.1 = optionName arg := by
  rw [setting] at h
  split at h
  · obtain ⟨d, -, h⟩ := bind_eq_ok.1 h
    rw [← Except.ok.inj h]
  · rw [← Except.ok.inj h]

/-- An argument sets an option unless its value is faulty. -/
theorem setting_eq_error_iff {arg : String} {e : Fault} :
    setting arg = .error e ↔ ArgumentFaults arg e := by
  rw [setting, ArgumentFaults]
  cases valueText? arg with
  | none => simp
  | some s =>
    simp only [Form.bind_return_eq_error_iff, Option.some.injEq, exists_eq_left',
      Datum.parse_eq_error_iff]

theorem exists_setting_iff {arg : String} :
    (∃ p, setting arg = .ok p) ↔ ∀ e, ¬ArgumentFaults arg e := by
  simp only [← setting_eq_error_iff]
  cases setting arg <;> simp

/-! ## Lists of arguments -/

/-- Options are added one by one. -/
theorem foldlM_add (args : List String) (o : Options) : args.foldlM add o = do
    let ps ← args.mapM setting
    return ⟨o.positional ++ args.filter isPositional,
      ps.foldl (fun m p => m.set p.1 p.2) o.named⟩ := by
  induction args generalizing o with
  | nil => simp
  | cons arg args ih =>
    rw [List.foldlM_cons, List.mapM_cons, add_eq]
    cases setting arg with
    | error e => rfl
    | ok p =>
      simp only [ok_bind, pure_eq_ok, bind_assoc, ih, List.append_assoc, List.foldl_cons]
      rw [← List.filter_append, List.singleton_append]

theorem read_eq (args : List String) : read (args.map .text) = do
    let ps ← args.mapM setting
    return ⟨args.filter isPositional, .ofList ps⟩ := by
  rw [read, List.foldlM_map]
  exact foldlM_add args empty

theorem read_eq_ok_iff {args : List String} {o : Options} : read (args.map .text) = .ok o ↔
    ∃ ps, args.mapM setting = .ok ps ∧ o = ⟨args.filter isPositional, .ofList ps⟩ := by
  simp only [read_eq, bind_eq_ok, pure_eq_ok, Except.ok.injEq, @eq_comm _ o]

/-- Options that arguments do not name are not set by them. -/
theorem beq_false_of_mapM_setting {args : List String} {ps : List (String × Datum)}
    (hps : args.mapM setting = .ok ps) {name : String}
    (hargs : ∀ arg ∈ args, optionName arg ≠ name) : ∀ p ∈ ps, (p.1 == name) = false := by
  intro p hp
  obtain ⟨arg, harg, hsetting⟩ := exists_of_mem_mapM hps hp
  exact beq_false_of_ne (fst_of_setting hsetting ▸ hargs arg harg)

/-- An option has the value that the last argument for it gives it. -/
theorem get?_of_read {before after : List String} {arg : String} {o : Options}
    (ho : read ((before ++ arg :: after).map .text) = .ok o)
    (hafter : ∀ a ∈ after, optionName a ≠ optionName arg) :
    ∃ d, setting arg = .ok (optionName arg, d) ∧ o.get? (optionName arg) = some d := by
  obtain ⟨all, hall, rfl⟩ := read_eq_ok_iff.1 ho
  rw [List.mapM_append] at hall
  obtain ⟨ps, -, hall⟩ := bind_eq_ok.1 hall
  obtain ⟨qs, hqs, hall⟩ := bind_eq_ok.1 hall
  rw [List.mapM_cons] at hqs
  obtain ⟨p, hp, hqs⟩ := bind_eq_ok.1 hqs
  obtain ⟨rest, hrest, hqs⟩ := bind_eq_ok.1 hqs
  obtain rfl := Except.ok.inj hqs
  obtain rfl := Except.ok.inj hall
  have hname := fst_of_setting hp
  refine ⟨p.2, by rw [hp, ← hname], ?_⟩
  show (Assignment.ofList (ps ++ p :: rest)).get? _ = _
  rw [List.append_cons, Assignment.get?_ofList_append (beq_false_of_mapM_setting hrest hafter),
    Assignment.get?_ofList_concat, hname, if_pos BEq.rfl]

theorem exists_read_iff {args : List String} : (∃ o, read (args.map .text) = .ok o) ↔
    ∀ arg ∈ args, ∀ e, ¬ArgumentFaults arg e := by
  constructor
  · rintro ⟨o, ho⟩ arg harg
    obtain ⟨ps, hps, -⟩ := read_eq_ok_iff.1 ho
    obtain ⟨p, -, hp⟩ := exists_of_forall₂ (mapM_eq_ok_iff.1 hps).flip harg
    exact exists_setting_iff.1 ⟨p, hp⟩
  · intro hargs
    obtain ⟨ps, hps, -⟩ := exists_mapM (P := fun _ _ => True) args fun arg harg => by
      obtain ⟨p, hp⟩ := exists_setting_iff.2 (hargs arg harg)
      exact ⟨p, hp, True.intro⟩
    exact ⟨_, read_eq_ok_iff.2 ⟨ps, hps, rfl⟩⟩

/-- How options are read from texts. -/
structure ReadsTexts (args : List String) : Prop where
  /-- They are read if no value is faulty. -/
  exists_read_iff : (∃ o, read (args.map .text) = .ok o) ↔
    ∀ arg ∈ args, ∀ e, ¬ArgumentFaults arg e
  /-- Otherwise the first faulty value decides. -/
  read_error_iff : ∀ e, read (args.map .text) = .error e ↔ ∃ before arg after,
    args = before ++ arg :: after ∧ (∀ b ∈ before, ∀ e', ¬ArgumentFaults b e') ∧
      ArgumentFaults arg e
  positional_eq : ∀ o, read (args.map .text) = .ok o → o.positional = args.filter isPositional
  /-- An option has the value that the last argument for it gives it. -/
  get?_eq_some : ∀ o, read (args.map .text) = .ok o → ∀ before arg after,
    args = before ++ arg :: after → (∀ a ∈ after, optionName a ≠ optionName arg) →
      ∃ d, setting arg = .ok (optionName arg, d) ∧ o.get? (optionName arg) = some d
  get?_eq_none : ∀ o, read (args.map .text) = .ok o → ∀ name,
    (∀ arg ∈ args, optionName arg ≠ name) → o.get? name = none

/-- The arguments of a program are read unless one of them has a faulty value. -/
theorem readsTexts (args : List String) : ReadsTexts args where
  exists_read_iff := exists_read_iff
  read_error_iff e := by
    simp only [read_eq, Form.bind_return_eq_error_iff, mapM_eq_error_iff, exists_setting_iff,
      setting_eq_error_iff]
  positional_eq o ho := by
    obtain ⟨ps, -, rfl⟩ := read_eq_ok_iff.1 ho
    rfl
  get?_eq_some := by
    rintro o ho before arg after rfl hafter
    exact get?_of_read ho hafter
  get?_eq_none o ho name hargs := by
    obtain ⟨ps, hps, rfl⟩ := read_eq_ok_iff.1 ho
    show (Assignment.ofList ([] ++ ps)).get? name = none
    rw [Assignment.get?_ofList_append (beq_false_of_mapM_setting hps hargs)]
    exact Assignment.get?_empty name

/-- What becomes of a text and of a list of arguments. -/
theorem parses_and_reads (s : String) (args : List String) : Datum.ParsesText s ∧ ReadsTexts args :=
  ⟨Datum.parsesText s, readsTexts args⟩

end Options

/-! ## A faulty value -/

/-- The set of an empty list. -/
theorem exists_read_error : Datum.parse "\x7b[]\x7d" = .error .wrongKind ∧
    Options.read [.text "x=\x7b[]\x7d"] = .error .wrongKind :=
  ⟨by cbv, by cbv⟩

end FiniteGroups
