import FiniteGroups.Options.Literal
import FiniteGroups.Proofs.Computation

/-!
# Literals and faults

The value of an option is what its text stands for, if the text is a literal, and otherwise the text
itself. There is a third case : the members of a set and the keys of a dictionary must be hashable,
and the integer in the sum of an integer and an imaginary number must not be too large. A text in
which this fails is neither a literal nor left as it is.

`Form.Literal` and `Form.Faults` say what a form stands for and how it may fail, constructor by
constructor, and `Form.value` computes just that (`Form.value_eq_ok_iff`,
`Form.value_eq_fault_iff`). The members of a collection are taken from left to right, so a part
that is no literal hides the faults behind it.
-/

namespace FiniteGroups

open Decimal (Extended)

/-! ## Runs from left to right -/

/-- Steps that do something with what the members give collect what these give first. -/
theorem foldlM_eq_mapM {ε α β σ : Type} {g : α → Except ε β} {h : σ → β → σ} (xs : List α) (s : σ) :
    xs.foldlM (fun s x => do return h s (← g x)) s = do return (← xs.mapM g).foldl h s := by
  induction xs generalizing s with
  | nil => rfl
  | cons x xs ih =>
    rw [List.foldlM_cons, List.mapM_cons]
    cases g x with
    | error e => rfl
    | ok b =>
      simp only [pure_eq_ok] at ih
      simp only [ok_bind, pure_eq_ok, bind_assoc, List.foldl_cons, ih]

/-- A run through a list fails at the first member that fails. -/
theorem mapM_eq_error_iff {ε α β : Type} {f : α → Except ε β} {xs : List α} {e : ε} :
    xs.mapM f = .error e ↔ ∃ before x after, xs = before ++ x :: after ∧
      (∀ y ∈ before, ∃ b, f y = .ok b) ∧ f x = .error e := by
  induction xs with
  | nil => simp
  | cons x xs ih =>
    rw [List.mapM_cons]
    cases hx : f x with
    | error e' =>
      simp only [error_bind, Except.error.injEq]
      constructor
      · rintro rfl
        exact ⟨[], x, xs, rfl, by simp, hx⟩
      · rintro ⟨_ | ⟨y, before⟩, z, after, heq, hbefore, hz⟩
        · obtain ⟨rfl, -⟩ := List.cons.inj heq
          exact Except.error.inj (hx.symm.trans hz)
        · obtain ⟨rfl, -⟩ := List.cons.inj heq
          obtain ⟨b, hb⟩ := hbefore x (by simp)
          exact nomatch hx.symm.trans hb
    | ok b =>
      have hrest : (xs.mapM f >>= fun bs => (.ok (b :: bs) : Except ε (List β))) = .error e ↔
          xs.mapM f = .error e := by
        cases xs.mapM f <;> simp
      simp only [ok_bind, pure_eq_ok, hrest, ih]
      constructor
      · rintro ⟨before, z, after, rfl, hbefore, hz⟩
        exact ⟨x :: before, z, after, rfl, List.forall_mem_cons.2 ⟨⟨b, hx⟩, hbefore⟩, hz⟩
      · rintro ⟨_ | ⟨y, before⟩, z, after, heq, hbefore, hz⟩
        · obtain ⟨rfl, -⟩ := List.cons.inj heq
          exact nomatch hx.symm.trans hz
        · obtain ⟨rfl, rfl⟩ := List.cons.inj heq
          exact ⟨before, z, after, rfl, fun w hw => hbefore w (by simp [hw]), hz⟩

/-- Relations that agree at the members of a list relate it to the same lists. -/
theorem forall₂_congr_of_mem {α β : Type} {R S : α → β → Prop} {xs : List α} {ys : List β}
    (h : ∀ x ∈ xs, ∀ y, R x y ↔ S x y) : List.Forall₂ R xs ys ↔ List.Forall₂ S xs ys := by
  induction xs generalizing ys with
  | nil => simp
  | cons x xs ih =>
    obtain ⟨hx, hxs⟩ := List.forall_mem_cons.1 h
    simp only [List.forall₂_cons_left_iff, hx, ih hxs]

theorem forall₂_and {α β : Type} {R S : α → β → Prop} {xs : List α} {ys : List β} :
    List.Forall₂ (fun x y => R x y ∧ S x y) xs ys ↔
      List.Forall₂ R xs ys ∧ List.Forall₂ S xs ys := by
  simp only [List.forall₂_iff_zip]
  constructor
  · rintro ⟨hlen, h⟩
    exact ⟨⟨hlen, fun hp => (h hp).1⟩, hlen, fun hp => (h hp).2⟩
  · rintro ⟨⟨hlen, h⟩, -, h'⟩
    exact ⟨hlen, fun hp => ⟨h hp, h' hp⟩⟩

theorem forall₂_and_right {α β : Type} {R : α → β → Prop} {p : β → Prop} {xs : List α}
    {ys : List β} : List.Forall₂ (fun x y => R x y ∧ p y) xs ys ↔
      List.Forall₂ R xs ys ∧ ∀ y ∈ ys, p y := by
  constructor
  · intro h
    refine ⟨h.imp fun _ _ => And.left, fun y hy => ?_⟩
    obtain ⟨x, -, -, hp⟩ := exists_of_forall₂ h hy
    exact hp
  · rintro ⟨h, hp⟩
    induction h with
    | nil => exact .nil
    | cons hxy _ ih =>
      obtain ⟨hy, hp⟩ := List.forall_mem_cons.1 hp
      exact .cons ⟨hxy, hy⟩ (ih hp)

namespace Form

/-! ## What a form stands for -/

/-- The keys of some pairs with their values. -/
def assigned (qs : List (Datum × Datum)) : List Datum × List Datum :=
  qs.foldl (fun m q => Datum.assign m.1 m.2 q.1 q.2) ([], [])

/-- The form is a literal for the datum. -/
inductive Literal : Form → Datum → Prop
  | constant (d : Datum) : Literal (.constant d) d
  | emptySet : Literal (.call (.name "set")) (.set [])
  | tuple {xs : List Form} {ds : List Datum} (h : List.Forall₂ Literal xs ds) :
      Literal (.tuple xs) (.tuple ds)
  | list {xs : List Form} {ds : List Datum} (h : List.Forall₂ Literal xs ds) :
      Literal (.list xs) (.list ds)
  | set {xs : List Form} {ds : List Datum} (h : List.Forall₂ Literal xs ds)
      (hds : ∀ d ∈ ds, d.hashable = true) :
      Literal (.set xs) (.set (ds.foldl Datum.insert []))
  | mapping {ks xs : List Form} {qs : List (Datum × Datum)}
      (hks : List.Forall₂ Literal ((ks.zip xs).map Prod.fst) (qs.map Prod.fst))
      (hxs : List.Forall₂ Literal ((ks.zip xs).map Prod.snd) (qs.map Prod.snd))
      (hqs : ∀ q ∈ qs, q.1.hashable = true) :
      Literal (.mapping ks xs) (.mapping (assigned qs).1 (assigned qs).2)
  | signed {negative : Bool} {x : Form} {d : Datum}
      (h : signedNumber (.signed negative x) = .ok d) : Literal (.signed negative x) d
  | sum {minus : Bool} {x y : Form} {d : Datum} (h : complexSum minus x y = .ok d) :
      Literal (.sum minus x y) d

/-- The form is a literal for something that can be found by what it stands for. -/
def Hashable (x : Form) : Prop :=
  ∃ d, x.Literal d ∧ d.hashable = true

/-- The form is a literal for something that cannot be found. -/
def Unhashable (x : Form) : Prop :=
  ∃ d, x.Literal d ∧ d.hashable = false

/-- The sum of an integer and an imaginary number of which the integer is too large. -/
def SumOverflows (x y : Form) : Prop :=
  ∃ n re im negative, signedNumber x = .ok (.int n) ∧ number y = .ok (.complex re im) ∧
    Extended.nearest (n < 0) n.natAbs 0 = .infinite negative

/-- The form fails with a fault. -/
inductive Faults : Form → Fault → Prop
  | tuple {before after : List Form} {x : Form} {e : Fault}
      (hbefore : ∀ y ∈ before, ∃ d, y.Literal d) (hx : Faults x e) :
      Faults (.tuple (before ++ x :: after)) e
  | list {before after : List Form} {x : Form} {e : Fault}
      (hbefore : ∀ y ∈ before, ∃ d, y.Literal d) (hx : Faults x e) :
      Faults (.list (before ++ x :: after)) e
  | set {before after : List Form} {x : Form} {e : Fault} (hbefore : ∀ y ∈ before, y.Hashable)
      (hx : Faults x e) : Faults (.set (before ++ x :: after)) e
  /-- A member of a set cannot be found. -/
  | member {before after : List Form} {x : Form} (hbefore : ∀ y ∈ before, y.Hashable)
      (hx : x.Unhashable) : Faults (.set (before ++ x :: after)) .wrongKind
  | mappingKey {ks xs : List Form} {before after : List (Form × Form)} {k x : Form} {e : Fault}
      (h : ks.zip xs = before ++ (k, x) :: after)
      (hbefore : ∀ p ∈ before, p.1.Hashable ∧ ∃ d, p.2.Literal d) (hk : Faults k e) :
      Faults (.mapping ks xs) e
  | mappingValue {ks xs : List Form} {before after : List (Form × Form)} {k x : Form} {e : Fault}
      (h : ks.zip xs = before ++ (k, x) :: after)
      (hbefore : ∀ p ∈ before, p.1.Hashable ∧ ∃ d, p.2.Literal d) (hk : ∃ c, k.Literal c)
      (hx : Faults x e) : Faults (.mapping ks xs) e
  /-- A key of a dictionary cannot be found. -/
  | key {ks xs : List Form} {before after : List (Form × Form)} {k x : Form}
      (h : ks.zip xs = before ++ (k, x) :: after)
      (hbefore : ∀ p ∈ before, p.1.Hashable ∧ ∃ d, p.2.Literal d) (hk : k.Unhashable)
      (hx : ∃ d, x.Literal d) : Faults (.mapping ks xs) .wrongKind
  | sum {minus : Bool} {x y : Form} (h : SumOverflows x y) : Faults (.sum minus x y) .overflow

/-! ## The ways in which a form may be a literal or fail -/

theorem literal_constant_iff {c d : Datum} : Literal (.constant c) d ↔ c = d := by
  constructor
  · rintro ⟨⟩
    rfl
  · rintro rfl
    exact .constant c

/-- Of all calls only that of `set` is a literal. -/
theorem literal_call_iff {f : Form} {d : Datum} :
    Literal (.call f) d ↔ f = .name "set" ∧ .set [] = d := by
  constructor
  · rintro ⟨⟩
    exact ⟨rfl, rfl⟩
  · rintro ⟨rfl, rfl⟩
    exact .emptySet

theorem literal_tuple_iff {xs : List Form} {d : Datum} :
    Literal (.tuple xs) d ↔ ∃ ds, List.Forall₂ Literal xs ds ∧ .tuple ds = d := by
  constructor
  · rintro ⟨⟩
    exact ⟨_, ‹_›, rfl⟩
  · rintro ⟨ds, h, rfl⟩
    exact .tuple h

theorem literal_list_iff {xs : List Form} {d : Datum} :
    Literal (.list xs) d ↔ ∃ ds, List.Forall₂ Literal xs ds ∧ .list ds = d := by
  constructor
  · rintro ⟨⟩
    exact ⟨_, ‹_›, rfl⟩
  · rintro ⟨ds, h, rfl⟩
    exact .list h

theorem literal_set_iff {xs : List Form} {d : Datum} : Literal (.set xs) d ↔
    ∃ ds, (List.Forall₂ Literal xs ds ∧ ∀ d ∈ ds, d.hashable = true) ∧
      .set (ds.foldl Datum.insert []) = d := by
  constructor
  · rintro ⟨⟩
    exact ⟨_, ⟨‹_›, ‹_›⟩, rfl⟩
  · rintro ⟨ds, ⟨h, hds⟩, rfl⟩
    exact .set h hds

theorem literal_mapping_iff {ks xs : List Form} {d : Datum} : Literal (.mapping ks xs) d ↔
    ∃ qs : List (Datum × Datum),
      (List.Forall₂ Literal ((ks.zip xs).map Prod.fst) (qs.map Prod.fst) ∧
        List.Forall₂ Literal ((ks.zip xs).map Prod.snd) (qs.map Prod.snd) ∧
        ∀ q ∈ qs, q.1.hashable = true) ∧
      .mapping (assigned qs).1 (assigned qs).2 = d := by
  constructor
  · rintro ⟨⟩
    exact ⟨_, ⟨‹_›, ‹_›, ‹_›⟩, rfl⟩
  · rintro ⟨qs, ⟨hks, hxs, hqs⟩, rfl⟩
    exact .mapping hks hxs hqs

theorem literal_signed_iff {negative : Bool} {x : Form} {d : Datum} :
    Literal (.signed negative x) d ↔ signedNumber (.signed negative x) = .ok d := by
  constructor
  · rintro ⟨⟩
    assumption
  · exact .signed

theorem literal_sum_iff {minus : Bool} {x y : Form} {d : Datum} :
    Literal (.sum minus x y) d ↔ complexSum minus x y = .ok d := by
  constructor
  · rintro ⟨⟩
    assumption
  · exact .sum

theorem faults_tuple_iff {xs : List Form} {e : Fault} : Faults (.tuple xs) e ↔
    ∃ before x after, xs = before ++ x :: after ∧ (∀ y ∈ before, ∃ d, y.Literal d) ∧
      x.Faults e := by
  constructor
  · rintro ⟨⟩
    exact ⟨_, _, _, rfl, ‹_›, ‹_›⟩
  · rintro ⟨before, x, after, rfl, hbefore, hx⟩
    exact .tuple hbefore hx

theorem faults_list_iff {xs : List Form} {e : Fault} : Faults (.list xs) e ↔
    ∃ before x after, xs = before ++ x :: after ∧ (∀ y ∈ before, ∃ d, y.Literal d) ∧
      x.Faults e := by
  constructor
  · rintro ⟨⟩
    exact ⟨_, _, _, rfl, ‹_›, ‹_›⟩
  · rintro ⟨before, x, after, rfl, hbefore, hx⟩
    exact .list hbefore hx

/-- A set fails at a member that fails or that cannot be found. -/
theorem faults_set_iff {xs : List Form} {e : Fault} : Faults (.set xs) e ↔
    ∃ before x after, xs = before ++ x :: after ∧ (∀ y ∈ before, y.Hashable) ∧
      (x.Faults e ∨ x.Unhashable ∧ e = .wrongKind) := by
  constructor
  · intro h
    cases h with
    | set hbefore hx => exact ⟨_, _, _, rfl, hbefore, .inl hx⟩
    | member hbefore hx => exact ⟨_, _, _, rfl, hbefore, .inr ⟨hx, rfl⟩⟩
  · rintro ⟨before, x, after, rfl, hbefore, hx | ⟨hx, rfl⟩⟩
    · exact .set hbefore hx
    · exact .member hbefore hx

/-- A dictionary fails at a key or a value that fails, or at a key that cannot be found. -/
theorem faults_mapping_iff {ks xs : List Form} {e : Fault} : Faults (.mapping ks xs) e ↔
    ∃ before p after, ks.zip xs = before ++ p :: after ∧
      (∀ q ∈ before, q.1.Hashable ∧ ∃ d, q.2.Literal d) ∧
      (p.1.Faults e ∨ (∃ c, p.1.Literal c) ∧ p.2.Faults e ∨
        p.1.Unhashable ∧ (∃ d, p.2.Literal d) ∧ e = .wrongKind) := by
  constructor
  · intro h
    cases h with
    | mappingKey heq hbefore hk => exact ⟨_, _, _, heq, hbefore, .inl hk⟩
    | mappingValue heq hbefore hk hx => exact ⟨_, _, _, heq, hbefore, .inr (.inl ⟨hk, hx⟩)⟩
    | key heq hbefore hk hx => exact ⟨_, _, _, heq, hbefore, .inr (.inr ⟨hk, hx, rfl⟩)⟩
  · rintro ⟨before, ⟨k, x⟩, after, heq, hbefore, hk | ⟨hk, hx⟩ | ⟨hk, hx, rfl⟩⟩
    · exact .mappingKey heq hbefore hk
    · exact .mappingValue heq hbefore hk hx
    · exact .key heq hbefore hk hx

theorem faults_sum_iff {minus : Bool} {x y : Form} {e : Fault} :
    Faults (.sum minus x y) e ↔ SumOverflows x y ∧ e = .overflow := by
  constructor
  · rintro ⟨⟩
    exact ⟨‹_›, rfl⟩
  · rintro ⟨h, rfl⟩
    exact .sum h

/-! ## Parts -/

/-- The forms that a form is made of, if it is a collection. -/
def parts : Form → List Form
  | .tuple xs | .list xs | .set xs => xs
  | .mapping ks xs => ks ++ xs
  | _ => []

theorem sizeOf_lt_of_mem_parts {x y : Form} (h : y ∈ x.parts) : sizeOf y < sizeOf x := by
  cases x with
  | tuple xs | list xs | set xs =>
    have := List.sizeOf_lt_of_mem (show y ∈ xs from h)
    simp
    omega
  | mapping ks xs =>
    obtain hy | hy := List.mem_append.1 h <;>
    · have := List.sizeOf_lt_of_mem hy
      simp
      omega
  | _ => cases h

/-- What holds for a form if it does for its parts holds for all forms. -/
theorem induction_parts {P : Form → Prop} (h : ∀ x, (∀ y ∈ x.parts, P y) → P x) (x : Form) : P x :=
  (measure sizeOf).wf.induction x fun x ih => h x fun y hy => ih y (sizeOf_lt_of_mem_parts hy)

theorem mem_parts_of_zip {ks xs : List Form} {p : Form × Form} (hp : p ∈ ks.zip xs) :
    p.1 ∈ (mapping ks xs).parts ∧ p.2 ∈ (mapping ks xs).parts :=
  ⟨List.mem_append_left _ (List.of_mem_zip hp).1, List.mem_append_right _ (List.of_mem_zip hp).2⟩

/-! ## The value of a collection -/

/-- A member of a set. -/
def memberValue (x : Form) : Except Refusal Datum := do
  key (← value x)

/-- A key of a dictionary and its value. -/
def pairValue (p : Form × Form) : Except Refusal (Datum × Datum) := do
  let k ← value p.1
  let v ← value p.2
  return (← key k, v)

theorem values_eq_map (xs : List Form) : values xs = xs.map value := by
  induction xs with
  | nil => rfl
  | cons x xs ih => rw [values, ih, List.map_cons]

theorem mapM_values (xs : List Form) : (values xs).mapM id = xs.mapM value := by
  rw [values_eq_map, List.mapM_map]
  rfl

theorem value_tuple (xs : List Form) : value (.tuple xs) = do return .tuple (← xs.mapM value) := by
  rw [value, mapM_values]

theorem value_list (xs : List Form) : value (.list xs) = do return .list (← xs.mapM value) := by
  rw [value, mapM_values]

theorem value_set (xs : List Form) :
    value (.set xs) = do return .set ((← xs.mapM memberValue).foldl Datum.insert []) := by
  have h := foldlM_eq_mapM (g := memberValue) (h := Datum.insert) xs []
  simp only [memberValue, bind_assoc] at h
  rw [value, setOf, values_eq_map, List.foldlM_map, h]
  simp only [bind_assoc, pure_bind]

theorem value_mapping (ks xs : List Form) : value (.mapping ks xs) = do
    let qs ← (ks.zip xs).mapM pairValue
    return .mapping (assigned qs).1 (assigned qs).2 := by
  have h := foldlM_eq_mapM (g := pairValue)
    (h := fun (m : List Datum × List Datum) q => Datum.assign m.1 m.2 q.1 q.2) (ks.zip xs) ([], [])
  simp only [pairValue, bind_assoc, pure_bind] at h
  rw [value, mappingOf, values_eq_map, values_eq_map, List.zip_map, List.foldlM_map]
  simp only [Prod.map_fst, Prod.map_snd]
  rw [h]
  simp only [bind_assoc, pure_bind, assigned]

/-! ## Literals -/

theorem key_eq_ok_iff {d k : Datum} : key d = .ok k ↔ d = k ∧ d.hashable = true := by
  rw [key, Datum.key]
  cases d.hashable <;> simp

theorem memberValue_eq_ok_iff {x : Form} {d : Datum} :
    memberValue x = .ok d ↔ x.value = .ok d ∧ d.hashable = true := by
  simp only [memberValue, bind_eq_ok, key_eq_ok_iff]
  constructor
  · rintro ⟨_, hx, rfl, hd⟩
    exact ⟨hx, hd⟩
  · rintro ⟨hx, hd⟩
    exact ⟨d, hx, rfl, hd⟩

theorem pairValue_eq_ok_iff {p : Form × Form} {q : Datum × Datum} : pairValue p = .ok q ↔
    p.1.value = .ok q.1 ∧ p.2.value = .ok q.2 ∧ q.1.hashable = true := by
  simp only [pairValue, bind_eq_ok, key_eq_ok_iff, pure_eq_ok, Except.ok.injEq]
  constructor
  · rintro ⟨_, hk, _, hx, _, ⟨rfl, hd⟩, rfl⟩
    exact ⟨hk, hx, hd⟩
  · rintro ⟨hk, hx, hd⟩
    exact ⟨_, hk, _, hx, _, ⟨rfl, hd⟩, rfl⟩

theorem mapM_memberValue_eq_ok_iff {xs : List Form} {ds : List Datum} :
    xs.mapM memberValue = .ok ds ↔
      List.Forall₂ (fun x d => x.value = .ok d) xs ds ∧ ∀ d ∈ ds, d.hashable = true := by
  simp only [mapM_eq_ok_iff, memberValue_eq_ok_iff]
  exact forall₂_and_right

theorem mapM_pairValue_eq_ok_iff {ps : List (Form × Form)} {qs : List (Datum × Datum)} :
    ps.mapM pairValue = .ok qs ↔
      List.Forall₂ (fun x d => x.value = .ok d) (ps.map Prod.fst) (qs.map Prod.fst) ∧
      List.Forall₂ (fun x d => x.value = .ok d) (ps.map Prod.snd) (qs.map Prod.snd) ∧
      ∀ q ∈ qs, q.1.hashable = true := by
  simp only [mapM_eq_ok_iff, pairValue_eq_ok_iff, List.forall₂_map_left_iff,
    List.forall₂_map_right_iff]
  rw [← forall₂_and_right, ← forall₂_and]

theorem value_call_set : value (.call (.name "set")) = .ok (.set []) :=
  rfl

/-- Any other call is no literal. -/
theorem value_call_of_ne {f : Form} (hf : f ≠ .name "set") :
    value (.call f) = .error .notLiteral := by
  rw [value]
  split
  all_goals simp_all

/-- The value of a form is what the form is a literal for. -/
theorem value_eq_ok_iff {x : Form} {d : Datum} : x.value = .ok d ↔ x.Literal d := by
  induction x using induction_parts generalizing d with
  | h x ih =>
    have hparts (ys : List Form) (hys : ys ⊆ x.parts) (ds : List Datum) :
        List.Forall₂ (fun y d => y.value = .ok d) ys ds ↔ List.Forall₂ Literal ys ds :=
      forall₂_congr_of_mem fun y hy _ => ih y (hys hy)
    cases x with
    | constant c => rw [value, literal_constant_iff, Except.ok.injEq]
    | name s | place | starred y | other => exact iff_of_false nofun nofun
    | call f =>
      rw [literal_call_iff]
      by_cases hf : f = .name "set"
      · rw [hf, value_call_set, Except.ok.injEq]
        exact (and_iff_right rfl).symm
      · rw [value_call_of_ne hf]
        exact iff_of_false nofun fun h => hf h.1
    | tuple xs =>
      simp only [value_tuple, literal_tuple_iff, bind_eq_ok, pure_eq_ok, Except.ok.injEq,
        mapM_eq_ok_iff, hparts xs (List.Subset.refl xs)]
    | list xs =>
      simp only [value_list, literal_list_iff, bind_eq_ok, pure_eq_ok, Except.ok.injEq,
        mapM_eq_ok_iff, hparts xs (List.Subset.refl xs)]
    | set xs =>
      simp only [value_set, literal_set_iff, bind_eq_ok, pure_eq_ok, Except.ok.injEq,
        mapM_memberValue_eq_ok_iff, hparts xs (List.Subset.refl xs)]
    | mapping ks xs =>
      have hks : (ks.zip xs).map Prod.fst ⊆ (mapping ks xs).parts := by
        intro y hy
        obtain ⟨p, hp, rfl⟩ := List.mem_map.1 hy
        exact (mem_parts_of_zip hp).1
      have hxs : (ks.zip xs).map Prod.snd ⊆ (mapping ks xs).parts := by
        intro y hy
        obtain ⟨p, hp, rfl⟩ := List.mem_map.1 hy
        exact (mem_parts_of_zip hp).2
      simp only [value_mapping, literal_mapping_iff, bind_eq_ok, pure_eq_ok, Except.ok.injEq,
        mapM_pairValue_eq_ok_iff, hparts _ hks, hparts _ hxs]
    | signed negative y => rw [value, literal_signed_iff]
    | sum minus y z => rw [value, literal_sum_iff]

/-! ## Faults -/

theorem number_eq_error {x : Form} {r : Refusal} (h : number x = .error r) : r = .notLiteral := by
  unfold number at h
  split at h <;> cases h
  rfl

theorem negated_eq_error {d : Datum} {r : Refusal} (h : negated d = .error r) :
    r = .notLiteral := by
  unfold negated at h
  split at h <;> cases h
  rfl

/-- Whatever is no number with a sign is no literal. -/
theorem signedNumber_eq_error {x : Form} {r : Refusal} (h : signedNumber x = .error r) :
    r = .notLiteral := by
  unfold signedNumber at h
  split at h
  · next negative y =>
    cases hy : number y with
    | error r' =>
      rw [hy] at h
      cases h
      exact number_eq_error hy
    | ok d =>
      rw [hy, ok_bind] at h
      split at h
      · exact negated_eq_error h
      · cases h
  · exact number_eq_error h

/-- A sum fails if its integer is too large. -/
theorem complexSum_eq_fault_iff {minus : Bool} {x y : Form} {e : Fault} :
    complexSum minus x y = .error (.fault e) ↔ SumOverflows x y ∧ e = .overflow := by
  rw [complexSum, SumOverflows]
  cases hx : signedNumber x with
  | error r =>
    rw [signedNumber_eq_error hx]
    simp
  | ok left =>
    cases hy : number y with
    | error r =>
      rw [number_eq_error hy]
      simp
    | ok right =>
      simp only [ok_bind, Except.ok.injEq]
      split
      · next n re im =>
        split
        · next b hb => simp [hb]
        · next negative hn =>
          show Except.error (Refusal.fault .overflow) = .error (.fault e) ↔ _
          simp [hn, eq_comm]
      · simp
      · next hint _ =>
        refine iff_of_false nofun ?_
        rintro ⟨⟨n, re, im, -, rfl, rfl, -⟩, -⟩
        exact hint n re im rfl rfl

theorem key_eq_error_iff {d : Datum} {r : Refusal} :
    key d = .error r ↔ d.hashable = false ∧ r = .fault .wrongKind := by
  rw [key, Datum.key]
  cases d.hashable <;> simp [eq_comm]

theorem memberValue_eq_fault_iff {x : Form} {e : Fault} :
    memberValue x = .error (.fault e) ↔
      x.value = .error (.fault e) ∨ x.Unhashable ∧ e = .wrongKind := by
  simp only [memberValue, Unhashable, ← value_eq_ok_iff]
  cases x.value with
  | error r => simp
  | ok d => simp [key_eq_error_iff]

theorem pairValue_eq_fault_iff {p : Form × Form} {e : Fault} :
    pairValue p = .error (.fault e) ↔ p.1.value = .error (.fault e) ∨
      (∃ c, p.1.Literal c) ∧ p.2.value = .error (.fault e) ∨
      p.1.Unhashable ∧ (∃ d, p.2.Literal d) ∧ e = .wrongKind := by
  simp only [pairValue, Unhashable, ← value_eq_ok_iff]
  cases p.1.value with
  | error r => simp
  | ok c =>
    cases p.2.value with
    | error r => simp
    | ok d =>
      cases hc : key c with
      | error r =>
        obtain ⟨hoff, rfl⟩ := key_eq_error_iff.1 hc
        simp [hc, hoff, @eq_comm _ e]
      | ok c' =>
        obtain ⟨rfl, hon⟩ := key_eq_ok_iff.1 hc
        simp [hc, hon]

theorem exists_memberValue_iff {x : Form} : (∃ d, memberValue x = .ok d) ↔ x.Hashable := by
  simp only [memberValue_eq_ok_iff, value_eq_ok_iff, Hashable]

theorem exists_pairValue_iff {p : Form × Form} :
    (∃ q, pairValue p = .ok q) ↔ p.1.Hashable ∧ ∃ d, p.2.Literal d := by
  simp only [pairValue_eq_ok_iff, value_eq_ok_iff]
  constructor
  · rintro ⟨q, hk, hx, hq⟩
    exact ⟨⟨q.1, hk, hq⟩, q.2, hx⟩
  · rintro ⟨⟨c, hk, hc⟩, d, hx⟩
    exact ⟨(c, d), hk, hx, hc⟩

/-- A collection fails as the run through its members does. -/
theorem bind_return_eq_error_iff {ε α β : Type} {x : Except ε α} {f : α → β} {e : ε} :
    (do return f (← x)) = .error e ↔ x = .error e := by
  cases x <;> simp

/-- The value of a form is a fault exactly if the form fails with it. -/
theorem value_eq_fault_iff {x : Form} {e : Fault} : x.value = .error (.fault e) ↔ x.Faults e := by
  induction x using induction_parts generalizing e with
  | h x ih =>
    cases x with
    | constant c | name s | place | starred y | other => exact iff_of_false nofun nofun
    | call f =>
      refine iff_of_false ?_ nofun
      by_cases hf : f = .name "set"
      · rw [hf, value_call_set]
        nofun
      · rw [value_call_of_ne hf]
        nofun
    | tuple xs =>
      simp only [value_tuple, faults_tuple_iff, bind_return_eq_error_iff, mapM_eq_error_iff,
        value_eq_ok_iff]
      exact exists₃_congr fun before x after => and_congr_right fun hxs =>
        and_congr_right fun _ => ih x (by simp [parts, hxs])
    | list xs =>
      simp only [value_list, faults_list_iff, bind_return_eq_error_iff, mapM_eq_error_iff,
        value_eq_ok_iff]
      exact exists₃_congr fun before x after => and_congr_right fun hxs =>
        and_congr_right fun _ => ih x (by simp [parts, hxs])
    | set xs =>
      simp only [value_set, faults_set_iff, bind_return_eq_error_iff, mapM_eq_error_iff,
        exists_memberValue_iff, memberValue_eq_fault_iff]
      exact exists₃_congr fun before x after => and_congr_right fun hxs =>
        and_congr_right fun _ => or_congr_left (ih x (by simp [parts, hxs]))
    | mapping ks xs =>
      simp only [value_mapping, faults_mapping_iff, bind_return_eq_error_iff, mapM_eq_error_iff,
        exists_pairValue_iff, pairValue_eq_fault_iff]
      refine exists₃_congr fun before p after => and_congr_right fun hps => and_congr_right
        fun _ => ?_
      obtain ⟨hk, hx⟩ := mem_parts_of_zip (show p ∈ ks.zip xs by simp [hps])
      rw [ih p.1 hk, ih p.2 hx]
    | signed negative y =>
      refine iff_of_false (fun h => ?_) nofun
      rw [value] at h
      cases signedNumber_eq_error h
    | sum minus y z => rw [value, complexSum_eq_fault_iff, faults_sum_iff]

/-! ## Where a fault comes from -/

/-- A form is made of itself, its parts and their parts. -/
inductive Within : Form → Form → Prop
  | refl (x : Form) : Within x x
  | part {x y z : Form} (hz : z ∈ x.parts) (h : Within y z) : Within y x

/-- The parts of a form that must be hashable : the members of a set, the keys of a dictionary. -/
def keyParts : Form → List Form
  | .set xs => xs
  | .mapping ks _ => ks
  | _ => []

/-- The form cannot have a datum, because a member or a key is not hashable or because an integer is
too large. -/
def Breaks (x : Form) (e : Fault) : Prop :=
  e = .wrongKind ∧ (∃ y ∈ x.keyParts, y.Unhashable) ∨
    e = .overflow ∧ ∃ minus y z, x = .sum minus y z ∧ SumOverflows y z

/-- A fault comes from a form within the form that fails. -/
theorem Faults.exists_breaks {x : Form} {e : Fault} (h : x.Faults e) :
    ∃ y, Within y x ∧ y.Breaks e := by
  have hinside {x z : Form} {e : Fault} (hz : z ∈ x.parts) (ih : ∃ y, Within y z ∧ y.Breaks e) :
      ∃ y, Within y x ∧ y.Breaks e := by
    obtain ⟨y, hy, hbreaks⟩ := ih
    exact ⟨y, .part hz hy, hbreaks⟩
  have hpart {ks xs : List Form} {before after : List (Form × Form)} {k x : Form}
      (h : ks.zip xs = before ++ (k, x) :: after) : (k, x) ∈ ks.zip xs := by
    simp [h]
  induction h with
  | tuple _ _ ih | list _ _ ih | set _ _ ih => exact hinside (by simp [parts]) ih
  | member _ hx => exact ⟨_, .refl _, .inl ⟨rfl, _, by simp [keyParts], hx⟩⟩
  | mappingKey heq _ _ ih => exact hinside (mem_parts_of_zip (hpart heq)).1 ih
  | mappingValue heq _ _ _ ih => exact hinside (mem_parts_of_zip (hpart heq)).2 ih
  | key heq _ hk _ => exact ⟨_, .refl _, .inl ⟨rfl, _, (List.of_mem_zip (hpart heq)).1, hk⟩⟩
  | sum h => exact ⟨_, .refl _, .inr ⟨rfl, _, _, _, rfl, h⟩⟩

end Form

end FiniteGroups
