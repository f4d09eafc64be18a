import FiniteGroups.Proofs.CycleNotation
import FiniteGroups.Proofs.InnerAutomorphisms

/-!
# Cycle notation is read back

The usual notation of a permutation leaves out the points that stay where they are. What is left is
taken apart again: no closing bracket stands inside a cycle and no blank inside a number, so the
text falls into the cycles, and a cycle into numbers (`Perm.readCycles_cycleText`). Read from the
cycles that the text holds, the permutation is the one that was written, if the number of points is
known (`Perm.permOfCycles_readCycles`).

Hence different permutations of the same points have different texts (`Perm.eq_of_text`), and so
have the elements of a group of permutations.
-/

namespace FiniteGroups

/-! ## Words between separators -/

section

variable {α : Type}

/-- Words that each end with a separator are separated by it from each other and from nothing. -/
theorem flatMap_append_singleton (x : α) (ws : List (List α)) :
    (ws.flatMap fun w => w ++ [x]) = [x].intercalate (ws ++ [[]]) := by
  induction ws with
  | nil => simp
  | cons w ws ih =>
    rw [List.flatMap_cons, ih, List.cons_append, List.intercalate_cons_of_ne_nil (by simp)]

theorem mem_intercalate_singleton {x y : α} {ws : List (List α)} (h : y ∈ [x].intercalate ws) :
    y = x ∨ ∃ w ∈ ws, y ∈ w := by
  induction ws with
  | nil => simp at h
  | cons w ws ih =>
    by_cases hws : ws = []
    · subst hws
      exact .inr ⟨w, by simp, by simpa using h⟩
    · rw [List.intercalate_cons_of_ne_nil hws, List.mem_append, List.mem_append,
        List.mem_singleton] at h
      obtain (h | h) | h := h
      · exact .inr ⟨w, by simp, h⟩
      · exact .inl h
      · exact (ih h).imp_right fun ⟨v, hv, hy⟩ => ⟨v, List.mem_cons_of_mem w hv, hy⟩

end

namespace Perm

/-! ## Cycles in brackets -/

/-- The numbers of a text in which they are separated by blanks. -/
def readCycle (text : List Char) : List Nat :=
  ((text.splitOn ' ').filter (· ≠ [])).map fun word => Nat.ofDigitChars 10 word 0

/-- The cycles of a text in which each stands in brackets. -/
def readCycles (text : String) : List (List Nat) :=
  ((text.toList.splitOn ')').map fun part => readCycle (part.drop 1)).filter (· ≠ [])

/-- The numbers of a cycle, separated by blanks. -/
def spell (c : List Nat) : List Char := [' '].intercalate (c.map (Nat.toDigits 10))

theorem notMem_toDigits {x : Char} (hx : x.isDigit = false) (n : Nat) : x ∉ Nat.toDigits 10 n := by
  intro h
  rw [Nat.isDigit_of_mem_toDigits (by decide) le_rfl h] at hx
  exact Bool.noConfusion hx

theorem notMem_spell {x : Char} (hx : x.isDigit = false) (hblank : x ≠ ' ') (c : List Nat) :
    x ∉ spell c := by
  intro h
  obtain h | ⟨w, hw, h⟩ := mem_intercalate_singleton h
  · exact hblank h
  · obtain ⟨n, -, rfl⟩ := List.mem_map.1 hw
    exact notMem_toDigits hx n h

theorem readCycle_spell (c : List Nat) : readCycle (spell c) = c := by
  by_cases hc : c = []
  · subst hc
    rfl
  · have hwords : (spell c).splitOn ' ' = c.map (Nat.toDigits 10) := by
      refine List.splitOn_intercalate ' ' ?_ (mt List.map_eq_nil_iff.1 hc)
      rw [List.forall_mem_map]
      exact fun n _ => notMem_toDigits rfl n
    have hall : ∀ w ∈ c.map (Nat.toDigits 10), decide (w ≠ []) = true := by
      rw [List.forall_mem_map]
      exact fun n _ => decide_eq_true Nat.toDigits_ne_nil
    rw [readCycle, hwords, List.filter_eq_self.2 hall, List.map_map]
    exact (List.map_congr_left fun n _ => Nat.ofDigitChars_ten_toDigits).trans (List.map_id c)

/-- The cycles, each in brackets. -/
def inBrackets (cs : List (List Nat)) : String :=
  String.join (cs.map fun c => "(" ++ " ".intercalate (c.map toString) ++ ")")

theorem toList_inBrackets (cs : List (List Nat)) :
    (inBrackets cs).toList = [')'].intercalate (cs.map (fun c => '(' :: spell c) ++ [[]]) := by
  have hcycle (c : List Nat) : ("(" ++ " ".intercalate (c.map toString) ++ ")").toList
      = '(' :: spell c ++ [')'] := by
    have hdigits : String.toList ∘ (toString : Nat → String) = Nat.toDigits 10 := by
      funext n
      rw [Function.comp_apply, Nat.toString_eq_ofList_toDigits, String.toList_ofList]
    rw [String.toList_append, String.toList_append, String.toList_intercalate, List.map_map,
      hdigits]
    rfl
  rw [inBrackets, String.toList_join, List.flatMap_map, ← flatMap_append_singleton,
    List.flatMap_map]
  exact congrArg cs.flatMap (funext hcycle)

/-- The cycles in brackets are read back, as far as there are points on them. -/
theorem readCycles_inBrackets (cs : List (List Nat)) :
    readCycles (inBrackets cs) = cs.filter (· ≠ []) := by
  have hparts : (inBrackets cs).toList.splitOn ')' = cs.map (fun c => '(' :: spell c) ++ [[]] := by
    rw [toList_inBrackets]
    refine List.splitOn_intercalate ')' (List.forall_mem_append.2 ⟨?_, by simp⟩) (by simp)
    rw [List.forall_mem_map]
    intro c _ h
    exact (List.mem_cons.1 h).elim (by decide) (notMem_spell rfl (by decide) c)
  have hnil : readCycle [] = [] := readCycle_spell []
  rw [readCycles, hparts, List.map_append, List.map_map, List.filter_append, List.map_singleton,
    List.drop_nil, hnil, List.filter_singleton]
  simp only [Function.comp_def, List.drop_one, List.tail_cons, readCycle_spell, List.map_id']
  simp

/-! ## The text of a permutation -/

/-- Without a cycle of more than one point an empty one is written. -/
theorem cycleText_eq (p : Perm) : ∃ cs, p.cycleText = inBrackets cs ∧
    cs.filter (· ≠ []) = p.cycles.filter (1 < ·.length) := by
  cases h : p.cycles.filter (1 < ·.length) with
  | nil => exact ⟨[[]], by rw [cycleText, h]; rfl, rfl⟩
  | cons c cs =>
    refine ⟨c :: cs, by rw [cycleText, h]; rfl, List.filter_eq_self.2 fun d hd => ?_⟩
    have hmem : d ∈ p.cycles.filter (1 < ·.length) := h ▸ hd
    have hlength := of_decide_eq_true (List.mem_filter.1 hmem).2
    exact decide_eq_true (List.ne_nil_of_length_pos (by omega))

theorem readCycles_cycleText (p : Perm) :
    readCycles p.cycleText = p.cycles.filter (1 < ·.length) := by
  obtain ⟨cs, htext, hcs⟩ := p.cycleText_eq
  rw [htext, readCycles_inBrackets, hcs]

/-- Cycles of one point at most move nothing. -/
theorem prod_formPerm_filter {n : Nat} (cs : List (List (Point n))) :
    ((cs.filter (1 < ·.length)).map List.formPerm).prod = (cs.map List.formPerm).prod := by
  induction cs with
  | nil => rfl
  | cons c cs ih =>
    rw [List.map_cons, List.prod_cons, ← ih]
    match c with
    | [] => rw [List.formPerm_nil, one_mul, List.filter_cons_of_neg (by simp)]
    | [i] => rw [List.formPerm_singleton, one_mul, List.filter_cons_of_neg (by simp)]
    | i :: j :: c => rw [List.filter_cons_of_pos (by simp), List.map_cons, List.prod_cons]

/-- The permutation is read back from its text. -/
theorem permOfCycles_readCycles (p : Perm) :
    Value.permOfCycles
      (.list 0 ((readCycles p.cycleText).map fun c => .list 0 (c.map Value.ofNat)))
      (Value.ofNat p.degree) = .ok p := by
  obtain ⟨σ, hp⟩ := exists_moves (p := p) rfl
  have hread : readCycles p.cycleText
      = ((orbits σ).filter (1 < ·.length)).map (List.map Subtype.val) := by
    rw [readCycles_cycleText, hp.cycles_eq, List.filter_map]
    simp only [Function.comp_def, List.length_map]
  rw [hread]
  refine hp.permOfCycles_eq ((nodup_orbits σ).sublist (List.filter_sublist.flatten)) ?_
  rw [prod_formPerm_filter, prod_orbits]

theorem cycleText_injective {p q : Perm} (hdegree : p.degree = q.degree)
    (htext : p.cycleText = q.cycleText) : p = q := by
  have hp := p.permOfCycles_readCycles
  rw [htext, hdegree, q.permOfCycles_readCycles] at hp
  exact (Except.ok.inj hp).symm

theorem plain_perm (p : Perm) : (Value.perm p).plain = .ok ("Perm(" ++ p.cycleText ++ ")") := by
  rw [Value.plain, Value.write.eq_def]
  rfl

/-- Permutations of the same points have the same text only if they are equal, and the elements of
a group of permutations of so many points have different texts. -/
theorem eq_of_text :
    (∀ p q : Perm, p.degree = q.degree → p.cycleText = q.cycleText → p = q) ∧
    ∀ (n : Nat) (G : FiniteGroup), (∀ a ∈ G.els, ∃ p, a = .perm p ∧ p.degree = n) →
      (∀ a ∈ G.els, ∃ s, a.plain = .ok s) ∧
        ∀ a ∈ G.els, ∀ b ∈ G.els, a.plain = b.plain → a = b := by
  refine ⟨fun p q => cycleText_injective, fun n G hG => ⟨fun a ha => ?_, fun a ha b hb hab => ?_⟩⟩
  · obtain ⟨p, rfl, -⟩ := hG a ha
    exact ⟨_, p.plain_perm⟩
  · obtain ⟨p, rfl, hp⟩ := hG a ha
    obtain ⟨q, rfl, hq⟩ := hG b hb
    rw [plain_perm, plain_perm, Except.ok.injEq, String.append_left_inj, String.append_right_inj]
      at hab
    exact congrArg Value.perm (cycleText_injective (hp.trans hq.symm) hab)

/-- The two cycles of three points, and all permutations of three points. -/
theorem eq_of_text_three :
    (∃ p q : Perm, p.images = #[2, 3, 1] ∧ q.images = #[3, 1, 2] ∧ p.cycleText = "(1 2 3)" ∧
      q.cycleText ≠ "(1 2 3)") ∧
    ∀ a ∈ (validPerms (n := 3) (by decide)).els, ∀ b ∈ (validPerms (n := 3) (by decide)).els,
      a.plain = b.plain → a = b := by
  let p : Perm := ⟨#[2, 3, 1], by decide, by decide, by decide⟩
  let q : Perm := ⟨#[3, 1, 2], by decide, by decide, by decide⟩
  have htext : p.cycleText = "(1 2 3)" := by decide
  refine ⟨⟨p, q, rfl, rfl, htext, fun h => ?_⟩, ?_⟩
  · exact absurd (eq_of_text.1 q p rfl (h.trans htext.symm)) (by decide)
  · refine (eq_of_text.2 3 _ fun a ha => ?_).2
    obtain ⟨σ, p, rfl, hp⟩ := (realizes_allPerms (n := 3) (by decide)).standing a ha
    exact ⟨p, rfl, hp.1⟩

end Perm

end FiniteGroups
