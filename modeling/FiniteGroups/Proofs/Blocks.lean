import FiniteGroups.Conjugacy
import FiniteGroups.Proofs.Computation
import FiniteGroups.Proofs.Extent
import Mathlib.Algebra.BigOperators.Group.Finset.Basic

/-!
# Lists that are taken apart

Orbits and conjugacy classes are found in the same way: what belongs to the first element that
remains is taken out of what remains, until nothing is left. Taking out fails if something is to
be taken out that is not there, so the search depends on what is taken out at once being a block
of a partition.

A partition is given by a function `q` : the block of `c` is what has the value `c`, and a list
stands for a block if it stands for all of it (`StandsForBlock`). A search that takes out the
block of the first element (`TakesBlocks`) gives each block exactly once
(`TakesBlocks.exists_all`), and every value is in one of them (`existsUnique_block`).
-/

set_option linter.unusedSectionVars false

namespace FiniteGroups

/-! ## Taking out -/

namespace FiniteGroup

variable {a : Value} {xs ys : List Value}

/-- What is taken out of a list without repetitions is no longer there. -/
theorem removeItem_eq (hxs : xs.Pairwise fun a b => (a == b) = false)
    (h : ∃ b ∈ xs, (b == a) = true) : removeItem a xs = .ok (xs.filter fun b => !(b == a)) := by
  induction xs with
  | nil => simp at h
  | cons c xs ih =>
    obtain ⟨hc, hxs⟩ := List.pairwise_cons.1 hxs
    rw [removeItem]
    split
    · next hca =>
      have hrest : ∀ b ∈ xs, (b == a) = false := fun b hb => by
        rw [← Bool.not_eq_true]
        intro hba
        have hcb := BEq.trans hca (BEq.symm hba)
        rw [hc b hb] at hcb
        exact Bool.noConfusion hcb
      have hkeep : xs.filter (fun b => !(b == a)) = xs :=
        List.filter_eq_self.2 fun b hb => by rw [hrest b hb]; rfl
      rw [List.filter_cons_of_neg (by simp [hca]), hkeep]
    · next hca =>
      obtain ⟨b, hb, hba⟩ := h
      obtain rfl | hb := List.mem_cons.1 hb
      · exact absurd hba hca
      · rw [ih hxs ⟨b, hb, hba⟩, List.filter_cons_of_pos (by simpa using hca)]
        rfl

/-- Different values that occur in a list are taken out of it one after the other. -/
theorem removeItems_eq (hxs : xs.Pairwise fun a b => (a == b) = false)
    (hys : ys.Pairwise fun a b => (a == b) = false) (h : ∀ y ∈ ys, ∃ b ∈ xs, (b == y) = true) :
    ys.foldlM (fun remain y => removeItem y remain) xs =
      .ok (xs.filter fun b => !ys.any (b == ·)) := by
  induction ys generalizing xs with
  | nil => simp
  | cons y ys ih =>
    obtain ⟨hy, hys⟩ := List.pairwise_cons.1 hys
    have hrest : ∀ z ∈ ys, ∃ b ∈ xs.filter fun b => !(b == y), (b == z) = true := by
      intro z hz
      obtain ⟨b, hb, hbz⟩ := h z (by simp [hz])
      refine ⟨b, List.mem_filter.2 ⟨hb, ?_⟩, hbz⟩
      rw [Bool.not_eq_true', ← Bool.not_eq_true]
      intro hby
      have hyz := BEq.trans (BEq.symm hby) hbz
      rw [hy z hz] at hyz
      exact Bool.noConfusion hyz
    rw [List.foldlM_cons, removeItem_eq hxs (h y (by simp)), ok_bind,
      ih (hxs.filter _) hys hrest, List.filter_filter]
    simp [Bool.and_comm]

end FiniteGroup

/-! ## Blocks -/

variable {X Q : Type} {S : Value → X → Prop} {q : X → Q}

/-- The values stand for what has the value `c`. -/
structure StandsForBlock (S : Value → X → Prop) (q : X → Q) (block : Roster Value) (c : Q) :
    Prop where
  standing : Standing S block.toList
  extent_eq : extent S block.toList = {x | q x = c}

theorem StandsForBlock.contains_iff (hS : Faithful S) {block : Roster Value} {c : Q}
    (h : StandsForBlock S q block c) {a : Value} {x : X} (ha : S a x) :
    block.contains a = true ↔ q x = c := by
  rw [hS.contains_iff h.standing ha, h.extent_eq]
  rfl

theorem extent_filter_any (hS : Faithful S) (xs : List Value) {block : Roster Value}
    (hblock : Standing S block.toList) :
    extent S (xs.filter fun b => !block.toList.any (b == ·)) =
      extent S xs \ extent S block.toList := by
  refine extent_filter (P := (· ∉ extent S block.toList)) fun a _ x hx => ?_
  rw [Bool.not_eq_true', ← Bool.not_eq_true, List.any_eq_true, ← hS.contains_iff hblock hx,
    Roster.contains_iff]
  simp only [BEq.comm]

/-- What remains of a list that is to be taken apart : different values that stand for whole
blocks. -/
structure Remains (S : Value → X → Prop) (q : X → Q) (remain : List Value) : Prop where
  standing : Standing S remain
  distinct : remain.Pairwise fun a b => (a == b) = false
  whole : ∀ ⦃x y⦄, q x = q y → x ∈ extent S remain → y ∈ extent S remain

/-- The block of the first value can be taken out, and whole blocks remain. -/
theorem Remains.takeOut (hS : Faithful S) {a : Value} {rest : List Value}
    (h : Remains S q (a :: rest)) {x : X} (ha : S a x) {block : Roster Value}
    (hblock : StandsForBlock S q block (q x)) :
    ∃ remain, block.toList.foldlM (fun remain y => FiniteGroup.removeItem y remain) (a :: rest) =
        .ok remain ∧ Remains S q remain ∧ remain.length ≤ rest.length ∧
      extent S remain = extent S (a :: rest) \ {y | q y = q x} := by
  have hfirst : x ∈ extent S (a :: rest) := ⟨a, by simp, ha⟩
  have hextent := extent_filter_any hS (a :: rest) hblock.standing
  rw [hblock.extent_eq] at hextent
  refine ⟨_, FiniteGroup.removeItems_eq h.distinct block.pairwise_toList fun y hy => ?_,
    ⟨h.standing.mono fun b hb => (List.mem_filter.1 hb).1, h.distinct.filter _, ?_⟩, ?_, hextent⟩
  · obtain ⟨z, hz⟩ := hblock.standing y hy
    have hzx : q z = q x := hblock.extent_eq.subset ⟨y, hy, hz⟩
    obtain ⟨b, hb, hbz⟩ := h.whole hzx.symm hfirst
    exact ⟨b, hb, (hS hbz hz).2 rfl⟩
  · rw [hextent]
    rintro y z hyz ⟨hy, hyx⟩
    exact ⟨h.whole hyz hy, fun hzx => hyx (hyz.trans hzx)⟩
  · -- the first value is a member of its block
    obtain ⟨b, hb, hbx⟩ := hblock.extent_eq.superset (show q x = q x from rfl)
    have hout : block.toList.any (a == ·) = true :=
      List.any_eq_true.2 ⟨b, hb, (hS ha hbx).2 rfl⟩
    rw [List.filter_cons_of_neg (by simp [hout])]
    exact List.length_filter_le _ _

section

variable {β : Type} {P : β → Q → Prop} {run : Nat → List Value → Except Fault (List β)}

/-- The search takes out the block of the first value that remains, and makes of it what `P`
says. -/
structure TakesBlocks (S : Value → X → Prop) (q : X → Q) (P : β → Q → Prop)
    (run : Nat → List Value → Except Fault (List β)) : Prop where
  nil : ∀ bound, run bound [] = .ok []
  cons : ∀ bound a rest x, S a x → ∃ block b, StandsForBlock S q block (q x) ∧ P b (q x) ∧
    ∀ remain, block.toList.foldlM (fun remain y => FiniteGroup.removeItem y remain)
        (a :: rest) = .ok remain →
      run (bound + 1) (a :: rest) = do return b :: (← run bound remain)

/-- A search that takes out one block after the other finds each block once. -/
theorem TakesBlocks.exists_blocks (hS : Faithful S) (h : TakesBlocks S q P run) {bound : Nat}
    {remain : List Value} (hremain : Remains S q remain) (hbound : remain.length ≤ bound) :
    ∃ blocks, run bound remain = .ok blocks ∧ ∃ cs : List Q, cs.Nodup ∧
      (∀ c, c ∈ cs ↔ ∃ x ∈ extent S remain, q x = c) ∧ List.Forall₂ P blocks cs := by
  -- the induction follows the bound, which each block lowers together with what remains
  induction bound generalizing remain with
  | zero =>
    obtain rfl := List.eq_nil_of_length_eq_zero (Nat.le_zero.1 hbound)
    exact ⟨[], h.nil 0, [], by simp⟩
  | succ bound ih =>
    cases remain with
    | nil => exact ⟨[], h.nil _, [], by simp⟩
    | cons a rest =>
      obtain ⟨x, ha⟩ := hremain.standing a (by simp)
      obtain ⟨block, b, hblock, hb, hrun⟩ := h.cons bound a rest x ha
      obtain ⟨remain, hremove, hremain', hlength, hextent⟩ := hremain.takeOut hS ha hblock
      rw [List.length_cons] at hbound
      obtain ⟨blocks, hblocks, cs, hnodup, hmem, hall⟩ := ih hremain' (by omega)
      refine ⟨b :: blocks, ?_, q x :: cs, List.nodup_cons.2 ⟨?_, hnodup⟩, ?_, .cons hb hall⟩
      · rw [hrun remain hremove, hblocks]
        rfl
      · rw [hmem, hextent]
        rintro ⟨y, ⟨-, hout⟩, hy⟩
        exact hout hy
      · intro c
        rw [List.mem_cons, hmem, hextent]
        constructor
        · rintro (rfl | ⟨y, ⟨hy, -⟩, rfl⟩)
          · exact ⟨x, ⟨a, by simp, ha⟩, rfl⟩
          · exact ⟨y, hy, rfl⟩
        · rintro ⟨y, hy, rfl⟩
          by_cases hyx : q y = q x
          · exact .inl hyx
          · exact .inr ⟨y, ⟨hy, hyx⟩, rfl⟩

/-- If everything is there at the start, all blocks are found. -/
theorem TakesBlocks.exists_all (hS : Faithful S) (h : TakesBlocks S q P run) {items : Roster Value}
    (hstand : Standing S items.toList) (hextent : extent S items.toList = Set.univ)
    (hq : Function.Surjective q) {bound : Nat} (hbound : items.size ≤ bound) :
    ∃ blocks, run bound items.toList = .ok blocks ∧ ∃ cs : List Q, cs.Nodup ∧
      (∀ c, c ∈ cs) ∧ List.Forall₂ P blocks cs := by
  have hremain : Remains S q items.toList :=
    ⟨hstand, items.pairwise_toList, fun _ y _ _ => hextent ▸ Set.mem_univ y⟩
  obtain ⟨blocks, hblocks, cs, hnodup, hmem, hall⟩ :=
    h.exists_blocks hS hremain (items.length_toList ▸ hbound)
  refine ⟨blocks, hblocks, cs, hnodup, fun c => ?_, hall⟩
  obtain ⟨x, rfl⟩ := hq c
  exact (hmem _).2 ⟨x, hextent ▸ Set.mem_univ x, rfl⟩

end

/-- A list of all blocks has as many members as there are blocks. -/
theorem length_eq_card {cs : List Q} (hnodup : cs.Nodup) (hall : ∀ c, c ∈ cs) :
    cs.length = Nat.card Q := by
  classical
  rw [← Nat.card_eq_of_bijective _ (hnodup.getBijectionOfForallMemList cs hall).2, Nat.card_fin]

/-- The sum of a function over a list of all arguments. -/
theorem sum_map_of_forall_mem {Q : Type} [Fintype Q] {cs : List Q} (hnodup : cs.Nodup)
    (hall : ∀ c, c ∈ cs) (f : Q → Nat) : (cs.map f).sum = ∑ c, f c := by
  classical
  have huniv : cs.toFinset = Finset.univ :=
    Finset.eq_univ_of_forall fun c => List.mem_toFinset.2 (hall c)
  rw [← huniv, List.sum_toFinset f hnodup]

/-- Every block is at one place of a list of all blocks. -/
theorem existsUnique_block {β : Type} {P : β → Q → Prop} {blocks : List β} {cs : List Q}
    (h : List.Forall₂ P blocks cs) (hnodup : cs.Nodup) {c : Q} (hc : c ∈ cs) {holds : β → Prop}
    (hholds : ∀ b c', P b c' → (holds b ↔ c = c')) :
    ∃! i : Fin blocks.length, holds blocks[i] := by
  obtain ⟨i, hi, rfl⟩ := List.getElem_of_mem hc
  have hi' : i < blocks.length := h.length_eq ▸ hi
  refine ⟨⟨i, hi'⟩, (hholds _ _ (h.get hi' hi)).2 rfl, fun j hj => ?_⟩
  have hj' : j.1 < cs.length := h.length_eq ▸ j.2
  have heq := (hholds _ _ (h.get j.2 hj')).1 hj
  exact Fin.ext (hnodup.getElem_inj_iff.1 heq.symm)

end FiniteGroups
