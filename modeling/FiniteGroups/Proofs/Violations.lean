import FiniteGroups.Proofs.Laws
import Mathlib.Algebra.Group.Nat.Defs

/-!
# What can go wrong in the check

The check of the axioms multiplies, inverts, looks up and compares, and it writes what it finds. A
group is `Checkable` if everything that is asked has an answer. The report on violations writes the
values concerned, and a value that cannot be written is then the only reason why there may be no
report (`Checkable.failsInWriting_verify`).
-/

namespace FiniteGroups

namespace FiniteGroup

variable {G : FiniteGroup}

/-! ## What the check asks for -/

/-- Elements can be multiplied, also with the identity, and they can be inverted. -/
structure Total (G : FiniteGroup) : Prop where
  none_not_mem : Value.none ∉ G.els
  exists_mul : ∀ ⦃a b⦄, a ∈ G.els ∨ a = G.identity → b ∈ G.els ∨ b = G.identity →
    ∃ c, G.mul a b = .ok c
  exists_inverse : ∀ a ∈ G.els, ∃ b, G.inverse a = .ok b

/-- The check compares the product of `a` and `b` with `c`. -/
inductive Compares (G : FiniteGroup) : Value → Value → Value → Prop
  | left {a : Value} (ha : a ∈ G.els) : Compares G G.identity a a
  | right {a : Value} (ha : a ∈ G.els) : Compares G a G.identity a
  | inverse_right {a b : Value} (ha : a ∈ G.els) (hb : G.inverse a = .ok b)
    (hin : G.contains b = .ok true) : Compares G a b G.identity
  | inverse_left {a b : Value} (ha : a ∈ G.els) (hb : G.inverse a = .ok b)
    (hin : G.contains b = .ok true) : Compares G b a G.identity

/-- Everything that the check asks has an answer. -/
structure Checkable (G : FiniteGroup) : Prop extends Indexed G, Total G where
  order_le : G.order ≤ 2 ^ 63
  exists_equal : ∀ ⦃a b c⦄, G.Compares a b c →
    ∃ d same, G.mul a b = .ok d ∧ d.equal c = .ok same
  exists_key : ∀ a ∈ G.els, ∀ b ∈ G.els, ∃ k, keyedProduct G.mul a b = .ok k
  exists_contains_identity : ∃ inside, G.contains G.identity = .ok inside
  exists_contains_inverse : ∀ a ∈ G.els, ∀ b, G.inverse a = .ok b → b ≠ .none →
    ∃ inside, G.contains b = .ok inside

/-- The values that the report on violations may write. -/
def IsMentioned (G : FiniteGroup) (a : Value) : Prop :=
  a ∈ G.els ∨ a = G.identity ∨ ∃ x ∈ G.els, ∃ y ∈ G.els, G.mul x y = .ok a

/-- The fault of writing a value that a report mentions. -/
def Unwritten (G : FiniteGroup) (e : Fault) : Prop :=
  ∃ a, G.IsMentioned a ∧ a.plain = .error e

/-! ## Faults of writing -/

/-- The computation fails only if a value that it mentions cannot be written. -/
def FailsInWriting {α : Type} (G : FiniteGroup) (x : Except Fault α) : Prop :=
  ∀ e, x = .error e → G.Unwritten e

namespace FailsInWriting

variable {α β : Type}

theorem ok (a : α) : G.FailsInWriting (.ok a : Except Fault α) :=
  fun _ h => (by cases h)

theorem plain {a : Value} (ha : G.IsMentioned a) : G.FailsInWriting a.plain :=
  fun _ h => ⟨a, ha, h⟩

theorem bind {x : Except Fault α} {f : α → Except Fault β} (hx : G.FailsInWriting x)
    (hf : ∀ a, x = .ok a → G.FailsInWriting (f a)) : G.FailsInWriting (x >>= f) := by
  cases x with
  | error e =>
    rintro _ ⟨⟩
    exact hx e rfl
  | ok a => exact hf a rfl

/-- A step that succeeds may be left out. -/
theorem bind_of_ok {x : Except Fault α} {f : α → Except Fault β} {a : α} (hx : x = .ok a)
    (hf : G.FailsInWriting (f a)) : G.FailsInWriting (x >>= f) := by
  rw [hx]
  exact hf

theorem mapM {f : α → Except Fault β} {xs : List α} (h : ∀ a ∈ xs, G.FailsInWriting (f a)) :
    G.FailsInWriting (xs.mapM f) := by
  induction xs with
  | nil => exact ok []
  | cons x xs ih =>
    rw [List.mapM_cons]
    refine (h x (by simp)).bind fun b _ => ?_
    exact (ih fun a ha => h a (by simp [ha])).bind fun bs _ => ok (b :: bs)

theorem breach {holds : Bool} {violation : String} {a : Value} (ha : G.IsMentioned a) :
    G.FailsInWriting (breach holds violation a) := by
  cases holds with
  | true => exact ok []
  | false => exact (plain ha).bind fun s _ => ok _

end FailsInWriting

theorem element_eq {i : Nat} (hi : i < G.els.length) : G.element i = .ok G.els[i] := by
  rw [element, Position.entry, Position.resolve_natCast, if_pos hi]
  exact dif_pos hi

namespace Checkable

variable (hG : G.Checkable)
include hG

theorem exists_table : ∃ t, G.table = .ok t :=
  hG.toIndexed.exists_table hG.exists_key

/-- Comparing with the identity has an answer, so only the report can fail. -/
theorem failsInWriting_identity : G.FailsInWriting G.identityViolations := by
  rw [identityViolations_eq]
  have hmembership : G.FailsInWriting G.membershipBreach := by
    obtain ⟨inside, hinside⟩ := hG.exists_contains_identity
    refine .bind_of_ok hinside ?_
    cases inside with
    | true => exact .ok []
    | false => exact (FailsInWriting.plain (.inr (.inl rfl))).bind fun s _ => .ok _
  have hbreaches : ∀ a ∈ G.els, G.FailsInWriting (G.identityBreaches a) := by
    intro a ha
    obtain ⟨b, l, hb, hl⟩ := hG.exists_equal (.left ha)
    obtain ⟨c, r, hc, hr⟩ := hG.exists_equal (.right ha)
    refine .bind_of_ok hb (.bind_of_ok hl ?_)
    refine (FailsInWriting.breach (.inl ha)).bind fun left _ => ?_
    refine .bind_of_ok hc (.bind_of_ok hr ?_)
    exact (FailsInWriting.breach (.inl ha)).bind fun right _ => .ok _
  exact hmembership.bind fun found _ => (FailsInWriting.mapM hbreaches).bind fun laws _ => .ok _

/-- The second product is compared only if the first one is right. -/
theorem exists_areInverse {a b : Value} (ha : a ∈ G.els) (hb : G.inverse a = .ok b)
    (hin : G.contains b = .ok true) : ∃ answer, G.areInverse a b = .ok answer := by
  obtain ⟨c, right, hc, hright⟩ := hG.exists_equal (.inverse_right ha hb hin)
  obtain ⟨d, left, hd, hleft⟩ := hG.exists_equal (.inverse_left ha hb hin)
  rw [areInverse, hc, ok_bind, hright, ok_bind]
  cases right with
  | true => exact ⟨left, by rw [if_pos rfl, hd, ok_bind, hleft]⟩
  | false => exact ⟨false, rfl⟩

/-- Of an inverse that is not there nothing is asked. -/
theorem failsInWriting_inverse : G.FailsInWriting G.inverseViolations := by
  have hbreaches : ∀ a ∈ G.els, G.FailsInWriting (G.inverseBreaches a) := by
    intro a ha
    obtain ⟨b, hb⟩ := hG.exists_inverse a ha
    have hoff : G.FailsInWriting (FiniteGroup.breach false "Inverse not in set for element" a) :=
      .breach (.inl ha)
    refine .bind_of_ok hb ?_
    dsimp only
    split
    · exact hoff
    · next hnone =>
      obtain ⟨inside, hinside⟩ := hG.exists_contains_inverse a ha b hb hnone
      refine .bind_of_ok hinside ?_
      cases inside with
      | true =>
        obtain ⟨holds, hholds⟩ := hG.exists_areInverse ha hb hinside
        exact .bind_of_ok hholds (.breach (.inl ha))
      | false => exact hoff
  exact (FailsInWriting.mapM hbreaches).bind fun found _ => .ok _

section

variable {t : Table} (ht : G.Tabulates t)
include ht

/-- The products outside are written as they come out of the operation. -/
theorem failsInWriting_closure : G.FailsInWriting (G.closureViolations t) := by
  refine .mapM fun ij hij => ?_
  obtain ⟨hij, -⟩ := List.mem_filter.1 hij
  simp only [List.mem_flatMap, List.mem_map, List.mem_range, ht.size_eq] at hij
  obtain ⟨i, hi, j, hj, rfl⟩ := hij
  have hmemi := List.getElem_mem hi
  have hmemj := List.getElem_mem hj
  obtain ⟨c, hc⟩ := hG.exists_mul (.inl hmemi) (.inl hmemj)
  refine .bind_of_ok (element_eq hi) (.bind_of_ok (element_eq hj) (.bind_of_ok hc ?_))
  refine (FailsInWriting.plain (.inl hmemi)).bind fun a _ => ?_
  refine (FailsInWriting.plain (.inl hmemj)).bind fun b _ => ?_
  exact (FailsInWriting.plain (.inr (.inr ⟨_, hmemi, _, hmemj, hc⟩))).bind fun c _ => .ok _

omit hG ht in
theorem mem_of_mem_upTo {α : Type} {m : Int} {xs : List α} {x : α} (h : x ∈ upTo m xs) :
    x ∈ xs := by
  rw [upTo] at h
  split at h <;> exact List.mem_of_mem_take h

omit hG in
/-- A triple is written as three elements. -/
theorem failsInWriting_triple {i : Nat} (hi : i < G.els.length) {jk : Nat × Nat}
    (hjk : jk ∈ badPairs t i) : G.FailsInWriting (G.tripleViolation i jk) := by
  simp only [badPairs, List.mem_flatMap, List.mem_filterMap, List.mem_range, ht.size_eq] at hjk
  obtain ⟨j, hj, k, hk, hjk⟩ := hjk
  split at hjk
  case isTrue => cases hjk
  case isFalse =>
    obtain rfl := Option.some.inj hjk
    refine .bind_of_ok (element_eq hi) (.bind_of_ok (element_eq hj) ?_)
    refine .bind_of_ok (element_eq hk) ?_
    refine (FailsInWriting.plain (.inl (List.getElem_mem hi))).bind fun a _ => ?_
    refine (FailsInWriting.plain (.inl (List.getElem_mem hj))).bind fun b _ => ?_
    exact (FailsInWriting.plain (.inl (List.getElem_mem hk))).bind fun c _ => .ok _

omit hG in
theorem failsInWriting_addTriples {most : Value} {m : Int} (hmost : most.index = .ok m)
    {firsts : List Nat} (hfirsts : ∀ i ∈ firsts, i < G.els.length) (found : List String) :
    G.FailsInWriting (G.addTriples t most firsts found) := by
  -- the search may be over after any row, so the list found so far is arbitrary
  induction firsts generalizing found with
  | nil => exact .ok found
  | cons i firsts ih =>
    have hi := hfirsts i (by simp)
    rw [addTriples, if_neg (not_outside (fun n => ht.lt_size) (ht.size_eq ▸ hi))]
    refine .bind_of_ok hmost ?_
    have htriples : G.FailsInWriting ((upTo m (badPairs t i)).mapM (G.tripleViolation i)) :=
      .mapM fun jk hjk => failsInWriting_triple ht hi (mem_of_mem_upTo hjk)
    refine htriples.bind fun triples _ => ?_
    dsimp only
    split
    · exact .ok _
    · exact ih (fun j hj => hfirsts j (by simp [hj])) _

end

/-- The check gives a verdict unless a value that it mentions cannot be written. -/
theorem failsInWriting_verify {most : Value} {m : Int} (hmost : most.index = .ok m) :
    G.FailsInWriting (G.verify most) := by
  rw [verify]
  split
  · exact .ok _
  refine hG.failsInWriting_identity.bind fun identity _ => ?_
  refine hG.failsInWriting_inverse.bind fun inverse _ => ?_
  obtain ⟨t, ht⟩ := hG.exists_table
  have htab := hG.tabulates ht
  refine .bind_of_ok ht ((hG.failsInWriting_closure htab).bind fun closure _ => ?_)
  dsimp only
  split
  · exact (failsInWriting_addTriples htab hmost (fun i hi => List.mem_range.1 hi) _).bind
      fun found _ => .ok _
  · exact .ok _

end Checkable

end FiniteGroup

end FiniteGroups
