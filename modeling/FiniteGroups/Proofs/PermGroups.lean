import FiniteGroups.Proofs.PermValues
import FiniteGroups.Proofs.Realizes

/-!
# Groups of permutations

A group that acts faithfully on the points `1, …, n` is realized by the permutations that move the
points as its elements do (`realizes_permGroup`). They are composed and inverted as bijections are,
and all of them that stand for something can be inverted (`invertible_permGroup`).
-/

namespace FiniteGroups

open FiniteGroup

/-- Some permutations of `n` points as a group. -/
def permGroup (n : Nat) (els : Roster Value) (one : Perm) (name : String) (origin : Origin)
    (links : List Value) : FiniteGroup :=
  { ofRoster els (.op .compose [.int n]) (.perm one) (.rule 0 .complement []) .none
      (.text name) with origin, links }

theorem beq_perm {p q : Perm} : ((Value.perm p == .perm q) = true) ↔ p = q := by
  show Value.same (.perm p) (.perm q) = true ↔ _
  simp [Value.same]

/-- Permutations are composed, whatever the operation is kept with. -/
theorem call_compose (data : List Value) (p q : Perm) :
    (Value.op .compose data).meaning.call₂ (.perm p) (.perm q) = Value.perm <$> p.mul q := by
  show (Value.op .compose data).meaning.call [.perm p, .perm q] = _
  rw [Value.meaning, Value.meaningWith.eq_def]
  rfl

variable {n : Nat} {M : Type} [Group M] {ρ : M →* Equiv.Perm (Point n)}

/-- A permutation stands for the element that moves the points as it does. -/
def IsPermOf (ρ : M →* Equiv.Perm (Point n)) (a : Value) (x : M) : Prop :=
  ∃ p : Perm, a = .perm p ∧ p.Moves (ρ x)

theorem faithful_isPermOf (hρ : Function.Injective ρ) : Faithful (IsPermOf ρ) := by
  rintro _ _ x y ⟨p, rfl, hp⟩ ⟨q, rfl, hq⟩
  rw [beq_perm, hp.eq_iff hq, hρ.eq_iff]

section

variable {els : Roster Value} {one : Perm} {name : String} {origin : Origin} {links : List Value}

theorem mul_permGroup (p q : Perm) :
    (permGroup n els one name origin links).mul (.perm p) (.perm q) = Value.perm <$> p.mul q :=
  call_compose [.int n] p q

theorem inverse_permGroup (p : Perm) :
    (permGroup n els one name origin links).inverse (.perm p) = .ok (.perm p.inverse) := by
  show (Value.rule 0 .complement []).meaning.call [.perm p] = _
  rw [Value.meaning, Value.meaningWith.eq_def]
  rfl

theorem exists_inverse_permGroup {a : Value} {x : M} (ha : IsPermOf ρ a x) :
    ∃ b, (permGroup n els one name origin links).inverse a = .ok b ∧ IsPermOf ρ b x⁻¹ ∧
      b ≠ .none := by
  obtain ⟨p, rfl, hp⟩ := ha
  refine ⟨_, inverse_permGroup p, ⟨_, rfl, ?_⟩, nofun⟩
  rw [map_inv]
  exact hp.inverse

/-- Also permutations that are not listed can be inverted. -/
theorem invertible_permGroup {a : Value} {x : M} (ha : IsPermOf ρ a x) :
    (permGroup n els one name origin links).Invertible (IsPermOf ρ) a := by
  obtain ⟨b, hb, hbx, -⟩ := exists_inverse_permGroup ha
  exact ⟨x, b, ha, hb, hbx⟩

/-- The permutations of all elements of a group that acts faithfully realize it. -/
theorem realizes_permGroup (hρ : Function.Injective ρ) (hels : Standing (IsPermOf ρ) els.toList)
    (hextent : extent (IsPermOf ρ) els.toList = Set.univ) (hone : IsPermOf ρ (.perm one) 1)
    (hlinks : ∀ v ∈ links, ∃ m, v.length = .ok m) :
    (permGroup n els one name origin links).Realizes (IsPermOf ρ) := by
  obtain ⟨hstand, hall⟩ := (faithful_isPermOf hρ).extent_promote hels hone
  exact {
    faithful := faithful_isPermOf hρ
    mul_eq := by
      rintro _ _ x y ⟨p, rfl, hp⟩ ⟨q, rfl, hq⟩
      obtain ⟨r, hr, hmoves⟩ := hp.mul hq
      refine ⟨.perm r, (mul_permGroup p q).trans (by rw [hr]; rfl), r, rfl, ?_⟩
      rwa [map_mul]
    keyed_eq := by
      rintro _ x ⟨p, rfl, hp⟩
      exact ⟨.perm p, rfl, p, rfl, hp⟩
    intact := intact_from _ _ _ _ _ (Or.inr ⟨name, rfl⟩) origin hlinks
    equal_eq := by
      rintro _ _ - - ⟨p, rfl, -⟩ ⟨q, rfl, -⟩
      exact Value.equal_of_isSimple rfl rfl
    standing := hstand
    surjective := fun x => (hall.trans hextent).superset (Set.mem_univ x)
    one := hone
    inverse_eq := fun _ _ _ ha => exists_inverse_permGroup ha
    inverse_keyed := by
      intro a k ha hk
      obtain ⟨x, p, rfl, -⟩ := hstand a ha
      rw [← Except.ok.inj hk] }

end

end FiniteGroups
