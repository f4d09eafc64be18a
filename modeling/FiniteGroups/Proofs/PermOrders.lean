import FiniteGroups.Proofs.CycleTypes
import FiniteGroups.Proofs.Orders

/-!
# Orders of permutations

`Perm.order` takes no more steps than there are permutations. A search that goes on until it comes
to the identity, however long that may take, ends with the same number (`Perm.Counts`,
`Perm.Moves.counts_iff`). The powers of a bijection are at the identity when those of all
its cycles are, so the number is the least common multiple of the cycle type
(`Perm.Moves.order_dvd_iff`), and the exponents that lead back to the identity, negative ones
included, are its multiples (`Perm.order_spec`).
-/

namespace FiniteGroups

/-- The multiples of the least common multiple of a list are the common multiples. -/
theorem foldr_lcm_dvd_iff {ms : List Nat} {k : Nat} :
    ms.foldr Nat.lcm 1 ∣ k ↔ ∀ m ∈ ms, m ∣ k := by
  induction ms with
  | nil => simp
  | cons m ms ih => rw [List.foldr_cons, Nat.lcm_dvd_iff, ih, List.forall_mem_cons]

namespace Perm

variable {n : Nat} {p q : Perm} {σ : Equiv.Perm (Point n)}

/-- A run of the search for the order, which is at the `i`-th power `q`, ends with the number `m`.
There is no bound on its steps. -/
inductive Counts (p : Perm) : (i : Nat) → (q : Perm) → (m : Nat) → Prop
  | stop {i : Nat} {q : Perm} (hone : q.isIdentity = true) : Counts p i q i
  | step {i m : Nat} {q r : Perm} (hne : ¬q.isIdentity = true) (hmul : p.mul q = .ok r)
      (hrest : Counts p (i + 1) r m) : Counts p i q m

/-- A run does not end in two ways. -/
theorem Counts.unique {i l m : Nat} (hl : p.Counts i q l) (hm : p.Counts i q m) : l = m := by
  induction hl with
  | stop hone =>
    cases hm with
    | stop => rfl
    | step hne => exact absurd hone hne
  | step hne hmul _ ih =>
    cases hm with
    | stop hone => exact absurd hone hne
    | step _ hmul' hrest =>
      cases hmul.symm.trans hmul'
      exact ih hrest

/-- A run ends as soon as the number of factors is a multiple of the order. -/
theorem Moves.counts_of_le (hp : p.Moves σ) {i : Nat} (hpos : 0 < i) (hle : i ≤ p.order)
    (hq : q.Moves (σ ^ i)) : p.Counts i q p.order := by
  -- the induction is on the number of factors that are left
  obtain ⟨left, hleft⟩ := Nat.exists_eq_add_of_le hle
  induction left generalizing i q with
  | zero =>
    have hone := hq.isIdentity_iff.2 ((hp.pow_eq_one_iff i).2 (dvd_of_eq hleft))
    rw [hleft]
    exact .stop hone
  | succ left ih =>
    have hne : ¬q.isIdentity = true := fun hone => by
      have hback := Nat.le_of_dvd hpos ((hp.pow_eq_one_iff i).1 (hq.isIdentity_iff.1 hone))
      omega
    obtain ⟨r, hr, hnext⟩ := hp.mul hq
    rw [← pow_succ'] at hnext
    exact .step hne hr (ih (by omega) (by omega) hnext (by omega))

/-- The run that begins with the permutation ends, and only with the order. -/
theorem Moves.counts_iff (hp : p.Moves σ) {m : Nat} : p.Counts 1 p m ↔ m = p.order := by
  have hfirst : p.Moves (σ ^ 1) := by rwa [pow_one]
  have hends := hp.counts_of_le Nat.one_pos (Nat.le_add_left 1 _) hfirst
  exact ⟨fun h => h.unique hends, fun h => h ▸ hends⟩

/-- The multiples of the order are the common multiples of the lengths of the cycles. -/
theorem Moves.order_dvd_iff (hp : p.Moves σ) (k : Nat) :
    p.order ∣ k ↔ ∀ m ∈ p.cycleType, m ∣ k := by
  have hparts : ∀ m, m ∈ p.cycleType ↔ m ∈ σ.partition.parts := fun m => by
    rw [← hp.coe_cycleType, Multiset.mem_coe]
  rw [← hp.pow_eq_one_iff, ← orderOf_dvd_iff_pow_eq_one, ← Equiv.Perm.lcm_cycleType,
    Multiset.lcm_dvd]
  simp only [hparts, Equiv.Perm.parts_partition, Multiset.mem_add, or_imp, forall_and]
  -- the cycles of one point ask for nothing
  refine (and_iff_left fun m hm => ?_).symm
  rw [Multiset.eq_of_mem_replicate hm]
  exact one_dvd k

/-- The search for the order ends. The order is the least common multiple of the lengths of the
cycles, and its multiples are the exponents that lead back to the identity. -/
theorem order_spec (p : Perm) :
    (∀ m, p.Counts 1 p m ↔ m = p.order) ∧ p.order = p.cycleType.foldr Nat.lcm 1 ∧
      ∀ m : Int, (p.zpow m).isIdentity = true ↔ (p.order : Int) ∣ m := by
  obtain ⟨σ, hσ⟩ := exists_moves (p := p) rfl
  refine ⟨fun _ => hσ.counts_iff, ?_, fun m => ?_⟩
  · exact Nat.dvd_right_iff_eq.1 fun k => (hσ.order_dvd_iff k).trans foldr_lcm_dvd_iff.symm
  · rw [(hσ.zpow m).isIdentity_iff]
    exact zpow_eq_one_iff hσ.pow_eq_one_iff m

end Perm

end FiniteGroups
