import FiniteGroups.Perm.Cycles
import FiniteGroups.Proofs.Bijections
import Mathlib.Data.List.Iterate
import Mathlib.GroupTheory.Perm.Cycle.Concrete

/-!
# The cycles of a permutation

`Perm.cycleAt` walks from a point until it is back there: it lists the orbit of the point under the
bijection (`Perm.Moves.cycleAt_eq`). `Perm.cycles` keeps the walks that start at the least point of
their orbit, so that every point is listed once (`Perm.Moves.cycles_eq`, `Perm.nodup_orbits`,
`Perm.mem_flatten_orbits`), and next to the point it is sent to (`formPerm_orbit`). The bijection is
the product of its orbits, and the sign that is read off their lengths is the sign of the bijection
(`Perm.Moves.sign_eq`).
-/

namespace FiniteGroups

open Function (minimalPeriod)

variable {n : Nat} {p : Perm} {σ : Equiv.Perm (Point n)} {i j : Point n}

/-! ## Orbits -/

/-- The points met from a point onwards until it comes again. -/
noncomputable def orbit (σ : Equiv.Perm (Point n)) (i : Point n) : List (Point n) :=
  List.iterate σ i (minimalPeriod σ i)

theorem minimalPeriod_pos (σ : Equiv.Perm (Point n)) (i : Point n) : 0 < minimalPeriod σ i :=
  Function.minimalPeriod_pos_of_mem_periodicPts (σ.injective.mem_periodicPts i)

theorem minimalPeriod_le (σ : Equiv.Perm (Point n)) (i : Point n) : minimalPeriod σ i ≤ n := by
  have hle := Function.minimalPeriod_le_card (f := σ) (x := i)
  rwa [Fintype.card_coe, Nat.card_Icc, Nat.add_sub_cancel] at hle

/-- Walking on reaches the whole cycle, as there are finitely many points. -/
theorem mem_orbit : j ∈ orbit σ i ↔ σ.SameCycle i j := by
  rw [orbit, List.mem_iterate]
  constructor
  · rintro ⟨k, -, rfl⟩
    rw [Equiv.Perm.iterate_eq_pow]
    exact ⟨k, by rw [zpow_natCast]⟩
  · intro h
    obtain ⟨k, hk⟩ := h.exists_nat_pow_eq
    refine ⟨k % minimalPeriod σ i, Nat.mod_lt _ (minimalPeriod_pos σ i), ?_⟩
    rw [Function.iterate_mod_minimalPeriod_eq, Equiv.Perm.iterate_eq_pow, hk]

theorem nodup_orbit (σ : Equiv.Perm (Point n)) (i : Point n) : (orbit σ i).Nodup := by
  rw [orbit, ← List.range_map_iterate]
  refine List.Nodup.map_on (fun a ha b hb hab => ?_) List.nodup_range
  exact Function.iterate_injOn_Iio_minimalPeriod (List.mem_range.1 ha) (List.mem_range.1 hb) hab

/-- Around an orbit each point is followed by the point it is sent to. -/
theorem formPerm_orbit (h : j ∈ orbit σ i) : (orbit σ i).formPerm j = σ j := by
  obtain ⟨k, hk, rfl⟩ := List.getElem_of_mem h
  have hlength : (orbit σ i).length = minimalPeriod σ i := List.length_iterate ..
  rw [List.formPerm_apply_getElem _ (nodup_orbit σ i) k hk]
  simp only [orbit, List.getElem_iterate, List.length_iterate]
  rw [Function.iterate_mod_minimalPeriod_eq, Function.iterate_succ_apply']

/-! ## The walk around a cycle -/

namespace Perm

/-- A walk that has left its start goes on until the orbit is complete. -/
theorem Moves.path_eq (hp : p.Moves σ) {steps k : Nat} (hk : 0 < k)
    (hle : k ≤ minimalPeriod σ i) (hsteps : minimalPeriod σ i ≤ k + steps) :
    p.path i.1 steps (σ^[k] i).1
      = (List.iterate σ (σ^[k] i) (minimalPeriod σ i - k)).map Subtype.val := by
  induction steps generalizing k with
  | zero => rw [show minimalPeriod σ i - k = 0 by omega, path, List.iterate, List.map_nil]
  | succ steps ih =>
    rw [path]
    split
    · next hback =>
      have hdvd : minimalPeriod σ i ∣ k :=
        Function.IsPeriodicPt.minimalPeriod_dvd (Subtype.ext hback)
      have heq := Nat.le_antisymm hle (Nat.le_of_dvd hk hdvd)
      rw [← heq, Nat.sub_self, List.iterate, List.map_nil]
    · next haway =>
      have hne : k ≠ minimalPeriod σ i := by
        rintro rfl
        exact haway (congrArg Subtype.val Function.iterate_minimalPeriod)
      rw [hp.2, ← Function.iterate_succ_apply' σ k i, ih (by omega) (by omega) (by omega),
        show minimalPeriod σ i - k = minimalPeriod σ i - (k + 1) + 1 by omega, List.iterate,
        List.map_cons, Function.iterate_succ_apply']

theorem Moves.cycleAt_eq (hp : p.Moves σ) (i : Point n) :
    p.cycleAt i.1 = (orbit σ i).map Subtype.val := by
  have hpos := minimalPeriod_pos σ i
  have hle := minimalPeriod_le σ i
  have hpath : p.path i.1 n (σ i).1 = (List.iterate σ (σ i) (minimalPeriod σ i - 1)).map _ :=
    hp.path_eq Nat.one_pos hpos (by omega)
  rw [cycleAt, hp.1, hp.2, hpath, orbit,
    show minimalPeriod σ i = minimalPeriod σ i - 1 + 1 by omega, List.iterate, List.map_cons,
    Nat.add_sub_cancel]

/-! ## The list of the cycles -/

/-- The point is the least one of its orbit. -/
def Leads (σ : Equiv.Perm (Point n)) (i : Point n) : Prop :=
  ∀ j, σ.SameCycle i j → i ≤ j

instance decidableLeads (σ : Equiv.Perm (Point n)) (i : Point n) : Decidable (Leads σ i) :=
  inferInstanceAs (Decidable (∀ j, σ.SameCycle i j → i ≤ j))

/-- A walk that starts at its least point starts at the least point of the orbit. -/
theorem Moves.leads_iff (hp : p.Moves σ) (i : Point n) :
    ((p.cycleAt i.1).all ((p.cycleAt i.1).headD 0 ≤ ·)) = true ↔ Leads σ i := by
  have hhead : (p.cycleAt i.1).headD 0 = i.1 := rfl
  rw [hhead, hp.cycleAt_eq, List.all_map, List.all_eq_true]
  simp only [mem_orbit, Function.comp_apply, decide_eq_true_eq, Leads, Subtype.coe_le_coe]

/-- The orbits, each from its least point onwards. -/
noncomputable def orbits (σ : Equiv.Perm (Point n)) : List (List (Point n)) :=
  ((pointList n).filter fun i => decide (Leads σ i)).map (orbit σ)

theorem mem_orbits {c : List (Point n)} :
    c ∈ orbits σ ↔ ∃ i, Leads σ i ∧ orbit σ i = c := by
  simp [orbits, mem_pointList]

/-- No point is in two of the orbits. -/
theorem nodup_orbits (σ : Equiv.Perm (Point n)) : (orbits σ).flatten.Nodup := by
  rw [List.nodup_flatten]
  refine ⟨fun c hc => ?_, List.pairwise_map.2 ?_⟩
  · obtain ⟨i, -, rfl⟩ := mem_orbits.1 hc
    exact nodup_orbit σ i
  · refine List.Pairwise.imp_of_mem ?_ ((nodup_pointList n).filter _)
    -- two leaders of one orbit are each at most the other
    intro i j hi hj hne k hki hkj
    have hij := (mem_orbit.1 hki).trans (mem_orbit.1 hkj).symm
    have hleads := of_decide_eq_true (List.mem_filter.1 hi).2
    have hleads' := of_decide_eq_true (List.mem_filter.1 hj).2
    exact hne (le_antisymm (hleads j hij) (hleads' i hij.symm))

/-- Every point is in the orbit of a least point. -/
theorem mem_flatten_orbits (σ : Equiv.Perm (Point n)) (i : Point n) : i ∈ (orbits σ).flatten := by
  obtain ⟨k, hk, hleast⟩ := Finset.exists_min_image (Finset.univ.filter (σ.SameCycle i)) id
    ⟨i, Finset.mem_filter.2 ⟨Finset.mem_univ i, Equiv.Perm.SameCycle.refl σ i⟩⟩
  have hik := (Finset.mem_filter.1 hk).2
  have hlead : Leads σ k := fun j hj =>
    hleast j (Finset.mem_filter.2 ⟨Finset.mem_univ j, hik.trans hj⟩)
  exact List.mem_flatten.2 ⟨_, mem_orbits.2 ⟨k, hlead, rfl⟩, mem_orbit.2 hik.symm⟩

/-- The cycles that are listed are the orbits. -/
theorem Moves.cycles_eq (hp : p.Moves σ) : p.cycles = (orbits σ).map (List.map Subtype.val) := by
  have hpoints : p.points = (pointList n).map Subtype.val := by
    rw [map_val_pointList, points, hp.1]
  have hfilter : ((fun c : List Nat => c.all (c.headD 0 ≤ ·)) ∘ p.cycleAt ∘ Subtype.val)
      = fun i : Point n => decide (Leads σ i) := by
    funext i
    rw [Bool.eq_iff_iff, decide_eq_true_iff]
    exact hp.leads_iff i
  rw [cycles, hpoints, List.map_map, List.filter_map, hfilter, orbits, List.map_map]
  exact List.map_congr_left fun i _ => hp.cycleAt_eq i

theorem Moves.mem_fixedPoints (hp : p.Moves σ) {k : Nat} :
    k ∈ p.fixedPoints ↔ ∃ i : Point n, i.1 = k ∧ σ i = i := by
  rw [fixedPoints, List.mem_filter, mem_points_of_degree hp.1, beq_iff_eq]
  constructor
  · rintro ⟨hk, himage⟩
    exact ⟨⟨k, hk⟩, rfl, Subtype.ext ((hp.2 ⟨k, hk⟩).symm.trans himage)⟩
  · rintro ⟨i, rfl, hi⟩
    exact ⟨i.2, (hp.2 i).trans (congrArg Subtype.val hi)⟩

end Perm

/-! ## Products of disjoint cycles -/

theorem prod_formPerm_of_notMem {cs : List (List (Point n))} (h : i ∉ cs.flatten) :
    (cs.map List.formPerm).prod i = i := by
  induction cs with
  | nil => rfl
  | cons c cs ih =>
    rw [List.flatten_cons, List.mem_append, not_or] at h
    rw [List.map_cons, List.prod_cons, Equiv.Perm.mul_apply, ih h.2,
      List.formPerm_apply_of_notMem h.1]

/-- A product of disjoint cycles moves a point as its own cycle does. -/
theorem prod_formPerm_of_mem {cs : List (List (Point n))} (hcs : cs.flatten.Nodup)
    {c : List (Point n)} (hc : c ∈ cs) (hi : i ∈ c) :
    (cs.map List.formPerm).prod i = c.formPerm i := by
  induction cs with
  | nil => exact absurd hc List.not_mem_nil
  | cons d cs ih =>
    rw [List.flatten_cons, List.nodup_append] at hcs
    obtain ⟨-, hnodup, hdisjoint⟩ := hcs
    rw [List.map_cons, List.prod_cons, Equiv.Perm.mul_apply]
    rcases List.mem_cons.1 hc with rfl | hc
    · rw [prod_formPerm_of_notMem fun hmem => hdisjoint i hi i hmem rfl]
    · have hmem : c.formPerm i ∈ cs.flatten :=
        List.mem_flatten.2 ⟨c, hc, List.formPerm_apply_mem_of_mem hi⟩
      rw [ih hnodup hc]
      exact List.formPerm_apply_of_notMem fun hd => hdisjoint _ hd _ hmem rfl

/-- A cycle is an odd permutation exactly if its length is even. -/
theorem sign_formPerm {c : List (Point n)} (hc : c.Nodup) (hne : c ≠ []) :
    Equiv.Perm.sign c.formPerm = if c.length % 2 = 0 then -1 else 1 := by
  match c, hc with
  | [], _ => exact absurd rfl hne
  | [i], _ => simp
  | i :: j :: c, hc =>
    have hcycle := List.isCycle_formPerm hc (by simp)
    have hcard : (i :: j :: c).formPerm.support.card = (i :: j :: c).length := by
      rw [List.support_formPerm_of_nodup _ hc (by simp), List.toFinset_card_of_nodup hc]
    rw [hcycle.sign, hcard]
    split
    · next heven => rw [(Nat.even_iff.2 heven).neg_one_pow]
    · next hodd => rw [(Nat.not_even_iff_odd.1 (mt Nat.even_iff.1 hodd)).neg_one_pow, neg_neg]

/-! ## Signs -/

namespace Perm

/-- The factor that a cycle contributes to the sign. -/
theorem foldl_sign (cs : List (List (Point n))) (hnodup : ∀ c ∈ cs, c.Nodup)
    (hne : ∀ c ∈ cs, c ≠ []) (s : ℤˣ) :
    (cs.map (List.map Subtype.val)).foldl
        (fun (s : Int) c => if c.length % 2 = 0 then -s else s) s
      = (s * Equiv.Perm.sign (cs.map List.formPerm).prod : ℤˣ) := by
  -- the sign found so far is what the cycles before contribute
  induction cs generalizing s with
  | nil => simp
  | cons c cs ih =>
    have hsign := sign_formPerm (hnodup c List.mem_cons_self) (hne c List.mem_cons_self)
    have ih := ih (fun d hd => hnodup d (List.mem_cons_of_mem c hd))
      fun d hd => hne d (List.mem_cons_of_mem c hd)
    rw [List.map_cons, List.foldl_cons, List.length_map, List.map_cons, List.prod_cons, map_mul,
      hsign, ← mul_assoc, ← ih]
    congr 1
    split <;> simp

/-- Each point is moved by the orbit that it is in. -/
theorem prod_orbits (σ : Equiv.Perm (Point n)) : ((orbits σ).map List.formPerm).prod = σ := by
  refine Equiv.ext fun i => ?_
  obtain ⟨c, hc, hi⟩ := List.mem_flatten.1 (mem_flatten_orbits σ i)
  rw [prod_formPerm_of_mem (nodup_orbits σ) hc hi]
  obtain ⟨j, -, rfl⟩ := mem_orbits.1 hc
  exact formPerm_orbit hi

theorem Moves.sign_eq (hp : p.Moves σ) : p.sign = Equiv.Perm.sign σ := by
  have hne : ∀ c ∈ orbits σ, c ≠ [] := by
    intro c hc
    obtain ⟨i, -, rfl⟩ := mem_orbits.1 hc
    exact List.ne_nil_of_mem (mem_orbit.2 (Equiv.Perm.SameCycle.refl σ i))
  have hfold := foldl_sign (orbits σ) (List.nodup_flatten.1 (nodup_orbits σ)).1 hne 1
  rw [one_mul, prod_orbits] at hfold
  rw [sign, hp.cycles_eq]
  exact hfold

end Perm

end FiniteGroups
