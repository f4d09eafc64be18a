import FiniteGroups.Proofs.PermValues
import Mathlib.Data.List.Rotate

/-!
# Permutations in cycle notation

A permutation is written by its cycles and read from cycles again. `Perm.takenCycles` finds the
cycles in one run over the points; the run never loses its way, since a walk is back at its start
after at most as many steps as there are points and meets only points that remain
(`Perm.Moves.takenCycles_eq`). What it lists is a decomposition of the points into cycles
(`Perm.IsDecomposition`); there is no other one (`Perm.IsDecomposition.unique`).

Read from any disjoint cycles, a permutation has these as its cycles, each turned round to its
least point and in the order of these points, next to the points that were left out
(`Perm.arranged`).
-/

open Function (minimalPeriod)

namespace FiniteGroups

variable {n : Nat} {p : Perm} {σ : Equiv.Perm (Point n)} {i j : Point n}

theorem pairwise_pointList (n : Nat) : (pointList n).Pairwise (· < ·) := by
  have hpairwise := List.pairwise_lt_range' (s := 1) (n := n)
  rwa [← map_val_pointList, List.pairwise_map] at hpairwise

/-! ## Points that follow each other -/

/-- Around an orbit each point is sent to the next one, and the last to the first. -/
theorem map_orbit (σ : Equiv.Perm (Point n)) (i : Point n) :
    (orbit σ i).map σ = (orbit σ i).rotate 1 := by
  refine List.ext_getElem (by simp) fun k hk hk' => ?_
  have hlength : (orbit σ i).length = minimalPeriod σ i := List.length_iterate ..
  simp only [List.getElem_map, List.getElem_rotate, hlength]
  simp only [orbit, List.getElem_iterate]
  rw [Function.iterate_mod_minimalPeriod_eq, Function.iterate_succ_apply']

/-- Distinct points each of which is sent to the next one are an orbit. -/
theorem orbit_eq_of_map {pts : List (Point n)} (hnodup : pts.Nodup)
    (hnext : pts.map σ = pts.rotate 1) (hpos : 0 < pts.length) : orbit σ pts[0] = pts := by
  have hstep (k : Nat) (hk : k < pts.length) :
      σ pts[k] = pts.get ⟨(k + 1) % pts.length, Nat.mod_lt _ hpos⟩ := by
    have hget := List.getElem_of_eq hnext (i := k) (by simpa using hk)
    rwa [List.getElem_map, List.getElem_rotate] at hget
  have hiterate (m : Nat) : σ^[m] pts[0] = pts.get ⟨m % pts.length, Nat.mod_lt _ hpos⟩ := by
    induction m with
    | zero => simp only [Function.iterate_zero, id_eq, Nat.zero_mod, List.get_eq_getElem]
    | succ m ih =>
      rw [Function.iterate_succ_apply', ih, List.get_eq_getElem, hstep]
      simp only [Nat.mod_add_mod]
  have hperiod : minimalPeriod σ pts[0] = pts.length := by
    refine Nat.dvd_antisymm ?_ ?_
    · refine Function.IsPeriodicPt.minimalPeriod_dvd ?_
      rw [Function.IsPeriodicPt, Function.IsFixedPt, hiterate]
      simp only [Nat.mod_self, List.get_eq_getElem]
    · have hback := hiterate (minimalPeriod σ pts[0])
      rw [Function.iterate_minimalPeriod] at hback
      exact Nat.dvd_of_mod_eq_zero (hnodup.getElem_inj_iff.1 hback).symm
  refine List.ext_getElem (by rw [orbit, List.length_iterate, hperiod]) fun k hk hk' => ?_
  simp only [orbit, List.getElem_iterate, hiterate, Nat.mod_eq_of_lt hk', List.get_eq_getElem]

namespace Perm

/-! ## The run over the points -/

/-- A walk that has left its start is back there before it gets too long. -/
theorem Moves.walk_eq (hp : p.Moves σ) {left k : Nat} (hk : 0 < k)
    (hle : k ≤ minimalPeriod σ i) (hleft : minimalPeriod σ i ≤ k + left) :
    p.walk i.1 left (σ^[k] i).1 = .ok (p.path i.1 left (σ^[k] i).1) := by
  induction left generalizing k with
  | zero =>
    have hback : σ^[k] i = i := by
      rw [show k = minimalPeriod σ i by omega, Function.iterate_minimalPeriod]
    rw [hback, walk, if_pos rfl, path]
  | succ left ih =>
    rw [walk, path]
    split
    · rfl
    · next haway =>
      have hne : k ≠ minimalPeriod σ i := by
        rintro rfl
        exact haway (congrArg Subtype.val Function.iterate_minimalPeriod)
      have himage : p.image (σ^[k] i).1 = (σ^[k + 1] i).1 := by
        rw [hp.2, Function.iterate_succ_apply']
      simp only [hp.apply_eq, ok_bind, himage, ← Function.iterate_succ_apply' σ k i]
      rw [ih (by omega) (by omega) (by omega)]
      rfl

/-- The walk from a point lists the rest of its orbit. -/
theorem Moves.walk_orbit (hp : p.Moves σ) (i : Point n) :
    ∃ rest, p.walk i.1 (p.degree - 1) (σ i).1 = .ok rest ∧
      i.1 :: rest = (orbit σ i).map Subtype.val := by
  have hpos := minimalPeriod_pos σ i
  have hle := minimalPeriod_le σ i
  have hleft : minimalPeriod σ i ≤ 1 + (p.degree - 1) := by
    have hdegree := hp.1
    omega
  refine ⟨_, hp.walk_eq Nat.one_pos hpos hleft, ?_⟩
  rw [hp.path_eq Nat.one_pos hpos hleft, orbit]
  conv_rhs => rw [show minimalPeriod σ i = minimalPeriod σ i - 1 + 1 by omega]
  rfl

/-- Distinct points that are there can be taken away one after the other. -/
theorem foldlM_takeAway {cycle remain : List Nat} (hnodup : cycle.Nodup)
    (hsub : ∀ k ∈ cycle, k ∈ remain) :
    cycle.foldlM takeAway remain = .ok (remain.diff cycle) := by
  induction cycle generalizing remain with
  | nil => rw [List.foldlM_nil, List.diff_nil, pure_eq_ok]
  | cons k cycle ih =>
    obtain ⟨hk, hnodup⟩ := List.nodup_cons.1 hnodup
    have hrest : ∀ l ∈ cycle, l ∈ remain.erase k := fun l hl =>
      (List.mem_erase_of_ne (by rintro rfl; exact hk hl)).2 (hsub l (List.mem_cons_of_mem k hl))
    rw [List.foldlM_cons, takeAway, if_pos (hsub k List.mem_cons_self), ok_bind, ih hnodup hrest,
      List.diff_cons]

/-- A point is the least one of its cycle if none of the points before it is on the cycle. -/
theorem leads_iff_of_append {before after : List (Point n)}
    (hpoints : before ++ i :: after = pointList n) :
    Leads σ i ↔ ∀ j ∈ before, ¬ σ.SameCycle j i := by
  obtain ⟨-, hafter, hbefore⟩ := List.pairwise_append.1 (hpoints ▸ pairwise_pointList n)
  constructor
  · intro hleads j hj hji
    exact (hleads j hji.symm).not_gt (hbefore j hj i List.mem_cons_self)
  · intro hfree j hij
    by_contra hlt
    have hj := mem_pointList j
    rw [← hpoints, List.mem_append, List.mem_cons] at hj
    rcases hj with hj | rfl | hj
    · exact hfree j hj hij.symm
    · exact hlt le_rfl
    · exact hlt ((List.pairwise_cons.1 hafter).1 j hj).le

/-- The points that remain are those on no cycle of a point that came before. A point remains when
its turn comes if it is the least one of its cycle. -/
theorem Moves.takeCycles_eq (hp : p.Moves σ) {before after : List (Point n)}
    (hpoints : before ++ after = pointList n) {remain : List Nat} (hnodup : remain.Nodup)
    (hremain : ∀ k : Point n, k.1 ∈ remain ↔ ∀ j ∈ before, ¬ σ.SameCycle j k) :
    p.takeCycles (after.map Subtype.val) remain
      = .ok (((after.filter fun i => decide (Leads σ i)).map (orbit σ)).map
          (List.map Subtype.val)) := by
  induction after generalizing before remain with
  | nil => rfl
  | cons i after ih =>
    have hlead : i.1 ∈ remain ↔ Leads σ i := (hremain i).trans (leads_iff_of_append hpoints).symm
    have hpoints' : (before ++ [i]) ++ after = pointList n := by
      rw [List.append_assoc, List.singleton_append, hpoints]
    have hsplit (k : Point n) : (∀ j ∈ before ++ [i], ¬ σ.SameCycle j k)
        ↔ (∀ j ∈ before, ¬ σ.SameCycle j k) ∧ ¬ σ.SameCycle i k := by
      simp only [List.forall_mem_append, List.forall_mem_singleton]
    rw [List.map_cons, takeCycles]
    by_cases hi : Leads σ i
    · obtain ⟨rest, hwalk, hcycle⟩ := hp.walk_orbit i
      have hfree := (leads_iff_of_append hpoints).1 hi
      have hsub : ∀ k ∈ (orbit σ i).map Subtype.val, k ∈ remain := by
        intro k hk
        obtain ⟨l, hl, rfl⟩ := List.mem_map.1 hk
        exact (hremain l).2 fun j hj hjl => hfree j hj (hjl.trans (mem_orbit.1 hl).symm)
      have htake := foldlM_takeAway ((nodup_orbit σ i).map Subtype.val_injective) hsub
      have hremain' (k : Point n) : k.1 ∈ remain.diff ((orbit σ i).map Subtype.val)
          ↔ ∀ j ∈ before ++ [i], ¬ σ.SameCycle j k := by
        rw [hnodup.mem_sdiff_iff, hremain, hsplit,
          List.mem_map_of_injective Subtype.val_injective, mem_orbit]
      rw [if_pos (hlead.2 hi), hp.apply_eq, ok_bind, hwalk, ok_bind, hcycle]
      dsimp only
      rw [htake, ok_bind, ih hpoints' hnodup.diff hremain', ok_bind, pure_eq_ok,
        List.filter_cons, if_pos (decide_eq_true hi), List.map_cons, List.map_cons]
    · have hremain' (k : Point n) : k.1 ∈ remain ↔ ∀ j ∈ before ++ [i], ¬ σ.SameCycle j k := by
        rw [hremain, hsplit, iff_self_and]
        intro hfree hik
        obtain ⟨j, hj, hji⟩ : ∃ j ∈ before, σ.SameCycle j i := by
          simpa only [hremain, not_forall, not_not, exists_prop] using mt hlead.1 hi
        exact hfree j hj (hji.trans hik)
      rw [if_neg (mt hlead.1 hi), ih hpoints' hnodup hremain',
        List.filter_cons, if_neg (by simpa using hi)]

/-- The run over the points finds the cycles, without losing its way. -/
theorem takenCycles_eq (p : Perm) : p.takenCycles = .ok p.cycles := by
  obtain ⟨σ, hp⟩ := exists_moves (p := p) rfl
  have hpoints : p.points = (pointList p.degree).map Subtype.val := by
    rw [map_val_pointList, points]
  have hremain (k : Point p.degree) :
      k.1 ∈ p.points ↔ ∀ j ∈ ([] : List (Point p.degree)), ¬ σ.SameCycle j k :=
    iff_of_true ((mem_points_of_degree rfl).2 k.2) fun _ hj => absurd hj List.not_mem_nil
  have htake := hp.takeCycles_eq (List.nil_append _) List.nodup_range' hremain
  rwa [← hpoints, ← orbits, ← hp.cycles_eq] at htake

/-! ## Decompositions into cycles -/

/-- The lists are the cycles of the permutation. -/
structure IsDecomposition (p : Perm) (cs : List (List Nat)) : Prop where
  /-- Every point occurs exactly once. -/
  perm_points : cs.flatten.Perm p.points
  /-- There is no empty cycle. -/
  ne_nil : ∀ c ∈ cs, c ≠ []
  /-- A cycle starts at its least point. -/
  least : ∀ c ∈ cs, ∀ i ∈ c, c.headD 0 ≤ i
  /-- The points of a cycle are sent to the next one, and the last one to the first. -/
  images : ∀ c ∈ cs, (c.map fun i : Nat => p.apply i) = (c.rotate 1).map Except.ok
  /-- The cycles are in the order of their first points. -/
  ordered : cs.Pairwise fun c d => c.headD 0 < d.headD 0

/-- What is said of lists of points, said of the points as numbers. -/
theorem Moves.images_iff (hp : p.Moves σ) (c : List (Point n)) :
    ((c.map Subtype.val).map fun i : Nat => p.apply i)
        = ((c.map Subtype.val).rotate 1).map Except.ok ↔ c.map σ = c.rotate 1 := by
  have hinj : Function.Injective fun i : Point n => (Except.ok i.1 : Except Fault Nat) :=
    fun i j hij => Subtype.ext (Except.ok.inj hij)
  have happly : ((c.map Subtype.val).map fun i : Nat => p.apply i)
      = (c.map σ).map fun i : Point n => (Except.ok i.1 : Except Fault Nat) := by
    rw [List.map_map, List.map_map]
    exact List.map_congr_left fun i _ => hp.apply_eq i
  rw [happly, ← List.map_rotate, List.map_map (f := Subtype.val)]
  exact (List.map_injective_iff.2 hinj).eq_iff

theorem Moves.isDecomposition (hp : p.Moves σ) : p.IsDecomposition p.cycles := by
  have hhead (i : Point n) : ((orbit σ i).map Subtype.val).headD 0 = i.1 := by
    rw [← hp.cycleAt_eq]
    rfl
  rw [hp.cycles_eq]
  constructor
  · rw [points, hp.1, ← map_val_pointList, ← List.map_flatten]
    refine List.Perm.map _ ((List.perm_ext_iff_of_nodup (nodup_orbits σ) (nodup_pointList n)).2 ?_)
    exact fun i => iff_of_true (mem_flatten_orbits σ i) (mem_pointList i)
  · intro c hc
    obtain ⟨d, hd, rfl⟩ := List.mem_map.1 hc
    obtain ⟨i, -, rfl⟩ := mem_orbits.1 hd
    exact List.ne_nil_of_mem (List.mem_map_of_mem (mem_orbit.2 (Equiv.Perm.SameCycle.refl σ i)))
  · intro c hc k hk
    obtain ⟨d, hd, rfl⟩ := List.mem_map.1 hc
    obtain ⟨i, hi, rfl⟩ := mem_orbits.1 hd
    obtain ⟨j, hj, rfl⟩ := List.mem_map.1 hk
    rw [hhead]
    exact hi j (mem_orbit.1 hj)
  · intro c hc
    obtain ⟨d, hd, rfl⟩ := List.mem_map.1 hc
    obtain ⟨i, -, rfl⟩ := mem_orbits.1 hd
    exact (hp.images_iff _).2 (map_orbit σ i)
  · rw [orbits, List.map_map, List.pairwise_map]
    refine ((pairwise_pointList n).filter _).imp fun {i j} hij => ?_
    simp only [Function.comp_apply, hhead]
    exact hij

namespace IsDecomposition

variable {cs ds : List (List Nat)}

/-- A listed cycle is an orbit, from its least point onwards. -/
theorem exists_leads (h : p.IsDecomposition cs) (hp : p.Moves σ) {c : List Nat} (hc : c ∈ cs) :
    ∃ i, Leads σ i ∧ (orbit σ i).map Subtype.val = c := by
  have hmem : ∀ k ∈ c, k ∈ Finset.Icc 1 n := fun k hk =>
    (mem_points_of_degree hp.1).1 (h.perm_points.mem_iff.1 (List.mem_flatten_of_mem hc hk))
  have hnodup : c.Nodup := by
    have hflatten := h.perm_points.nodup_iff.2 (List.nodup_range' (s := 1))
    exact (List.nodup_flatten.1 hflatten).1 c hc
  lift c to List (Point n) using hmem with pts
  have hpos : 0 < pts.length :=
    List.length_pos_iff.2 fun hnil => h.ne_nil _ hc (congrArg (List.map Subtype.val) hnil)
  have horbit := orbit_eq_of_map (hnodup.of_map _) ((hp.images_iff pts).1 (h.images _ hc)) hpos
  refine ⟨pts[0], fun j hj => ?_, congrArg _ horbit⟩
  have hj : j ∈ pts := horbit ▸ mem_orbit.2 hj
  have hleast := h.least _ hc _ (List.mem_map_of_mem hj)
  obtain ⟨i, pts, rfl⟩ := List.exists_cons_of_length_pos hpos
  exact hleast

/-- Which cycles are listed is determined by the permutation. -/
theorem mem_of_mem (h : p.IsDecomposition cs) (h' : p.IsDecomposition ds) {c : List Nat}
    (hc : c ∈ cs) : c ∈ ds := by
  obtain ⟨σ, hp⟩ := exists_moves (p := p) rfl
  obtain ⟨i, hi, rfl⟩ := h.exists_leads hp hc
  have hpoint : i.1 ∈ ds.flatten := h'.perm_points.mem_iff.2 ((mem_points_of_degree rfl).2 i.2)
  obtain ⟨d, hd, hid⟩ := List.mem_flatten.1 hpoint
  obtain ⟨j, hj, rfl⟩ := h'.exists_leads hp hd
  have hji := mem_orbit.1 ((List.mem_map_of_injective Subtype.val_injective).1 hid)
  obtain rfl := le_antisymm (hi j hji.symm) (hj i hji)
  exact hd

/-- A permutation has one decomposition into cycles. -/
theorem unique (h : p.IsDecomposition cs) (h' : p.IsDecomposition ds) : cs = ds := by
  have hnodup {cs : List (List Nat)} (h : p.IsDecomposition cs) : cs.Nodup :=
    h.ordered.imp fun hlt heq => (heq ▸ hlt).false
  have hperm : cs.Perm ds := (List.perm_ext_iff_of_nodup (hnodup h) (hnodup h')).2
    fun c => ⟨h.mem_of_mem h', h'.mem_of_mem h⟩
  exact hperm.eq_of_pairwise (fun c d _ _ hcd hdc => absurd (hcd.trans hdc) (lt_irrefl _))
    h.ordered h'.ordered

end IsDecomposition

/-! ## Cycles brought into order -/

/-- The cycle from its least point onwards. -/
def fromLeast (c : List Nat) : List Nat := c.rotate (c.findIdx fun i => c.all (i ≤ ·))

/-- The cycles, each from its least point onwards, and the points of `1, …, n` on none of them as
cycles of their own, in the order of their first points. -/
def arranged (n : Nat) (cs : List (List Nat)) : List (List Nat) :=
  (cs.map fromLeast ++ ((List.range' 1 n).filter (· ∉ cs.flatten)).map fun i => [i]).mergeSort
    fun c d => c.headD 0 ≤ d.headD 0

theorem headD_fromLeast_le {c : List Nat} (hne : c ≠ []) {i : Nat} (hi : i ∈ c) :
    (fromLeast c).headD 0 ≤ i := by
  have hlt : (c.findIdx fun i => c.all (i ≤ ·)) < c.length := by
    refine List.findIdx_lt_length.2 ⟨c.min hne, List.min_mem hne, ?_⟩
    exact List.all_eq_true.2 fun j hj => decide_eq_true (List.min_le_of_mem hj)
  have hall := List.all_eq_true.1 (List.findIdx_getElem (w := hlt)) i hi
  rw [fromLeast, List.headD_eq_head?_getD, List.head?_rotate hlt, List.getElem?_eq_getElem hlt]
  exact of_decide_eq_true hall

/-- Turned round, a cycle still sends each point to the next one. -/
theorem map_formPerm_rotate {pts : List (Point n)} (hnodup : pts.Nodup)
    (hσ : ∀ i ∈ pts, σ i = pts.formPerm i) (k : Nat) :
    (pts.rotate k).map σ = (pts.rotate k).rotate 1 := by
  have hnext : pts.map pts.formPerm = pts.rotate 1 := by
    refine List.ext_getElem (by simp) fun k hk hk' => ?_
    rw [List.getElem_map, List.formPerm_apply_getElem pts hnodup, List.getElem_rotate]
  rw [List.map_rotate, List.map_congr_left hσ, hnext, List.rotate_rotate, List.rotate_rotate,
    Nat.add_comm]

theorem flatten_arranged_perm (n : Nat) (cs : List (List Nat)) :
    (arranged n cs).flatten.Perm
      (cs.flatten ++ (List.range' 1 n).filter (· ∉ cs.flatten)) := by
  have hturned : (cs.map fromLeast).flatten.Perm cs.flatten := by
    refine List.Perm.flatten_congr (List.forall₂_map_left_iff.2 (List.forall₂_same.2 ?_))
    exact fun c _ => List.rotate_perm c _
  refine (List.mergeSort_perm _ _).flatten.trans ?_
  rw [List.flatten_append, ← List.flatMap_def (f := fun i => [i]), List.flatMap_singleton']
  exact hturned.append_right _

theorem mem_arranged {cs : List (List Nat)} {c : List Nat} :
    c ∈ arranged n cs
      ↔ (∃ d ∈ cs, fromLeast d = c) ∨ ∃ i, (i ∈ List.range' 1 n ∧ i ∉ cs.flatten) ∧ [i] = c := by
  simp only [arranged, List.mem_mergeSort, List.mem_append, List.mem_map, List.mem_filter,
    decide_eq_true_eq]

/-- Each of the points `1, …, n` is listed once. -/
theorem flatten_arranged_perm_range' {cs : List (List Nat)} (hnodup : cs.flatten.Nodup)
    (hsub : cs.flatten ⊆ List.range' 1 n) :
    (arranged n cs).flatten.Perm (List.range' 1 n) := by
  have hrest := (List.nodup_range' (s := 1) (n := n)).filter (· ∉ cs.flatten)
  refine (flatten_arranged_perm n cs).trans ((List.perm_ext_iff_of_nodup ?_ List.nodup_range').2 ?_)
  · refine hnodup.append hrest fun i hi hi' => ?_
    exact of_decide_eq_true (List.mem_filter.1 hi').2 hi
  · intro i
    have hpoint : i ∈ cs.flatten → i ∈ List.range' 1 n := fun hi => hsub hi
    rw [List.mem_append, List.mem_filter, decide_eq_true_eq]
    tauto

theorem ne_nil_of_mem_arranged {cs : List (List Nat)} (hne : ∀ c ∈ cs, c ≠ []) {c : List Nat}
    (hc : c ∈ arranged n cs) : c ≠ [] := by
  rcases mem_arranged.1 hc with ⟨d, hd, rfl⟩ | ⟨i, -, rfl⟩
  · rw [fromLeast, Ne, List.rotate_eq_nil_iff]
    exact hne d hd
  · exact List.cons_ne_nil i []

/-- Lists in the order of their first points that share no point have different first points. -/
theorem pairwise_arranged {cs : List (List Nat)} (hne : ∀ c ∈ arranged n cs, c ≠ [])
    (hnodup : (arranged n cs).flatten.Nodup) :
    (arranged n cs).Pairwise fun c d => c.headD 0 < d.headD 0 := by
  have hle : (arranged n cs).Pairwise fun c d => decide (c.headD 0 ≤ d.headD 0) = true :=
    List.pairwise_mergeSort (by simpa using fun a b c => Nat.le_trans)
      (by simpa using fun a b => Nat.le_total _ _) _
  have hdisjoint := (List.nodup_flatten.1 hnodup).2
  have hhead (c : List Nat) (hc : c ∈ arranged n cs) : c.headD 0 ∈ c := by
    obtain ⟨i, c, rfl⟩ := List.exists_cons_of_ne_nil (hne c hc)
    exact List.mem_cons_self
  refine (hle.and hdisjoint).imp_of_mem fun {c d} hc hd hcd => ?_
  refine lt_of_le_of_ne (of_decide_eq_true hcd.1) fun heq => ?_
  exact hcd.2 (hhead c hc) (heq ▸ hhead d hd)

/-- A product of disjoint cycles has these as its cycles. -/
theorem Moves.isDecomposition_arranged {cs : List (List (Point n))}
    (hp : p.Moves (cs.map List.formPerm).prod) (hne : ∀ c ∈ cs, c ≠ [])
    (hnodup : cs.flatten.Nodup) :
    p.IsDecomposition (arranged n (cs.map (List.map Subtype.val))) := by
  have hflatten : (cs.map (List.map Subtype.val)).flatten = cs.flatten.map Subtype.val :=
    List.map_flatten.symm
  have hsub : (cs.map (List.map Subtype.val)).flatten ⊆ List.range' 1 n := by
    rw [hflatten, ← map_val_pointList]
    exact List.map_subset _ fun j _ => mem_pointList j
  have hperm := flatten_arranged_perm_range' (hflatten ▸ hnodup.map Subtype.val_injective) hsub
  have hne' : ∀ c ∈ arranged n (cs.map (List.map Subtype.val)), c ≠ [] := by
    refine fun c => ne_nil_of_mem_arranged fun d hd => ?_
    obtain ⟨pts, hpts, rfl⟩ := List.mem_map.1 hd
    exact mt List.map_eq_nil_iff.1 (hne pts hpts)
  refine ⟨by rwa [points, hp.1], hne', fun c hc => ?_, fun c hc => ?_, pairwise_arranged hne' ?_⟩
  · rcases mem_arranged.1 hc with ⟨d, hd, rfl⟩ | ⟨i, -, rfl⟩
    · intro i hi
      rw [fromLeast, List.mem_rotate] at hi
      exact headD_fromLeast_le (List.ne_nil_of_mem hi) hi
    · exact fun j hj => (List.mem_singleton.1 hj).ge
  · rcases mem_arranged.1 hc with ⟨d, hd, rfl⟩ | ⟨i, ⟨hi, hfree⟩, rfl⟩
    · obtain ⟨pts, hpts, rfl⟩ := List.mem_map.1 hd
      rw [fromLeast, ← List.map_rotate, hp.images_iff]
      refine map_formPerm_rotate ((List.nodup_flatten.1 hnodup).1 pts hpts) (fun i hi => ?_) _
      exact prod_formPerm_of_mem hnodup hpts hi
    · have hpoint : i ∈ Finset.Icc 1 n := by
        rwa [← mem_points_of_degree hp.1, points, hp.1]
      have hnot : (⟨i, hpoint⟩ : Point n) ∉ cs.flatten := fun hmem =>
        hfree (hflatten ▸ List.mem_map_of_mem hmem)
      refine (hp.images_iff [⟨i, hpoint⟩]).2 ?_
      rw [List.map_singleton, prod_formPerm_of_notMem hnot, List.rotate_singleton]
  · exact hperm.nodup_iff.2 List.nodup_range'

end Perm

/-! ## Writing and reading cycles -/

namespace Value

/-- The value lists the points of the cycle. -/
def ListsPoints (v : Value) (c : List Nat) : Prop :=
  v.length = .ok c.length ∧ ∀ k (hk : k < c.length), v.item (ofNat k) = .ok (ofNat (c.get ⟨k, hk⟩))

theorem listsPoints_map {v : Value} {pts : List (Point n)} :
    v.ListsPoints (pts.map Subtype.val) ↔ v.Spells pts := by
  simp only [ListsPoints, Spells, List.length_map, List.get_eq_getElem, List.getElem_map]

theorem entry_map_get (c : List Nat) {k : Nat} (hk : k < c.length) :
    Position.entry (c.map ofNat) k = .ok (ofNat (c.get ⟨k, hk⟩)) := by
  simp only [Position.entry, Position.resolve_natCast, List.length_map, hk, if_true, dite_true,
    List.getElem_map, List.get_eq_getElem]

theorem listsPoints_list (c : List Nat) : ListsPoints (.list 0 (c.map ofNat)) c :=
  ⟨congrArg _ (List.length_map _), fun _ hk => entry_map_get c hk⟩

theorem listsPoints_tuple (c : List Nat) : ListsPoints (.tuple (c.map ofNat)) c :=
  ⟨congrArg _ (List.length_map _), fun _ hk => entry_map_get c hk⟩

end Value

namespace Perm

/-- A permutation is read from disjoint cycles of which it is the product. -/
theorem Moves.permOfCycles_eq (hp : p.Moves σ) {cs : List (List (Point n))}
    (hnodup : cs.flatten.Nodup) (hprod : (cs.map List.formPerm).prod = σ) :
    Value.permOfCycles
      (.list 0 ((cs.map (List.map Subtype.val)).map fun c => .list 0 (c.map Value.ofNat)))
      (Value.ofNat n) = .ok p := by
  have hspells : List.Forall₂ Value.Spells
      ((cs.map (List.map Subtype.val)).map fun c => .list 0 (c.map Value.ofNat)) cs := by
    rw [List.map_map]
    exact List.forall₂_map_left_iff.2 (List.forall₂_same.2 fun c _ =>
      Value.listsPoints_map.1 (Value.listsPoints_list _))
  have hlisted (cycles : List Value) : (Value.list 0 cycles).entries = .ok cycles := rfl
  have hpos : 0 < n := hp.1 ▸ p.degree_pos
  obtain ⟨q, hq, hmoves⟩ := Value.permOfCycles_spec hpos (hlisted _) hspells hnodup
  rw [hprod] at hmoves
  rw [hq, hmoves.ext hp]

/-- The permutation is read back from its cycles. -/
theorem permOfCycles_cycles (p : Perm) :
    Value.permOfCycles (.list 0 (p.cycles.map fun c => .list 0 (c.map Value.ofNat)))
      (Value.ofNat p.degree) = .ok p := by
  obtain ⟨σ, hp⟩ := exists_moves (p := p) rfl
  rw [hp.cycles_eq]
  exact hp.permOfCycles_eq (nodup_orbits σ) (prod_orbits σ)

/-- The cycles that are found in a permutation are its decomposition into cycles, and it is read
back from them. Read from disjoint cycles of points of `1, …, n`, a permutation has just these
cycles, each from its least point onwards, and the points left out as fixed points. -/
theorem cycles_read_back :
    (∀ p : Perm, ∃ cs, p.takenCycles = .ok cs ∧ p.IsDecomposition cs ∧
      Value.permOfCycles (.list 0 (cs.map fun c => .list 0 (c.map Value.ofNat)))
        (Value.ofNat p.degree) = .ok p) ∧
    ∀ n : Nat, 1 ≤ n → ∀ (cycles : Value) (listed : List Value), cycles.entries = .ok listed →
      ∀ cs : List (List Nat), List.Forall₂ Value.ListsPoints listed cs →
        (∀ c ∈ cs, c ≠ []) → (∀ c ∈ cs, ∀ i ∈ c, 1 ≤ i ∧ i ≤ n) → cs.flatten.Nodup →
        ∃ p, Value.permOfCycles cycles (Value.ofNat n) = .ok p ∧ p.degree = n ∧
          p.takenCycles = .ok (arranged n cs) := by
  refine ⟨fun p => ?_, fun n hn cycles listed hlisted cs hpoints hne hrange hnodup => ?_⟩
  · obtain ⟨σ, hp⟩ := exists_moves (p := p) rfl
    exact ⟨p.cycles, p.takenCycles_eq, hp.isDecomposition, p.permOfCycles_cycles⟩
  · have hmem : ∀ c ∈ cs, ∀ i ∈ c, i ∈ Finset.Icc 1 n := fun c hc i hi =>
      Finset.mem_Icc.2 (hrange c hc i hi)
    lift cs to List (List (Point n)) using hmem with pts
    have hspells : List.Forall₂ Value.Spells listed pts :=
      (List.forall₂_map_right_iff.1 hpoints).imp fun _ _ => Value.listsPoints_map.1
    have hpts : pts.flatten.Nodup := by
      rw [← List.map_flatten] at hnodup
      exact hnodup.of_map _
    obtain ⟨p, hread, hp⟩ := Value.permOfCycles_spec hn hlisted hspells hpts
    have hdecomposition := hp.isDecomposition_arranged
      (fun c hc hnil => hne _ (List.mem_map_of_mem hc) (hnil ▸ rfl)) hpts
    refine ⟨p, hread, hp.1, ?_⟩
    rw [p.takenCycles_eq, hp.isDecomposition.unique hdecomposition]

/-- Two cycles of five points, which do not start at their least points, and a point left out. -/
theorem cycles_read_back_five : ∃ p,
    Value.permOfCycles (.list 0 [.list 0 [.int 5, .int 4], .tuple [.int 3, .int 1]]) (.int 5)
      = .ok p ∧ p.takenCycles = .ok [[1, 3], [2], [4, 5]] := by
  have hpoints : List.Forall₂ Value.ListsPoints
      [.list 0 [.int 5, .int 4], .tuple [.int 3, .int 1]] [[5, 4], [3, 1]] :=
    .cons (Value.listsPoints_list [5, 4]) (.cons (Value.listsPoints_tuple [3, 1]) .nil)
  obtain ⟨p, hp, -, hcycles⟩ := cycles_read_back.2 5 (by decide)
    (.list 0 [.list 0 [.int 5, .int 4], .tuple [.int 3, .int 1]]) _ rfl [[5, 4], [3, 1]] hpoints
    (by decide) (by decide) (by decide)
  have harranged : arranged 5 [[5, 4], [3, 1]] = [[1, 3], [2], [4, 5]] := by cbv
  exact ⟨p, hp, harranged ▸ hcycles⟩

end Perm

end FiniteGroups
