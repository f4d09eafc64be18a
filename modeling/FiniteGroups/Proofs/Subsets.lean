import FiniteGroups.Proofs.Collection
import Mathlib.Data.List.Sublists

/-!
# The search through all sets

The elements other than the identity are chosen in all possible ways, as many of them as make a
divisor of the order together with the identity, and each set that is closed is a subgroup. No set
is chosen twice, since the elements are distinct. By Lagrange's theorem the order of a subgroup is
a divisor, so `Realizes.allClosed_spec` says that all subgroups are found, each of them once.
-/

set_option linter.unusedSectionVars false

namespace FiniteGroups

/-! ## Choices -/

theorem combinations_perm {α : Type} (xs : List α) (k : Nat) :
    (combinations xs k).Perm (xs.sublistsLen k) := by
  induction xs generalizing k with
  | nil => cases k <;> rfl
  | cons x xs ih =>
    cases k with
    | zero => rfl
    | succ k =>
      rw [combinations, List.sublistsLen_succ_cons]
      exact List.perm_append_comm.trans ((ih (k + 1)).append ((ih k).map _))

theorem mem_combinations {α : Type} {xs s : List α} {k : Nat} :
    s ∈ combinations xs k ↔ s.Sublist xs ∧ s.length = k := by
  rw [(combinations_perm xs k).mem_iff, List.mem_sublistsLen]

theorem nodup_combinations {α : Type} {xs : List α} (h : xs.Nodup) (k : Nat) :
    (combinations xs k).Nodup :=
  (combinations_perm xs k).nodup_iff.2 (List.nodup_sublistsLen k h)

/-- Entries chosen from a list without repetitions are those that satisfy what they alone do. -/
theorem filter_eq_of_sublist {α : Type} {xs s : List α} (hs : s.Sublist xs) (hxs : xs.Nodup)
    {p : α → Bool} (hp : ∀ a ∈ xs, p a = true ↔ a ∈ s) : xs.filter p = s := by
  induction hs with
  | slnil => rfl
  | cons a hs ih =>
    obtain ⟨ha, hxs⟩ := List.nodup_cons.1 hxs
    rw [List.filter_cons_of_neg fun hpa => ha (hs.subset ((hp a (by simp)).1 hpa))]
    exact ih hxs fun b hb => hp b (by simp [hb])
  | cons_cons a hs ih =>
    obtain ⟨ha, hxs⟩ := List.nodup_cons.1 hxs
    rw [List.filter_cons_of_pos ((hp a (by simp)).2 (by simp)), ih hxs]
    intro b hb
    have hne : b ≠ a := fun h => ha (h ▸ hb)
    rw [hp b (by simp [hb]), List.mem_cons, or_iff_right hne]

/-! ## Divisors -/

theorem mem_divisors {n m : Nat} (hn : 0 < n) : m ∈ divisors n ↔ m ∣ n := by
  have hmem : m ∈ divisors n ↔ m = 1 ∨ 1 < n ∧ (2 ≤ m ∧ m < n ∧ n % m = 0 ∨ m = n) := by
    rw [divisors, List.mem_cons]
    by_cases h : 1 < n
    · have hrange : m < 2 + (n - 2) ↔ m < n := by omega
      simp [h, hrange, and_assoc]
    · simp [h]
  rw [hmem]
  constructor
  · rintro (rfl | ⟨-, ⟨-, -, h⟩ | rfl⟩)
    · exact one_dvd n
    · exact Nat.dvd_of_mod_eq_zero h
    · exact dvd_rfl
  · intro h
    have hpos := Nat.pos_of_dvd_of_pos h hn
    have hle := Nat.le_of_dvd hn h
    have hmod := Nat.mod_eq_zero_of_dvd h
    omega

theorem nodup_divisors (n : Nat) : (divisors n).Nodup := by
  rw [divisors, List.nodup_cons]
  by_cases h : 1 < n
  · have hrange : ((List.range' 2 (n - 2)).filter (n % · == 0)).Nodup :=
      List.Nodup.filter _ List.nodup_range'
    have hne : n ∉ (List.range' 2 (n - 2)).filter (n % · == 0) := by
      simp
      omega
    simp only [Nat.one_lt_cast, h, if_true, Int.toNat_natCast]
    refine ⟨?_, ?_⟩
    · simp
      omega
    · rw [List.nodup_append]
      refine ⟨hrange, by simp, ?_⟩
      rintro a ha b hb rfl
      rw [List.mem_singleton.1 hb] at ha
      exact hne ha
  · simp [h]

/-! ## Closed sets -/

namespace FiniteGroup

variable {M : Type} [Group M] {R : Value → M → Prop} {G : FiniteGroup}

/-- What is closed under products and inverses and holds the identity is a subgroup. -/
theorem exists_subgroup_iff {T : Set M} : (∃ K : Subgroup M, (K : Set M) = T) ↔
    1 ∈ T ∧ ∀ x ∈ T, x⁻¹ ∈ T ∧ ∀ y ∈ T, x * y ∈ T := by
  constructor
  · rintro ⟨K, rfl⟩
    exact ⟨K.one_mem, fun x hx => ⟨K.inv_mem hx, fun y hy => K.mul_mem hx hy⟩⟩
  · rintro ⟨hone, hclosed⟩
    exact ⟨⟨⟨⟨T, fun {x y} hx hy => (hclosed x hx).2 y hy⟩, hone⟩, fun {x} hx => (hclosed x hx).1⟩,
      rfl⟩

namespace Realizes

variable (hG : G.Realizes R)
include hG

/-- Whether the products of an element with some members are members. -/
theorem products_spec {items : Roster Value} (hstand : Standing R items.toList) {a : Value} {x : M}
    (ha : R a x) : ∃ b,
      (items.toList.allM fun b => do return items.contains (← (← G.mul a b).sought)) = .ok b ∧
        (b = true ↔ ∀ y ∈ extent R items.toList, x * y ∈ extent R items.toList) := by
  obtain ⟨answer, hanswer, hall⟩ := exists_allM items.toList
      (f := fun b => do return items.contains (← (← G.mul a b).sought))
      (P := fun b => ∀ y, R b y → x * y ∈ extent R items.toList) fun b hb => by
    obtain ⟨y, hy⟩ := hstand b hb
    obtain ⟨c, hc, hxy⟩ := hG.mul_eq ha hy
    obtain ⟨k, hk, hkxy⟩ := hG.sought_eq hxy
    refine ⟨items.contains k, by rw [hc, ok_bind, hk]; rfl, ?_⟩
    rw [hG.faithful.contains_iff hstand hkxy]
    refine ⟨fun h y' hy' => ?_, fun h => h y hy⟩
    rwa [hG.faithful.unique hy' hy]
  refine ⟨answer, hanswer, hall.trans ⟨?_, fun h b hb y hy => h y ⟨b, hb, hy⟩⟩⟩
  rintro h y ⟨b, hb, hy⟩
  exact h b hb y hy

/-- Whether the inverse of a member and its products are members. -/
theorem member_spec {items : Roster Value} (hstand : Standing R items.toList) {a : Value} {x : M}
    (hx : R a x) (hinv : G.Invertible R a) : ∃ b, (do
      if items.contains (← (← G.inverse a).sought) then
        items.toList.allM fun b => do return items.contains (← (← G.mul a b).sought)
      else return false : Except Fault Bool) = .ok b ∧ (b = true ↔
        x⁻¹ ∈ extent R items.toList ∧ ∀ y ∈ extent R items.toList,
          x * y ∈ extent R items.toList) := by
  obtain ⟨y, i, hy, hi, hix⟩ := hinv
  obtain rfl := hG.faithful.unique hy hx
  obtain ⟨k, hk, hkx⟩ := hG.sought_eq hix
  rw [hi, ok_bind, hk, ok_bind]
  exact exists_ite_false (hG.faithful.contains_iff hstand hkx) (hG.products_spec hstand hx)

/-- Values that are inverted as members of a set are found to be closed if they are those of a
subgroup. -/
theorem isClosed_of_invertible {els : List Value} (hels : Standing R els)
    (hinv : ∀ a ∈ els, ∀ k, a.keyed = .ok k → G.Invertible R k) :
    ∃ b, G.candidate.isClosed els = .ok b ∧
      (b = true ↔ ∃ K : Subgroup M, (K : Set M) = extent R els) := by
  obtain ⟨items, hitems, hstand, hextent⟩ := hG.distinct_spec hels
  rw [exists_subgroup_iff, ← hextent]
  obtain ⟨e, he, hone⟩ := hG.sought_eq hG.one
  simp only [Candidate.isClosed, candidate, hitems, ok_bind, he]
  refine exists_ite_false (hG.faithful.contains_iff hstand hone) ?_
  obtain ⟨answer, hanswer, hall⟩ := exists_allM items.toList
      (P := fun a => ∀ x, R a x → x⁻¹ ∈ extent R items.toList ∧
        ∀ y ∈ extent R items.toList, x * y ∈ extent R items.toList) fun a ha => by
    obtain ⟨x, hx⟩ := hstand a ha
    obtain ⟨a', ha', hkey⟩ := Value.exists_of_mem_distinct hitems ha
    obtain ⟨b, hb, hiff⟩ := hG.member_spec hstand hx (hinv a' ha' a hkey)
    refine ⟨b, hb, hiff.trans ⟨fun h x' hx' => ?_, fun h => h x hx⟩⟩
    rwa [hG.faithful.unique hx' hx]
  refine ⟨answer, hanswer, hall.trans ⟨?_, fun h a ha x hx => h x ⟨a, ha, hx⟩⟩⟩
  rintro h x ⟨a, ha, hx⟩
  exact h a ha x hx

/-- Some elements are found to be closed if they are those of a subgroup. -/
theorem isClosed_spec {els : List Value} (hels : ∀ a ∈ els, a ∈ G.els) :
    ∃ b, G.candidate.isClosed els = .ok b ∧
      (b = true ↔ ∃ K : Subgroup M, (K : Set M) = extent R els) :=
  hG.isClosed_of_invertible (hG.standing.mono hels) fun a ha _ hk =>
    hG.invertible_of_keyed (hels a ha) hk

/-! ## All sets -/

theorem others_eq : G.others = .ok (G.els.filter fun g => !(g == G.identity)) := by
  refine filterM_eq_filter fun g hg => ?_
  obtain ⟨x, hx⟩ := hG.standing g hg
  rw [hG.equal_eq hx hG.one]
  rfl

/-- A set is added if it is that of a subgroup that is new. -/
theorem tryCandidate_spec {els : List Value} (hels : ∀ a ∈ els, a ∈ G.els)
    {found : Array FiniteGroup} {P : Set (Subgroup M)} (h : Collects R found.toList P)
    (hnew : ∀ K : Subgroup M, (K : Set M) = extent R els → K ∉ P) :
    ∃ next, (G.tryCandidate found els).outcome = .ok next ∧
      Collects R next.toList (P ∪ {K | (K : Set M) = extent R els}) := by
  obtain ⟨answer, hanswer, hclosed⟩ := hG.isClosed_spec hels
  cases answer with
  | false =>
    refine ⟨found, by simp [tryCandidate, hanswer], ?_⟩
    have hnone : {K : Subgroup M | (K : Set M) = extent R els} = ∅ := by
      refine Set.eq_empty_of_forall_notMem fun K hK => ?_
      exact Bool.false_ne_true (hclosed.2 ⟨K, hK⟩)
    rwa [hnone, Set.union_empty]
  | true =>
    obtain ⟨K, hK⟩ := hclosed.1 rfl
    obtain ⟨r, hr, hstand, hextent⟩ := hG.subgroup_spec (hG.standing.mono hels) .none .none
    have hconsists := hG.consists_subgroupOf hstand .none .none
    rw [hextent, ← hK] at hconsists
    refine ⟨found.push (G.subgroupOf r .none .none), by simp [tryCandidate, hanswer, hr], ?_⟩
    have hone : {L : Subgroup M | (L : Set M) = extent R els} = {K} := by
      ext L
      rw [← hK]
      exact SetLike.coe_set_eq
    rw [Array.toList_push, hone, Set.union_singleton]
    exact h.concat hG.faithful hconsists (hnew K hK)

end Realizes

/-- Some of the elements other than the identity. -/
def Chosen (G : FiniteGroup) (s : List Value) : Prop :=
  s.Sublist (G.els.filter fun g => !(g == G.identity))

namespace Realizes

variable (hG : G.Realizes R) {s s' : List Value}
include hG

theorem mem_of_chosen (hs : G.Chosen s) : ∀ a ∈ G.identity :: s, a ∈ G.els := by
  intro a ha
  rcases List.mem_cons.1 ha with rfl | ha
  · exact hG.identity_mem
  · exact (List.mem_filter.1 (hs.subset ha)).1

/-- Elements were chosen if what they stand for is in the set of those chosen. -/
theorem mem_chosen_iff (hs : G.Chosen s) {a : Value}
    (ha : a ∈ G.els.filter fun g => !(g == G.identity)) {x : M} (hx : R a x) :
    a ∈ s ↔ x ∈ extent R (G.identity :: s) := by
  constructor
  · exact fun has => ⟨a, List.mem_cons_of_mem _ has, hx⟩
  · rintro ⟨b, hb, hbx⟩
    obtain ⟨haels, hne⟩ := List.mem_filter.1 ha
    have hab := hG.eq_of_stands haels (hG.mem_of_chosen hs b hb) hx hbx
    rcases List.mem_cons.1 hb with rfl | hb
    · rw [hab] at hne
      simp at hne
    · rwa [hab]

/-- A set determines which elements were chosen. -/
theorem chosen_unique (hs : G.Chosen s) (hs' : G.Chosen s')
    (h : extent R (G.identity :: s) = extent R (G.identity :: s')) : s = s' := by
  classical
  have hnodup := hG.nodup_els.filter fun g => !(g == G.identity)
  rw [← filter_eq_of_sublist hs hnodup (p := fun a => decide (a ∈ s)) (by simp)]
  refine filter_eq_of_sublist hs' hnodup fun a ha => ?_
  obtain ⟨x, hx⟩ := hG.standing a (List.mem_filter.1 ha).1
  rw [decide_eq_true_iff, hG.mem_chosen_iff hs ha hx, hG.mem_chosen_iff hs' ha hx, h]

/-- No two chosen elements stand for the same, and none stands for the identity. -/
theorem pairwise_of_chosen (hs : G.Chosen s) :
    (G.identity :: s).Pairwise fun a b => (a == b) = false := by
  refine List.pairwise_cons.2 ⟨fun a ha => ?_, (hG.pairwise_els.filter _).sublist hs⟩
  rw [BEq.comm]
  simpa using (List.mem_filter.1 (hs.subset ha)).2

/-- A chosen set has one element more than were chosen. -/
theorem card_of_chosen (hs : G.Chosen s) {K : Subgroup M}
    (hK : (K : Set M) = extent R (G.identity :: s)) : Nat.card K = s.length + 1 := by
  have hcard := hG.faithful.ncard_extent_of_pairwise
    (hG.standing.mono (hG.mem_of_chosen hs)) (hG.pairwise_of_chosen hs)
  rwa [← hK] at hcard

/-- The elements of any set can be chosen, except for the identity. -/
theorem exists_chosen_extent (T : Set M) : ∃ s, G.Chosen s ∧ extent R s = T \ {1} := by
  classical
  refine ⟨_, List.filter_sublist (p := fun a => decide (∃ x ∈ T, R a x)), ?_⟩
  ext x
  constructor
  · rintro ⟨a, ha, hax⟩
    obtain ⟨ha, hT⟩ := List.mem_filter.1 ha
    obtain ⟨y, hy, hay⟩ := of_decide_eq_true hT
    refine ⟨hG.faithful.unique hay hax ▸ hy, fun hone => ?_⟩
    have hne := (List.mem_filter.1 ha).2
    rw [(hG.faithful hax hG.one).2 hone] at hne
    cases hne
  · rintro ⟨hx, hne⟩
    obtain ⟨a, ha, hax⟩ := hG.surjective x
    refine ⟨a, List.mem_filter.2 ⟨List.mem_filter.2 ⟨ha, ?_⟩, decide_eq_true ⟨x, hx, hax⟩⟩, hax⟩
    rw [Bool.not_eq_true', ← Bool.not_eq_true, hG.faithful hax hG.one]
    exact hne

/-- Every subgroup is the set of some chosen elements. -/
theorem exists_chosen (K : Subgroup M) :
    ∃ s, G.Chosen s ∧ (K : Set M) = extent R (G.identity :: s) := by
  obtain ⟨s, hs, hextent⟩ := hG.exists_chosen_extent (K : Set M)
  refine ⟨s, hs, ?_⟩
  rw [hG.faithful.extent_cons hG.one, hextent, Set.insert_sdiff_singleton,
    Set.insert_eq_of_mem (SetLike.mem_coe.2 K.one_mem)]

/-- Trying some sets that were not tried before adds the subgroups among them. -/
theorem tryChoices_spec {choices : List (List Value)} (hnodup : choices.Nodup)
    (hchosen : ∀ s ∈ choices, G.Chosen s) {found : Array FiniteGroup} {P : Set (Subgroup M)}
    (h : Collects R found.toList P)
    (hnew : ∀ s ∈ choices, ∀ K ∈ P, (K : Set M) ≠ extent R (G.identity :: s)) :
    ∃ next, choices.foldlM
      (fun found els => (G.tryCandidate found (G.identity :: els)).outcome) found = .ok next ∧
      Collects R next.toList
        (P ∪ {K | ∃ s ∈ choices, (K : Set M) = extent R (G.identity :: s)}) := by
  refine exists_foldlM (fun met (found : Array FiniteGroup) => Collects R found.toList
    (P ∪ {K | ∃ s ∈ met, (K : Set M) = extent R (G.identity :: s)})) ?_ (by simpa using h)
  rintro met s rest found rfl hfound
  have hs : G.Chosen s := hchosen s (by simp)
  have hfresh : ∀ K : Subgroup M, (K : Set M) = extent R (G.identity :: s) →
      K ∉ P ∪ {K | ∃ s ∈ met, (K : Set M) = extent R (G.identity :: s)} := by
    rintro K hK (hKP | ⟨s', hs', hK'⟩)
    · exact hnew s (by simp) K hKP hK
    · have hs'chosen : G.Chosen s' := hchosen s' (by simp [hs'])
      rw [hG.chosen_unique hs'chosen hs (hK'.symm.trans hK)] at hs'
      exact (List.nodup_append.1 hnodup).2.2 s hs' s (by simp) rfl
  obtain ⟨next, hnext, hcollects⟩ := hG.tryCandidate_spec (hG.mem_of_chosen hs) hfound hfresh
  refine ⟨next, hnext, ?_⟩
  convert hcollects using 1
  ext K
  simp [or_and_right, exists_or, or_assoc]

/-- Trying all sets of one size adds the subgroups of this order. -/
theorem tryAll_spec {m : Nat} (hm : 0 < m) {found : Array FiniteGroup} {P : Set (Subgroup M)}
    (h : Collects R found.toList P) (hnew : ∀ K ∈ P, Nat.card K ≠ m) :
    ∃ next, (Report.fold (fun found els => G.tryCandidate found (G.identity :: els)) found
        (combinations (G.els.filter fun g => !(g == G.identity)) (m - 1))).outcome = .ok next ∧
      Collects R next.toList (P ∪ {K | Nat.card K = m}) := by
  rw [Report.outcome_fold]
  have hchosen : ∀ s, s ∈ combinations (G.els.filter fun g => !(g == G.identity)) (m - 1) ↔
      G.Chosen s ∧ s.length + 1 = m := by
    intro s
    rw [mem_combinations]
    exact and_congr_right fun _ => by omega
  have hnodup := nodup_combinations (hG.nodup_els.filter fun g => !(g == G.identity)) (m - 1)
  obtain ⟨next, hnext, hcollects⟩ := hG.tryChoices_spec hnodup
    (fun s hs => ((hchosen s).1 hs).1) h fun s hs K hKP hK => by
      obtain ⟨hs, hlen⟩ := (hchosen s).1 hs
      exact hnew K hKP (by rw [hG.card_of_chosen hs hK, hlen])
  refine ⟨next, hnext, ?_⟩
  convert hcollects using 2
  ext K
  constructor
  · intro hK
    obtain ⟨s, hs, hKs⟩ := hG.exists_chosen K
    exact ⟨s, (hchosen s).2 ⟨hs, by rw [← hG.card_of_chosen hs hKs]; exact hK⟩, hKs⟩
  · rintro ⟨s, hs, hKs⟩
    obtain ⟨hs, hlen⟩ := (hchosen s).1 hs
    exact (hG.card_of_chosen hs hKs).trans hlen

/-- The search through all sets finds all subgroups, each of them once. -/
theorem allClosed_spec : ∃ found, G.allClosed.outcome = .ok found ∧
    Collects R found (Set.univ : Set (Subgroup M)) := by
  have := hG.finite
  have hpos : 0 < G.order := by
    rw [hG.order_eq]
    exact Nat.card_pos
  obtain ⟨found, hfound, hcollects⟩ : ∃ found : Array FiniteGroup,
      (divisors G.order).foldlM (fun found m => (Report.fold
        (fun found els => G.tryCandidate found (G.identity :: els)) found
        (combinations (G.els.filter fun g => !(g == G.identity)) (m - 1))).outcome) #[] =
          .ok found ∧
      Collects R found.toList {K : Subgroup M | Nat.card K ∈ divisors G.order} := by
    refine exists_foldlM (fun met (found : Array FiniteGroup) => Collects R found.toList
      {K : Subgroup M | Nat.card K ∈ met}) ?_ (by simpa using Collects.nil)
    intro met m rest found hdivisors hfound
    have hdvd : m ∣ G.order := (mem_divisors hpos).1 (by rw [← hdivisors]; simp)
    have hnodup := nodup_divisors G.order
    rw [← hdivisors] at hnodup
    obtain ⟨next, hnext, hcollects⟩ :=
      hG.tryAll_spec (Nat.pos_of_dvd_of_pos hdvd hpos) hfound fun K hK hKm =>
        (List.nodup_append.1 hnodup).2.2 _ hK m (by simp) hKm
    refine ⟨next, hnext, ?_⟩
    convert hcollects using 1
    ext K
    simp
  have hall : {K : Subgroup M | Nat.card K ∈ divisors G.order} = Set.univ := by
    refine Set.eq_univ_of_forall fun K => (mem_divisors hpos).2 ?_
    rw [hG.order_eq]
    exact Subgroup.card_subgroup_dvd_card K
  rw [hall] at hcollects
  refine ⟨found.toList, ?_, hcollects⟩
  simp only [allClosed, Report.outcome_bind, outcome_liftM, hG.others_eq, ok_bind,
    Report.outcome_fold, Report.outcome_say, Report.outcome_pure] at hfound ⊢
  simp only [hfound, ok_bind]

end Realizes

end FiniteGroup

end FiniteGroups
