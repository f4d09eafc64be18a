import FiniteGroups.Proofs.PermImages

/-!
# Cycles that share points

A permutation may be read from cycles of any integers. Their arrows are followed in turn, so of the
arrows from a point only the last one is left, and what is then looked at is where these lead to. If
no two arrows contradict each other, they lead to all points from which there are arrows, and the
permutation sends every point of every cycle on to the next one. Arrows that contradict each other
are refused only if those that are left lead to one place twice: the cycles `(1 2)` and `(1 2 3)`
are read as `(1 2 3)`, which does not send `2` to `1` (`exists_permOfCycles_contradicting`).

What is read, and what is refused, for all cycles and all numbers of points is
`Value.readsArrows`.
-/

namespace FiniteGroups

/-! ## Arrows that agree -/

section

variable {α β : Type}

/-- No two arrows lead from one point to different places. -/
def ArrowsAgree (es : List (α × α)) : Prop :=
  ∀ e ∈ es, ∀ e' ∈ es, e.1 = e'.1 → e.2 = e'.2

theorem arrowsAgree_map {v : α → β} (hv : Function.Injective v) {es : List (α × α)} :
    ArrowsAgree (es.map (Prod.map v v)) ↔ ArrowsAgree es := by
  simp only [ArrowsAgree, List.forall_mem_map, Prod.map_fst, Prod.map_snd, hv.eq_iff]

variable [DecidableEq α] [DecidableEq β]

theorem redirected_map {v : α → β} (hv : Function.Injective v) (es : List (α × α)) (i : α) :
    redirected id (es.map (Prod.map v v)) (v i) = v (redirected id es i) := by
  induction es using List.reverseRecOn with
  | nil => rfl
  | append_singleton es e ih =>
    rw [List.map_append, List.map_singleton, redirected_concat, redirected_concat, Prod.map_fst,
      Prod.map_snd, Function.update_apply, Function.update_apply, ih, apply_ite v]
    simp only [hv.eq_iff]

/-- Around cycles that agree every point is reached: one on a cycle from the point before it, and
any other one from itself. -/
theorem redirected_surjective {cs : List (List α)} (h : ArrowsAgree (cs.flatMap arrows)) :
    Function.Surjective (redirected id (cs.flatMap arrows)) := by
  intro j
  by_cases hj : j ∈ (cs.flatMap arrows).map Prod.fst
  · obtain ⟨e, he, rfl⟩ := List.mem_map.1 hj
    obtain ⟨xs, hxs, he⟩ := List.mem_flatMap.1 he
    have htarget : e.1 ∈ (arrows xs).map Prod.snd := by
      have hsource := List.mem_map_of_mem (f := Prod.fst) he
      rwa [map_snd_arrows, List.mem_rotate, ← map_fst_arrows xs]
    obtain ⟨e', he', hback⟩ := List.mem_map.1 htarget
    have hmem := List.mem_flatMap.2 ⟨xs, hxs, he'⟩
    exact ⟨e'.1, (redirected_of_mem hmem fun e'' he'' => h e'' he'' e' hmem).trans hback⟩
  · exact ⟨j, redirected_of_notMem hj⟩

end

namespace Value

/-! ## Cycles of integers -/

/-- The value is a tuple or a list of the integers. -/
def IsCycle (v : Value) (xs : List Int) : Prop :=
  v = .tuple (xs.map .int) ∨ ∃ place, v = .list place (xs.map .int)

theorem IsCycle.length_eq {v : Value} {xs : List Int} (h : v.IsCycle xs) :
    v.length = .ok xs.length := by
  obtain rfl | ⟨place, rfl⟩ := h <;> exact congrArg _ (List.length_map _)

theorem IsCycle.item_eq {v : Value} {xs : List Int} (h : v.IsCycle xs) {k : Nat}
    (hk : k < xs.length) : v.item (ofNat k) = .ok (.int xs[k]) := by
  have hentry : Position.entry (xs.map Value.int) k = .ok (.int xs[k]) := by
    simp only [Position.entry, Position.resolve_natCast, List.length_map, hk, if_true, dite_true,
      List.getElem_map]
  obtain rfl | ⟨place, rfl⟩ := h <;> exact hentry

theorem IsCycle.spells {n : Nat} {v : Value} {pts : List (Point n)}
    (h : v.IsCycle (pts.map fun i => (i.1 : Int))) : v.Spells pts := by
  refine ⟨h.length_eq.trans (congrArg _ (List.length_map _)), fun k hk => ?_⟩
  rw [h.item_eq (by rwa [List.length_map]), List.getElem_map, ofNat]

/-- A cycle is written unless one of its entries has too many digits. -/
theorem IsCycle.plain_cases {v : Value} {xs : List Int} (h : v.IsCycle xs) :
    (∃ s, v.plain = .ok s) ∨ (v.plain = .error .badValue ∧ ∃ a ∈ xs, ¬ Writable a) := by
  have hplain (enclose : List String → String) {v : Value}
      (hv : v.plain = do return enclose (← writeEach (xs.map .int))) :
      (∃ s, v.plain = .ok s) ∨ (v.plain = .error .badValue ∧ ∃ a ∈ xs, ¬ Writable a) := by
    rw [hv, writeEach_eq_mapM]
    obtain ⟨-, texts, hok⟩ | ⟨hex, herror⟩ := mapM_quoted_int xs
    · exact .inl ⟨_, by rw [hok]; rfl⟩
    · exact .inr ⟨by rw [herror]; rfl, hex⟩
  obtain rfl | ⟨place, rfl⟩ := h <;> exact hplain _ (by rw [plain, write])

/-! ## Entries that are no points -/

/-- What is wrong with cycles as those of a permutation of `n` points, or with the numbers in the
report of it. -/
def RefusesCycles (n : Int) (cs : List (List Int)) (e : Fault) : Prop :=
  e.category = .structural ∨ e = .badValue ∧ (¬ Writable n ∨ ∃ xs ∈ cs, ∃ a ∈ xs, ¬ Writable a)

theorem isPoint_int (n a : Int) : isPoint (.int n) (.int a) = .ok (decide (1 ≤ a ∧ a ≤ n)) := by
  have hone : Number.atMost (.whole 1) (.whole a) = decide (1 ≤ a) := rfl
  have hle : Number.atMost (.whole a) (.whole n) = decide (a ≤ n) := rfl
  simp only [isPoint, number, number?, ok_bind, hone, hle, pure_eq_ok]
  by_cases h : 1 ≤ a <;> simp [h]

/-- An arrow between points is followed. -/
theorem exists_redirect {n a b : Int} {v : Value} {m k : Nat} {images : List Value}
    (hlength : images.length = n.toNat) (ha : v.item (ofNat k) = .ok (.int a))
    (hb : v.item (ofNat ((k + 1) % m)) = .ok (.int b)) (hpa : 1 ≤ a ∧ a ≤ n)
    (hpb : 1 ≤ b ∧ b ≤ n) :
    ∃ images', redirect v (.int n) m images k = .ok images' ∧ images'.length = n.toNat := by
  have hplace : Position.resolve images.length (a - 1) = some (a - 1).toNat := by
    conv_lhs => rw [← Int.toNat_of_nonneg (by omega : 0 ≤ a - 1)]
    rw [Position.resolve_natCast, if_pos (by omega)]
  have hsub : (Value.int a).sub (.int 1) = .ok (.int (a - 1)) := rfl
  refine ⟨images.set (a - 1).toNat (.int b), ?_, (List.length_set ..).trans hlength⟩
  simp only [redirect, ha, hb, ok_bind, isPoint_int, hpa, hpb, and_self, decide_true, if_true,
    hsub, index, hplace, pure_eq_ok]

/-- Any other arrow is refused. -/
theorem redirect_refused {n a b : Int} {v : Value} {xs : List Int} (hv : v.IsCycle xs) {m k : Nat}
    (images : List Value) (ha : v.item (ofNat k) = .ok (.int a))
    (hb : v.item (ofNat ((k + 1) % m)) = .ok (.int b))
    (hout : ¬ ((1 ≤ a ∧ a ≤ n) ∧ 1 ≤ b ∧ b ≤ n)) :
    ∃ e, redirect v (.int n) m images k = .error e ∧ RefusesCycles n [xs] e := by
  -- the cycle is written before the number of points
  have hreport : redirect v (.int n) m images k
      = (do
        let spelled ← v.plain
        let _ ← Text.ofInt n
        throw (.cycleOutOfRange spelled n)) := by
    rw [redirect, ha, ok_bind, hb, ok_bind, isPoint_int, isPoint_int]
    by_cases hpa : 1 ≤ a ∧ a ≤ n
    · have hpb : ¬ (1 ≤ b ∧ b ≤ n) := fun hpb => hout ⟨hpa, hpb⟩
      simp only [hpa, hpb, decide_false]
      rfl
    · simp only [hpa, decide_false]
      rfl
  rw [hreport]
  obtain ⟨spelled, hspelled⟩ | ⟨hspelled, hlarge⟩ := hv.plain_cases
  · rw [hspelled, ok_bind]
    by_cases hn : Writable n
    · rw [ofInt_of_writable hn]
      exact ⟨_, rfl, .inl rfl⟩
    · rw [ofInt_of_not_writable hn]
      exact ⟨_, rfl, .inr ⟨rfl, .inl hn⟩⟩
  · rw [hspelled]
    exact ⟨_, rfl, .inr ⟨rfl, .inr ⟨xs, List.mem_singleton_self xs, hlarge⟩⟩⟩

/-- A cycle is followed if it has no entries but points. -/
theorem redirectAll_cases {n : Int} {v : Value} {xs : List Int} (hv : v.IsCycle xs)
    {images : List Value} (hlength : images.length = n.toNat) :
    ((∀ a ∈ xs, 1 ≤ a ∧ a ≤ n) ∧
      ∃ images', redirectAll (.int n) images v = .ok images' ∧ images'.length = n.toNat) ∨
    ((¬ ∀ a ∈ xs, 1 ≤ a ∧ a ≤ n) ∧
      ∃ e, redirectAll (.int n) images v = .error e ∧ RefusesCycles n [xs] e) := by
  have hpoints : (∀ k ∈ List.range xs.length, ∀ e ∈ (arrows xs)[k]?,
      (1 ≤ e.1 ∧ e.1 ≤ n) ∧ 1 ≤ e.2 ∧ e.2 ≤ n) ↔ ∀ a ∈ xs, 1 ≤ a ∧ a ≤ n := by
    refine Iff.trans ?_ (forall_mem_arrows (P := fun a => 1 ≤ a ∧ a ≤ n))
    constructor
    · intro h e he
      obtain ⟨k, hk, rfl⟩ := List.getElem_of_mem he
      exact h k (List.mem_range.2 (length_arrows xs ▸ hk)) _ (List.getElem?_eq_getElem hk)
    · exact fun h k _ e he => h e (List.mem_of_getElem? he)
  rw [redirectAll, hv.length_eq, ok_bind, ← hpoints]
  refine foldlM_cases (fun images : List Value => images.length = n.toNat)
    (fun k hk images hlength => ?_) hlength
  have hk := List.mem_range.1 hk
  have hnext := Nat.mod_lt (k + 1) (by omega : 0 < xs.length)
  have harrow : (arrows xs)[k]? = some (xs[k], xs[(k + 1) % xs.length]) := by
    rw [List.getElem?_eq_getElem (by rwa [length_arrows]), getElem_arrows hk hnext]
  simp only [harrow, Option.mem_some_iff, forall_eq']
  by_cases hin : (1 ≤ xs[k] ∧ xs[k] ≤ n) ∧ 1 ≤ xs[(k + 1) % xs.length] ∧ xs[(k + 1) % xs.length] ≤ n
  · exact .inl ⟨hin, exists_redirect hlength (hv.item_eq hk) (hv.item_eq hnext) hin.1 hin.2⟩
  · exact .inr ⟨hin, redirect_refused hv images (hv.item_eq hk) (hv.item_eq hnext) hin⟩

theorem RefusesCycles.mono {n : Int} {cs ds : List (List Int)} {e : Fault} (hsub : cs ⊆ ds)
    (h : RefusesCycles n cs e) : RefusesCycles n ds e :=
  h.imp_right fun ⟨he, hlarge⟩ => ⟨he, hlarge.imp_right fun ⟨xs, hxs, hex⟩ => ⟨xs, hsub hxs, hex⟩⟩

/-- Cycles are followed if they have no entries but points. -/
theorem foldlM_redirectAll_cases {n : Int} {listed : List Value} {cs : List (List Int)}
    (h : List.Forall₂ IsCycle listed cs) {images : List Value} (hlength : images.length = n.toNat) :
    ((∀ xs ∈ cs, ∀ a ∈ xs, 1 ≤ a ∧ a ≤ n) ∧
      ∃ images', listed.foldlM (redirectAll (.int n)) images = .ok images' ∧
        images'.length = n.toNat) ∨
    ((¬ ∀ xs ∈ cs, ∀ a ∈ xs, 1 ≤ a ∧ a ≤ n) ∧
      ∃ e, listed.foldlM (redirectAll (.int n)) images = .error e ∧ RefusesCycles n cs e) := by
  induction h generalizing images with
  | nil => exact .inl ⟨by simp, images, rfl, hlength⟩
  | @cons v xs listed cs hv _ ih =>
    simp only [List.foldlM_cons, List.forall_mem_cons]
    obtain ⟨hxs, images', himages, hlength'⟩ | ⟨hxs, e, he, hrefuses⟩ :=
      redirectAll_cases hv hlength
    · rw [himages, ok_bind]
      obtain ⟨hcs, hok⟩ | ⟨hcs, e, he, hrefuses⟩ := ih hlength'
      · exact .inl ⟨⟨hxs, hcs⟩, hok⟩
      · exact .inr ⟨fun hall => hcs hall.2, e, he, hrefuses.mono (List.subset_cons_self _ _)⟩
    · rw [he, error_bind]
      exact .inr ⟨fun hall => hxs hall.1, e, rfl, hrefuses.mono (by simp)⟩

theorem permOfCycles_int {cycles : Value} {listed : List Value}
    (hlisted : cycles.entries = .ok listed) (n : Int) :
    permOfCycles cycles (.int n) = (do
      readPerm (← listed.foldlM (redirectAll (.int n)) ((List.range' 1 n.toNat).map ofNat))) := by
  have hlast : (Value.int n).add (.int 1) = .ok (.int (n + 1)) := rfl
  rw [permOfCycles, hlast, ok_bind, index, ok_bind, hlisted, ok_bind, Int.add_sub_cancel]

end Value

/-! ## What is read from cycles -/

/-- The permutation sends the one number to the other. -/
def Perm.Sends (p : Perm) (a b : Int) : Prop := ∃ j : Nat, p.apply a = .ok j ∧ (j : Int) = b

/-- What is read from cycles of integers, as those of a permutation of the points `1, …, n`. -/
structure ReadsArrows (n : Int) (cs : List (List Int)) (result : Except Fault Perm) : Prop where
  /-- A permutation is read if there are points, the cycles have no other entries, and the last
  arrows from the points lead to different places. -/
  exists_iff : (∃ p, result = .ok p) ↔ 1 ≤ n ∧ (∀ xs ∈ cs, ∀ a ∈ xs, 1 ≤ a ∧ a ≤ n) ∧
    Set.InjOn (redirected id (cs.flatMap arrows)) {a | 1 ≤ a ∧ a ≤ n}
  /-- It follows the last arrows. -/
  images : ∀ p, result = .ok p → p.degree = n ∧
    ∀ i, 1 ≤ i → i ≤ n → p.Sends i (redirected id (cs.flatMap arrows) i)
  /-- It sends all entries of all cycles to the next ones exactly if the cycles agree. -/
  follows_iff : ∀ p, result = .ok p →
    ((∀ xs ∈ cs, ∀ e ∈ arrows xs, p.Sends e.1 e.2) ↔ ArrowsAgree (cs.flatMap arrows))
  /-- From cycles of points that agree a permutation is read. -/
  exists_of_agree : 1 ≤ n → (∀ xs ∈ cs, ∀ a ∈ xs, 1 ≤ a ∧ a ≤ n) →
    ArrowsAgree (cs.flatMap arrows) → ∃ p, result = .ok p
  /-- Otherwise there is no permutation, or the report of this has a number that is not written. -/
  refused : ∀ e, result = .error e → Value.RefusesCycles n cs e

theorem Perm.Sends.unique {p : Perm} {a b b' : Int} (h : p.Sends a b) (h' : p.Sends a b') :
    b = b' := by
  obtain ⟨j, hj, rfl⟩ := h
  obtain ⟨j', hj', rfl⟩ := h'
  rw [Except.ok.inj (hj.symm.trans hj')]

namespace ReadsArrows

variable {n : Int} {cs : List (List Int)} {result : Except Fault Perm}

/-- Cycles without a permutation are refused. -/
theorem of_error {e : Fault} (hresult : result = .error e) (h : Value.RefusesCycles n cs e)
    (hnot : ¬ (1 ≤ n ∧ ∀ xs ∈ cs, ∀ a ∈ xs, 1 ≤ a ∧ a ≤ n)) : ReadsArrows n cs result := by
  subst hresult
  refine ⟨?_, nofun, nofun, fun hn hcs => absurd ⟨hn, hcs⟩ hnot, fun e' he => ?_⟩
  · exact iff_of_false (by simp) fun ⟨hn, hcs, _⟩ => hnot ⟨hn, hcs⟩
  · exact Except.error.inj he ▸ h

/-- A permutation that follows the last arrows follows all of them exactly if they agree. -/
theorem follows_iff_agree {p : Perm} (hcs : ∀ xs ∈ cs, ∀ a ∈ xs, 1 ≤ a ∧ a ≤ n)
    (hp : ∀ i, 1 ≤ i → i ≤ n → p.Sends i (redirected id (cs.flatMap arrows) i)) :
    (∀ xs ∈ cs, ∀ e ∈ arrows xs, p.Sends e.1 e.2) ↔ ArrowsAgree (cs.flatMap arrows) := by
  constructor
  · intro h e he e' he' heq
    obtain ⟨xs, hxs, he⟩ := List.mem_flatMap.1 he
    obtain ⟨xs', hxs', he'⟩ := List.mem_flatMap.1 he'
    exact (h xs hxs e he).unique (heq ▸ h xs' hxs' e' he')
  · intro h xs hxs e he
    have hmem := List.mem_flatMap.2 ⟨xs, hxs, he⟩
    obtain ⟨hlow, hhigh⟩ := (forall_mem_arrows.2 (hcs xs hxs) e he).1
    have hsends := hp e.1 hlow hhigh
    rwa [redirected_of_mem hmem fun e' he' heq => (h e hmem e' he' heq.symm).symm] at hsends

section

variable {m : Nat}

/-- Cycles of points as cycles of integers. -/
def integers (cs : List (List (Point m))) : List (List Int) :=
  cs.map (List.map fun i => (i.1 : Int))

theorem natCast_val_injective : Function.Injective fun i : Point m => (i.1 : Int) :=
  fun _ _ h => Subtype.ext (Int.ofNat_inj.1 h)

theorem exists_point {a : Int} (ha : 1 ≤ a ∧ a ≤ m) : ∃ i : Point m, (i.1 : Int) = a :=
  ⟨⟨a.toNat, Finset.mem_Icc.2 (by omega)⟩, Int.toNat_of_nonneg (by omega)⟩

theorem exists_integers {cs : List (List Int)} (h : ∀ xs ∈ cs, ∀ a ∈ xs, 1 ≤ a ∧ a ≤ m) :
    ∃ pts : List (List (Point m)), integers pts = cs := by
  have := (⟨fun _ => exists_point⟩ :
    CanLift Int (Point m) (fun i => (i.1 : Int)) fun a => 1 ≤ a ∧ a ≤ m)
  lift cs to List (List (Point m)) using h with pts
  exact ⟨pts, rfl⟩

theorem forall_mem_integers (cs : List (List (Point m))) :
    ∀ xs ∈ integers cs, ∀ a ∈ xs, 1 ≤ a ∧ a ≤ (m : Int) := by
  simp only [integers, List.forall_mem_map]
  intro c _ i _
  have hi := Finset.mem_Icc.1 i.2
  omega

theorem flatMap_arrows_integers (cs : List (List (Point m))) :
    (integers cs).flatMap arrows
      = (cs.flatMap arrows).map (Prod.map (fun i => (i.1 : Int)) fun i => (i.1 : Int)) := by
  rw [integers, List.flatMap_map, List.map_flatMap]
  exact congrArg cs.flatMap (funext (arrows_map _))

theorem redirected_integers (cs : List (List (Point m))) (i : Point m) :
    redirected id ((integers cs).flatMap arrows) i.1
      = (redirected id (cs.flatMap arrows) i).1 := by
  rw [flatMap_arrows_integers]
  exact redirected_map natCast_val_injective (cs.flatMap arrows) i

theorem injOn_integers (cs : List (List (Point m))) :
    Set.InjOn (redirected id ((integers cs).flatMap arrows)) {a | 1 ≤ a ∧ a ≤ (m : Int)}
      ↔ Function.Injective (redirected id (cs.flatMap arrows)) := by
  constructor
  · intro h i j hij
    have hmem (k : Point m) : (k.1 : Int) ∈ {a : Int | 1 ≤ a ∧ a ≤ m} := by
      have hk := Finset.mem_Icc.1 k.2
      exact ⟨by omega, by omega⟩
    refine natCast_val_injective (h (hmem i) (hmem j) ?_)
    rw [redirected_integers, redirected_integers, hij]
  · intro h a ha b hb hab
    obtain ⟨i, rfl⟩ := exists_point ha
    obtain ⟨j, rfl⟩ := exists_point hb
    rw [redirected_integers, redirected_integers] at hab
    rw [h (natCast_val_injective hab)]

/-- What is read from cycles of points. -/
theorem of_points (hm : 0 < m) (cs : List (List (Point m))) :
    ReadsArrows m (integers cs)
      (Value.readPerm (Value.imageList (redirected id (cs.flatMap arrows)))) := by
  have himages {p : Perm}
      (hp : Value.readPerm (Value.imageList (redirected id (cs.flatMap arrows))) = .ok p) :
      p.degree = m ∧ ∀ i, 1 ≤ i → i ≤ (m : Int) →
        p.Sends i (redirected id ((integers cs).flatMap arrows) i) := by
    obtain ⟨σ, hσ, hmoves⟩ := Value.moves_of_readPerm hp
    refine ⟨hmoves.1, fun i hlow hhigh => ?_⟩
    obtain ⟨i, rfl⟩ := exists_point ⟨hlow, hhigh⟩
    exact ⟨(σ i).1, hmoves.apply_eq i, by rw [redirected_integers, hσ]⟩
  have hread (hinj : Function.Injective (redirected id (cs.flatMap arrows))) :
      ∃ p, Value.readPerm (Value.imageList (redirected id (cs.flatMap arrows))) = .ok p := by
    obtain ⟨p, hp, -⟩ :=
      Value.readPerm_spec hm (Equiv.ofBijective _ (Finite.injective_iff_bijective.1 hinj))
    exact ⟨p, hp⟩
  constructor
  · rw [injOn_integers]
    constructor
    · rintro ⟨p, hp⟩
      obtain ⟨σ, hσ, -⟩ := Value.moves_of_readPerm hp
      exact ⟨by omega, forall_mem_integers cs, hσ ▸ σ.injective⟩
    · exact fun ⟨_, _, hinj⟩ => hread hinj
  · exact fun p hp => (himages hp).imp_left (congrArg Nat.cast)
  · exact fun p hp => follows_iff_agree (forall_mem_integers cs) (himages hp).2
  · intro _ _ hagree
    rw [flatMap_arrows_integers, arrowsAgree_map natCast_val_injective] at hagree
    exact hread (Finite.injective_iff_surjective.2 (redirected_surjective hagree))
  · intro e he
    rw [Value.imageList_eq_map] at he
    refine (Value.error_of_readPerm he).imp_right fun ⟨hbad, a, ha, hlarge⟩ =>
      ⟨hbad, .inl fun hm => ?_⟩
    obtain ⟨i, -, rfl⟩ := List.mem_map.1 ha
    exact hlarge (hm.mono (Finset.mem_Icc.1 (redirected id (cs.flatMap arrows) i).2).2)

end

end ReadsArrows

/-- What is read from a list of cycles of integers: a permutation if the last arrows from the points
are one, which follows all arrows exactly if these agree. -/
theorem Value.readsArrows {cycles : Value} {listed : List Value}
    (hlisted : cycles.entries = .ok listed) {cs : List (List Int)}
    (h : List.Forall₂ Value.IsCycle listed cs) (n : Int) :
    ReadsArrows n cs (Value.permOfCycles cycles (.int n)) := by
  have hstart : ((List.range' 1 n.toNat).map Value.ofNat).length = n.toNat := by
    rw [List.length_map, List.length_range']
  have hread := Value.permOfCycles_int hlisted n
  obtain ⟨hcs, images, himages, hlength⟩ | ⟨hcs, e, he, hrefuses⟩ :=
    Value.foldlM_redirectAll_cases h hstart
  · by_cases hn : 1 ≤ n
    · obtain ⟨m, rfl⟩ := Int.eq_ofNat_of_zero_le (by omega : 0 ≤ n)
      obtain ⟨pts, rfl⟩ := ReadsArrows.exists_integers hcs
      have hspells : List.Forall₂ Value.Spells listed pts :=
        (List.forall₂_map_right_iff.1 h).imp fun _ _ => Value.IsCycle.spells
      have hpoints := Value.permOfCycles_eq hlisted hspells
      rw [Value.ofNat] at hpoints
      rw [hpoints]
      exact .of_points (by omega) pts
    · rw [himages, ok_bind, List.eq_nil_of_length_eq_zero (by omega : images.length = 0)] at hread
      exact .of_error hread (.inl rfl) fun hall => hn hall.1
  · rw [he, error_bind] at hread
    exact .of_error hread hrefuses fun hall => hcs hall.2

/-- Two cycles that share their points and agree. -/
theorem Value.readsArrows_three : ∃ p,
    Value.permOfCycles (.list 0 [.tuple [.int 1, .int 2, .int 3], .list 1 [.int 3, .int 1, .int 2]])
      (.int 3) = .ok p ∧ p.Sends 1 2 ∧ p.Sends 2 3 ∧ p.Sends 3 1 := by
  have hcycles : List.Forall₂ Value.IsCycle
      [.tuple [.int 1, .int 2, .int 3], .list 1 [.int 3, .int 1, .int 2]] [[1, 2, 3], [3, 1, 2]] :=
    .cons (.inl rfl) (.cons (.inr ⟨1, rfl⟩) .nil)
  have hlisted (cycles : List Value) : (Value.list 0 cycles).entries = .ok cycles := rfl
  have hreads := Value.readsArrows (hlisted _) hcycles 3
  have hagree : ArrowsAgree ([[1, 2, 3], [3, 1, 2]].flatMap (arrows (α := Int))) := by
    unfold ArrowsAgree
    decide
  obtain ⟨p, hp⟩ := hreads.exists_of_agree (by decide) (by decide) hagree
  have hfollows := (hreads.follows_iff p hp).2 hagree [1, 2, 3] (by decide)
  exact ⟨p, hp, hfollows (1, 2) (by decide), hfollows (2, 3) (by decide),
    hfollows (3, 1) (by decide)⟩

/-- Two cycles that contradict each other: what is read does not send `2` to `1`. -/
theorem exists_permOfCycles_contradicting : ∃ p,
    Value.permOfCycles (.list 0 [.tuple [.int 1, .int 2], .tuple [.int 1, .int 2, .int 3]])
      (.int 3) = .ok p ∧ p.Sends 2 3 ∧ ¬ p.Sends 2 1 := by
  let p : Perm := ⟨#[2, 3, 1], by decide, by decide, by decide⟩
  have hsends : p.Sends 2 3 := ⟨3, by decide, rfl⟩
  refine ⟨p, rfl, hsends, fun h => ?_⟩
  exact absurd (hsends.unique h) (by decide)

end FiniteGroups
