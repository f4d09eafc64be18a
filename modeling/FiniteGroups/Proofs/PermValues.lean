import FiniteGroups.Proofs.Computation
import FiniteGroups.Proofs.Cycles
import FiniteGroups.Value.Perms

/-!
# Permutations from lists of values

A list of the images under a bijection is read as the permutation that moves the points so
(`Value.readPerm_spec`). A cycle is a list of arrows from each entry to the next one. Following an
arrow changes the image of one point (`Value.redirect_eq`), so that of the arrows from a point the
last one counts (`redirected`, `Value.permOfCycles_eq`). Around disjoint cycles there is one arrow
from each point, and they give the product of the cycles (`Value.permOfCycles_spec`). The signs of
products, inverses and transpositions are `Perm.sign_spec`.
-/

namespace FiniteGroups

variable {n : Nat} {σ : Equiv.Perm (Point n)}

/-! ## Arrows -/

section

variable {α β : Type}

/-- The arrows of a cycle: from each entry to the next one, and from the last to the first. -/
def arrows (xs : List α) : List (α × α) := xs.zip (xs.rotate 1)

theorem length_arrows (xs : List α) : (arrows xs).length = xs.length := by
  rw [arrows, List.length_zip, List.length_rotate, Nat.min_self]

theorem getElem_arrows {xs : List α} {k : Nat} (hk : k < xs.length)
    (hnext : (k + 1) % xs.length < xs.length) (hlt : k < (arrows xs).length) :
    (arrows xs)[k] = (xs[k], xs[(k + 1) % xs.length]) := by
  simp only [arrows, List.getElem_zip, List.getElem_rotate]

theorem mem_arrows {xs : List α} {e : α × α} :
    e ∈ arrows xs ↔ ∃ k, ∃ (hk : k < xs.length) (hnext : (k + 1) % xs.length < xs.length),
      (xs[k], xs[(k + 1) % xs.length]) = e := by
  rw [List.mem_iff_getElem]
  constructor
  · rintro ⟨k, hlt, rfl⟩
    have hk : k < xs.length := length_arrows xs ▸ hlt
    have hnext := Nat.mod_lt (k + 1) (by omega : 0 < xs.length)
    exact ⟨k, hk, hnext, (getElem_arrows hk hnext hlt).symm⟩
  · rintro ⟨k, hk, hnext, rfl⟩
    have hlt : k < (arrows xs).length := (length_arrows xs).symm ▸ hk
    exact ⟨k, hlt, getElem_arrows hk hnext hlt⟩

/-- There is an arrow from each entry. -/
theorem map_fst_arrows (xs : List α) : (arrows xs).map Prod.fst = xs :=
  List.map_fst_zip (List.length_rotate xs 1).ge

/-- There is an arrow to each entry. -/
theorem map_snd_arrows (xs : List α) : (arrows xs).map Prod.snd = xs.rotate 1 :=
  List.map_snd_zip (List.length_rotate xs 1).le

/-- What is said of both ends of all arrows is said of the entries. -/
theorem forall_mem_arrows {xs : List α} {P : α → Prop} :
    (∀ e ∈ arrows xs, P e.1 ∧ P e.2) ↔ ∀ a ∈ xs, P a := by
  constructor
  · intro h a ha
    rw [← map_fst_arrows xs] at ha
    obtain ⟨e, he, rfl⟩ := List.mem_map.1 ha
    exact (h e he).1
  · intro h e he
    have hsource := List.mem_map_of_mem (f := Prod.fst) he
    have htarget := List.mem_map_of_mem (f := Prod.snd) he
    rw [map_fst_arrows] at hsource
    rw [map_snd_arrows, List.mem_rotate] at htarget
    exact ⟨h _ hsource, h _ htarget⟩

theorem arrows_map (f : α → β) (xs : List α) :
    arrows (xs.map f) = (arrows xs).map (Prod.map f f) := by
  rw [arrows, ← List.map_rotate, List.zip_map, arrows]

variable [DecidableEq α] {f g : α → α} {es : List (α × α)} {i : α}

/-- A function after arrows were followed in turn: an arrow sends its point on, whatever the
function did before. -/
def redirected (f : α → α) (es : List (α × α)) : α → α :=
  es.foldl (fun f e => Function.update f e.1 e.2) f

theorem redirected_concat (f : α → α) (es : List (α × α)) (e : α × α) :
    redirected f (es ++ [e]) = Function.update (redirected f es) e.1 e.2 :=
  List.foldl_concat ..

theorem redirected_append (f : α → α) (es es' : List (α × α)) :
    redirected f (es ++ es') = redirected (redirected f es) es' :=
  List.foldl_append

/-- A point without an arrow stays with its image. -/
theorem redirected_of_notMem (hi : i ∉ es.map Prod.fst) : redirected f es i = f i := by
  induction es using List.reverseRecOn with
  | nil => rfl
  | append_singleton es e ih =>
    rw [List.map_append, List.map_singleton, List.mem_append, List.mem_singleton, not_or] at hi
    rw [redirected_concat, Function.update_of_ne hi.2, ih hi.1]

/-- Arrows from one point that lead to one place send the point there. -/
theorem redirected_of_mem {e : α × α} (he : e ∈ es)
    (hagree : ∀ e' ∈ es, e'.1 = e.1 → e'.2 = e.2) : redirected f es e.1 = e.2 := by
  induction es using List.reverseRecOn with
  | nil => cases he
  | append_singleton es last ih =>
    rw [List.forall_mem_append, List.forall_mem_singleton] at hagree
    rw [redirected_concat]
    by_cases hlast : last.1 = e.1
    · rw [hlast, Function.update_self, hagree.2 hlast]
    · rw [Function.update_of_ne (Ne.symm hlast)]
      rw [List.mem_append, List.mem_singleton] at he
      exact ih (he.resolve_right fun h => hlast (h ▸ rfl)) hagree.1

/-- Arrows along a function that moves no other points turn the identity into it. -/
theorem redirected_eq (hes : ∀ e ∈ es, e.2 = g e.1) (hfixed : ∀ i, i ∉ es.map Prod.fst → g i = i) :
    redirected id es = g := by
  funext i
  by_cases hi : i ∈ es.map Prod.fst
  · obtain ⟨e, he, rfl⟩ := List.mem_map.1 hi
    rw [redirected_of_mem he fun e' he' h => by rw [hes e' he', h, hes e he], hes e he]
  · rw [redirected_of_notMem hi, hfixed i hi, id]

end

/-- The arrows of disjoint cycles turn the identity into their product. -/
theorem redirected_eq_prod {cs : List (List (Point n))} (hnodup : cs.flatten.Nodup) :
    redirected id (cs.flatMap arrows) = (cs.map List.formPerm).prod := by
  refine redirected_eq (fun e he => ?_) fun i hi => ?_
  · obtain ⟨c, hc, he⟩ := List.mem_flatMap.1 he
    obtain ⟨k, hk, hnext, rfl⟩ := mem_arrows.1 he
    rw [prod_formPerm_of_mem hnodup hc (List.getElem_mem hk),
      List.formPerm_apply_getElem c ((List.nodup_flatten.1 hnodup).1 c hc)]
  · refine prod_formPerm_of_notMem fun hmem => hi ?_
    rwa [List.map_flatMap, funext map_fst_arrows, List.flatMap_id']

/-! ## Reading images -/

namespace Perm

/-- Distinct points among `1, …, n`, none of which came before, have no flaw. -/
theorem firstFlaw_map {α β : Type} {entry : α → Option Int} {label : α → String} {all : String}
    {m : Nat} (f : β → α) (val : β → Int) (hf : ∀ x, entry (f x) = some (val x)) {xs : List β}
    (hrange : ∀ x ∈ xs, 1 ≤ val x ∧ val x ≤ m) (hnodup : (xs.map val).Nodup) {seen : List Int}
    (hfresh : ∀ x ∈ xs, val x ∉ seen) : firstFlaw entry label all m seen (xs.map f) = none := by
  induction xs generalizing seen with
  | nil => rfl
  | cons x xs ih =>
    rw [List.map_cons, List.nodup_cons] at hnodup
    have hx := List.mem_cons_self (a := x) (l := xs)
    simp only [List.map_cons, firstFlaw, hf]
    rw [if_neg (not_not_intro (hrange x hx)), if_neg (hfresh x hx)]
    refine ih (fun y hy => hrange y (List.mem_cons_of_mem x hy)) hnodup.2 fun y hy hseen => ?_
    rcases List.mem_cons.1 hseen with heq | hseen
    · exact hnodup.1 (heq ▸ List.mem_map_of_mem hy)
    · exact hfresh y (List.mem_cons_of_mem x hy) hseen

/-- Images without a flaw are read as the permutation that has them. -/
theorem read_eq_ok {α : Type} {entry : α → Option Int} {label : α → String} {all : String}
    {xs : List α} (hflaw : firstFlaw entry label all xs.length [] xs = none) (hne : xs ≠ [])
    {p : Perm} (hp : p.images.toList = (xs.filterMap entry).map Int.toNat) :
    read entry label all xs = .ok p := by
  unfold read
  split
  · next heq => exact absurd (heq.symm.trans hflaw) (by simp)
  · rw [dif_neg (mt List.length_eq_zero_iff.1 hne)]
    exact congrArg _ (Perm.ext (Array.toList_inj.1 hp.symm))

end Perm

namespace Value

/-- The images of the points in turn. -/
def imageList (f : Point n → Point n) : List Value :=
  (pointList n).map fun i => ofNat (f i).1

theorem length_imageList (f : Point n → Point n) : (imageList f).length = n := by
  rw [imageList, List.length_map, length_pointList]

theorem readPerm_spec (hn : 0 < n) (σ : Equiv.Perm (Point n)) :
    ∃ p, readPerm (imageList σ) = .ok p ∧ p.Moves σ := by
  obtain ⟨p, hp⟩ := Perm.exists_of_equiv hn σ
  refine ⟨p, ?_, hp⟩
  have hread (entry : Value → Option Int) (hentry : ∀ m, entry (.int m) = some m)
      (label : Value → String) (all : String) :
      Perm.read entry label all (imageList σ) = .ok p := by
    refine Perm.read_eq_ok ?_ (List.ne_nil_of_length_pos (by rwa [length_imageList])) ?_
    · refine Perm.firstFlaw_map _ (fun i : Point n => ((σ i).1 : Int)) (fun _ => hentry _) ?_ ?_
        fun _ _ => List.not_mem_nil
      · intro i _
        have hi := Finset.mem_Icc.1 (σ i).2
        rw [length_imageList]
        omega
      · refine (nodup_pointList n).map fun i j hij => ?_
        exact σ.injective (Subtype.ext (Int.ofNat_inj.1 hij))
    · rw [hp.images_eq, imageList, List.filterMap_map, List.map_filterMap]
      simp [ofNat, hentry]
  simp only [readPerm]
  rw [hread]
  exact fun _ => rfl

/-! ## Sending points on -/

/-- The value lists the points of the cycle. -/
def Spells (cycle : Value) (pts : List (Point n)) : Prop :=
  cycle.length = .ok pts.length ∧
    ∀ k (hk : k < pts.length), cycle.item (ofNat k) = .ok (ofNat pts[k].1)

theorem entry_map_ofNat (pts : List (Point n)) {k : Nat} (hk : k < pts.length) :
    Position.entry (pts.map fun i => ofNat i.1) k = .ok (ofNat pts[k].1) := by
  simp only [Position.entry, Position.resolve_natCast, List.length_map, hk, if_true, dite_true,
    List.getElem_map]

theorem spells_tuple (pts : List (Point n)) : Spells (.tuple (pts.map fun i => ofNat i.1)) pts :=
  ⟨congrArg _ (List.length_map _), fun _ hk => entry_map_ofNat pts hk⟩

theorem isPoint_ofNat (i : Point n) : isPoint (ofNat n) (ofNat i.1) = .ok true := by
  have hi := Finset.mem_Icc.1 i.2
  have hone : Number.atMost (.whole 1) (.whole i.1) = true := decide_eq_true (by omega)
  have hle : Number.atMost (.whole i.1) (.whole n) = true := decide_eq_true (by omega)
  simp only [isPoint, ofNat, number, number?, ok_bind, hone, hle, if_true, pure_eq_ok]

theorem set_imageList (f : Point n → Point n) (i j : Point n) :
    (imageList f).set (i.1 - 1) (ofNat j.1) = imageList (Function.update f i j) := by
  have hi := Finset.mem_Icc.1 i.2
  refine List.ext_getElem (by simp [length_imageList]) fun k hk hk' => ?_
  have hlt : k < (pointList n).length := by simpa [imageList] using hk'
  have hpoint := getElem_pointList hlt
  simp only [imageList, List.getElem_set, List.getElem_map]
  by_cases h : i.1 - 1 = k
  · have heq : (pointList n)[k] = i := Subtype.ext (by omega)
    rw [if_pos h, heq, Function.update_self]
  · have hne : (pointList n)[k] ≠ i := by
      rintro rfl
      omega
    rw [if_neg h, Function.update_of_ne hne]

/-- One step around a cycle follows an arrow. -/
theorem redirect_eq {cycle : Value} {pts : List (Point n)} (hc : Spells cycle pts)
    (f : Point n → Point n) {k : Nat} (hk : k < pts.length)
    (hnext : (k + 1) % pts.length < pts.length) :
    redirect cycle (ofNat n) pts.length (imageList f) k
      = .ok (imageList (Function.update f pts[k] pts[(k + 1) % pts.length])) := by
  have hi := Finset.mem_Icc.1 pts[k].2
  have hsub : (ofNat pts[k].1).sub (.int 1) = .ok (ofNat (pts[k].1 - 1)) :=
    congrArg (fun m => Except.ok (Value.int m)) (Int.ofNat_sub hi.1).symm
  have hindex (m : Nat) : (ofNat m).index = .ok (m : Int) := rfl
  have hresolve : Position.resolve (imageList f).length ((pts[k].1 - 1 : Nat) : Int)
      = some (pts[k].1 - 1) := by
    rw [Position.resolve_natCast, if_pos (by rw [length_imageList]; omega)]
  simp only [redirect, hc.2 k hk, hc.2 _ hnext, isPoint_ofNat, ok_bind, if_true, hsub, hindex,
    hresolve, set_imageList, pure_eq_ok]

/-- All steps around a cycle follow its arrows. -/
theorem redirectAll_eq {cycle : Value} {pts : List (Point n)} (hc : Spells cycle pts)
    (f : Point n → Point n) :
    redirectAll (ofNat n) (imageList f) cycle = .ok (imageList (redirected f (arrows pts))) := by
  have hsteps : ∀ m, m ≤ pts.length →
      (List.range m).foldlM (redirect cycle (ofNat n) pts.length) (imageList f)
        = .ok (imageList (redirected f ((arrows pts).take m))) := by
    intro m
    induction m with
    | zero => exact fun _ => rfl
    | succ m ih =>
      intro hm
      have hnext := Nat.mod_lt (m + 1) (by omega : 0 < pts.length)
      have hlt : m < (arrows pts).length := by
        rw [length_arrows]
        omega
      rw [List.range_succ, List.foldlM_append, ih (by omega), ok_bind, List.foldlM_cons,
        redirect_eq hc _ hm hnext, ok_bind, List.foldlM_nil, pure_eq_ok,
        List.take_succ_eq_append_getElem hlt, redirected_concat, getElem_arrows hm hnext hlt]
  rw [redirectAll, hc.1, ok_bind, hsteps pts.length le_rfl, ← length_arrows, List.take_length]

/-! ## Permutations from cycles -/

theorem foldlM_redirectAll {cycles : List Value} {cs : List (List (Point n))}
    (h : List.Forall₂ Spells cycles cs) (f : Point n → Point n) :
    cycles.foldlM (redirectAll (ofNat n)) (imageList f)
      = .ok (imageList (redirected f (cs.flatMap arrows))) := by
  induction h generalizing f with
  | nil => rfl
  | cons hc _ ih =>
    rw [List.foldlM_cons, redirectAll_eq hc, ok_bind, ih, List.flatMap_cons, redirected_append]

/-- From cycles of points the images are read that their arrows lead to. -/
theorem permOfCycles_eq {cycles : Value} {listed : List Value}
    (hlisted : cycles.entries = .ok listed) {cs : List (List (Point n))}
    (h : List.Forall₂ Spells listed cs) :
    permOfCycles cycles (ofNat n) = readPerm (imageList (redirected id (cs.flatMap arrows))) := by
  have hstart : (List.range' 1 n).map ofNat = imageList (id : Point n → Point n) := by
    rw [← map_val_pointList, List.map_map]
    rfl
  have hlast : (ofNat n).add (.int 1) = .ok (.int (n + 1)) := rfl
  rw [permOfCycles, hlast, ok_bind, index, ok_bind, hlisted, ok_bind, Int.add_sub_cancel,
    Int.toNat_natCast, hstart, foldlM_redirectAll h, ok_bind]

/-- Disjoint cycles give their product. -/
theorem permOfCycles_spec (hn : 0 < n) {cycles : Value} {listed : List Value}
    (hlisted : cycles.entries = .ok listed) {cs : List (List (Point n))}
    (h : List.Forall₂ Spells listed cs) (hnodup : cs.flatten.Nodup) :
    ∃ p, permOfCycles cycles (ofNat n) = .ok p ∧ p.Moves (cs.map List.formPerm).prod := by
  obtain ⟨p, hp, hmoves⟩ := readPerm_spec hn (cs.map List.formPerm).prod
  refine ⟨p, ?_, hmoves⟩
  rw [permOfCycles_eq hlisted h, redirected_eq_prod hnodup, hp]

theorem transposition_spec {i j : Point n} (hij : i ≠ j) :
    ∃ p, transposition (ofNat i.1) (ofNat j.1) (ofNat n) = .ok p ∧ p.Moves (Equiv.swap i j) := by
  have hn : 0 < n := by
    have hi := Finset.mem_Icc.1 i.2
    omega
  have hspells : List.Forall₂ Spells [.tuple [ofNat i.1, ofNat j.1]] [[i, j]] :=
    .cons (spells_tuple [i, j]) .nil
  have hlisted : (Value.list 0 [.tuple [ofNat i.1, ofNat j.1]]).entries
      = .ok [.tuple [ofNat i.1, ofNat j.1]] := rfl
  obtain ⟨p, hp, hmoves⟩ := permOfCycles_spec hn hlisted hspells (by simpa using hij)
  refine ⟨p, hp, ?_⟩
  rwa [List.map_singleton, List.prod_singleton, List.formPerm_pair] at hmoves

end Value

/-! ## Signs -/

/-- The sign is multiplicative, inverses have the same sign, the identity is even and every
transposition is odd. -/
theorem Perm.sign_spec {n : Nat} (hn : 1 ≤ n) :
    (∀ p q : Perm, p.degree = n → q.degree = n →
      ∃ r, p.mul q = .ok r ∧ r.sign = p.sign * q.sign) ∧
    (∀ p : Perm, p.degree = n → p.inverse.sign = p.sign) ∧
    (∃ e, Perm.identity n = .ok e ∧ e.sign = 1) ∧
    ∀ i j : Int, 1 ≤ i → i ≤ n → 1 ≤ j → j ≤ n → i ≠ j →
      ∃ t, Value.transposition (.int i) (.int j) (.int n) = .ok t ∧ t.sign = -1 := by
  refine ⟨fun p q hp hq => ?_, fun p hp => ?_, ?_, fun i j hi hin hj hjn hij => ?_⟩
  · obtain ⟨σ, hσ⟩ := exists_moves hp
    obtain ⟨τ, hτ⟩ := exists_moves hq
    obtain ⟨r, hr, hmoves⟩ := hσ.mul hτ
    refine ⟨r, hr, ?_⟩
    rw [hmoves.sign_eq, hσ.sign_eq, hτ.sign_eq, map_mul, Units.val_mul]
  · obtain ⟨σ, hσ⟩ := exists_moves hp
    rw [hσ.inverse.sign_eq, hσ.sign_eq, Equiv.Perm.sign_inv]
  · obtain ⟨e, he, hmoves⟩ := exists_identity hn
    refine ⟨e, he, ?_⟩
    rw [hmoves.sign_eq, map_one, Units.val_one]
  · obtain ⟨i, rfl⟩ := Int.eq_ofNat_of_zero_le (by omega : 0 ≤ i)
    obtain ⟨j, rfl⟩ := Int.eq_ofNat_of_zero_le (by omega : 0 ≤ j)
    have hswap : (⟨i, Finset.mem_Icc.2 (by omega)⟩ : Point n)
        ≠ ⟨j, Finset.mem_Icc.2 (by omega)⟩ := fun h => hij (by simpa using h)
    obtain ⟨t, ht, hmoves⟩ := Value.transposition_spec hswap
    refine ⟨t, ht, ?_⟩
    rw [hmoves.sign_eq, Equiv.Perm.sign_swap hswap]
    rfl

/-- Two transpositions of three points: their product is even. -/
theorem Perm.sign_swaps_three : ∃ p q r : Perm,
    p.images = #[2, 1, 3] ∧ q.images = #[1, 3, 2] ∧ p.mul q = .ok r ∧ p.sign = -1 ∧
      q.sign = -1 ∧ r.sign = 1 := by
  let p : Perm := ⟨#[2, 1, 3], by decide, by decide, by decide⟩
  let q : Perm := ⟨#[1, 3, 2], by decide, by decide, by decide⟩
  have hp : p.sign = -1 := by decide
  have hq : q.sign = -1 := by decide
  obtain ⟨r, hr, hsign⟩ := (Perm.sign_spec (n := 3) (by decide)).1 p q rfl rfl
  exact ⟨p, q, r, rfl, rfl, hr, hp, hq, by rw [hsign, hp, hq]; rfl⟩

end FiniteGroups
