import FiniteGroups.Proofs.Assignment
import FiniteGroups.Proofs.Graphs

/-!
# The extension of a map

Images of generators are extended to products by a search in rounds, which multiplies by
generators on the left. A product that was found before must have the image that it had then. So
each pair that is found is a product of pairs of generators and images, and a disagreement shows
two products with one key and two images. The rounds either find all products, which are the graph
of a function then, or are refused, and then the products are no graph (`closeMap_spec`). That
each pair of factors is looked at once is enough, since what was found takes in its products with
generators (`Explored`).
-/

set_option linter.unusedSectionVars false

namespace FiniteGroups

/-- Either a computation gives a result with the property, or it fails with a fault that is one of
structure, or that writing a value gives, and the other property holds. -/
def Settles {α σ M : Type} (R : α → M → Prop) (label : α → Except Fault String)
    (x : Except Fault σ) (P : σ → Prop) (Q : Prop) : Prop :=
  (∃ s, x = .ok s ∧ P s) ∨
    (∃ e, x = .error e ∧ (e.category = .structural ∨ ∃ a y, R a y ∧ label a = .error e)) ∧ Q

variable {α β M N : Type} {R : α → M → Prop} {S : β → N → Prop}

section Settles

variable {σ τ : Type} {label : α → Except Fault String} {P : σ → Prop} {Q : Prop}

theorem Settles.ok {s : σ} (h : P s) : Settles R label (.ok s) P Q :=
  Or.inl ⟨s, rfl, h⟩

theorem Settles.bind {x : Except Fault σ} {f : σ → Except Fault τ} {P' : τ → Prop}
    (h : Settles R label x P Q) (hf : ∀ s, P s → Settles R label (f s) P' Q) :
    Settles R label (x >>= f) P' Q := by
  rcases h with ⟨s, rfl, hs⟩ | ⟨⟨e, rfl, he⟩, hQ⟩
  · exact hf s hs
  · exact Or.inr ⟨⟨e, rfl, he⟩, hQ⟩

theorem Settles.imp {x : Except Fault σ} {P' : σ → Prop} (h : Settles R label x P Q)
    (hP : ∀ s, P s → P' s) : Settles R label x P' Q := by
  rcases h with ⟨s, rfl, hs⟩ | h
  · exact .ok (hP s hs)
  · exact Or.inr h

theorem Settles.imp_right {x : Except Fault σ} {Q' : Prop} (h : Settles R label x P Q)
    (hQ : Q → Q') : Settles R label x P Q' := by
  rcases h with h | ⟨he, hq⟩
  · exact Or.inl h
  · exact Or.inr ⟨he, hQ hq⟩

theorem Settles.of_ok {x : Except Fault σ} (h : Settles R label x P Q) {s : σ} (hx : x = .ok s) :
    P s := by
  rcases h with ⟨s', hs', hP⟩ | ⟨⟨e, he, -⟩, -⟩
  · rw [hx] at hs'
    rwa [Except.ok.inj hs']
  · rw [hx] at he
    cases he

theorem Settles.of_error {x : Except Fault σ} (h : Settles R label x P Q) {e : Fault}
    (hx : x = .error e) :
    (e.category = .structural ∨ ∃ a y, R a y ∧ label a = .error e) ∧ Q := by
  rcases h with ⟨s, hs, -⟩ | ⟨⟨e', he', hfault⟩, hQ⟩
  · rw [hx] at hs
    cases hs
  · rw [hx] at he'
    rw [Except.error.inj he']
    exact ⟨hfault, hQ⟩

/-- A fault of structure whose text names a value, or the fault of writing it. -/
theorem settles_throw {a : α} {x : M} (ha : R a x) {fault : String → Fault}
    (hfault : ∀ s, (fault s).category = .structural) (hQ : Q) :
    Settles R label (do throw (fault (← label a)) : Except Fault σ) P Q := by
  refine Or.inr ⟨?_, hQ⟩
  cases hs : label a with
  | error e => exact ⟨e, rfl, Or.inr ⟨a, x, ha, hs⟩⟩
  | ok s => exact ⟨fault s, rfl, Or.inl (hfault s)⟩

/-- A fault of structure whose text names two values, or the fault of writing one of them. -/
theorem settles_throw₂ {a b : α} {x y : M} (ha : R a x) (hb : R b y)
    {fault : String → String → Fault} (hfault : ∀ s t, (fault s t).category = .structural)
    (hQ : Q) :
    Settles R label (do throw (fault (← label a) (← label b)) : Except Fault σ) P Q := by
  cases hs : label a with
  | error e => exact Or.inr ⟨⟨e, rfl, Or.inr ⟨a, x, ha, hs⟩⟩, hQ⟩
  | ok s => exact settles_throw hb (hfault s) hQ

end Settles

/-- The extension computes in `M` and `N`. -/
structure Extension.Computes [Mul M] [Mul N] (ext : Extension α β) (R : α → M → Prop)
    (S : β → N → Prop) : Prop where
  mul₁_eq : ∀ ⦃a b x y⦄, R a x → R b y →
    ∃ c k, ext.mul₁ a b = .ok c ∧ ext.key c = .ok k ∧ R k (x * y)
  mul₂_eq : ∀ ⦃a b x y⦄, S a x → S b y → ∃ c, ext.mul₂ a b = .ok c ∧ S c (x * y)
  agree_eq : ∀ ⦃a b x y⦄, S a x → S b y →
    ∃ answer, ext.agree a b = .ok answer ∧ (answer = true ↔ x = y)

variable [BEq α] [Hashable α] [EquivBEq α] [LawfulHashable α] [BEq β] [EquivBEq β]
  [Semigroup M] [Semigroup N] {ext : Extension α β} {C : Set (M × N)}

/-- Multiplies two pairs. The product is added, or must agree with what was found. -/
def extendOne (ext : Extension α β) (p q : α × β) (m : Assignment α β) :
    Except Fault (Assignment α β) := do
  let c ← ext.mul₁ p.1 q.1
  let d ← ext.mul₂ p.2 q.2
  let c ← ext.key c
  if new : m.keys.contains c = false then return m.push c d new
  else
    let agree ← match m.get? c with
      | some d' => ext.agree d' d
      | none => pure false
    if agree then return m else throw (.notMultiplicative (← ext.label p.1) (← ext.label q.1))

omit [EquivBEq β] [BEq β] in
/-- One product after the other. -/
theorem extendMapBy_cons (ext : Extension α β) (p q : α × β) (boundary : List (α × β))
    (m : Assignment α β) : extendMapBy ext p (q :: boundary) m =
      extendOne ext p q m >>= extendMapBy ext p boundary := by
  simp only [extendMapBy, extendOne, bind_assoc]
  refine bind_congr fun c => bind_congr fun d => bind_congr fun k => ?_
  have hagree : ∀ agree : Bool,
      (if agree then extendMapBy ext p boundary m
        else do throw (.notMultiplicative (← ext.label p.1) (← ext.label q.1))) =
      (if agree then return m
        else do throw (.notMultiplicative (← ext.label p.1) (← ext.label q.1)) :
          Except Fault (Assignment α β)) >>= extendMapBy ext p boundary := by
    intro agree
    cases agree with
    | true => rfl
    | false =>
      simp only [Bool.false_eq_true, if_false, bind_assoc]
      rfl
  split
  · rfl
  · cases m.get? k <;> simp only [bind_assoc, hagree]

/-- The product is found, unless it disagrees with what was found before. -/
theorem extendOne_spec (hR : Faithful R) (hS : Faithful S) (hext : ext.Computes R S)
    {p q : α × β} {z w : M × N} (hp : Paired R S p z) (hq : Paired R S q w) (hzw : z * w ∈ C)
    {m : Assignment α β} (hm : Standing (Paired R S) m.toList)
    (hmC : extent (Paired R S) m.toList ⊆ C) :
    Settles R ext.label (extendOne ext p q m)
      (fun next => Adds (Paired R S) m.toList next.toList {z * w}) (¬Functional C) := by
  obtain ⟨c, k, hc, hk, hkey⟩ := hext.mul₁_eq hp.1 hq.1
  obtain ⟨d, hd, himage⟩ := hext.mul₂_eq hp.2 hq.2
  rw [extendOne, hc, ok_bind, hd, ok_bind, hk, ok_bind]
  rcases Assignment.get?_cases hm hR hkey with ⟨new, -⟩ | ⟨hcontains, d', y, hget, hy, hold⟩
  · rw [dif_pos new]
    refine .ok ?_
    rw [Assignment.toList_push]
    exact .concat (hR.paired hS) hm (z := z * w) ⟨hkey, himage⟩
  · obtain ⟨answer, hanswer, hiff⟩ := hext.agree_eq hy himage
    rw [dif_neg (by simp [hcontains])]
    simp only [hget, hanswer, ok_bind]
    by_cases hagree : y = z.2 * w.2
    · rw [if_pos (hiff.2 hagree)]
      rw [hagree] at hold
      exact .ok (.refl hm (Set.singleton_subset_iff.2 hold))
    · rw [if_neg (mt hiff.1 hagree)]
      exact settles_throw₂ hp.1 hq.1 (fun _ _ => rfl) fun hC => hagree (hC (hmC hold) hzw)

/-- Multiplying the boundary by one pair adds the products, unless some product disagrees with
what was found. -/
theorem extendMapBy_spec (hR : Faithful R) (hS : Faithful S) (hext : ext.Computes R S)
    {p : α × β} {z : M × N} (hp : Paired R S p z) {boundary : List (α × β)}
    (hboundary : Standing (Paired R S) boundary)
    (hprod : ∀ w ∈ extent (Paired R S) boundary, z * w ∈ C) {m : Assignment α β}
    (hm : Standing (Paired R S) m.toList) (hmC : extent (Paired R S) m.toList ⊆ C) :
    Settles R ext.label (extendMapBy ext p boundary m)
      (fun next => Adds (Paired R S) m.toList next.toList
        ((z * ·) '' extent (Paired R S) boundary))
      (¬Functional C) := by
  induction boundary generalizing m with
  | nil => exact .ok (.refl hm (by simp))
  | cons q boundary ih =>
    obtain ⟨w, hq⟩ := hboundary q (by simp)
    have hrest : Standing (Paired R S) boundary :=
      hboundary.mono fun r hr => List.mem_cons_of_mem q hr
    have hzw : z * w ∈ C := hprod w ⟨q, by simp, hq⟩
    have hprod' : ∀ v ∈ extent (Paired R S) boundary, z * v ∈ C :=
      fun v hv => hprod v (extent_mono (fun r hr => List.mem_cons_of_mem q hr) hv)
    rw [extendMapBy_cons]
    refine (extendOne_spec hR hS hext hp hq hzw hm hmC).bind fun step hadds => ?_
    have hstepC : extent (Paired R S) step.toList ⊆ C := by
      rw [hadds.extent_eq]
      exact Set.union_subset hmC (Set.singleton_subset_iff.2 hzw)
    refine (ih hrest hprod' hadds.standing hstepC).imp fun next hadds' => ?_
    rw [(hR.paired hS).extent_cons hq, Set.image_insert_eq, ← Set.singleton_union]
    exact hadds.trans hadds'

/-- A round adds the products of the pairs of generators with the boundary. -/
theorem mapRound_spec (hR : Faithful R) (hS : Faithful S) (hext : ext.Computes R S)
    {gens boundary : List (α × β)} (hgens : Standing (Paired R S) gens)
    (hboundary : Standing (Paired R S) boundary)
    (hprod : ∀ z ∈ extent (Paired R S) gens, ∀ w ∈ extent (Paired R S) boundary, z * w ∈ C)
    {m : Assignment α β} (hm : Standing (Paired R S) m.toList)
    (hmC : extent (Paired R S) m.toList ⊆ C) :
    Settles R ext.label (gens.foldlM (fun m p => extendMapBy ext p boundary m) m)
      (fun next => Adds (Paired R S) m.toList next.toList (Set.image2 (fun w z => z * w)
        (extent (Paired R S) boundary) (extent (Paired R S) gens)))
      (¬Functional C) := by
  have hpaired := hR.paired hS
  induction gens generalizing m with
  | nil => exact .ok (.refl hm (by simp))
  | cons p gens ih =>
    obtain ⟨z, hp⟩ := hgens p (by simp)
    have hrest : Standing (Paired R S) gens :=
      hgens.mono fun r hr => List.mem_cons_of_mem p hr
    have hprod' : ∀ v ∈ extent (Paired R S) gens, ∀ w ∈ extent (Paired R S) boundary,
        v * w ∈ C :=
      fun v hv => hprod v (extent_mono (fun r hr => List.mem_cons_of_mem p hr) hv)
    have hfirst := hprod z ⟨p, by simp, hp⟩
    rw [List.foldlM_cons]
    refine (extendMapBy_spec hR hS hext hp hboundary hfirst hm hmC).bind fun step hadds => ?_
    have hstepC : extent (Paired R S) step.toList ⊆ C := by
      rw [hadds.extent_eq]
      refine Set.union_subset hmC ?_
      rintro _ ⟨w, hw, rfl⟩
      exact hfirst w hw
    refine (ih hrest hprod' hadds.standing hstepC).imp fun next hadds' => ?_
    rw [hpaired.extent_cons hp, Set.image2_insert_right]
    exact hadds.trans hadds'

/-- There are at most as many pairs as keys. -/
theorem Assignment.size_le_card [Finite M] (hR : Faithful R) {m : Assignment α β}
    (hm : Standing (Paired R S) m.toList) : m.size ≤ Nat.card M :=
  hR.size_le_card (standing_keys hm)

/-- From any state the rounds come to an end, and then all products were found, or some
disagreed. -/
theorem Extension.rounds_spec [Finite M] (hR : Faithful R) (hS : Faithful S)
    (hext : ext.Computes R S) {gens : List (α × β)} (text : String) {start : Nat}
    {m : Assignment α β}
    (h : Explored (fun w z => z * w) (Paired R S) gens start m.toList) :
    ∃ report, ext.rounds gens text start m = some report ∧
      Settles R ext.label report.outcome
        (fun last => Explored (fun w z => z * w) (Paired R S) gens last.toList.length last.toList)
        (¬Functional (Subsemigroup.closure (extent (Paired R S) gens) : Set (M × N))) := by
  -- the boundary moves on in each round, and there are at most as many keys as elements of `M`
  induction hn : Nat.card M - start using Nat.strong_induction_on generalizing start m text with
  | _ n ih =>
    rw [Extension.rounds]
    by_cases hend : start = m.size
    · rw [← m.length_toList] at hend
      subst hend
      exact ⟨_, if_pos m.length_toList, .ok h⟩
    · have hsize := Assignment.size_le_card hR h.standing
      have hstart := h.start_le
      rw [m.length_toList] at hstart
      rw [if_neg hend, m.since_eq_drop]
      dsimp only
      have hround := mapRound_spec hR hS hext h.standing_seeds h.standing_drop
        (fun z hz w hw => mul_mem (Subsemigroup.subset_closure hz) (h.drop_within hw))
        h.standing h.within
      rcases hround with ⟨next, hnext, hadds⟩ | ⟨⟨e, he, hfault⟩, hno⟩
      · rw [hnext]
        have hnextExplored := h.round (fun w hw z hz => mul_mem hz hw) hadds
        rw [m.length_toList] at hnextExplored
        exact ih _ (by omega) _ hnextExplored rfl
      · rw [he]
        exact ⟨_, rfl, Or.inr ⟨⟨e, rfl, hfault⟩, hno⟩⟩

/-- The extension finds all products of pairs, or it is refused and they are not the graph of a
function. -/
theorem closeMap_spec [Finite M] (hR : Faithful R) (hS : Faithful S) (hext : ext.Computes R S)
    {gens : Assignment α β} (hgens : Standing (Paired R S) gens.toList) :
    Settles R ext.label (closeMap gens ext).outcome
      (fun last => Standing (Paired R S) last.toList ∧ extent (Paired R S) last.toList =
        (Subsemigroup.closure (extent (Paired R S) gens.toList) : Set (M × N)))
      (¬Functional (Subsemigroup.closure (extent (Paired R S) gens.toList) : Set (M × N))) := by
  obtain ⟨report, hreport, hsettles⟩ := Extension.rounds_spec hR hS hext "" (.initial hgens)
  rw [closeMap, hreport]
  refine hsettles.imp fun last h => ⟨h.standing, ?_⟩
  exact h.within.antisymm (closure_subset_of_mul_left h.seeds_subset
    fun z hz w hw => h.op_mem w hw z hz)

end FiniteGroups
