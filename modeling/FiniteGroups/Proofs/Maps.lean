import FiniteGroups.Map.Basic
import FiniteGroups.Proofs.Assignment
import FiniteGroups.Proofs.Realizes
import Mathlib.Algebra.Group.Subgroup.Ker

/-!
# Maps that send elements as a function does

A map between groups that realize `M` and `N` sends elements as a function `φ : M → N` does if its
assignment stands for the graph of `φ` (`GroupMap.Sends`). Then no question about the map fails,
and each has the answer that it has for `φ` : whether it is a homomorphism (`Sends.isHom_eq`), what
the kernel and the image consist of (`Sends.kernel_spec`, `Sends.image_spec`), and whether it is
one to one and onto (`Sends.isInjective_spec`, `Sends.isSurjective_spec`, `Sends.isIso_spec`).

The kernel and the image are spanned by what was collected. The kernel of a homomorphism is
collected from the elements as they are listed. The images may be written in any way, and must be
invertible as they are written.
-/

set_option linter.unusedSectionVars false

namespace FiniteGroups

open FiniteGroup

variable {M N : Type} {R : Value → M → Prop} {S : Value → N → Prop}

/-! ## Assignments as mappings -/

namespace Value

/-- An assignment that is read from its mapping has the same pairs. -/
theorem toList_assignment (m : Assignment Value Value) :
    (ofAssignment m).assignment.toList = m.toList := by
  have hkeys : m.toList.Pairwise fun p q => (p.1 == q.1) = false := by
    have hpairwise := m.keys.pairwise_toList
    rwa [← Assignment.map_fst_toList, List.pairwise_map] at hpairwise
  rw [ofAssignment, assignment, List.filterMap_map]
  exact (congrArg (fun xs => (Assignment.ofList xs).toList) List.filterMap_some).trans
    (Assignment.toList_ofList hkeys)

theorem get?_assignment (m : Assignment Value Value) (a : Value) :
    (ofAssignment m).assignment.get? a = m.get? a := by
  refine Option.ext fun b => ?_
  rw [Assignment.get?_eq_some_iff, Assignment.get?_eq_some_iff, toList_assignment]

theorem lookup?_map_tuple (pairs : List (Value × Value)) (a : Value) :
    lookup? (pairs.map fun (k, v) => Value.tuple [k, v]) a
      = (pairs.find? fun p => p.1 == a).map Prod.snd := by
  have hfind : (pairs.map fun (k, v) => Value.tuple [k, v]).find? (fun e => keyOf e == a)
      = (pairs.find? fun p => p.1 == a).map fun (k, v) => Value.tuple [k, v] :=
    List.find?_map ..
  rw [lookup?, hfind]
  cases pairs.find? fun p => p.1 == a <;> rfl

/-- What is found in a mapping is what is found in the assignment. -/
theorem lookup?_of_get? {m : Assignment Value Value} {k v : Value} (hv : m.get? k = some v) :
    lookup? (m.toList.map fun (k, v) => Value.tuple [k, v]) k = some v := by
  obtain ⟨k', hmem, hbeq⟩ := Assignment.get?_eq_some_iff.1 hv
  have hfound : ∃ q, (m.toList.find? fun p => p.1 == k) = some q ∧ q.2 = v := by
    cases hfind : m.toList.find? fun p => p.1 == k with
    | none => exact absurd hbeq (by simpa using List.find?_eq_none.1 hfind _ hmem)
    | some q =>
      have hq := List.mem_of_find?_eq_some hfind
      have hqk : (q.1 == k) = true := by simpa using List.find?_some hfind
      have hget := Assignment.get?_eq_some_iff.2 ⟨q.1, hq, hqk⟩
      exact ⟨q, rfl, Option.some.inj (hget.symm.trans hv)⟩
  obtain ⟨q, hq, rfl⟩ := hfound
  rw [lookup?_map_tuple, hq, Option.map_some]

theorem item_ofAssignment {m : Assignment Value Value} {a k v : Value} (hk : a.keyed = .ok k)
    (hv : m.get? k = some v) : (ofAssignment m).item a = .ok v := by
  rw [ofAssignment, item, hk, ok_bind, lookup?_of_get? hv]
  rfl

end Value

/-! ## Graphs of functions -/

/-- The assignment stands for the graph of `φ`. -/
structure Tabulates (R : Value → M → Prop) (S : Value → N → Prop) (m : Assignment Value Value)
    (φ : M → N) : Prop where
  standing : Standing (Paired R S) m.toList
  graph : extent (Paired R S) m.toList = Set.range fun x => (x, φ x)

namespace Tabulates

variable {m : Assignment Value Value} {φ : M → N} (hm : Tabulates R S m φ)
include hm

/-- Each pair consists of what stands for some `x` and what stands for `φ x`. -/
theorem exists_of_mem {p : Value × Value} (hp : p ∈ m.toList) : ∃ x, Paired R S p (x, φ x) := by
  obtain ⟨z, hz⟩ := hm.standing p hp
  obtain ⟨x, rfl⟩ : z ∈ Set.range fun x => (x, φ x) := hm.graph ▸ ⟨p, hp, hz⟩
  exact ⟨x, hz⟩

theorem exists_mem (x : M) : ∃ p ∈ m.toList, Paired R S p (x, φ x) :=
  hm.graph.superset ⟨x, rfl⟩

theorem get?_spec (hR : Faithful R) {a : Value} {x : M} (ha : R a x) :
    ∃ b, m.get? a = some b ∧ S b (φ x) :=
  (Assignment.exists_get?_iff hm.standing hR ha).2 (hm.graph ▸ ⟨x, rfl⟩)

theorem extent_keys (hR : Faithful R) : extent R m.keys.toList = Set.univ := by
  rw [Assignment.extent_keys hm.standing hR, hm.graph, ← Set.range_comp]
  exact Set.range_id

theorem standing_values : Standing S m.values.toList := by
  intro b hb
  rw [← Assignment.map_snd_toList] at hb
  obtain ⟨p, hp, rfl⟩ := List.mem_map.1 hb
  obtain ⟨x, hx⟩ := hm.exists_of_mem hp
  exact ⟨φ x, hx.2⟩

theorem extent_values (hS : Faithful S) : extent S m.values.toList = Set.range φ := by
  rw [← Assignment.map_snd_toList]
  ext y
  constructor
  · rintro ⟨b, hb, hy⟩
    obtain ⟨p, hp, rfl⟩ := List.mem_map.1 hb
    obtain ⟨x, hx⟩ := hm.exists_of_mem hp
    exact ⟨x, hS.unique hx.2 hy⟩
  · rintro ⟨x, rfl⟩
    obtain ⟨p, hp, hx⟩ := hm.exists_mem x
    exact ⟨p.2, List.mem_map_of_mem hp, hx.2⟩

end Tabulates

/-! ## What maps send elements to -/

namespace GroupMap

variable {f : GroupMap}

section

variable [Group M] [Group N]

/-- The map sends what stands for `x` to what stands for `φ x`. -/
structure Sends (f : GroupMap) (R : Value → M → Prop) (S : Value → N → Prop) (φ : M → N) :
    Prop where
  src : f.src.Realizes R
  tgt : f.tgt.Realizes S
  standing : Standing (Paired R S) f.send.toList
  graph : extent (Paired R S) f.send.toList = Set.range fun x => (x, φ x)

namespace Sends

variable {φ : M → N} (h : f.Sends R S φ)
include h

theorem tabulates : Tabulates R S f.send φ :=
  ⟨h.standing, h.graph⟩

theorem apply_spec {a : Value} {x : M} (ha : R a x) : ∃ b, f.apply a = .ok b ∧ S b (φ x) := by
  obtain ⟨k, hk, hkx⟩ := h.src.keyed_eq ha
  obtain ⟨b, hb, hbx⟩ := h.tabulates.get?_spec h.src.faithful hkx
  refine ⟨b, ?_, hbx⟩
  rw [apply, hk, ok_bind]
  simp only [hb]
  rfl

theorem standing_values : Standing S f.send.values.toList :=
  h.tabulates.standing_values

theorem extent_values : extent S f.send.values.toList = Set.range φ :=
  h.tabulates.extent_values h.tgt.faithful

/-- Whether two values of the target are equal is whether they stand for the same. -/
theorem equal_spec {a b : Value} {x y : N} (ha : S a x) (hb : S b y) :
    ∃ answer, a.equal b = .ok answer ∧ (answer = true ↔ x = y) :=
  ⟨_, h.tgt.equal_eq ha hb, h.tgt.faithful ha hb⟩

theorem respects_spec {a b : Value} {x y : M} (ha : R a x) (hb : R b y) :
    ∃ answer, f.respects a b = .ok answer ∧ (answer = true ↔ φ (x * y) = φ x * φ y) := by
  obtain ⟨c, hc, hcxy⟩ := h.src.mul_eq ha hb
  obtain ⟨a', ha', hax⟩ := h.apply_spec ha
  obtain ⟨b', hb', hby⟩ := h.apply_spec hb
  obtain ⟨c', hc', hcxy'⟩ := h.apply_spec hcxy
  obtain ⟨d, hd, hdxy⟩ := h.tgt.mul_eq hax hby
  obtain ⟨answer, hanswer, hiff⟩ := h.equal_spec hcxy' hdxy
  refine ⟨answer, ?_, hiff⟩
  simp only [respects, hc, ok_bind, hc', ha', hb', hd, hanswer]

/-- A map is found to be a homomorphism exactly if it sends elements as one does. -/
theorem isHom_spec : ∃ answer, f.isHom = .ok answer ∧
    (answer = true ↔ φ 1 = 1 ∧ ∀ x y, φ (x * y) = φ x * φ y) := by
  obtain ⟨e, he, hone⟩ := h.apply_spec h.src.one
  obtain ⟨answer, hanswer, hiff⟩ := h.equal_spec hone h.tgt.one
  obtain ⟨all, hall, hallIff⟩ : ∃ all,
      (f.src.els.allM fun a => f.src.els.allM fun b => f.respects a b) = .ok all ∧
      (all = true ↔ ∀ a ∈ f.src.els, ∀ b ∈ f.src.els, ∀ x y, R a x → R b y →
        φ (x * y) = φ x * φ y) := by
    refine exists_allM _ fun a ha => exists_allM _ fun b hb => ?_
    obtain ⟨x, hx⟩ := h.src.standing a ha
    obtain ⟨y, hy⟩ := h.src.standing b hb
    obtain ⟨answer, hrun, hxy⟩ := h.respects_spec hx hy
    refine ⟨answer, hrun, hxy.trans ⟨fun heq x' y' hx' hy' => ?_, fun heq => heq x y hx hy⟩⟩
    rwa [h.src.faithful.unique hx' hx, h.src.faithful.unique hy' hy]
  rw [isHom, he, ok_bind, hanswer, ok_bind]
  refine exists_ite_false hiff ⟨all, hall, hallIff.trans ⟨fun heq x y => ?_, ?_⟩⟩
  · obtain ⟨a, ha, hx⟩ := h.src.surjective x
    obtain ⟨b, hb, hy⟩ := h.src.surjective y
    exact heq a ha b hb x y hx hy
  · exact fun heq _ _ _ _ x y _ _ => heq x y

/-- A map that is found to be a homomorphism sends elements as one does. -/
theorem exists_monoidHom (hhom : f.isHom = .ok true) : ∃ ψ : M →* N, ⇑ψ = φ := by
  obtain ⟨hone, hmul⟩ := (eq_ok_true_iff h.isHom_spec).1 hhom
  exact ⟨{ toFun := φ, map_one' := hone, map_mul' := hmul }, rfl⟩

/-! ## Kernel and image -/

/-- What spans the kernel is found among the elements. -/
theorem exists_kernel_gens : ∃ gens,
    f.src.els.filterM (fun g => do (← f.apply g).equal f.tgt.identity) = .ok gens ∧
      gens.Sublist f.src.els ∧ extent R gens = {x | φ x = 1} := by
  obtain ⟨gens, hgens, hsub, hextent⟩ := h.src.faithful.exists_filterM h.src.standing
      (f := fun g => do (← f.apply g).equal f.tgt.identity) (P := fun x => φ x = 1)
      fun g hg x hx => by
    obtain ⟨b, hb, hbx⟩ := h.apply_spec hx
    obtain ⟨answer, hanswer, hiff⟩ := h.equal_spec hbx h.tgt.one
    exact ⟨answer, by rw [hb, ok_bind, hanswer], hiff⟩
  refine ⟨gens, hgens, hsub, ?_⟩
  rw [hextent, h.src.extent_els]
  simp

/-- The image consists of what the values generate. -/
theorem image_span_spec (hinv : ∀ b ∈ f.send.values.toList, ∀ k, b.keyed = .ok k →
    f.tgt.Invertible S k) :
    ∃ I, f.image = .ok I ∧ Consists S I (Subgroup.closure (Set.range φ) : Set N) := by
  obtain ⟨r, hr, -, hextent⟩ := h.tgt.distinct_spec h.standing_values
  rw [h.extent_values] at hextent
  have hne : r.toList ≠ [] := by
    intro hnil
    have hone : φ 1 ∈ extent S r.toList := hextent.superset ⟨1, rfl⟩
    rw [hnil, extent_nil] at hone
    exact hone
  obtain ⟨I, hI, hconsists⟩ := h.tgt.span_spec (fun k hk => by
    obtain ⟨b, hb, hbk⟩ := Value.exists_of_mem_distinct hr hk
    exact hinv b hb k hbk) hne
  exact ⟨I, by rw [image, hr, ok_bind, hI], hextent ▸ hconsists⟩

end Sends

namespace Sends

variable {φ : M →* N} (h : f.Sends R S φ)
include h

theorem isHom_eq : f.isHom = .ok true :=
  (eq_ok_true_iff h.isHom_spec).2 ⟨map_one φ, map_mul φ⟩

/-- The kernel consists of the elements that are sent to the identity. -/
theorem kernel_spec : ∃ K, f.kernel = .ok K ∧ Consists R K φ.ker := by
  obtain ⟨gens, hgens, hsub, hextent⟩ := h.exists_kernel_gens
  have hker : extent R gens = φ.ker := hextent
  obtain ⟨K, hK, hconsists⟩ := h.src.span_of_subgroup
    (fun g hg => h.src.invertible_of_mem (hsub.subset hg)) hker
  exact ⟨K, by rw [kernel, hgens, ok_bind, hK], hconsists⟩

/-- The image consists of what elements are sent to. -/
theorem image_spec (hinv : ∀ b ∈ f.send.values.toList, ∀ k, b.keyed = .ok k →
    f.tgt.Invertible S k) : ∃ I, f.image = .ok I ∧ Consists S I φ.range := by
  obtain ⟨I, hI, hconsists⟩ := h.image_span_spec hinv
  rw [← MonoidHom.coe_range, Subgroup.closure_eq] at hconsists
  exact ⟨I, hI, hconsists⟩

theorem isInjective_spec :
    ∃ answer, f.isInjective = .ok answer ∧ (answer = true ↔ Function.Injective φ) := by
  obtain ⟨K, hK, hconsists⟩ := h.kernel_spec
  refine ⟨_, by rw [isInjective, hK]; rfl, ?_⟩
  rw [beq_iff_eq, hconsists.order_eq h.src.faithful, ← MonoidHom.ker_eq_bot_iff,
    ← Subgroup.card_eq_one]
  rfl

theorem isSurjective_spec (hinv : ∀ b ∈ f.send.values.toList, ∀ k, b.keyed = .ok k →
    f.tgt.Invertible S k) :
    ∃ answer, f.isSurjective = .ok answer ∧ (answer = true ↔ Function.Surjective φ) := by
  have := h.tgt.finite
  obtain ⟨I, hI, hconsists⟩ := h.image_spec hinv
  refine ⟨_, by rw [isSurjective, hI]; rfl, ?_⟩
  rw [beq_iff_eq, hconsists.order_eq h.tgt.faithful, h.tgt.order_eq, ← Set.eq_univ_iff_ncard,
    MonoidHom.coe_range, Set.range_eq_univ]

theorem isIso_spec (hinv : ∀ b ∈ f.send.values.toList, ∀ k, b.keyed = .ok k →
    f.tgt.Invertible S k) :
    ∃ answer, f.isIso = .ok answer ∧ (answer = true ↔ Function.Bijective φ) := by
  obtain ⟨injective, hinjective, hiff⟩ := h.isInjective_spec
  rw [isIso, hinjective, ok_bind]
  exact exists_ite_false hiff (h.isSurjective_spec hinv)

end Sends

end

/-! ## Maps as they are made -/

/-- The map has a value for each element of `G`, which is its key or has it as its key. -/
structure Between (f : GroupMap) (G H : FiniteGroup) : Prop where
  src_eq : f.src = G
  tgt_eq : f.tgt = H
  keys : List.Forall₂ (fun g k => k = g ∨ g.keyed = .ok k) G.els f.send.keys.toList

theorem between_ofList {G H : FiniteGroup} (hG : G.els.Pairwise fun a b => (a == b) = false)
    {pairs : List (Value × Value)}
    (hall : List.Forall₂ (fun g p => p.1 = g ∨ g.keyed = .ok p.1) G.els pairs) :
    (GroupMap.mk G H (.ofList pairs)).Between G H := by
  have hkey : ∀ {g : Value} {p : Value × Value}, p.1 = g ∨ g.keyed = .ok p.1 →
      (p.1 == g) = true := by
    rintro g p (rfl | hp)
    · exact BEq.rfl
    · exact Value.beq_of_keyed hp
  have hkeys : pairs.Pairwise fun p q => (p.1 == q.1) = false := by
    refine pairwise_of_forall₂ hall (fun a b p q hp hq hab => ?_) hG
    rw [← Bool.not_eq_true] at hab ⊢
    exact fun hpq => hab (BEq.trans (BEq.symm (hkey hp)) (BEq.trans hpq (hkey hq)))
  refine ⟨rfl, rfl, ?_⟩
  rwa [← Assignment.map_fst_toList, Assignment.toList_ofList hkeys, List.forall₂_map_right_iff]

/-- A map that a mapping or a function describes has a value for each element. -/
theorem between_of_ofSending {G H : FiniteGroup}
    (hG : G.els.Pairwise fun a b => (a == b) = false) {send : Value}
    (h : ofSending G.candidate H.candidate send = .ok f) : f.Between G H := by
  have hcases : (∃ m, ofAssignment G H m = .ok f) ∨
      ∃ call : Value → Except Fault Value, ofFunction G H call = .ok f := by
    rw [ofSending] at h
    obtain ⟨G', hG', h⟩ := bind_eq_ok.1 h
    obtain ⟨H', hH', h⟩ := bind_eq_ok.1 h
    obtain rfl := Except.ok.inj hG'
    obtain rfl := Except.ok.inj hH'
    split at h
    · exact .inl ⟨_, h⟩
    · exact .inr ⟨_, h⟩
  obtain ⟨m, h⟩ | ⟨call, h⟩ := hcases
  · obtain ⟨pairs, hpairs, h⟩ := bind_eq_ok.1 h
    obtain rfl := Except.ok.inj h
    refine between_ofList hG ((mapM_eq_ok_iff.1 hpairs).imp fun g p hp => .inl ?_)
    obtain ⟨k, -, hp⟩ := bind_eq_ok.1 hp
    split at hp
    · exact congrArg Prod.fst (Except.ok.inj hp).symm
    · obtain ⟨s, -, hp⟩ := bind_eq_ok.1 hp
      cases hp
  · obtain ⟨pairs, hpairs, h⟩ := bind_eq_ok.1 h
    obtain rfl := Except.ok.inj h
    refine between_ofList hG ((mapM_eq_ok_iff.1 hpairs).imp fun g p hp => .inr ?_)
    obtain ⟨b, -, hp⟩ := bind_eq_ok.1 hp
    obtain ⟨k, hk, hp⟩ := bind_eq_ok.1 hp
    obtain rfl := Except.ok.inj hp
    exact hk

/-- A table with an entry for each element describes the map with these entries. -/
theorem ofSending_pairs {G H : FiniteGroup} {pairs : List (Value × Value)}
    (hels : G.els = pairs.map Prod.fst) (hG : G.els.Pairwise fun a b => (a == b) = false)
    (hkeyed : ∀ g ∈ G.els, ∃ k, g.keyed = .ok k) :
    ofSending G.candidate H.candidate (.mapping 0 (pairs.map fun (k, v) => .tuple [k, v]))
      = .ok ⟨G, H, .ofList pairs⟩ := by
  have hassignment : (Value.mapping 0 (pairs.map fun (k, v) => Value.tuple [k, v])).assignment
      = .ofList pairs := by
    rw [Value.assignment, List.filterMap_map]
    exact congrArg Assignment.ofList List.filterMap_some
  have htoList : (Assignment.ofList pairs).toList = pairs := by
    rw [hels, List.pairwise_map] at hG
    exact Assignment.toList_ofList hG
  have htable : Value.tabulate G.els (.ofList pairs) = .ok pairs := by
    refine mapM_eq_ok_iff.2 ?_
    rw [hels, List.forall₂_map_left_iff, List.forall₂_same]
    rintro ⟨g, h⟩ hp
    obtain ⟨k, hk⟩ := hkeyed g (hels ▸ List.mem_map_of_mem hp)
    have hget : (Assignment.ofList pairs).get? k = some h :=
      Assignment.get?_eq_some_iff.2 ⟨g, htoList.symm ▸ hp, BEq.symm (Value.beq_of_keyed hk)⟩
    rw [hk, ok_bind]
    simp only [hget]
    rfl
  show ofAssignment G H _ = _
  rw [hassignment, ofAssignment, htable]
  rfl

/-- A table with one entry describes a map of a group of one element. -/
theorem ofSending_single {G H : FiniteGroup} {a b : Value} (hels : G.els = [a])
    (hkeyed : a.keyed = .ok a) :
    ofSending G.candidate H.candidate (.mapping 0 [.tuple [a, b]])
      = .ok ⟨G, H, .ofList [(a, b)]⟩ :=
  @ofSending_pairs G H [(a, b)] hels (by simp [hels]) (by simp [hels, hkeyed])

/-- A map whose values stand for something sends elements as some function does. -/
theorem Between.exists_sends [Group M] [Group N] {G H : FiniteGroup} (h : f.Between G H)
    (hG : G.Realizes R) (hH : H.Realizes S) (hvalues : Standing S f.send.values.toList) :
    ∃ φ : M → N, f.Sends R S φ := by
  have hkeys : List.Forall₂ (fun g k => ∃ x, R g x ∧ R k (id x)) G.els f.send.keys.toList := by
    refine List.forall₂_iff_get.2 ⟨h.keys.length_eq, fun i hi hi' => ?_⟩
    obtain ⟨x, hx⟩ := hG.standing _ (List.getElem_mem hi)
    refine ⟨x, hx, ?_⟩
    obtain heq | hk := h.keys.get hi hi'
    · rwa [heq]
    · exact hG.stands_of_keyed hx hk
  obtain ⟨hkstand, hkextent⟩ := hG.faithful.extent_of_forall₂ hG.faithful hkeys
  rw [hG.extent_els, Set.image_id] at hkextent
  have hstand : Standing (Paired R S) f.send.toList := by
    intro p hp
    obtain ⟨x, hx⟩ := hkstand _ (Assignment.mem_keys hp)
    obtain ⟨y, hy⟩ := hvalues p.2 (by
      rw [← Assignment.map_snd_toList]
      exact List.mem_map_of_mem hp)
    exact ⟨(x, y), hx, hy⟩
  have hex : ∀ x, ∃ y, (x, y) ∈ extent (Paired R S) f.send.toList := by
    intro x
    have hx : x ∈ extent R f.send.keys.toList := hkextent.superset (Set.mem_univ x)
    rw [Assignment.extent_keys hstand hG.faithful] at hx
    obtain ⟨⟨_, y⟩, hxy, rfl⟩ := hx
    exact ⟨y, hxy⟩
  choose φ hφ using hex
  refine ⟨φ, h.src_eq ▸ hG, h.tgt_eq ▸ hH, hstand, Set.Subset.antisymm ?_ ?_⟩
  · rintro ⟨x, y⟩ hxy
    exact ⟨x, congrArg _ (Assignment.graph_unique hstand hG.faithful hH.faithful (hφ x) hxy)⟩
  · rintro _ ⟨x, rfl⟩
    exact hφ x

/-- A map that is found to be a homomorphism sends elements as one does. -/
theorem Between.exists_monoidHom [Group M] [Group N] {G H : FiniteGroup} (h : f.Between G H)
    (hG : G.Realizes R) (hH : H.Realizes S) (hvalues : Standing S f.send.values.toList)
    (hhom : f.isHom = .ok true) : ∃ φ : M →* N, f.Sends R S φ := by
  obtain ⟨φ, hφ⟩ := h.exists_sends hG hH hvalues
  obtain ⟨ψ, rfl⟩ := hφ.exists_monoidHom hhom
  exact ⟨ψ, hφ⟩

/-! ## Maps that a function describes -/

theorem sends_ofList [Group M] [Group N] {G H : FiniteGroup} (hG : G.Realizes R)
    (hH : H.Realizes S) {φ : M → N} {pairs : List (Value × Value)}
    (hall : List.Forall₂ (fun g p => ∃ x, R g x ∧ Paired R S p (x, φ x)) G.els pairs) :
    (GroupMap.mk G H (.ofList pairs)).Sends R S φ ∧
      (Assignment.ofList pairs).toList = pairs := by
  have hkeys : pairs.Pairwise fun p q => (p.1 == q.1) = false := by
    refine pairwise_of_forall₂ hall ?_ hG.pairwise_els
    rintro a b p q ⟨x, hx, hpx, -⟩ ⟨y, hy, hqy, -⟩ hab
    rw [← Bool.not_eq_true, hG.faithful hx hy] at hab
    rwa [← Bool.not_eq_true, hG.faithful hpx hqy]
  obtain ⟨hstand, hextent⟩ := hG.faithful.extent_of_forall₂ (hG.faithful.paired hH.faithful)
    (f := fun x => (x, φ x)) hall
  rw [hG.extent_els, Set.image_univ] at hextent
  have htoList := Assignment.toList_ofList hkeys
  refine ⟨⟨hG, hH, ?_, ?_⟩, htoList⟩
  · rwa [htoList]
  · rwa [htoList]

/-- A function that sends what stands for `x` to what stands for `φ x` describes such a map. Its
values are those of the function. -/
theorem ofFunction_spec [Group M] [Group N] {G H : FiniteGroup} (hG : G.Realizes R)
    (hH : H.Realizes S) {φ : M → N} {send : Value → Except Fault Value}
    (hsend : ∀ g ∈ G.els, ∀ x, R g x → ∃ b, send g = .ok b ∧ S b (φ x)) :
    ∃ f, ofFunction G H send = .ok f ∧ f.src = G ∧ f.tgt = H ∧ f.Sends R S φ ∧
      ∀ b ∈ f.send.values.toList, ∃ g ∈ G.els, send g = .ok b := by
  obtain ⟨pairs, hpairs, hall⟩ := exists_mapM G.els
      (f := fun g => do
        let h ← send g
        return (← g.keyed, h))
      (P := fun g p => (g ∈ G.els ∧ send g = .ok p.2) ∧ ∃ x, R g x ∧ Paired R S p (x, φ x))
      fun g hg => by
    obtain ⟨x, hx⟩ := hG.standing g hg
    obtain ⟨b, hb, hbx⟩ := hsend g hg x hx
    obtain ⟨k, hk, hkx⟩ := hG.keyed_eq hx
    exact ⟨(k, b), by rw [hb, ok_bind, hk]; rfl, ⟨hg, hb⟩, x, hx, hkx, hbx⟩
  obtain ⟨hsends, htoList⟩ := sends_ofList hG hH (hall.imp fun g p h => h.2)
  refine ⟨⟨G, H, .ofList pairs⟩, by rw [ofFunction, hpairs]; rfl, rfl, rfl, hsends, ?_⟩
  intro b hb
  rw [← Assignment.map_snd_toList, htoList] at hb
  obtain ⟨p, hp, rfl⟩ := List.mem_map.1 hb
  obtain ⟨i, hi, rfl⟩ := List.getElem_of_mem hp
  exact ⟨_, (hall.get (hall.length_eq ▸ hi) hi).1⟩

/-- The only element of a group can be sent to whatever stands for the identity. -/
theorem sends_single [Group M] [Group N] {G H : FiniteGroup} (hG : G.Realizes R)
    (hH : H.Realizes S) {a b : Value} (hels : G.els = [a]) (hb : S b 1) :
    (GroupMap.mk G H (.ofList [(a, b)])).Sends R S (1 : M →* N) ∧
      (Assignment.ofList [(a, b)]).values.toList = [b] := by
  obtain ⟨a', ha', hone⟩ := hG.surjective 1
  rw [hels, List.mem_singleton] at ha'
  subst ha'
  have hpairs : List.Forall₂ (fun g p => ∃ x, R g x ∧ Paired R S p (x, (1 : M →* N) x)) G.els
      [(a', b)] := by
    rw [hels]
    exact .cons ⟨1, hone, hone, hb⟩ .nil
  obtain ⟨hsends, htoList⟩ := sends_ofList hG hH hpairs
  exact ⟨hsends, by rw [← Assignment.map_snd_toList, htoList, List.map_singleton]⟩

/-- An assignment that stands for the graph of `φ` describes a map that sends elements as `φ`
does. -/
theorem ofAssignment_spec [Group M] [Group N] {G H : FiniteGroup} (hG : G.Realizes R)
    (hH : H.Realizes S) {φ : M → N} {m : Assignment Value Value}
    (hm : Standing (Paired R S) m.toList)
    (hgraph : extent (Paired R S) m.toList = Set.range fun x => (x, φ x)) :
    ∃ f, ofAssignment G H m = .ok f ∧ f.src = G ∧ f.tgt = H ∧ f.Sends R S φ := by
  obtain ⟨pairs, hpairs, hall⟩ : ∃ pairs, Value.tabulate G.els m = .ok pairs ∧
      List.Forall₂ (fun g p => ∃ x, R g x ∧ Paired R S p (x, φ x)) G.els pairs := by
    refine exists_mapM _ fun g hg => ?_
    obtain ⟨x, hx⟩ := hG.standing g hg
    obtain ⟨k, hk, hkx⟩ := hG.keyed_eq hx
    obtain ⟨b, hb, hbx⟩ := (Assignment.exists_get?_iff hm hG.faithful hkx (y := φ x)).2
      (hgraph ▸ ⟨x, rfl⟩)
    refine ⟨(g, b), ?_, x, hx, hx, hbx⟩
    rw [hk, ok_bind]
    simp only [hb]
    rfl
  obtain ⟨hsends, -⟩ := sends_ofList hG hH hall
  exact ⟨_, by rw [ofAssignment, hpairs]; rfl, rfl, rfl, hsends⟩

end GroupMap

end FiniteGroups
