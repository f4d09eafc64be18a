import FiniteGroups.Proofs.Extension
import FiniteGroups.Proofs.Maps
import FiniteGroups.Proofs.Residues

/-!
# Homomorphisms from generators

Generators are sent to images place by place, and products to products. For two groups that
realize `M` and `N` this succeeds exactly if a homomorphism of the subgroup that the generators
generate sends each generator to its image (`Realizes.extendMap_spec`), and then gives the graph of
the homomorphism. If the generators generate the whole group, there is a map of the group that
sends elements as the homomorphism does (`Realizes.ofGens_spec`), and otherwise there is none
(`Realizes.ofGens_error`).

The graph is empty if there are no generators. A map is made of it all the same, since the
identity is added to what was found (`Realizes.graph_patch`).
-/

set_option linter.unusedSectionVars false

namespace FiniteGroups

open FiniteGroup

variable {M N : Type} {R : Value → M → Prop} {S : Value → N → Prop}

/-! ## Generators and images -/

theorem mem_extent_zip {gens images : List Value} {i : Nat} (hi : i < gens.length)
    (hi' : i < images.length) {x : M} {y : N} (hx : R gens[i] x) (hy : S images[i] y) :
    (x, y) ∈ extent (Paired R S) (gens.zip images) := by
  have hzip : i < (gens.zip images).length := by simp [hi, hi']
  refine ⟨_, List.getElem_mem hzip, ?_⟩
  rw [List.getElem_zip]
  exact ⟨hx, hy⟩

theorem image_fst_zip {gens images : List Value} (himages : Standing S images)
    (hlength : gens.length = images.length) :
    Prod.fst '' extent (Paired R S) (gens.zip images) = extent R gens := by
  ext x
  constructor
  · rintro ⟨z, ⟨p, hp, hz⟩, rfl⟩
    exact ⟨p.1, (List.of_mem_zip hp).1, hz.1⟩
  · rintro ⟨a, ha, hx⟩
    obtain ⟨i, hi, rfl⟩ := List.getElem_of_mem ha
    have hi' : i < images.length := hlength ▸ hi
    obtain ⟨y, hy⟩ := himages images[i] (List.getElem_mem hi')
    exact ⟨_, mem_extent_zip hi hi' hx hy, rfl⟩

/-- The function sends what each generator stands for to what its image stands for. -/
def SendsEach {P : Type} (R : Value → P → Prop) (S : Value → N → Prop) (gens images : List Value)
    (φ : P → N) : Prop :=
  ∀ i, ∀ hi : i < gens.length, ∀ hi' : i < images.length, ∃ x, R gens[i] x ∧ S images[i] (φ x)

/-- There is one such homomorphism at most, if the generators generate everything. -/
theorem SendsEach.unique {P : Type} [Group P] [Group N] {R : Value → P → Prop}
    {gens images : List Value} (hR : Faithful R) (hS : Faithful S)
    (hgen : Subgroup.closure (extent R gens) = ⊤) (hlength : gens.length = images.length)
    {φ ψ : P →* N} (hφ : SendsEach R S gens images φ) (hψ : SendsEach R S gens images ψ) :
    φ = ψ := by
  refine MonoidHom.eq_of_eqOn_dense hgen fun x ⟨a, ha, hx⟩ => ?_
  obtain ⟨i, hi, rfl⟩ := List.getElem_of_mem ha
  obtain ⟨y, hy, hφy⟩ := hφ i hi (hlength ▸ hi)
  obtain ⟨z, hz, hψz⟩ := hψ i hi (hlength ▸ hi)
  obtain rfl := hR.unique hx hy
  obtain rfl := hR.unique hx hz
  exact hS.unique hφy hψz

/-- A value stands for an element of a subgroup. -/
def Within [Group M] (R : Value → M → Prop) (L : Subgroup M) (a : Value) (x : L) : Prop :=
  R a x

theorem faithful_within [Group M] (hR : Faithful R) (L : Subgroup M) : Faithful (Within R L) := by
  intro a b x y hx hy
  rw [hR hx hy, Subtype.ext_iff]

theorem closure_extent_within [Group M] (gens : List Value) {L : Subgroup M}
    (hL : Subgroup.closure (extent R gens) = L) :
    Subgroup.closure (extent (Within R L) gens) = ⊤ := by
  subst hL
  exact Subgroup.closure_closure_coe_preimage

/-! ## The extension -/

theorem item_list {place : Nat} {xs : List Value} {i : Nat} (hi : i < xs.length) :
    (Value.list place xs).item (Value.ofNat i) = .ok xs[i] := by
  show Position.entry xs i = _
  simp [Position.entry, Position.resolve_natCast, hi]

/-- Sends one generator, which may have been sent to the same place before. -/
def sendOne (sent : Assignment Value Value) (g h : Value) :
    Except Fault (Assignment Value Value) := do
  match sent.get? g with
  | some h' => if ← h'.equal h then return sent.set g h else throw (.conflictingImages (← g.plain))
  | none => return sent.set g h

/-- One place after the other. -/
theorem assignEach_succ (gens images : Value) (n : Nat) : assignEach gens images (n + 1) = (do
    let sent ← assignEach gens images n
    let g ← (← gens.item (Value.ofNat n)).keyed
    let h ← images.item (Value.ofNat n)
    sendOne sent g h) := by
  rw [assignEach, List.range_succ, List.foldlM_append]
  simp only [List.foldlM_cons, List.foldlM_nil, bind_pure]
  rfl

/-- What the extension of a map of values needs to know. -/
def valueExtension (mul₁ mul₂ : Value → Value → Except Fault Value) : Extension Value Value :=
  { mul₁, mul₂, key := Value.keyed, agree := Value.equal, label := Value.plain }

theorem outcome_extendMap {gens images : List Value} (hlength : gens.length = images.length)
    (p q : Nat) (mul₁ mul₂ : Value → Value → Except Fault Value) :
    (extendMap (.list p gens) (.list q images) mul₁ mul₂).outcome = (do
      let sent ← assignEach (.list p gens) (.list q images) gens.length
      (closeMap sent (valueExtension mul₁ mul₂)).outcome) := by
  simp [extendMap, Value.length, hlength, valueExtension]

variable [Group M] [Group N]

namespace FiniteGroup.Realizes

variable {G H : FiniteGroup} (hG : G.Realizes R) (hH : H.Realizes S) {gens images : List Value}
include hG hH

/-- A generator is sent to its image, unless it was sent to another place. -/
theorem sendOne_spec {sent : Assignment Value Value} (hstand : Standing (Paired R S) sent.toList)
    {g h : Value} {x : M} {y : N} (hg : R g x) (hh : S h y) {C : Set (M × N)}
    (hC : extent (Paired R S) sent.toList ⊆ C) (hxy : (x, y) ∈ C) :
    Settles R Value.plain (sendOne sent g h)
      (fun next => Standing (Paired R S) next.toList ∧
        extent (Paired R S) next.toList = insert (x, y) (extent (Paired R S) sent.toList))
      (¬Functional C) := by
  rcases Assignment.get?_cases hstand hG.faithful hg with
    ⟨hnew, hget⟩ | ⟨-, h', y', hget, hh', hold⟩
  · rw [sendOne, hget]
    exact .ok (Assignment.graph_set_of_new hstand hG.faithful hH.faithful hg hh hnew)
  · rw [sendOne, hget]
    dsimp only
    rw [hH.equal_eq hh' hh, ok_bind]
    by_cases hagree : y' = y
    · subst hagree
      rw [if_pos ((hH.faithful hh' hh).2 rfl), Set.insert_eq_of_mem hold]
      exact .ok (Assignment.graph_set_of_mem hstand hG.faithful hH.faithful hg hh hold)
    · rw [if_neg (mt (hH.faithful hh' hh).1 hagree)]
      exact settles_throw hg (fun _ => rfl) fun hfun => hagree (hfun (hC hold) hxy)

/-- The generators are sent to the images, unless one of them is sent to two places. -/
theorem assignEach_spec (hgens : Standing R gens) (himages : Standing S images) (p q : Nat)
    {n : Nat} (hn : n ≤ gens.length) (hn' : n ≤ images.length) {C : Set (M × N)}
    (hC : extent (Paired R S) (gens.zip images) ⊆ C) :
    Settles R Value.plain (assignEach (.list p gens) (.list q images) n)
      (fun sent => Standing (Paired R S) sent.toList ∧ extent (Paired R S) sent.toList =
        extent (Paired R S) ((gens.zip images).take n))
      (¬Functional C) := by
  induction n with
  | zero => exact .ok ⟨by simp [Standing], by simp⟩
  | succ n ih =>
    rw [assignEach_succ]
    refine (ih (by omega) (by omega)).bind fun sent hsent => ?_
    obtain ⟨hstand, hextent⟩ := hsent
    obtain ⟨x, hx⟩ := hgens gens[n] (List.getElem_mem _)
    obtain ⟨y, hy⟩ := himages images[n] (List.getElem_mem _)
    obtain ⟨k, hk, hkx⟩ := hG.keyed_eq hx
    rw [item_list hn, ok_bind, hk, ok_bind, item_list hn', ok_bind]
    have hzip : n < (gens.zip images).length := by
      rw [List.length_zip]
      omega
    have hpair : Paired R S (gens.zip images)[n] (x, y) := by
      rw [List.getElem_zip]
      exact ⟨hx, hy⟩
    have htake : extent (Paired R S) ((gens.zip images).take (n + 1)) =
        insert (x, y) (extent (Paired R S) sent.toList) := by
      rw [← List.take_append_getElem hzip, extent_append, hextent,
        (hG.faithful.paired hH.faithful).extent_singleton hpair, Set.union_singleton]
    have hsentC : extent (Paired R S) sent.toList ⊆ C := by
      rw [hextent]
      exact (extent_mono fun r hr => List.mem_of_mem_take hr).trans hC
    rw [htake]
    exact hG.sendOne_spec hH hstand hkx hy hsentC (hC ⟨_, List.getElem_mem hzip, hpair⟩)

theorem extension_computes : (valueExtension G.mul H.mul).Computes R S where
  mul₁_eq a b x y ha hb := by
    obtain ⟨c, hc, hcxy⟩ := hG.mul_eq ha hb
    obtain ⟨k, hk, hkxy⟩ := hG.keyed_eq hcxy
    exact ⟨c, k, hc, hk, hkxy⟩
  mul₂_eq a b x y ha hb := hH.mul_eq ha hb
  agree_eq a b x y ha hb := ⟨_, hH.equal_eq ha hb, hH.faithful ha hb⟩

/-- The extension finds all products of generators with their images, or it is refused and these
are not the graph of a function. -/
theorem extendMap_settles (hgens : Standing R gens) (himages : Standing S images)
    (hlength : gens.length = images.length) (p q : Nat) :
    Settles R Value.plain (extendMap (.list p gens) (.list q images) G.mul H.mul).outcome
      (fun sent => Standing (Paired R S) sent.toList ∧ extent (Paired R S) sent.toList =
        (Subsemigroup.closure (extent (Paired R S) (gens.zip images)) : Set (M × N)))
      (¬Functional
        (Subsemigroup.closure (extent (Paired R S) (gens.zip images)) : Set (M × N))) := by
  have := hG.finite
  have hzip : (gens.zip images).take gens.length = gens.zip images := by
    rw [List.take_of_length_le (by simp)]
  rw [outcome_extendMap hlength]
  refine (hG.assignEach_spec hH hgens himages p q le_rfl hlength.le
    Subsemigroup.subset_closure).bind fun sent hsent => ?_
  obtain ⟨hstand, hextent⟩ := hsent
  rw [hzip] at hextent
  rw [← hextent]
  exact closeMap_spec hG.faithful hH.faithful (hG.extension_computes hH) hstand

/-! ## Homomorphisms of what is generated -/

section

variable {L : Subgroup M} (hL : Subgroup.closure (extent R gens) = L) (hgens : Standing R gens)
  (himages : Standing S images) (hlength : gens.length = images.length)
include hL hgens himages hlength

/-- To extend the pairs of generators and images is to send each generator to its image. -/
theorem extends_iff {φ : L →* N} : Extends (extent (Paired R S) (gens.zip images)) φ ↔
    SendsEach (Within R L) S gens images φ := by
  constructor
  · intro h i hi hi'
    obtain ⟨x, hx⟩ := hgens gens[i] (List.getElem_mem hi)
    obtain ⟨y, hy⟩ := himages images[i] (List.getElem_mem hi')
    have hmem : x ∈ L := hL ▸ Subgroup.subset_closure ⟨_, List.getElem_mem hi, hx⟩
    refine ⟨⟨x, hmem⟩, hx, ?_⟩
    rwa [h (x, y) (mem_extent_zip hi hi' hx hy) hmem]
  · rintro h z ⟨p, hp, hz⟩ hmem
    obtain ⟨i, hi, rfl⟩ := List.getElem_of_mem hp
    obtain ⟨hi₁, hi₂⟩ : i < gens.length ∧ i < images.length := by simpa using hi
    rw [List.getElem_zip] at hz
    obtain ⟨x, hx, hy⟩ := h i hi₁ hi₂
    obtain rfl : ⟨z.1, hmem⟩ = x := Subtype.ext (hG.faithful.unique hz.1 hx)
    exact hH.faithful.unique hy hz.2

/-- The extension gives the graph of the homomorphism that there is, or is refused as there is
none. -/
theorem extendMap_spec (p q : Nat) :
    Settles R Value.plain (extendMap (.list p gens) (.list q images) G.mul H.mul).outcome
      (fun sent => ∃ φ : L →* N, SendsEach (Within R L) S gens images φ ∧
        Standing (Paired R S) sent.toList ∧
        extent (Paired R S) sent.toList = {z | gens ≠ [] ∧ z ∈ graph φ})
      (¬∃ φ : L →* N, SendsEach (Within R L) S gens images φ) := by
  have := hG.finite
  have := hH.finite
  have hfst := image_fst_zip (R := R) himages hlength
  have hΓ : Subgroup.closure (Prod.fst '' extent (Paired R S) (gens.zip images)) = L := by
    rw [hfst, hL]
  have hiff : Functional
      (Subsemigroup.closure (extent (Paired R S) (gens.zip images)) : Set (M × N)) ↔
      ∃ φ : L →* N, SendsEach (Within R L) S gens images φ := by
    rw [functional_closure_iff hΓ]
    exact exists_congr fun φ => hG.extends_iff hH hL hgens himages hlength
  refine ((hG.extendMap_settles hH hgens himages hlength p q).imp
    fun sent ⟨hstand, hextent⟩ => ?_).imp_right (mt hiff.2)
  have hfunctional : Functional (extent (Paired R S) sent.toList) :=
    fun _ _ _ hy hy' => Assignment.graph_unique hstand hG.faithful hH.faithful hy hy'
  rw [hextent, hiff] at hfunctional
  obtain ⟨φ, hφ⟩ := hfunctional
  refine ⟨φ, hφ, hstand, hextent.trans ?_⟩
  by_cases hne : gens = []
  · simp [hne, Subsemigroup.closure_empty]
  · have hnonempty : (extent (Paired R S) (gens.zip images)).Nonempty := by
      obtain ⟨a, ha⟩ := List.exists_mem_of_ne_nil gens hne
      obtain ⟨x, hx⟩ := hgens a ha
      rw [← Set.image_nonempty (f := Prod.fst), hfst]
      exact ⟨x, a, ha, hx⟩
    rw [closure_eq_graph hΓ hnonempty ((hG.extends_iff hH hL hgens himages hlength).2 hφ)]
    simp [hne]

omit hgens himages hlength in
/-- With the identity sent to the identity an extension is the graph of the homomorphism. -/
theorem graph_patch {φ : L →* N} {sent : Assignment Value Value}
    (hstand : Standing (Paired R S) sent.toList)
    (hextent : extent (Paired R S) sent.toList = {z | gens ≠ [] ∧ z ∈ graph φ}) {k : Value}
    (hk : R k 1) {sent' : Assignment Value Value}
    (hsent' : sent' = if sent.keys.contains k then sent else sent.set G.identity H.identity) :
    Standing (Paired R S) sent'.toList ∧ extent (Paired R S) sent'.toList = graph φ := by
  have hcontains : ∀ a, R a 1 → (sent.keys.contains a = true ↔ gens ≠ []) := by
    intro a ha
    rw [hG.faithful.contains_iff (Assignment.standing_keys hstand) ha,
      Assignment.extent_keys hstand hG.faithful, hextent]
    constructor
    · rintro ⟨_, ⟨hne, -⟩, -⟩
      exact hne
    · exact fun hne => ⟨(1, 1), ⟨hne, 1, by simp⟩, rfl⟩
  rw [hsent']
  by_cases hne : gens = []
  · have hnew : ∀ a, R a 1 → sent.keys.contains a = false := fun a ha => by
      rw [← Bool.not_eq_true, hcontains a ha]
      exact not_not_intro hne
    rw [if_neg (by simp [hnew k hk])]
    obtain ⟨hstand', hextent'⟩ := Assignment.graph_set_of_new hstand hG.faithful hH.faithful
      hG.one hH.one (hnew _ hG.one)
    refine ⟨hstand', hextent'.trans ?_⟩
    subst hne
    rw [extent_nil, Subgroup.closure_empty] at hL
    subst hL
    rw [hextent, graph_bot]
    simp
  · rw [if_pos ((hcontains k hk).2 hne)]
    exact ⟨hstand, hextent.trans (by simp [hne])⟩

omit hG hH hL hgens himages hlength in
/-- What is made of an extension: a map, if there are enough elements in it. -/
theorem ofGens_eq {sent : Assignment Value Value} {k : Value} {p q : Nat}
    (hsent : (extendMap (.list 0 gens) (.list 0 images) G.mul H.mul).outcome = .ok sent)
    (hk : G.identity.keyed = .ok k) {sent' : Assignment Value Value}
    (hsent' : sent' = if sent.keys.contains k then sent else sent.set G.identity H.identity) :
    GroupMap.ofGens G.candidate H.candidate (.list p gens) (.list q images) =
      if sent'.size = G.order then GroupMap.ofAssignment G H sent'
      else (do throw (Fault.tooFewGenerators gens.length (← G.value.plain))) := by
  rw [hsent']
  show (do
    let sent ← (extendMap (.list 0 gens) (.list 0 images) G.mul H.mul).outcome
    let k ← G.identity.keyed
    let sent := if sent.keys.contains k then sent else sent.set G.identity H.identity
    if sent.size = G.order then GroupMap.ofAssignment G H sent
    else (do throw (Fault.tooFewGenerators gens.length (← G.value.plain)))) = _
  rw [hsent, ok_bind, hk, ok_bind]

omit hH hL hgens himages hlength in
/-- A graph has enough elements if it is one of the whole group. -/
theorem size_eq_order_iff {φ : L →* N} {sent : Assignment Value Value}
    (hstand : Standing (Paired R S) sent.toList)
    (hgraph : extent (Paired R S) sent.toList = graph φ) : sent.size = G.order ↔ L = ⊤ := by
  have := hG.finite
  rw [Assignment.size_eq hstand hG.faithful, Assignment.extent_keys hstand hG.faithful,
    hgraph, image_fst_graph, hG.order_eq, ← Set.eq_univ_iff_ncard, Subgroup.coe_eq_univ]

/-- Where there is a homomorphism, a map is made of its graph if that is large enough. -/
theorem exists_ofGens_eq {φ : L →* N} (hφ : SendsEach (Within R L) S gens images φ) (p q : Nat) :
    ∃ sent, Standing (Paired R S) sent.toList ∧ extent (Paired R S) sent.toList = graph φ ∧
      GroupMap.ofGens G.candidate H.candidate (.list p gens) (.list q images) =
        if sent.size = G.order then GroupMap.ofAssignment G H sent
        else (do throw (Fault.tooFewGenerators gens.length (← G.value.plain))) := by
  obtain ⟨k, hk, hkone⟩ := hG.keyed_eq hG.one
  have hspec := hG.extendMap_spec hH hL hgens himages hlength 0 0
  cases hrun : (extendMap (.list 0 gens) (.list 0 images) G.mul H.mul).outcome with
  | error e => exact absurd ⟨φ, hφ⟩ (hspec.of_error hrun).2
  | ok sent =>
    obtain ⟨ψ, hψ, hstand, hextent⟩ := hspec.of_ok hrun
    obtain rfl := hψ.unique (faithful_within hG.faithful L) hH.faithful
      (closure_extent_within gens hL) hlength hφ
    obtain ⟨hstand', hgraph⟩ := hG.graph_patch hH hL hstand hextent hkone rfl
    exact ⟨_, hstand', hgraph, ofGens_eq hrun hk rfl⟩

/-- If the generators generate the whole group and there is a homomorphism, there is a map that
sends elements as the homomorphism does. -/
theorem ofGens_spec (p q : Nat) {φ : L →* N} (hφ : SendsEach (Within R L) S gens images φ)
    (htop : L = ⊤) : ∃ ψ : M →* N, SendsEach R S gens images ψ ∧ ∃ f,
      GroupMap.ofGens G.candidate H.candidate (.list p gens) (.list q images) = .ok f ∧
        f.src = G ∧ f.tgt = H ∧ f.Sends R S ψ := by
  obtain ⟨sent, hstand, hgraph, hrun⟩ :=
    hG.exists_ofGens_eq hH hL hgens himages hlength hφ p q
  have hmem : ∀ x : M, x ∈ L := fun x => htop ▸ Subgroup.mem_top x
  let ψ : M →* N := φ.comp ((MonoidHom.id M).codRestrict L hmem)
  have hψ : graph φ = Set.range fun x => (x, ψ x) := by
    ext z
    constructor
    · rintro ⟨x, rfl⟩
      exact ⟨x, rfl⟩
    · rintro ⟨x, rfl⟩
      exact ⟨⟨x, hmem x⟩, rfl⟩
  rw [hrun, if_pos ((hG.size_eq_order_iff hstand hgraph).2 htop)]
  refine ⟨ψ, fun i hi hi' => ?_, GroupMap.ofAssignment_spec hG hH hstand (hgraph.trans hψ)⟩
  obtain ⟨x, hx, hy⟩ := hφ i hi hi'
  exact ⟨x, hx, hy⟩

/-- Otherwise no map is made. -/
theorem ofGens_error (p q : Nat)
    (hno : ¬((∃ φ : L →* N, SendsEach (Within R L) S gens images φ) ∧ L = ⊤)) :
    ∃ e, GroupMap.ofGens G.candidate H.candidate (.list p gens) (.list q images) = .error e := by
  by_cases hex : ∃ φ : L →* N, SendsEach (Within R L) S gens images φ
  · obtain ⟨φ, hφ⟩ := id hex
    obtain ⟨sent, hstand, hgraph, hrun⟩ :=
      hG.exists_ofGens_eq hH hL hgens himages hlength hφ p q
    rw [hrun, if_neg (mt (hG.size_eq_order_iff hstand hgraph).1 fun htop => hno ⟨hex, htop⟩)]
    cases G.value.plain with
    | error e => exact ⟨e, rfl⟩
    | ok s => exact ⟨_, rfl⟩
  · have hspec := hG.extendMap_spec hH hL hgens himages hlength 0 0
    cases hrun : (extendMap (.list 0 gens) (.list 0 images) G.mul H.mul).outcome with
    | error e =>
      refine ⟨e, ?_⟩
      show (do
        let sent ← (extendMap (.list 0 gens) (.list 0 images) G.mul H.mul).outcome
        _) = _
      rw [hrun]
      rfl
    | ok sent =>
      obtain ⟨φ, hφ, -⟩ := hspec.of_ok hrun
      exact absurd ⟨φ, hφ⟩ hex

end

end FiniteGroup.Realizes

end FiniteGroups
