import FiniteGroups.Proofs.Realizes
import FiniteGroups.Quotient
import Mathlib.Algebra.Pointwise.Stabilizer
import Mathlib.GroupTheory.Coset.Card
import Mathlib.GroupTheory.QuotientGroup.Defs

/-!
# Cosets

A coset as a value is kept with a representative and with its members. It stands for a left coset
of a subgroup `N` if the representative stands for something in it and the members for all of it
(`StandsForCoset`). Two such values are equal when their members are, so it does not matter which
representative they are kept with (`faithful_coset`).

Nobody asks whether a coset is one of a subgroup. In general a value of this kind is the translate
`x • S` of a set `S` (`StandsForTranslate`), and translates are the same when the representatives
are in one coset of the stabilizer of `S` (`smul_eq_smul_iff`). A subgroup is its own stabilizer.

The coset through an element of a group is found (`Realizes.cosetOf_spec`), the list of cosets
holds each of them (`Realizes.leftCosets_spec`), and the conjugates of a subgroup tell whether it
is normal (`Realizes.isNormal_spec`). None of this needs the subgroup to be normal.
-/

set_option linter.unusedSectionVars false

namespace FiniteGroups

open FiniteGroup MulAction
open scoped Pointwise

variable {M : Type} [Group M] {R : Value → M → Prop} {N : Subgroup M} {S : Set M}

/-- The product of `x` with `y`, on the side on which a coset has its representative. -/
def Side.product (side : Side) (x y : M) : M :=
  match side with
  | .left => x * y
  | .right => y * x

theorem image_product_left (x : M) :
    Side.left.product x '' (N : Set M) = {z : M | (z : M ⧸ N) = x} := by
  ext z
  rw [Set.mem_ofPred_eq, eq_comm, QuotientGroup.eq]
  constructor
  · rintro ⟨y, hy, rfl⟩
    simpa [Side.product] using hy
  · exact fun hz => ⟨_, hz, by simp [Side.product]⟩

/-- The value is a coset, kept with a representative and with all its members. -/
inductive StandsForCoset (R : Value → M → Prop) (N : Subgroup M) : Value → M ⧸ N → Prop
  | intro {parent subgroup rep : Value} {members : List Value} {state : Coset.State} {x : M}
      (computed : ∀ e, state ≠ .faulty e) (hrep : R rep x) (hmembers : Standing R members)
      (hextent : extent R members = {z : M | (z : M ⧸ N) = x}) :
      StandsForCoset R N (.coset .left 0 parent subgroup rep members state) x

theorem loose_ne_faulty (e : Fault) : Coset.State.loose ≠ .faulty e := by
  simp

theorem settled_ne_faulty (e : Fault) : Coset.State.settled ≠ .faulty e := by
  simp

/-- As a key a coset has its members settled. -/
theorem keyed_coset {side : Side} {place : Nat} {parent subgroup rep : Value}
    {members : List Value} {state : Coset.State} (h : ∀ e, state ≠ .faulty e) :
    (Value.coset side place parent subgroup rep members state).keyed =
      .ok (.coset side place parent subgroup rep members .settled) := by
  rw [Value.keyed.eq_def]
  dsimp only
  split
  · next e => exact absurd rfl (h e)
  · rfl

/-! ## Translates of a set -/

/-- The value is a translate of `S`, kept with a representative and with all its members. It stands
for the coset of the representative, where `N` is the stabilizer of `S`. -/
inductive StandsForTranslate (R : Value → M → Prop) (S : Set M) (N : Subgroup M) :
    Value → M ⧸ N → Prop
  | intro {parent subgroup rep : Value} {members : List Value} {state : Coset.State} {x : M}
      (computed : ∀ e, state ≠ .faulty e) (hrep : R rep x) (hmembers : Standing R members)
      (hextent : extent R members = x • S) :
      StandsForTranslate R S N (.coset .left 0 parent subgroup rep members state) x

/-- Translates are the same when the representatives are in one coset of the stabilizer. -/
theorem smul_eq_smul_iff (hS : stabilizer M S = N) {x y : M} :
    x • S = y • S ↔ (x : M ⧸ N) = y := by
  rw [QuotientGroup.eq, ← hS, mem_stabilizer_iff, mul_smul, inv_smul_eq_iff, eq_comm]

/-- A left coset is a translate of the subgroup. -/
theorem standsForCoset_eq : StandsForCoset R N = StandsForTranslate R N N := by
  have hset : ∀ x : M, x • (N : Set M) = {z : M | (z : M ⧸ N) = x} := image_product_left
  funext c y
  refine propext ⟨?_, ?_⟩
  · rintro ⟨hstate, hrep, hmembers, hextent⟩
    exact .intro hstate hrep hmembers (hextent.trans (hset _).symm)
  · rintro ⟨hstate, hrep, hmembers, hextent⟩
    exact .intro hstate hrep hmembers (hextent.trans (hset _))

namespace StandsForTranslate

variable {c d : Value} {y z : M ⧸ N}

theorem representative (h : StandsForTranslate R S N c y) :
    ∃ rep x, c.representative = .ok rep ∧ R rep x ∧ (x : M ⧸ N) = y := by
  obtain ⟨-, hrep, -, -⟩ := h
  exact ⟨_, _, rfl, hrep, rfl⟩

theorem keyed_eq (h : StandsForTranslate R S N c y) :
    ∃ k, c.keyed = .ok k ∧ StandsForTranslate R S N k y := by
  obtain ⟨hstate, hrep, hmembers, hextent⟩ := h
  exact ⟨_, keyed_coset hstate, .intro settled_ne_faulty hrep hmembers hextent⟩

theorem isSimple (h : StandsForTranslate R S N c y) : c.isSimple = true := by
  obtain ⟨hstate, -, -, -⟩ := h
  rw [Value.isSimple.eq_def]
  dsimp only
  split
  · next e => exact absurd rfl (hstate e)
  · rfl

theorem equal_eq (hc : StandsForTranslate R S N c y) (hd : StandsForTranslate R S N d z) :
    c.equal d = .ok (c == d) :=
  Value.equal_of_isSimple hc.isSimple hd.isSimple

end StandsForTranslate

namespace StandsForCoset

variable {c d : Value} {y z : M ⧸ N}

theorem keyed_eq (h : StandsForCoset R N c y) :
    ∃ k, c.keyed = .ok k ∧ StandsForCoset R N k y := by
  rw [standsForCoset_eq] at h ⊢
  exact h.keyed_eq

theorem equal_eq (hc : StandsForCoset R N c y) (hd : StandsForCoset R N d z) :
    c.equal d = .ok (c == d) := by
  rw [standsForCoset_eq] at hc hd
  exact hc.equal_eq hd

end StandsForCoset

/-- Members are compared as what they stand for. -/
theorem Faithful.sameSet_values_iff (hR : Faithful R) {xs ys : List Value} (hxs : Standing R xs)
    (hys : Standing R ys) : Value.sameSet xs ys = true ↔ extent R xs = extent R ys := by
  rw [Value.sameSet_iff]
  constructor
  · rintro ⟨hforth, hback⟩
    refine Set.Subset.antisymm ?_ ?_
    · rintro z ⟨a, ha, hz⟩
      obtain ⟨b, hb, hab⟩ := hforth a ha
      obtain ⟨w, hw⟩ := hys b hb
      exact ⟨b, hb, (hR hz hw).1 hab ▸ hw⟩
    · rintro z ⟨b, hb, hz⟩
      obtain ⟨a, ha, hab⟩ := hback b hb
      obtain ⟨w, hw⟩ := hxs a ha
      exact ⟨a, ha, (hR hw hz).1 hab ▸ hw⟩
  · intro heq
    refine ⟨fun a ha => ?_, fun b hb => ?_⟩
    · obtain ⟨z, hz⟩ := hxs a ha
      obtain ⟨b, hb, hbz⟩ := heq.subset ⟨a, ha, hz⟩
      exact ⟨b, hb, (hR hz hbz).2 rfl⟩
    · obtain ⟨z, hz⟩ := hys b hb
      obtain ⟨a, ha, haz⟩ := heq.superset ⟨b, hb, hz⟩
      exact ⟨a, ha, (hR haz hz).2 rfl⟩

/-- Translates are equal when they have the same members, whatever represents them. -/
theorem faithful_translate (hR : Faithful R) (hS : stabilizer M S = N) :
    Faithful (StandsForTranslate R S N) := by
  rintro _ _ _ _ ⟨-, -, hxs, hx⟩ ⟨-, -, hys, hy⟩
  rw [← smul_eq_smul_iff hS, ← hx, ← hy, ← hR.sameSet_values_iff hxs hys]
  show Value.same _ _ = true ↔ _
  simp [Value.same, Value.head, Value.members]

theorem faithful_coset (hR : Faithful R) : Faithful (StandsForCoset R N) := by
  rw [standsForCoset_eq]
  exact faithful_translate hR (stabilizer_subgroup N)

/-- The cosets of a list are different. -/
theorem Candidate.pairwise_cosets {G H : Candidate} {side : Side} {cosets : List Value}
    (h : G.cosets side H = .ok cosets) : cosets.Pairwise fun a b => (a == b) = false := by
  obtain ⟨els, -, h⟩ := bind_eq_ok.1 h
  obtain ⟨found, -, h⟩ := bind_eq_ok.1 h
  obtain rfl := Except.ok.inj h
  exact (Roster.ofList found).pairwise_toList

namespace FiniteGroup

variable {G H : FiniteGroup}

namespace Realizes

variable (hG : G.Realizes R)
include hG

theorem cosetProducts_spec (side : Side) (hH : Consists R H S) {a : Value} {x : M}
    (ha : R a x) :
    ∃ found : Roster Value, cosetProducts side G.value.meaning H.value a = .ok found ∧
      Standing R found.toList ∧ extent R found.toList = side.product x '' S := by
  obtain ⟨products, hproducts, hstand, hextent⟩ := hG.faithful.exists_keyed_images hG.faithful
      hG.keyed_eq (f := fun h => match side with | .left => G.mul a h | .right => G.mul h a)
      (φ := side.product x) hH.standing_els fun h _ y hy => by
    cases side with
    | left => exact hG.mul_eq ha hy
    | right => exact hG.mul_eq hy ha
  refine ⟨.ofList products, ?_, hstand, ?_⟩
  · rw [cosetProducts, hG.intact.op_eq]
    cases side <;> exact congrArg (fun run => do return Roster.ofList (← run)) hproducts
  · rw [hextent, hH.els_eq, hH.extent_eq]

/-- The coset through an element is kept with the element and with the products. -/
theorem cosetOf_eq {side : Side} {a : Value} {x : M} (ha : R a x) {members : Roster Value}
    (h : cosetProducts side G.value.meaning H.value a = .ok members) :
    cosetOf side G.value.meaning G.value H.value a =
      .ok (.coset side 0 G.value H.value a members.toList .loose) := by
  rw [cosetOf, meaning_contains, hG.contains_eq ha, ok_bind, if_pos rfl, looseCoset, h]
  rfl

/-- The translate through an element is found. It is kept with the element. -/
theorem translateOf_spec (hH : Consists R H S) {a : Value} {x : M} (ha : R a x) :
    ∃ members, cosetOf .left G.value.meaning G.value H.value a =
        .ok (.coset .left 0 G.value H.value a members .loose) ∧
      StandsForTranslate R S N (.coset .left 0 G.value H.value a members .loose) x := by
  obtain ⟨found, hfound, hstand, hextent⟩ := hG.cosetProducts_spec .left hH ha
  exact ⟨found.toList, hG.cosetOf_eq ha hfound, .intro loose_ne_faulty ha hstand hextent⟩

theorem cosetOf_spec (hH : Consists R H N) {a : Value} {x : M} (ha : R a x) :
    ∃ members, cosetOf .left G.value.meaning G.value H.value a =
        .ok (.coset .left 0 G.value H.value a members .loose) ∧
      StandsForCoset R N (.coset .left 0 G.value H.value a members .loose) x := by
  rw [standsForCoset_eq]
  exact hG.translateOf_spec hH ha

/-- A coset as it is listed in a group of cosets : its members are settled, and it is kept with an
element. -/
def Listed (G H : FiniteGroup) (c : Value) : Prop :=
  ∃ rep ∈ G.els, ∃ members, c = .coset .left 0 G.value H.value rep members .settled

/-- The translates through some elements are listed. -/
theorem keyed_translateOf_spec (hH : Consists R H S) {a : Value} (ha : a ∈ G.els) {x : M}
    (hx : R a x) : ∃ c, (cosetOf .left G.value.meaning G.value H.value a >>= Value.keyed) = .ok c ∧
      StandsForTranslate R S N c x ∧ Listed G H c := by
  obtain ⟨members, hcoset, hstands⟩ := hG.translateOf_spec hH hx
  obtain ⟨k, hk, hkx⟩ := hstands.keyed_eq
  refine ⟨k, by rw [hcoset, ok_bind, hk], hkx, a, ha, members, ?_⟩
  exact Except.ok.inj (hk.symm.trans (keyed_coset loose_ne_faulty))

/-- The list of cosets holds every translate. -/
theorem leftTranslates_spec (hS : stabilizer M S = N) (hH : Consists R H S) :
    ∃ cosets : List Value, G.candidate.leftCosets H.candidate = .ok cosets ∧
      Standing (StandsForTranslate R S N) cosets ∧
      extent (StandsForTranslate R S N) cosets = Set.univ ∧ ∀ c ∈ cosets, Listed G H c := by
  have hfaithful := faithful_translate hG.faithful hS
  obtain ⟨found, hfound, hall⟩ := exists_mapM G.els
      (f := fun g => cosetOf .left G.value.meaning G.value H.value g >>= Value.keyed)
      (P := fun g c => ∃ x, R g x ∧ StandsForTranslate R S N c x ∧ Listed G H c) fun g hg => by
    obtain ⟨x, hx⟩ := hG.standing g hg
    obtain ⟨c, hc, hcx, hlisted⟩ := hG.keyed_translateOf_spec hH hg hx
    exact ⟨c, hc, x, hx, hcx, hlisted⟩
  obtain ⟨hstand, hextent⟩ := hG.faithful.extent_of_forall₂ hfaithful
    (f := fun x : M => (x : M ⧸ N)) (hall.imp fun g c h => by
      obtain ⟨x, hx, hcx, -⟩ := h
      exact ⟨x, hx, hcx⟩)
  refine ⟨(Roster.ofList found).toList, ?_, hstand.mono fun c => Roster.mem_of_mem_ofList, ?_, ?_⟩
  · show (do
      let found ← G.els.mapM fun g => do
        (← cosetOf .left G.value.meaning G.value H.value g).keyed
      return (Roster.ofList found).toList) = _
    rw [hfound]
    rfl
  · rw [hfaithful.extent_ofList hstand, hextent, hG.extent_els, Set.image_univ]
    exact Set.range_eq_univ.2 QuotientGroup.mk_surjective
  · intro c hc
    obtain ⟨i, hi, rfl⟩ := List.getElem_of_mem (Roster.mem_of_mem_ofList hc)
    obtain ⟨-, -, -, hlisted⟩ := hall.get (hall.length_eq ▸ hi) hi
    exact hlisted

/-- The list of cosets holds every coset. -/
theorem leftCosets_spec (hH : Consists R H N) : ∃ cosets : List Value,
    G.candidate.leftCosets H.candidate = .ok cosets ∧ Standing (StandsForCoset R N) cosets ∧
      extent (StandsForCoset R N) cosets = Set.univ ∧ ∀ c ∈ cosets, Listed G H c := by
  rw [standsForCoset_eq]
  exact hG.leftTranslates_spec (stabilizer_subgroup N) hH

end Realizes

/-! ## Normality -/

section

variable {K : FiniteGroup} (h : Multiplies R K.mul)
include h

/-- A conjugate is a product of three, of which the last is what is taken for the inverse. -/
theorem conjugate_spec {a g i : Value} {x y w : M} (ha : R a x) (hg : R g y)
    (hi : K.inverse g = .ok i) (hw : R i w) :
    ∃ c, K.conjugate a g = .ok c ∧ R c (y * x * w) := by
  obtain ⟨b, hb, hbyx⟩ := h.mul_eq hg ha
  obtain ⟨c, hc, hcyx⟩ := h.mul_eq hbyx hw
  exact ⟨c, by rw [conjugate, conjugateBy, hb, ok_bind, hi, ok_bind, hc], hcyx⟩

/-- The conjugates of the elements of a group are found. -/
theorem conjugates_spec (hH : Consists R H S) {g i : Value} {y w : M} (hg : R g y)
    (hi : K.inverse g = .ok i) (hw : R i w) :
    ∃ found, K.candidate.conjugates H.candidate g = .ok found ∧ Standing R found ∧
      extent R found = (fun x => y * x * w) '' S := by
  rw [← hH.extent_eq, ← hH.els_eq]
  exact h.faithful.exists_images h.faithful hH.standing_els fun a _ x hx =>
    conjugate_spec h hx hg hi hw

/-- The conjugates of the elements of a group are found as a set. -/
theorem conjugateSet_spec (hH : Consists R H S) {g i : Value} {y w : M} (hg : R g y)
    (hi : K.inverse g = .ok i) (hw : R i w) :
    ∃ found, K.candidate.conjugateSet H.candidate g = .ok found ∧
      Standing R found.toList ∧ extent R found.toList = (fun x => y * x * w) '' S := by
  obtain ⟨found, hfound, hstand, hextent⟩ := h.faithful.exists_keyed_images h.faithful h.keyed_eq
    (f := fun a => K.conjugate a g) (φ := fun x => y * x * w) hH.standing_els fun a _ x hx =>
      conjugate_spec h hx hg hi hw
  refine ⟨.ofList found, ?_, hstand, ?_⟩
  · show (do return Roster.ofList (← H.els.mapM fun a => do (← K.conjugate a g).keyed)) = _
    rw [hfound]
    rfl
  · rw [hextent, hH.els_eq, hH.extent_eq]

end

namespace Forms

variable {K : FiniteGroup} {T : Subgroup M} (h : Forms R K T)
include h

theorem exists_inverse {g : Value} {y : M} (hg : g ∈ K.els) (hy : R g y) :
    ∃ i, K.inverse g = .ok i ∧ R i y⁻¹ := by
  obtain ⟨z, i, hz, hi, hiz⟩ := h.invertible g hg
  exact ⟨i, hi, h.faithful.unique hz hy ▸ hiz⟩

/-- Whether conjugation by an element maps a group onto itself is found out. -/
theorem normalizes_spec (hH : Consists R H S) {g : Value} {y : M} (hg : g ∈ K.els)
    (hy : R g y) : ∃ answer, K.candidate.normalizes H.candidate H.elements g = .ok answer ∧
      (answer = true ↔ y ∈ Subgroup.normalizer S) := by
  obtain ⟨i, hi, hiy⟩ := h.exists_inverse hg hy
  obtain ⟨found, hfound, hstand, hextent⟩ := conjugateSet_spec h.toMultiplies hH hy hi hiy
  refine ⟨found.sameSet H.elements, ?_, ?_⟩
  · rw [Candidate.normalizes, hfound]
    rfl
  · rw [h.faithful.sameSet_iff hstand hH.standing, hextent, hH.extent_eq,
      Subgroup.mem_normalizer_iff_conj_image_eq]
    rfl

/-- A group is found to be normal exactly if all elements normalize it. -/
theorem isNormal_spec (hH : Consists R H S) : ∃ answer,
    K.candidate.isNormal H.candidate = .ok answer ∧
      (answer = true ↔ T ≤ Subgroup.normalizer S) := by
  obtain ⟨answer, hanswer, hiff⟩ := h.faithful.exists_allM
      (f := K.candidate.normalizes H.candidate H.elements) h.standing_els
      fun g hg y hy => h.normalizes_spec hH hg hy
  refine ⟨answer, hanswer, hiff.trans ?_⟩
  rw [h.els_eq, h.extent_eq]
  rfl

end Forms

namespace Realizes

variable (hG : G.Realizes R)
include hG

theorem conjugate_spec {a g : Value} {x y : M} (ha : R a x) (hg : g ∈ G.els) (hy : R g y) :
    ∃ c, G.conjugate a g = .ok c ∧ R c (y * x * y⁻¹) := by
  obtain ⟨i, hi, hiy, -⟩ := hG.inverse_eq hg hy
  exact FiniteGroup.conjugate_spec hG.toMultiplies ha hy hi hiy

/-- A subgroup is found to be normal exactly if it is. -/
theorem isNormal_spec (hH : Consists R H N) : ∃ answer,
    G.candidate.isNormal H.candidate = .ok answer ∧ (answer = true ↔ N.Normal) := by
  obtain ⟨answer, hanswer, hiff⟩ := hG.forms.isNormal_spec hH
  exact ⟨answer, hanswer, hiff.trans (top_le_iff.trans Subgroup.normalizer_eq_top_iff)⟩

end Realizes

end FiniteGroup

end FiniteGroups
