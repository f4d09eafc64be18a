import FiniteGroups.Proofs.Assignment
import FiniteGroups.Proofs.Residues

/-!
# Inverses

A group that is given no inverse looks for one among its elements. What is found for a value is
the inverse of what the value stands for (`searchInverses_spec`), so a group of values that
multiply like the elements of a group needs no inverse (`Realizes.of_search`).

An inverse that is given is a function of which it is only known what it does to the elements as
they are listed. `ValidGroup.Inverts` says that it does the same to all values that are equal to
them. A search does (`ValidGroup.inverts_of_search`).
-/

set_option linter.unusedSectionVars false

namespace FiniteGroups

open FiniteGroup

/-! ## The search for inverses -/

section

variable {M : Type} [Group M] {R : Value → M → Prop} {mul : Value → Value → Except Fault Value}
  {els : List Value} {identity : Value} (hmul : Multiplies R mul)
  (hequal : ∀ ⦃a b x y⦄, R a x → R b y → a.equal b = .ok (a == b)) (hels : Standing R els)
  (hall : extent R els = Set.univ) (hone : R identity 1)
include hmul hequal hels hall hone

theorem searchInverse_spec {a : Value} {x : M} (ha : R a x) :
    ∃ b, searchInverse mul identity a els = .ok (some b) ∧ R b x⁻¹ := by
  obtain ⟨b, -, hb, hinv⟩ := exists_findM? els (f := fun b => do (← mul a b).equal identity)
      (P := fun b => R b x⁻¹) (fun b hb => by
    obtain ⟨y, hy⟩ := hels b hb
    obtain ⟨c, hc, hxy⟩ := hmul.mul_eq ha hy
    refine ⟨_, by rw [hc, ok_bind, hequal hxy hone], ?_⟩
    rw [hmul.faithful hxy hone, mul_eq_one_iff_inv_eq]
    exact ⟨fun h => h ▸ hy, fun h => hmul.faithful.unique h hy⟩) (hall.superset (Set.mem_univ x⁻¹))
  exact ⟨b, hb, hinv⟩

omit hequal hels hall hone in
/-- An inverse that was found is added to the graph. -/
theorem set_inverse_spec {met : List Value} {found : Assignment Value Value}
    (hstand : Standing (Paired R R) found.toList)
    (hextent : extent (Paired R R) found.toList = (fun x => (x, x⁻¹)) '' extent R met)
    {a b : Value} {x : M} (ha : R a x) (hb : R b x⁻¹) :
    Standing (Paired R R) (found.set a b).toList ∧ extent (Paired R R) (found.set a b).toList =
      insert (x, x⁻¹) (extent (Paired R R) found.toList) := by
  have hR := hmul.faithful
  obtain ⟨hnew, -⟩ | ⟨-, c, y, -, -, hy⟩ := Assignment.get?_cases hstand hR ha
  · exact Assignment.graph_set_of_new hstand hR hR ha hb hnew
  · obtain ⟨z, -, hzx⟩ := hextent.subset hy
    obtain ⟨rfl, rfl⟩ := Prod.mk.inj hzx
    rw [Set.insert_eq_of_mem hy]
    exact Assignment.graph_set_of_mem hstand hR hR ha hb hy

/-- What is found for the elements is the graph of the inverse. -/
theorem searchInverses_spec : ∃ found, searchInverses els mul identity = .ok found ∧
    Standing (Paired R R) found.toList ∧
    extent (Paired R R) found.toList = Set.range fun x => (x, x⁻¹) := by
  have hR := hmul.faithful
  have hrun : ∃ found, searchInverses els mul identity = .ok found ∧
      Standing (Paired R R) found.toList ∧
      extent (Paired R R) found.toList = (fun x => (x, x⁻¹)) '' extent R els := by
    refine exists_foldlM (fun met (found : Assignment Value Value) =>
      Standing (Paired R R) found.toList ∧
      extent (Paired R R) found.toList = (fun x => (x, x⁻¹)) '' extent R met)
      (fun met a rest found hmet h => ?_) ⟨by simp [Standing], by simp⟩
    obtain ⟨x, hx⟩ := hels a (by simp [← hmet])
    obtain ⟨b, hb, hbx⟩ := searchInverse_spec hmul hequal hels hall hone hx
    obtain ⟨k, hk, hkx⟩ := hmul.keyed_eq hx
    obtain ⟨hstand, hextent⟩ :=
      set_inverse_spec hmul h.1 h.2 hkx hbx
    refine ⟨found.set k b, by rw [hb, ok_bind]; simp only [hk]; rfl, hstand, ?_⟩
    rw [hextent, h.2, extent_append, hR.extent_singleton hx, Set.image_union, Set.image_singleton,
      Set.union_singleton]
  obtain ⟨found, hfound, hstand, hextent⟩ := hrun
  exact ⟨found, hfound, hstand, by rw [hextent, hall, Set.image_univ]⟩

/-- The inverse is found of every value that stands for something. -/
theorem foundInverse_spec {a : Value} {x : M} (ha : R a x) :
    ∃ b, foundInverse (keptInverses .none els mul identity) a = .ok b ∧ R b x⁻¹ := by
  obtain ⟨found, hfound, hstand, hextent⟩ := searchInverses_spec hmul hequal hels hall hone
  obtain ⟨k, hk, hkx⟩ := hmul.keyed_eq ha
  obtain ⟨b, hb, hbx⟩ := (Assignment.exists_get?_iff hstand hmul.faithful hkx).2
    (hextent.superset ⟨x, rfl⟩)
  refine ⟨b, ?_, hbx⟩
  show (do return ((← searchInverses els mul identity).get? (← a.keyed)).getD .none) = _
  rw [hfound, ok_bind, hk, ok_bind, hb]
  rfl

end

/-- Values that multiply like the elements of a group are a group, which finds its inverses. -/
theorem FiniteGroup.Realizes.of_search {M : Type} [Group M] {R : Value → M → Prop}
    {els : Roster Value} {op identity gens name : Value}
    (hmul : Multiplies R (ofRoster els op identity .none gens name).mul)
    (hequal : ∀ ⦃a b x y⦄, R a x → R b y → a.equal b = .ok (a == b))
    (hels : Standing R els.toList) (hall : extent R els.toList = Set.univ) (hone : R identity 1)
    (hnone : ∀ x, ¬R .none x) (hname : Nameable name) :
    (ofRoster els op identity .none gens name).Realizes R where
  toMultiplies := hmul
  intact := intact_ofRoster _ _ _ _ _ hname
  equal_eq := hequal
  standing := (hmul.faithful.extent_promote hels hone).1
  surjective x := by
    have hextent := (hmul.faithful.extent_promote hels hone).2.trans hall
    exact hextent.superset (Set.mem_univ x)
  one := hone
  inverse_eq a x _ hx := by
    obtain ⟨hstand, hextent⟩ := hmul.faithful.extent_promote hels hone
    obtain ⟨b, hb, hbx⟩ :=
      foundInverse_spec hmul hequal hstand (hextent.trans hall) hone hx
    refine ⟨b, hb, hbx, ?_⟩
    rintro rfl
    exact hnone _ hbx
  inverse_keyed a k ha hk := by
    obtain ⟨x, hx⟩ := (hmul.faithful.extent_promote hels hone).1 a ha
    have hkx := hmul.stands_of_keyed hx hk
    obtain ⟨l, hl, hlx⟩ := hmul.keyed_eq hkx
    show foundInverse _ k = foundInverse _ a
    rw [foundInverse, foundInverse]
    refine bind_congr fun found => ?_
    rw [hk, hl, ok_bind, ok_bind, found.get?_congr ((hmul.faithful hlx hkx).2 rfl)]

namespace ValidGroup

variable (G : ValidGroup)

/-- The inverse of an element is given for every value that is equal to the element. -/
def Inverts : Prop :=
  ∀ ⦃a x⦄, G.Stands a x → G.Invertible G.Stands a

variable {G}

/-- A group that was given no inverse and looks for it inverts all values that are equal to
elements. -/
theorem inverts_of_search (hinv : G.inv = .none) (hkept : G.kept = .none) : G.Inverts := by
  intro a x ha
  have hG := G.realizes
  obtain ⟨b, hb, hbx⟩ := foundInverse_spec hG.toMultiplies hG.equal_eq hG.standing
    hG.extent_els hG.one ha
  refine ⟨x, b, ha, ?_, hbx⟩
  rw [← G.intact.inverseBy_eq, hinv, hkept]
  exact hb

/-- Every value that is equal to a residue is an element. -/
theorem inverts_residues {n : Nat} {hn : 0 < n} {hbound : n ≤ 2 ^ 63} :
    (validResidues hn hbound).Inverts := by
  rintro a x ⟨⟨y, hy⟩, -⟩
  refine realizes.invertible_of_mem ?_
  obtain ⟨m, hm, hmn, rfl, -⟩ := hy
  lift m to ℕ using hm
  exact (mem_residues hn).2 ⟨m, by omega, rfl⟩

end ValidGroup

end FiniteGroups
