import FiniteGroups.Proofs.Inverses
import FiniteGroups.Proofs.Lookups
import FiniteGroups.Proofs.MapValues

/-!
# Groups and their tables

The table of a group has the numbers of its elements in every row and in every column, in order
where the identity is a factor, and the numbers with this table are a group to which the numbering
of the elements is an isomorphism (`ValidGroup.exists_encoded`).
-/

set_option linter.unusedSectionVars false

namespace FiniteGroups

open FiniteGroup

/-- Values that are places, each once, are the places in some order. -/
theorem perm_range {n : Nat} {f : Nat → Int} (hf : ∀ i < n, ∃ k < n, f i = k)
    (hinj : ∀ i < n, ∀ j < n, f i = f j → i = j) :
    ((List.range n).map f).Perm ((List.range n).map Nat.cast) := by
  have hnodup : ((List.range n).map f).Nodup := by
    refine List.Nodup.map_on (fun i hi j hj => ?_) List.nodup_range
    exact hinj i (List.mem_range.1 hi) j (List.mem_range.1 hj)
  have hsubset : (List.range n).map f ⊆ (List.range n).map Nat.cast := by
    intro m hm
    obtain ⟨i, hi, rfl⟩ := List.mem_map.1 hm
    obtain ⟨k, hk, hfk⟩ := hf i (List.mem_range.1 hi)
    exact List.mem_map.2 ⟨k, List.mem_range.2 hk, hfk.symm⟩
  exact (List.subperm_of_subset hnodup hsubset).perm_of_length_le (by simp)

namespace FiniteGroup

/-- The table of a group as an array is read as this table. -/
theorem exists_readTable {G : FiniteGroup} {t : Table} (ht : G.table = .ok t) :
    ∃ v, G.tableValue = .ok v ∧ v.readTable = .ok t := by
  rw [table] at ht
  rw [tableValue]
  split at ht
  · next hnone =>
    rw [hnone]
    exact ⟨Value.ofTable t, by simp [ht], Value.readTable_ofTable t⟩
  · next place g harray =>
    rw [harray]
    split at ht
    · next t' hg =>
      obtain rfl := Except.ok.inj ht
      exact ⟨_, rfl, Value.readTable_of_toTable? hg⟩
    · cases ht
  · cases ht
  · cases ht

/-- The function that tells the position of an element. -/
theorem method_indexOf (G : FiniteGroup) (a : Value) :
    G.value.meaning.method "index_of" [a] = G.position a := by
  obtain ⟨own, h⟩ := G.meaning_value
  have hread : G.reread.position? a = G.position? a := by rw [position?_reread]
  rw [h, position, ← hread]
  rfl

variable {M : Type} [Group M] {R : Value → M → Prop} {G : FiniteGroup}

/-- The number of a place stands for what the element at the place stands for. -/
def Numbered (G : FiniteGroup) (R : Value → M → Prop) (a : Value) (x : M) : Prop :=
  ∃ i, ∃ hi : i < G.els.length, a = Value.int i ∧ R G.els[i] x

namespace Realizes

variable (hG : G.Realizes R)
include hG

/-- An entry of the table is the place of a product. -/
theorem get_table {t : Table} (ht : G.table = .ok t) {i j : Nat} (hi : i < G.els.length)
    (hj : j < G.els.length) {x y : M} (hx : R G.els[i] x) (hy : R G.els[j] y) :
    ∃ k, ∃ hk : k < G.els.length, t.get i j = k ∧ R G.els[k] (x * y) := by
  obtain ⟨c, hc, hplace⟩ := (hG.intact.indexed.tabulates ht).get_eq i hi j hj
  obtain ⟨c', hc', hxy⟩ := hG.mul_eq hx hy
  obtain rfl := Except.ok.inj (hc.symm.trans hc')
  obtain ⟨k, hk, hget, hbeq, -⟩ | ⟨-, hout⟩ := hplace
  · obtain ⟨z, hz⟩ := hG.standing _ (List.getElem_mem hk)
    exact ⟨k, hk, hget, (hG.faithful hz hxy).1 hbeq ▸ hz⟩
  · rw [hG.contains_eq hxy] at hout
    cases hout

/-- Elements at two places are one only if the places are. -/
theorem eq_of_stands_getElem {i j : Nat} (hi : i < G.els.length) (hj : j < G.els.length) {x : M}
    (hx : R G.els[i] x) (hy : R G.els[j] x) : i = j :=
  (hG.nodup_els.getElem_inj_iff).1
    (hG.eq_of_stands (List.getElem_mem hi) (List.getElem_mem hj) hx hy)

/-- The element in front stands for the unit. -/
theorem exists_front : ∃ hpos : 0 < G.els.length, R G.els[0] 1 := by
  obtain ⟨rest, hels⟩ := List.head?_eq_some_iff.1 hG.head?_els
  refine ⟨by simp [hels], ?_⟩
  simp only [hels, List.getElem_cons_zero]
  exact hG.one

section

variable {t : Table} (ht : G.table = .ok t)
include ht

/-- The table has the place of an element exactly where the product is this element. -/
theorem get_eq_iff {i j k : Nat} (hi : i < G.els.length) (hj : j < G.els.length)
    (hk : k < G.els.length) {x y z : M} (hx : R G.els[i] x) (hy : R G.els[j] y)
    (hz : R G.els[k] z) : t.get i j = k ↔ x * y = z := by
  obtain ⟨p, hp, hget, hxy⟩ := hG.get_table ht hi hj hx hy
  rw [hget, Int.natCast_inj]
  constructor
  · rintro rfl
    exact hG.faithful.unique hxy hz
  · rintro rfl
    exact hG.eq_of_stands_getElem hp hk hxy hz

/-- Entries that are one come from products that are one. -/
theorem mul_eq_of_get_eq {i j k l : Nat} (hi : i < G.els.length) (hj : j < G.els.length)
    (hk : k < G.els.length) (hl : l < G.els.length) {x y z w : M} (hx : R G.els[i] x)
    (hy : R G.els[j] y) (hz : R G.els[k] z) (hw : R G.els[l] w) (h : t.get i j = t.get k l) :
    x * y = z * w := by
  obtain ⟨p, hp, hget, hzw⟩ := hG.get_table ht hk hl hz hw
  exact (hG.get_eq_iff ht hi hj hp hx hy hzw).1 (h.trans hget)

theorem size_table : t.size = G.els.length :=
  (hG.intact.indexed.tabulates ht).size_eq

theorem isInside_table : t.IsInside := by
  intro i hi j hj
  rw [hG.size_table ht] at hi hj ⊢
  obtain ⟨x, hx⟩ := hG.standing _ (List.getElem_mem hi)
  obtain ⟨y, hy⟩ := hG.standing _ (List.getElem_mem hj)
  obtain ⟨k, hk, hget, -⟩ := hG.get_table ht hi hj hx hy
  exact ⟨k, hk, hget⟩

/-- The identity stands in front, and the table has it there. -/
theorem hasIdentity_table : t.HasIdentity 0 := by
  obtain ⟨hpos, hone⟩ := hG.exists_front
  refine ⟨hG.size_table ht ▸ hpos, fun i hi => ?_, fun i hi => ?_⟩
  all_goals
    rw [hG.size_table ht] at hi
    obtain ⟨x, hx⟩ := hG.standing _ (List.getElem_mem hi)
  · exact (hG.get_eq_iff ht hpos hi hi hone hx hx).2 (one_mul x)
  · exact (hG.get_eq_iff ht hi hpos hi hx hone hx).2 (mul_one x)

/-- In a row of the table no place stands twice. -/
theorem row_injective {i : Nat} (hi : i < t.size) : ∀ j < t.size, ∀ k < t.size,
    t.get i j = t.get i k → j = k := by
  rw [hG.size_table ht] at hi ⊢
  intro j hj k hk heq
  obtain ⟨x, hx⟩ := hG.standing _ (List.getElem_mem hi)
  obtain ⟨y, hy⟩ := hG.standing _ (List.getElem_mem hj)
  obtain ⟨z, hz⟩ := hG.standing _ (List.getElem_mem hk)
  have hproduct : x * y = x * z := hG.mul_eq_of_get_eq ht hi hj hi hk hx hy hx hz heq
  obtain rfl := mul_left_cancel hproduct
  exact hG.eq_of_stands_getElem hj hk hy hz

/-- In a column of the table no place stands twice. -/
theorem column_injective {j : Nat} (hj : j < t.size) : ∀ i < t.size, ∀ k < t.size,
    t.get i j = t.get k j → i = k := by
  rw [hG.size_table ht] at hj ⊢
  intro i hi k hk heq
  obtain ⟨x, hx⟩ := hG.standing _ (List.getElem_mem hi)
  obtain ⟨y, hy⟩ := hG.standing _ (List.getElem_mem hj)
  obtain ⟨z, hz⟩ := hG.standing _ (List.getElem_mem hk)
  have hproduct : x * y = z * y := hG.mul_eq_of_get_eq ht hi hj hk hj hx hy hz hy heq
  obtain rfl := mul_right_cancel hproduct
  exact hG.eq_of_stands_getElem hi hk hx hz

/-- The numbers with the table of a group multiply as the elements at these places do. -/
theorem multiplies_numbered (e : Nat) : Multiplies (Numbered G R) (numbersOf t e).mul where
  faithful := by
    rintro _ _ x y ⟨i, hi, rfl, hx⟩ ⟨j, hj, rfl, hy⟩
    rw [beq_int, Int.natCast_inj]
    refine ⟨fun h => ?_, fun h => hG.eq_of_stands_getElem hi hj hx (h ▸ hy)⟩
    obtain rfl := h
    exact hG.faithful.unique hx hy
  mul_eq := by
    rintro _ _ x y ⟨i, hi, rfl, hx⟩ ⟨j, hj, rfl, hy⟩
    obtain ⟨k, hk, hget, hxy⟩ := hG.get_table ht hi hj hx hy
    rw [← hG.size_table ht] at hi hj
    exact ⟨.int k, by rw [mul_numbersOf hi hj, hget], k, hk, rfl, hxy⟩
  keyed_eq := by
    rintro _ x ⟨i, hi, rfl, hx⟩
    exact ⟨_, rfl, i, hi, rfl, hx⟩

/-- The numbers with the table of a group realize what the group does. -/
theorem realizes_numbersOf : (numbersOf t 0).Realizes (Numbered G R) := by
  have hlist := Roster.toList_ofList (pairwise_range t.size)
  refine Realizes.of_search (hG.multiplies_numbered ht 0) ?_ ?_ ?_ ?_ ?_ (.inl rfl)
  · rintro _ _ x y ⟨i, hi, rfl, -⟩ ⟨j, hj, rfl, -⟩
    exact Value.equal_of_isSimple rfl rfl
  · intro a ha
    rw [hlist] at ha
    obtain ⟨i, hi, rfl⟩ := List.mem_map.1 ha
    rw [List.mem_range, hG.size_table ht] at hi
    obtain ⟨x, hx⟩ := hG.standing _ (List.getElem_mem hi)
    exact ⟨x, i, hi, rfl, hx⟩
  · refine Set.eq_univ_of_forall fun x => ?_
    obtain ⟨a, ha, hx⟩ := hG.surjective x
    obtain ⟨i, hi, rfl⟩ := List.getElem_of_mem ha
    refine ⟨Value.ofNat i, ?_, i, hi, rfl, hx⟩
    rw [hlist]
    exact List.mem_map_of_mem (List.mem_range.2 (hG.size_table ht ▸ hi))
  · obtain ⟨hpos, hone⟩ := hG.exists_front
    exact ⟨0, hpos, rfl, hone⟩
  · rintro x ⟨i, hi, hnone, -⟩
    cases hnone

end

/-- The numbering of the elements is an isomorphism to the numbers with the table. -/
theorem exists_indexOf {t : Table} (ht : G.table = .ok t) : ∃ f,
    GroupMap.ofSending G.candidate (numbersOf t 0).candidate (.method 0 G.value "index_of") = .ok f ∧
      f.isHom = .ok true ∧ f.isIso = .ok true := by
  have hN := hG.realizes_numbersOf ht
  have hsend : ∀ g ∈ G.els, ∀ x, R g x →
      ∃ b, G.position g = .ok b ∧ Numbered G R b (MonoidHom.id M x) := by
    intro g _ x hx
    obtain ⟨p, hp, hposition, hpx⟩ := hG.position_spec hx
    exact ⟨_, hposition, p, hp, rfl, hpx⟩
  obtain ⟨f, hf, -, htgt, hsends, hvalues⟩ := GroupMap.ofFunction_spec hG hN hsend
  have hmade : GroupMap.ofSending G.candidate (numbersOf t 0).candidate
      (.method 0 G.value "index_of") = .ok f := by
    have hcall : (fun g => (Value.method 0 G.value "index_of").meaning.call [g]) = G.position := by
      funext g
      rw [meaning_method]
      exact G.method_indexOf g
    rw [← hf, ← hcall]
    rfl
  refine ⟨f, hmade, hsends.isHom_eq, (eq_ok_true_iff (hsends.isIso_spec fun b hb k hk => ?_)).2
    Function.bijective_id⟩
  -- the numbers are inverted as they are listed
  obtain ⟨g, hg, hgb⟩ := hvalues b hb
  obtain ⟨x, hx⟩ := hG.standing g hg
  obtain ⟨p, hp, hposition, -⟩ := hG.position_spec hx
  obtain rfl := Except.ok.inj (hposition.symm.trans hgb)
  obtain rfl := Except.ok.inj hk
  have hpos := (hG.hasIdentity_table ht).lt_size
  exact htgt ▸ hN.invertible_of_mem (mem_els_numbersOf hpos (hG.size_table ht ▸ hp))

end Realizes

end FiniteGroup

/-! ## The table of a valid group -/

namespace ValidGroup

/-- The table `t` of the group `G` and the group `R` of the numbers with this table. -/
structure IsEncoded (G : ValidGroup) (t : Table) (R : ValidGroup) : Prop where
  table_eq : G.table = .ok t
  /-- The table as an array is read as the table. -/
  readTable_eq : ∃ v, G.tableValue = .ok v ∧ v.readTable = .ok t
  size_eq : t.size = G.order
  row_perm : ∀ i < t.size,
    ((List.range t.size).map fun j => t.get i j).Perm ((List.range t.size).map Nat.cast)
  column_perm : ∀ j < t.size,
    ((List.range t.size).map fun i => t.get i j).Perm ((List.range t.size).map Nat.cast)
  /-- The row and the column in front are in order. -/
  get_zero : ∀ i < t.size, t.get 0 i = i ∧ t.get i 0 = i
  ofTable_eq : ofTable t = .ok R.toFiniteGroup
  restored_eq : R.table = .ok t
  /-- The numbering is a homomorphism and an isomorphism. -/
  exists_indexOf : ∃ f,
    GroupMap.ofSending G.candidate R.candidate (.method 0 G.value "index_of") = .ok f ∧
      f.isHom = .ok true ∧ f.isIso = .ok true

/-- A group has a table, which makes it again up to the names of its elements. -/
theorem exists_encoded (G : ValidGroup) : ∃ t R, G.IsEncoded t R := by
  have hG := G.realizes
  obtain ⟨t, ht⟩ := hG.exists_table
  have hinside := hG.isInside_table ht
  have hidentity := hG.hasIdentity_table ht
  refine ⟨t, ofRealizes (hG.realizes_numbersOf ht), ht, exists_readTable ht,
    hG.size_table ht, fun i hi => perm_range (hinside i hi) (hG.row_injective ht hi),
    fun j hj => perm_range (fun i hi => hinside i hi j hj) (hG.column_injective ht hj),
    fun i hi => ⟨hidentity.left_eq i hi, hidentity.right_eq i hi⟩,
    ofTable_eq_ok_iff.2 ⟨0, hidentity, rfl⟩, table_numbersOf hinside hidentity,
    hG.exists_indexOf ht⟩

end ValidGroup

end FiniteGroups
