import FiniteGroups.Proofs.GeneratorImages
import FiniteGroups.Proofs.PermGroups
import FiniteGroups.Proofs.Violations

/-!
# Groups that are checked when they are made

Whoever makes a group may ask for its axioms to be checked. If everything that is asked has an
answer, the check is decisive : it finds nothing exactly if the laws hold, and a group is refused
exactly if they do not (`FiniteGroup.Checkable.decides`).

The laws take a product for the element that it is equal to. If the operation respects equality,
the associative law may as well be read off the products themselves
(`FiniteGroup.Checkable.laws_iff`); if it does not, the two differ, as they do for the left cosets
of a subgroup that is not normal (`FiniteGroup.check_ne_axioms`).
-/

namespace FiniteGroups

namespace FiniteGroup

variable {G : FiniteGroup}

/-- Equal factors have equal products, if one of them is a product of elements and the other one
an element. -/
def Respectful (G : FiniteGroup) : Prop :=
  ∀ ⦃a b c d⦄, a ∈ G.els → b ∈ G.els → c ∈ G.els → G.mul a b = .ok d → ∀ p ∈ G.els,
    (p == d) = true →
      (∃ x y, G.mul d c = .ok x ∧ G.mul p c = .ok y ∧ (x == y) = true) ∧
      ∃ x y, G.mul c d = .ok x ∧ G.mul c p = .ok y ∧ (x == y) = true

/-- The two products of three elements are equal. -/
def Associates (G : FiniteGroup) : Prop :=
  ∀ a ∈ G.els, ∀ b ∈ G.els, ∀ c ∈ G.els, ∃ d f x y, G.mul a b = .ok d ∧ G.mul b c = .ok f ∧
    G.mul d c = .ok x ∧ G.mul a f = .ok y ∧ (x == y) = true

/-- What the check says is decided by the laws. -/
structure Decides (G : FiniteGroup) : Prop where
  verify_iff : ∀ ⦃most m⦄, most.index = .ok m → 1 ≤ m →
    (∃ v, G.verify most = .ok v ∧ (v.ok = true ↔ G.Laws)) ∨
      ¬G.Laws ∧ ∃ e, G.verify most = .error e ∧ G.Unwritten e
  /-- A group that satisfies the laws is made, and its table and its inverses are kept with it. -/
  make_of_laws : ∀ ⦃els op identity inv gens name flag⦄,
    ofElements els op identity inv gens name = .ok G → flag.truthy = .ok true → G.Laws →
      ∃ table inverses, (do (← ofElements els op identity inv gens name).checkedIf flag) =
        .ok { G with memory := table, kept := inverses }
  /-- A group that does not is refused, with what was found. -/
  make_of_not_laws : ∀ ⦃els op identity inv gens name flag⦄,
    ofElements els op identity inv gens name = .ok G → flag.truthy = .ok true → ¬G.Laws →
      ∃ e, (do (← ofElements els op identity inv gens name).checkedIf flag) = .error e ∧
        (e.category = .structural ∨ G.Unwritten e)
  laws_iff : G.Respectful → (G.Laws ↔ G.Closed ∧ G.Associates)

/-! ## The verdict -/

namespace Checkable

variable (hG : G.Checkable)
include hG

theorem verify_iff {most : Value} {m : Int} (hmost : most.index = .ok m) (hm : 1 ≤ m) :
    (∃ v, G.verify most = .ok v ∧ (v.ok = true ↔ G.Laws)) ∨
      ¬G.Laws ∧ ∃ e, G.verify most = .error e ∧ G.Unwritten e := by
  by_cases hlaws : G.Laws
  · obtain ⟨t, ht⟩ := hG.exists_table
    exact .inl ⟨⟨[]⟩, hlaws.verify_eq hG.toIndexed hG.none_not_mem ht hmost,
      iff_of_true rfl hlaws⟩
  · cases hv : G.verify most with
    | error e => exact .inr ⟨hlaws, e, rfl, hG.failsInWriting_verify hmost e hv⟩
    | ok v =>
      exact .inl ⟨v, rfl, iff_of_false (fun hok => hlaws (hG.laws_of_verify hmost hm hv hok)) hlaws⟩

/-- A group that does not satisfy the laws is refused. -/
theorem checked_of_not_laws (hlaws : ¬G.Laws) :
    ∃ e, G.checked = .error e ∧ (e.category = .structural ∨ G.Unwritten e) := by
  have hmost : maxErrors.index = .ok 20 := rfl
  obtain ⟨v, hv, hiff⟩ | ⟨-, e, he, hwrite⟩ := hG.verify_iff hmost (by decide)
  · refine ⟨.axiomsViolated v.summary, ?_, .inl rfl⟩
    rw [checked, requireAxioms, hv, ok_bind, Bool.eq_false_iff.2 fun hok => hlaws (hiff.1 hok)]
    rfl
  · exact ⟨e, by rw [checked, requireAxioms, he]; rfl, .inr hwrite⟩

/-- A group that satisfies the laws passes, if its inverses are given or found. -/
theorem checked_of_laws (hlaws : G.Laws) (hmemory : G.memory = .none)
    (hfound : ∃ inverses, G.foundInverses = .ok inverses) :
    ∃ table inverses, G.checked = .ok { G with memory := table, kept := inverses } := by
  obtain ⟨t, ht⟩ := hG.exists_table
  obtain ⟨inverses, hinverses⟩ := hfound
  have hmost : maxErrors.index = .ok 20 := rfl
  have hverify := hlaws.verify_eq hG.toIndexed hG.none_not_mem ht hmost
  have htable : G.tableValue = .ok (.ofTable t) := by
    rw [hG.table_eq] at ht
    rw [tableValue, hmemory, ht]
    rfl
  exact ⟨.ofTable t, inverses, by rw [checked, requireAxioms, hverify, htable, hinverses]; rfl⟩

end Checkable

/-- What is made of elements is as it was made. -/
theorem exists_ofRoster {els op identity inv gens name : Value}
    (h : ofElements els op identity inv gens name = .ok G) :
    ∃ r gens', G = ofRoster r op identity inv gens' name := by
  obtain ⟨entries, -, h⟩ := bind_eq_ok.1 h
  obtain ⟨r, -, h⟩ := bind_eq_ok.1 h
  obtain ⟨-, -, h⟩ := bind_eq_ok.1 h
  obtain ⟨gens', -, h⟩ := bind_eq_ok.1 h
  exact ⟨r, gens', (Except.ok.inj h).symm⟩

/-- If one element has an inverse, the inverses could be found. -/
theorem exists_foundInverses {r : Roster Value} {op identity inv gens name a b : Value}
    (h : (ofRoster r op identity inv gens name).inverse a = .ok b) :
    ∃ inverses, (ofRoster r op identity inv gens name).foundInverses = .ok inverses := by
  rw [foundInverses]
  split
  · next hinv =>
    obtain rfl : inv = .none := hinv
    obtain ⟨found, hfound, -⟩ := bind_eq_ok.1 h
    exact ⟨.ofAssignment found, bind_eq_ok.2 ⟨found, hfound, rfl⟩⟩
  · exact ⟨.none, rfl⟩

namespace Respectful

variable (hrespect : G.Respectful) {a b c d p : Value} (ha : a ∈ G.els) (hb : b ∈ G.els)
  (hc : c ∈ G.els) (hd : G.Gives a b d)
include hrespect ha hb hc hd

/-- A product with a product is equal to that with the element that the product is equal to. -/
theorem exists_left (hp : G.Gives d c p) :
    ∃ d' x, G.mul a b = .ok d' ∧ G.mul d' c = .ok x ∧ (x == p) = true := by
  obtain ⟨hdmem, d', hd', hdd'⟩ := hd
  obtain ⟨-, y, hy, hpy⟩ := hp
  obtain ⟨⟨x, y', hx, hy', hxy⟩, -⟩ := hrespect ha hb hc hd' d hdmem hdd'
  rw [hy] at hy'
  obtain rfl := Except.ok.inj hy'
  exact ⟨d', x, hd', hx, BEq.trans hxy (BEq.symm hpy)⟩

theorem exists_right (hp : G.Gives c d p) :
    ∃ d' x, G.mul a b = .ok d' ∧ G.mul c d' = .ok x ∧ (x == p) = true := by
  obtain ⟨hdmem, d', hd', hdd'⟩ := hd
  obtain ⟨-, y, hy, hpy⟩ := hp
  obtain ⟨-, x, y', hx, hy', hxy⟩ := hrespect ha hb hc hd' d hdmem hdd'
  rw [hy] at hy'
  obtain rfl := Except.ok.inj hy'
  exact ⟨d', x, hd', hx, BEq.trans hxy (BEq.symm hpy)⟩

end Respectful

namespace Checkable

variable (hG : G.Checkable)
include hG

/-- A product that is an element is equal to one in the list. -/
theorem exists_gives (hclosed : G.Closed) {a b : Value} (ha : a ∈ G.els) (hb : b ∈ G.els) :
    ∃ p, G.Gives a b p := by
  obtain ⟨k, hk⟩ := hG.exists_key a ha b hb
  obtain ⟨c, hc, hk⟩ := bind_eq_ok.1 hk
  obtain ⟨c', hc', hcontains⟩ := hclosed.mul_mem a ha b hb
  rw [hc] at hc'
  obtain rfl := Except.ok.inj hc'
  rw [contains, Value.sought_of_keyed hk] at hcontains
  obtain ⟨p, hp, hpk⟩ := Roster.contains_iff.1 (Except.ok.inj hcontains)
  exact ⟨p, hG.els_eq ▸ hp, c, hc, BEq.trans hpk (Value.beq_of_keyed hk)⟩

/-- If the operation respects equality, the products may be compared themselves. -/
theorem laws_iff (hrespect : G.Respectful) : G.Laws ↔ G.Closed ∧ G.Associates := by
  constructor
  · intro hlaws
    have hclosed := hlaws.toClosed
    refine ⟨hclosed, fun a ha b hb c hc => ?_⟩
    obtain ⟨d, hd⟩ := hG.exists_gives hclosed ha hb
    obtain ⟨f, hf⟩ := hG.exists_gives hclosed hb hc
    obtain ⟨p, hp⟩ := hG.exists_gives hclosed hd.1 hc
    obtain ⟨q, hq⟩ := hG.exists_gives hclosed ha hf.1
    obtain ⟨d', x, hd', hx, hxp⟩ := hrespect.exists_left ha hb hc hd hp
    obtain ⟨f', y, hf', hy, hyq⟩ := hrespect.exists_right hb hc ha hf hq
    obtain rfl := hlaws.mul_assoc ha hb hc hd hf hp hq
    exact ⟨d', f', x, y, hd', hf', hx, hy, BEq.trans hxp (BEq.symm hyq)⟩
  · rintro ⟨hclosed, hassoc⟩
    refine { hclosed with mul_assoc := fun a b c d f p q ha hb hc hd hf hp hq => ?_ }
    obtain ⟨d', f', x, y, hd', hf', hx, hy, hxy⟩ := hassoc a ha b hb c hc
    obtain ⟨d'', x', hd'', hx', hxp⟩ := hrespect.exists_left ha hb hc hd hp
    obtain ⟨f'', y', hf'', hy', hyq⟩ := hrespect.exists_right hb hc ha hf hq
    rw [hd'] at hd''
    rw [hf'] at hf''
    obtain rfl := Except.ok.inj hd''
    obtain rfl := Except.ok.inj hf''
    rw [hx] at hx'
    rw [hy] at hy'
    obtain rfl := Except.ok.inj hx'
    obtain rfl := Except.ok.inj hy'
    have hpq : (p == q) = true := BEq.trans (BEq.symm hxp) (BEq.trans hxy hyq)
    exact Roster.eq_of_beq (hG.els_eq ▸ hp.1) (hG.els_eq ▸ hq.1) hpq

/-- Whether a group satisfies the laws decides what the check says. -/
theorem decides : G.Decides where
  verify_iff _ _ := hG.verify_iff
  make_of_laws els op identity inv gens name flag hmake hflag hlaws := by
    rw [hmake, ok_bind, checkedIf, hflag, ok_bind, if_pos rfl]
    obtain ⟨r, gens', rfl⟩ := exists_ofRoster hmake
    obtain ⟨a, ha⟩ := List.exists_mem_of_ne_nil _ hlaws.els_ne
    obtain ⟨b, hb⟩ := hG.exists_inverse a ha
    exact hG.checked_of_laws hlaws rfl (exists_foundInverses hb)
  make_of_not_laws els op identity inv gens name flag hmake hflag hlaws := by
    rw [hmake, ok_bind, checkedIf, hflag, ok_bind, if_pos rfl]
    exact hG.checked_of_not_laws hlaws
  laws_iff := hG.laws_iff

end Checkable

/-- Everything has an answer in a group that realizes a group and has a table. -/
theorem Realizes.checkable {M : Type} [Group M] {R : Value → M → Prop} (hG : G.Realizes R)
    (horder : G.order ≤ 2 ^ 63) : G.Checkable where
  toIndexed := hG.intact.indexed
  none_not_mem := hG.none_not_mem
  exists_mul a b ha hb := by
    have hstands : ∀ a, a ∈ G.els ∨ a = G.identity → ∃ x, R a x := by
      rintro a (ha | rfl)
      · exact hG.standing a ha
      · exact ⟨1, hG.one⟩
    obtain ⟨x, hx⟩ := hstands a ha
    obtain ⟨y, hy⟩ := hstands b hb
    obtain ⟨c, hc, -⟩ := hG.mul_eq hx hy
    exact ⟨c, hc⟩
  exists_inverse a ha := by
    obtain ⟨b, hb, -⟩ := hG.laws.inverse_mul a ha
    exact ⟨b, hb⟩
  order_le := horder
  exists_equal a b c h := by
    obtain ⟨d, hd, hequal⟩ : G.IsProduct a b c := by
      cases h with
      | left ha => exact (hG.laws.identity_mul _ ha).1
      | right ha => exact (hG.laws.identity_mul _ ha).2
      | inverse_right ha hb => exact (hG.laws.inverse_of_eq ha hb).2.1
      | inverse_left ha hb => exact (hG.laws.inverse_of_eq ha hb).2.2
    exact ⟨d, true, hd, hequal⟩
  exists_key a ha b hb := by
    obtain ⟨x, hx⟩ := hG.standing a ha
    obtain ⟨y, hy⟩ := hG.standing b hb
    obtain ⟨k, hk, -⟩ := hG.keyedProduct.mul_eq hx hy
    exact ⟨k, hk⟩
  exists_contains_identity := ⟨true, hG.contains_eq hG.one⟩
  exists_contains_inverse _ ha _ hb _ := ⟨true, (hG.laws.inverse_of_eq ha hb).1⟩

/-- The residues modulo three pass the check when they are made. -/
theorem decides_residues_three :
    let els := Value.list 0 ((List.range 3).map Value.ofNat)
    let op := Value.op .addMod [.int 3]
    let inv := Value.method 0 (.family 0 .cyclic [.int 3]) "inverse"
    (residues 3).Checkable ∧ (residues 3).Decides ∧ (residues 3).Laws ∧
      ofElements els op (.int 0) inv .none .none = .ok (residues 3) ∧
      ∃ table inverses, (do (← ofElements els op (.int 0) inv .none .none).checkedIf (.bool true)) =
        .ok { residues 3 with memory := table, kept := inverses } := by
  intro els op inv
  have hG := realizes_residues (n := 3) (by decide)
  have hcheckable : (residues 3).Checkable := hG.checkable (by
    rw [order, els_residues (by decide)]
    decide)
  have hdecides := hcheckable.decides
  have hmake : ofElements els op (.int 0) inv .none .none = .ok (residues 3) := by
    have hentries : els.entries = .ok ((List.range 3).map Value.ofNat) := rfl
    have hdistinct : Value.distinct ((List.range 3).map Value.ofNat) =
        .ok (.ofList ((List.range 3).map Value.ofNat)) := rfl
    have hidentity : requireIdentity (.int 0) ((List.range 3).map Value.ofNat) = .ok () := by cbv
    rw [ofElements, hentries, ok_bind, hdistinct, ok_bind, Roster.toList_ofList (pairwise_range 3),
      hidentity]
    rfl
  exact ⟨hcheckable, hdecides, hG.laws, hmake, hdecides.make_of_laws hmake rfl hG.laws⟩

/-! ## Where the products themselves do not decide -/

namespace ThreePoints

def one : Perm := ⟨#[1, 2, 3], by decide, by decide, by decide⟩
def swap12 : Perm := ⟨#[2, 1, 3], by decide, by decide, by decide⟩
def swap13 : Perm := ⟨#[3, 2, 1], by decide, by decide, by decide⟩
def swap23 : Perm := ⟨#[1, 3, 2], by decide, by decide, by decide⟩
def up : Perm := ⟨#[2, 3, 1], by decide, by decide, by decide⟩
def down : Perm := ⟨#[3, 1, 2], by decide, by decide, by decide⟩

/-- All permutations of three points. -/
def perms : FiniteGroup :=
  permGroup 3 (.ofList ([one, swap12, swap23, up, down, swap13].map .perm)) one "S3" .plain []

/-- The permutations that fix the third point. They are not normal. -/
def fixing : FiniteGroup :=
  perms.subgroupOf (.ofList [.perm one, .perm swap12]) .none .none

/-- A left coset, kept with the first of its two members. -/
def coset (p q : Perm) : Value :=
  .coset .left 0 perms.value fixing.value (.perm p) [.perm p, .perm q] .settled

/-- The left cosets, multiplied by their representatives. -/
def cosets : FiniteGroup :=
  ofRoster (.ofList [coset one swap12, coset swap13 up, coset swap23 down])
    (.op .cosets [perms.value, fixing.value]) (coset one swap12) .none .none .none

/-- What the left cosets come to. -/
theorem cosets_spec :
    cosets.els = [coset one swap12, coset swap13 up, coset swap23 down] ∧
    cosets.identityViolations = .ok [] ∧ cosets.inverseViolations = .ok [] ∧
    (cosets.els.allM fun a => cosets.els.allM fun b => do
      cosets.contains (← cosets.mul a b)) = .ok true ∧
    (cosets.els.allM fun a => cosets.els.allM fun b => cosets.els.allM fun c => do
      let d ← cosets.mul a b
      let f ← cosets.mul b c
      let x ← cosets.mul d c
      let y ← cosets.mul a f
      return x == y) = .ok true ∧
    (do return coset swap23 down == (← cosets.mul (coset swap13 up) (coset swap23 down))) =
      Except.ok (ε := Fault) true ∧
    (do return coset swap13 up == (← cosets.mul (coset swap23 down) (coset swap13 up))) =
      Except.ok (ε := Fault) true ∧
    (do return coset one swap12 == (← cosets.mul (coset swap13 up) (coset swap13 up))) =
      Except.ok (ε := Fault) true := by
  refine ⟨?_, ?_, ?_, ?_, ?_, ?_, ?_, ?_⟩ <;> cbv

theorem els_cosets : cosets.els = [coset one swap12, coset swap13 up, coset swap23 down] :=
  cosets_spec.1

theorem closed_cosets : cosets.Closed := by
  obtain ⟨-, hidentity, hinverse, hmul, -⟩ := cosets_spec
  obtain ⟨hcontains, hunit⟩ := identityViolations_eq_nil_iff.1 hidentity
  exact {
    els_ne := by simp [els_cosets]
    contains_identity := hcontains
    identity_mul := hunit
    mul_mem := fun a ha b hb =>
      bind_eq_ok.1 (of_allM_eq_true (of_allM_eq_true hmul a ha) b hb)
    inverse_mul := fun a ha => by
      obtain ⟨b, hb, -, hlaws⟩ := inverseViolations_eq_nil_iff.1 hinverse a ha
      exact ⟨b, hb, hlaws⟩ }

theorem total_cosets : cosets.Total where
  none_not_mem := by simp [els_cosets, coset]
  exists_mul a b ha hb := by
    have hmem : ∀ a, a ∈ cosets.els ∨ a = cosets.identity → a ∈ cosets.els := by
      rintro a (ha | rfl)
      · exact ha
      · exact els_cosets ▸ List.mem_cons_self
    obtain ⟨c, hc, -⟩ := closed_cosets.mul_mem a (hmem a ha) b (hmem b hb)
    exact ⟨c, hc⟩
  exists_inverse a ha := by
    obtain ⟨b, hb, -⟩ := closed_cosets.inverse_mul a ha
    exact ⟨b, hb⟩

/-- The representatives of the products associate, as permutations do. -/
theorem associates_cosets : cosets.Associates := by
  obtain ⟨-, -, -, -, hassoc, -⟩ := cosets_spec
  intro a ha b hb c hc
  have h := of_allM_eq_true (of_allM_eq_true (of_allM_eq_true hassoc a ha) b hb) c hc
  obtain ⟨d, hd, h⟩ := bind_eq_ok.1 h
  obtain ⟨f, hf, h⟩ := bind_eq_ok.1 h
  obtain ⟨x, hx, h⟩ := bind_eq_ok.1 h
  obtain ⟨y, hy, h⟩ := bind_eq_ok.1 h
  exact ⟨d, f, x, y, hd, hf, hx, hy, Except.ok.inj h⟩

/-- Taken for the cosets in the list, the products do not associate. -/
theorem not_laws_cosets : ¬cosets.Laws := by
  obtain ⟨hels, -, -, -, -, hab, hbc, hright⟩ := cosets_spec
  have hgives : ∀ {a b p : Value}, p ∈ cosets.els →
      (do return p == (← cosets.mul a b)) = Except.ok (ε := Fault) true → cosets.Gives a b p := by
    intro a b p hp h
    obtain ⟨c, hc, h⟩ := bind_eq_ok.1 h
    exact ⟨hp, c, hc, Except.ok.inj h⟩
  have hone : coset one swap12 ∈ cosets.els := by simp [hels]
  have h13 : coset swap13 up ∈ cosets.els := by simp [hels]
  have h23 : coset swap23 down ∈ cosets.els := by simp [hels]
  intro hlaws
  have heq := hlaws.mul_assoc h13 h23 h13 (hgives h23 hab) (hgives h13 hbc) (hgives h13 hbc)
    (hgives hone hright)
  have hrep := Except.ok.inj (congrArg Value.representative heq)
  exact absurd (Value.perm.inj hrep) (by decide)

end ThreePoints

/-- A number whose square is a list, which is no key. -/
def listProduct : FiniteGroup :=
  ofRoster (.ofList [.int 1]) (.op .rows [.tuple [.tuple [.int 1, .int 1, .list 0 [.int 1]]]])
    (.int 1) .none .none .none

section listProduct

theorem els_listProduct : listProduct.els = [.int 1] :=
  els_single

/-- What the product comes to. -/
theorem listProduct_spec :
    listProduct.mul (.int 1) (.int 1) = .ok (.list 0 [.int 1]) ∧
    listProduct.inverse (.int 1) = .ok .none ∧
    listProduct.contains (.int 1) = .ok true ∧
    (Value.list 0 [.int 1]).equal (.int 1) = .ok false ∧
    listProduct.table = .error .wrongKind := by
  refine ⟨?_, ?_, ?_, ?_, ?_⟩ <;> cbv

theorem total_listProduct : listProduct.Total where
  none_not_mem := by simp [els_listProduct]
  exists_mul a b ha hb := by
    have hone : ∀ a, a ∈ listProduct.els ∨ a = listProduct.identity → a = .int 1 := by
      rintro a (ha | rfl)
      · simpa [els_listProduct] using ha
      · rfl
    obtain rfl := hone a ha
    obtain rfl := hone b hb
    exact ⟨_, listProduct_spec.1⟩
  exists_inverse a ha := by
    rw [els_listProduct] at ha
    obtain rfl := List.mem_singleton.1 ha
    exact ⟨_, listProduct_spec.2.1⟩

theorem not_closed_listProduct : ¬listProduct.Closed := by
  intro hclosed
  have hone : Value.int 1 ∈ listProduct.els := by simp [els_listProduct]
  obtain ⟨c, hc, hcontains⟩ := hclosed.mul_mem _ hone _ hone
  rw [listProduct_spec.1] at hc
  obtain rfl := Except.ok.inj hc
  cases hcontains

theorem checked_listProduct : listProduct.checked = .error .wrongKind := by
  obtain ⟨hmul, hinverse, hcontains, hequal, htable⟩ := listProduct_spec
  have hidentity : listProduct.identity = .int 1 := rfl
  have hplain : (Value.int 1).plain = .ok "1" := rfl
  have hne : listProduct.order ≠ 0 := by simp [order, els_listProduct]
  simp [checked, requireAxioms, verify, hne, identityViolations_eq, membershipBreach,
    identityBreaches, inverseViolations, els_listProduct, hidentity, hmul, hinverse, hcontains,
    hequal, breach, hplain, htable]

end listProduct

/-- A number with another number for an identity, which is no element. -/
def apart (m : Int) : FiniteGroup :=
  ofRoster (.ofList [.int m]) (.op .left []) (.int 0) .none .none .none

section apart

variable {m : Int} (hm : m ≠ 0)

theorem mul_apart (a b : Value) : (apart m).mul a b = .ok a := by
  show (Value.op .left []).meaning.call [a, b] = _
  rw [Value.meaning, Value.meaningWith.eq_def]
  rfl

include hm

theorem beq_apart : (Value.int m == .int 0) = false := by
  rw [← Bool.not_eq_true, beq_int]
  exact hm

theorem absent_apart : (Roster.ofList [Value.int m]).contains (.int 0) = false := by
  rw [← Bool.not_eq_true, Roster.contains_ofList]
  simp [beq_apart hm]

theorem els_apart : (apart m).els = [.int m] := by
  show (Roster.promote _ _).toList = _
  rw [Roster.promote, if_neg (by simp [absent_apart hm])]
  exact Roster.toList_ofList (by simp)

theorem contains_apart : (apart m).contains (.int 0) = .ok false := by
  show Except.ok ((Roster.promote _ _).contains _) = _
  rw [Roster.contains_promote, absent_apart hm]

theorem inverse_apart : (apart m).inverse (.int m) = .ok .none := by
  have hequal : (Value.int m).equal (.int 0) = .ok false := by
    rw [Value.equal_of_isSimple rfl rfl, beq_apart hm]
  have hsearch : searchInverses (apart m).els (apart m).mul (.int 0) = .ok .empty := by
    rw [els_apart hm]
    simp [searchInverses, searchInverse, mul_apart, hequal]
  show (do return ((← searchInverses (apart m).els (apart m).mul (.int 0)).get?
    (← (Value.int m).keyed)).getD .none) = _
  have hkeyed : (Value.int m).keyed = .ok (.int m) := rfl
  rw [hsearch, ok_bind, hkeyed, ok_bind, Assignment.get?_empty]
  rfl

theorem total_apart : (apart m).Total where
  none_not_mem := by simp [els_apart hm]
  exists_mul a b _ _ := ⟨a, mul_apart a b⟩
  exists_inverse a ha := by
    rw [els_apart hm] at ha
    obtain rfl := List.mem_singleton.1 ha
    exact ⟨_, inverse_apart hm⟩

theorem not_closed_apart : ¬(apart m).Closed := by
  intro hclosed
  have hcontains : (apart m).contains (.int 0) = .ok true := hclosed.contains_identity
  rw [contains_apart hm] at hcontains
  cases hcontains

/-- The first thing that the report would write is the number. -/
theorem checked_apart {e : Fault} (hplain : (Value.int m).plain = .error e) :
    (apart m).checked = .error e := by
  have hidentity : (apart m).identity = .int 0 := rfl
  have hequal : (Value.int 0).equal (.int m) = .ok false := by
    rw [Value.equal_of_isSimple rfl rfl, BEq.comm, beq_apart hm]
  have hzero : (Value.int 0).plain = .ok "0" := rfl
  have hne : (apart m).order ≠ 0 := by simp [order, els_apart hm]
  simp [checked, requireAxioms, verify, hne, identityViolations_eq, membershipBreach,
    identityBreaches, els_apart hm, hidentity, mul_apart, contains_apart hm, hequal, breach,
    hplain, hzero]

end apart

/-- Left cosets that multiply by representatives satisfy the axioms in terms of products and fail
the check; and a product that is no key, or an element that cannot be written, is what a group is
refused for in place of the axioms. -/
theorem check_ne_axioms :
    let m : Int := (Nat.pow 10 Text.maxDigits : Nat)
    (ThreePoints.cosets.Total ∧ ThreePoints.cosets.Closed ∧ ThreePoints.cosets.Associates ∧
      ¬ThreePoints.cosets.Verified) ∧
    (listProduct.Total ∧ ¬listProduct.Closed ∧
      ∃ e, listProduct.checkedIf (.bool true) = .error e ∧ e.category ≠ .structural) ∧
    (apart m).Total ∧ ¬(apart m).Closed ∧
      ∃ e, (apart m).checkedIf (.bool true) = .error e ∧ e.category ≠ .structural := by
  intro m
  have hpow : ∀ d, Nat.pow 10 d ≠ 0 := fun d => (Nat.pow_pos (by decide)).ne'
  have hm : m ≠ 0 := Int.natCast_ne_zero.2 (hpow Text.maxDigits)
  refine ⟨⟨ThreePoints.total_cosets, ThreePoints.closed_cosets, ThreePoints.associates_cosets,
      fun h => ?_⟩,
    ⟨total_listProduct, not_closed_listProduct, .wrongKind, checked_listProduct, by decide⟩,
    total_apart hm, not_closed_apart hm, .badValue, ?_, by decide⟩
  · exact ThreePoints.not_laws_cosets (h.laws (intact_ofRoster _ _ _ _ _ (Or.inl rfl)).indexed)
  · exact checked_apart hm (plain_of_le (Int.natAbs_natCast _).ge)

end FiniteGroup

end FiniteGroups
