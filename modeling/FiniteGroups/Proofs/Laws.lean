import FiniteGroups.Group.Axioms
import FiniteGroups.Proofs.Intact
import FiniteGroups.Proofs.Key

/-!
# The laws of a group and what the check finds

`FiniteGroup.verify` lists violations of the group axioms. It works on the table of products, in
which a product is the place of the element that it is equal to, and it stops when it has found
enough. `FiniteGroup.Laws` states the axioms without a table and without an order in which they
are tried; a product is taken for the element that it is equal to.

Each search for violations comes back empty exactly if the laws hold that it looks at
(`identityViolations_eq_nil_iff`, `inverseViolations_eq_nil_iff`, `closureViolations_eq_nil_iff`,
`Tabulates.badPairs_eq_nil_iff`). So if nothing at all is found, all laws hold
(`Indexed.laws_of_verify`), and conversely (`Laws.verify_eq`); how many triples are listed does
not matter, as long as there is room for one.
-/

namespace FiniteGroups

/-! ## Tables -/

namespace Table

theorem of_build {n : Nat} {f : Nat → Nat → Except Fault Int} {t : Table}
    (h : build n f = .ok t) :
    t.size = n ∧ ∀ i < n, ∀ j < n, f i j = .ok (t.get i j) := by
  obtain ⟨entries, hentries, h⟩ := bind_eq_ok.1 h
  split at h
  case isFalse => cases h
  case isTrue hlen =>
    cases h
    refine ⟨rfl, fun i hi j hj => ?_⟩
    have hplace : i * n + j < n * n := by
      have hrow := Nat.mul_le_mul_right n hi
      rw [Nat.succ_mul] at hrow
      omega
    have hall := List.forall₂_iff_get.1 (mapM_eq_ok_iff.1 hentries)
    have hget := hall.2 (i * n + j) (by simpa using hplace) (by omega)
    have hn : 0 < n := by omega
    have hdiv : (i * n + j) / n = i := by
      rw [Nat.mul_comm, Nat.mul_add_div hn, Nat.div_eq_of_lt hj, Nat.add_zero]
    have hmod : (i * n + j) % n = j := by
      rw [Nat.mul_comm, Nat.mul_add_mod, Nat.mod_eq_of_lt hj]
    simp only [List.get_eq_getElem, List.getElem_range, hdiv, hmod] at hget
    rw [hget, get]
    have hin : i * n + j < entries.length := by omega
    simp [hin]

theorem exists_build {n : Nat} {f : Nat → Nat → Except Fault Int}
    (h : ∀ i < n, ∀ j < n, ∃ m, f i j = .ok m) : ∃ t, build n f = .ok t := by
  obtain ⟨entries, hentries, -⟩ : ∃ entries, (List.range (n * n)).mapM
      (fun k => f (k / n) (k % n)) = .ok entries ∧ _ := by
    refine exists_mapM (P := fun _ _ => True) _ fun k hk => ?_
    have hk := List.mem_range.1 hk
    have hn : 0 < n := Nat.pos_of_ne_zero (by rintro rfl; simp at hk)
    obtain ⟨m, hm⟩ := h (k / n) (Nat.div_lt_of_lt_mul hk) (k % n) (Nat.mod_lt _ hn)
    exact ⟨m, hm, trivial⟩
  have hlen := (mapM_eq_ok_iff.1 hentries).length_eq
  rw [List.length_range] at hlen
  exact ⟨⟨n, entries.toArray, by simpa using hlen.symm⟩, by simp [build, hentries, hlen.symm]⟩

theorem get_mem {t : Table} {i j : Nat} (hi : i < t.size) (hj : j < t.size) :
    t.get i j ∈ t.entries := by
  have hplace : i * t.size + j < t.entries.size := by
    have hrow := Nat.mul_le_mul_right t.size hi
    rw [Nat.succ_mul, ← t.square] at hrow
    omega
  rw [get, Array.getD_eq_getD_getElem?, Array.getElem?_eq_getElem hplace]
  exact Array.getElem_mem hplace

/-- The entries of a table are what stands in its rows and columns. -/
theorem exists_get {t : Table} {m : Int} (h : m ∈ t.entries) :
    ∃ i < t.size, ∃ j < t.size, t.get i j = m := by
  obtain ⟨k, hk, rfl⟩ := Array.getElem_of_mem h
  have hk' : k < t.size * t.size := by rwa [← t.square]
  have hpos : 0 < t.size := Nat.pos_of_ne_zero (by intro h0; simp [h0] at hk')
  refine ⟨k / t.size, Nat.div_lt_of_lt_mul hk', k % t.size, Nat.mod_lt _ hpos, ?_⟩
  rw [get, Nat.mul_comm, Nat.div_add_mod]
  simp [hk]

end Table

namespace FiniteGroup

variable {G : FiniteGroup}

/-! ## The laws -/

/-- What is kept with the group is what would be computed anew. -/
structure Indexed (G : FiniteGroup) : Prop where
  els_eq : G.els = G.elements.toList
  table_eq : G.table = G.freshTable
  position_eq : ∀ a, G.position? a = do
    return (G.elements.find? (← a.keyed)).map Value.ofNat

theorem Intact.indexed (h : G.Intact) : G.Indexed :=
  ⟨h.els_eq, h.table_eq, h.position_eq⟩

/-- The product of `a` and `b` is found to be equal to `c`. -/
def IsProduct (G : FiniteGroup) (a b c : Value) : Prop :=
  ∃ d, G.mul a b = .ok d ∧ d.equal c = .ok true

/-- The element `p` is the one that the product of `a` and `b` is equal to. -/
def Gives (G : FiniteGroup) (a b p : Value) : Prop :=
  p ∈ G.els ∧ ∃ c, G.mul a b = .ok c ∧ (p == c) = true

/-- The axioms of a group without the associative law. -/
structure Closed (G : FiniteGroup) : Prop where
  els_ne : G.els ≠ []
  contains_identity : G.contains G.identity = .ok true
  identity_mul : ∀ a ∈ G.els, G.IsProduct G.identity a a ∧ G.IsProduct a G.identity a
  mul_mem : ∀ a ∈ G.els, ∀ b ∈ G.els, ∃ c, G.mul a b = .ok c ∧ G.contains c = .ok true
  inverse_mul : ∀ a ∈ G.els, ∃ b, G.inverse a = .ok b ∧ G.contains b = .ok true ∧
    G.IsProduct a b G.identity ∧ G.IsProduct b a G.identity

theorem Closed.inverse_of_eq (h : G.Closed) {a b : Value} (ha : a ∈ G.els)
    (hb : G.inverse a = .ok b) : G.contains b = .ok true ∧ G.IsProduct a b G.identity ∧
      G.IsProduct b a G.identity := by
  obtain ⟨b', hb', hlaws⟩ := h.inverse_mul a ha
  obtain rfl := Except.ok.inj (hb.symm.trans hb')
  exact hlaws

/-- The axioms of a group. -/
structure Laws (G : FiniteGroup) : Prop extends Closed G where
  mul_assoc : ∀ ⦃a b c d f p q⦄, a ∈ G.els → b ∈ G.els → c ∈ G.els → G.Gives a b d →
    G.Gives b c f → G.Gives d c p → G.Gives a f q → p = q

/-! ## Empty lists of violations -/

theorem breach_eq_nil_iff {holds : Bool} {violation : String} {a : Value} :
    breach holds violation a = .ok [] ↔ holds = true := by
  cases holds with
  | true => exact iff_of_true rfl rfl
  | false =>
    refine iff_of_false (fun h => ?_) Bool.false_ne_true
    obtain ⟨s, -, h⟩ := bind_eq_ok.1 h
    cases h

/-- Nothing is listed for a list of values if nothing is listed for any of them. -/
theorem flatten_mapM_eq_nil_iff {f : Value → Except Fault (List String)} {xs : List Value} :
    (do return (← xs.mapM f).flatten) = .ok [] ↔ ∀ a ∈ xs, f a = .ok [] := by
  constructor
  · intro h
    obtain ⟨found, hfound, hnil⟩ := bind_eq_ok.1 h
    have hnil := List.flatten_eq_nil_iff.1 (Except.ok.inj hnil)
    intro a ha
    have hall := mapM_eq_ok_iff.1 hfound
    obtain ⟨l, hl, hal⟩ := exists_of_forall₂ hall.flip ha
    rw [← hnil l hl]
    exact hal
  · intro h
    rw [mapM_eq_map (g := fun _ => []) h]
    simp

/-- The violations of the laws of the identity at one element. -/
def identityBreaches (G : FiniteGroup) (a : Value) : Except Fault (List String) := do
  let left ← breach (← (← G.mul G.identity a).equal a) "Left identity fails for element" a
  let right ← breach (← (← G.mul a G.identity).equal a) "Right identity fails for element" a
  return left ++ right

theorem identityBreaches_eq_nil_iff {a : Value} : G.identityBreaches a = .ok [] ↔
    G.IsProduct G.identity a a ∧ G.IsProduct a G.identity a := by
  rw [identityBreaches]
  constructor
  · intro h
    obtain ⟨b, hb, h⟩ := bind_eq_ok.1 h
    obtain ⟨l, hl, h⟩ := bind_eq_ok.1 h
    obtain ⟨left, hleft, h⟩ := bind_eq_ok.1 h
    obtain ⟨c, hc, h⟩ := bind_eq_ok.1 h
    obtain ⟨r, hr, h⟩ := bind_eq_ok.1 h
    obtain ⟨right, hright, h⟩ := bind_eq_ok.1 h
    obtain ⟨rfl, rfl⟩ := List.append_eq_nil_iff.1 (Except.ok.inj h)
    obtain rfl := breach_eq_nil_iff.1 hleft
    obtain rfl := breach_eq_nil_iff.1 hright
    exact ⟨⟨b, hb, hl⟩, c, hc, hr⟩
  · rintro ⟨⟨b, hb, hl⟩, c, hc, hr⟩
    simp [hb, hl, hc, hr, breach]

/-- The violation of an identity that is no element. -/
def membershipBreach (G : FiniteGroup) : Except Fault (List String) := do
  if ← G.contains G.identity then return []
  else return [s!"Identity {← G.identity.plain} is not an element"]

theorem membershipBreach_eq_nil_iff :
    G.membershipBreach = .ok [] ↔ G.contains G.identity = .ok true := by
  rw [membershipBreach]
  constructor
  · intro h
    obtain ⟨inside, hinside, h⟩ := bind_eq_ok.1 h
    cases inside with
    | true => exact hinside
    | false =>
      obtain ⟨s, -, h⟩ := bind_eq_ok.1 h
      cases h
  · intro h
    rw [h]
    rfl

theorem identityViolations_eq : G.identityViolations = do
    let membership ← G.membershipBreach
    return membership ++ (← G.els.mapM G.identityBreaches).flatten := by
  rw [identityViolations, membershipBreach, bind_assoc]
  refine congrArg _ (funext fun inside => ?_)
  cases inside with
  | true => rfl
  | false => cases G.identity.plain <;> rfl

theorem identityViolations_eq_nil_iff : G.identityViolations = .ok [] ↔
    G.contains G.identity = .ok true ∧
      ∀ a ∈ G.els, G.IsProduct G.identity a a ∧ G.IsProduct a G.identity a := by
  simp only [← identityBreaches_eq_nil_iff, ← membershipBreach_eq_nil_iff]
  rw [← flatten_mapM_eq_nil_iff, identityViolations_eq]
  constructor
  · intro h
    obtain ⟨membership, hmembership, h⟩ := bind_eq_ok.1 h
    obtain ⟨found, hfound, h⟩ := bind_eq_ok.1 h
    obtain ⟨rfl, hnil⟩ := List.append_eq_nil_iff.1 (Except.ok.inj h)
    exact ⟨hmembership, by rw [hfound, ok_bind, hnil]; rfl⟩
  · rintro ⟨hmembership, h⟩
    rw [hmembership]
    exact h

theorem areInverse_eq_true_iff {a b : Value} : G.areInverse a b = .ok true ↔
    G.IsProduct a b G.identity ∧ G.IsProduct b a G.identity := by
  rw [areInverse]
  constructor
  · intro h
    obtain ⟨c, hc, h⟩ := bind_eq_ok.1 h
    obtain ⟨right, hright, h⟩ := bind_eq_ok.1 h
    cases right with
    | true => exact ⟨⟨c, hc, hright⟩, bind_eq_ok.1 h⟩
    | false => cases h
  · rintro ⟨⟨c, hc, hright⟩, hleft⟩
    rw [hc, ok_bind, hright, ok_bind, if_pos rfl]
    exact bind_eq_ok.2 hleft

/-- The violations of the laws of the inverse at one element. -/
def inverseBreaches (G : FiniteGroup) (a : Value) : Except Fault (List String) := do
  let b ← G.inverse a
  let inside ← if b matches .none then pure false else G.contains b
  if inside then breach (← G.areInverse a b) "Inverse fails for element" a
  else breach false "Inverse not in set for element" a

theorem inverseBreaches_eq_nil_iff {a : Value} : G.inverseBreaches a = .ok [] ↔
    ∃ b, G.inverse a = .ok b ∧ b ≠ .none ∧ G.contains b = .ok true ∧
      G.IsProduct a b G.identity ∧ G.IsProduct b a G.identity := by
  rw [inverseBreaches]
  constructor
  · intro h
    obtain ⟨b, hb, h⟩ := bind_eq_ok.1 h
    have hoff : breach false "Inverse not in set for element" a ≠ .ok [] := fun h =>
      Bool.noConfusion (breach_eq_nil_iff.1 h)
    refine ⟨b, hb, ?_⟩
    dsimp only at h
    split at h
    · exact absurd h hoff
    · next hnone =>
      obtain ⟨inside, hinside, h⟩ := bind_eq_ok.1 h
      cases inside with
      | false => exact absurd h hoff
      | true =>
        obtain ⟨holds, hholds, h⟩ := bind_eq_ok.1 h
        obtain rfl := breach_eq_nil_iff.1 h
        exact ⟨hnone, hinside, areInverse_eq_true_iff.1 hholds⟩
  · rintro ⟨b, hb, hnone, hinside, hinverse⟩
    simp [hb, hinside, areInverse_eq_true_iff.2 hinverse, breach]

theorem inverseViolations_eq_nil_iff : G.inverseViolations = .ok [] ↔
    ∀ a ∈ G.els, ∃ b, G.inverse a = .ok b ∧ b ≠ .none ∧ G.contains b = .ok true ∧
      G.IsProduct a b G.identity ∧ G.IsProduct b a G.identity := by
  simp only [← inverseBreaches_eq_nil_iff]
  exact flatten_mapM_eq_nil_iff

/-- No products are listed if all entries of the table are places. -/
theorem closureViolations_eq_nil_iff {t : Table} : G.closureViolations t = .ok [] ↔
    ∀ i < t.size, ∀ j < t.size, 0 ≤ t.get i j := by
  constructor
  · intro h i hi j hj
    have hnone := List.eq_nil_of_length_eq_zero (mapM_eq_ok_iff.1 h).length_eq
    simpa using List.filter_eq_nil_iff.1 hnone (i, j) (by simp [hi, hj])
  · intro h
    rw [closureViolations, List.filter_eq_nil_iff.2]
    · rfl
    · intro ij hij
      simp only [List.mem_flatMap, List.mem_map, List.mem_range] at hij
      obtain ⟨i, hi, j, hj, rfl⟩ := hij
      simpa using h i hi j hj

theorem all_nonneg_iff {t : Table} :
    t.entries.all (0 ≤ ·) = true ↔ ∀ i < t.size, ∀ j < t.size, 0 ≤ t.get i j := by
  rw [Array.all_eq_true_iff_forall_mem]
  constructor
  · intro h i hi j hj
    simpa using h _ (Table.get_mem hi hj)
  · intro h m hm
    obtain ⟨i, hi, j, hj, rfl⟩ := Table.exists_get hm
    simpa using h i hi j hj

theorem badPairs_eq_nil_iff {t : Table} {i : Nat} : badPairs t i = [] ↔
    ∀ j < t.size, ∀ k < t.size, t.get (t.get i j).toNat k = t.get i (t.get j k).toNat := by
  rw [badPairs, List.flatMap_eq_nil_iff]
  simp only [List.filterMap_eq_nil_iff, List.mem_range]
  simp

theorem upTo_eq_nil_iff {α : Type} {m : Int} (hm : 0 < m) {xs : List α} :
    upTo m xs = [] ↔ xs = [] := by
  have hpos : m.toNat ≠ 0 := by omega
  rw [upTo, if_neg (by omega)]
  simp [hpos]

/-- A list that triples are added to is empty in the end if it was and no triples are listed for
any first factor. -/
theorem eq_nil_iff_of_addTriples {most : Value} {m : Int} (hmost : most.index = .ok m)
    (hm : 0 ≤ m) {t : Table} {firsts : List Nat} {found all : List String}
    (h : G.addTriples t most firsts found = .ok all) :
    all = [] ↔ found = [] ∧ ∀ i ∈ firsts, upTo m (badPairs t i) = [] := by
  induction firsts generalizing found with
  | nil =>
    cases h
    simp
  | cons i firsts ih =>
    rw [addTriples] at h
    split at h
    case isTrue => cases h
    case isFalse =>
      simp only [hmost, pure_eq_ok, ok_bind] at h
      obtain ⟨triples, htriples, h⟩ := bind_eq_ok.1 h
      have hlen := (mapM_eq_ok_iff.1 htriples).length_eq
      have hnone : upTo m (badPairs t i) = [] ↔ triples = [] := by
        rw [← List.length_eq_zero_iff, hlen, List.length_eq_zero_iff]
      rw [List.forall_mem_cons, hnone, ← and_assoc, ← List.append_eq_nil_iff]
      split at h
      case isTrue hlong =>
        -- a list that is cut off is long
        cases h
        have hne : found ++ triples ≠ [] := by
          rintro hnil
          rw [hnil, List.length_nil] at hlong
          omega
        exact iff_of_false hne fun hnil => hne hnil.1
      case isFalse => exact ih h

section

variable {most : Value} {m : Int} (hmost : most.index = .ok m) (hm : 0 < m)
include hmost hm

/-- If no triples are added, all triples associate. -/
theorem of_addTriples_eq_nil {t : Table} {firsts : List Nat} {found : List String}
    (h : G.addTriples t most firsts found = .ok []) :
    found = [] ∧ ∀ i ∈ firsts, badPairs t i = [] := by
  obtain ⟨hfound, hnone⟩ := (eq_nil_iff_of_addTriples hmost hm.le h).1 rfl
  exact ⟨hfound, fun i hi => (upTo_eq_nil_iff hm).1 (hnone i hi)⟩

/-- If nothing is found, nothing was found at any stage. -/
theorem lists_eq_nil {v : Verdict} (hv : G.verify most = .ok v) (hok : v.ok = true) :
    G.els ≠ [] ∧ G.identityViolations = .ok [] ∧ G.inverseViolations = .ok [] ∧
      ∃ t, G.table = .ok t ∧ G.closureViolations t = .ok [] ∧
        ∀ i < G.order, badPairs t i = [] := by
  rw [verify] at hv
  split at hv
  case isTrue =>
    cases hv
    cases hok
  case isFalse hne =>
    obtain ⟨identity, hidentity, hv⟩ := bind_eq_ok.1 hv
    obtain ⟨inverse, hinverse, hv⟩ := bind_eq_ok.1 hv
    obtain ⟨t, ht, hv⟩ := bind_eq_ok.1 hv
    obtain ⟨closure, hclosure, hv⟩ := bind_eq_ok.1 hv
    have hall : identity ++ inverse ++ closure = [] ∧ ∀ i < G.order, badPairs t i = [] := by
      split at hv
      case isTrue =>
        obtain ⟨found, hfound, hv⟩ := bind_eq_ok.1 hv
        cases hv
        obtain rfl : found = [] := List.isEmpty_iff.1 hok
        obtain ⟨hnil, hbad⟩ := of_addTriples_eq_nil hmost hm hfound
        exact ⟨hnil, fun i hi => hbad i (List.mem_range.2 hi)⟩
      case isFalse hneg =>
        -- an entry that is no position has been listed
        cases hv
        have hnil : identity ++ inverse ++ closure = [] := List.isEmpty_iff.1 hok
        obtain ⟨-, rfl⟩ := List.append_eq_nil_iff.1 hnil
        exact absurd (all_nonneg_iff.2 (closureViolations_eq_nil_iff.1 hclosure)) hneg
    obtain ⟨hnil, hbad⟩ := hall
    obtain ⟨hlaws, rfl⟩ := List.append_eq_nil_iff.1 hnil
    obtain ⟨rfl, rfl⟩ := List.append_eq_nil_iff.1 hlaws
    exact ⟨fun h0 => hne (by simp [order, h0]), hidentity, hinverse, t, ht, hclosure, hbad⟩

end

/-- A row of a table whose entries are places lies inside, and so do the rows that it names. -/
theorem not_outside {t : Table} (hrange : ∀ n ∈ t.entries, n < t.size) {i : Nat}
    (hi : i < t.size) :
    ¬(t.size ≤ i ∨ (t.entries.any fun n => (t.size : Int) ≤ n) = true) := by
  rw [not_or, Array.any_eq_true']
  refine ⟨by omega, ?_⟩
  rintro ⟨n, hn, hle⟩
  have hlt := hrange n hn
  have hle := of_decide_eq_true hle
  omega

/-- No triples are added where all triples associate. -/
theorem addTriples_eq_nil {t : Table} {most : Value} {m : Int} (hmost : most.index = .ok m)
    (hrange : ∀ n ∈ t.entries, n < t.size) {firsts : List Nat}
    (h : ∀ i ∈ firsts, i < t.size ∧ badPairs t i = []) :
    G.addTriples t most firsts [] = .ok [] := by
  induction firsts with
  | nil => rfl
  | cons i firsts ih =>
    have hnone : upTo m (badPairs t i) = [] := by
      rw [(h i (by simp)).2, upTo]
      split <;> simp
    rw [addTriples, if_neg (not_outside hrange (h i (by simp)).1), hmost]
    simp only [pure_eq_ok, ok_bind, hnone, List.mapM_nil, List.append_nil]
    split
    · rfl
    · exact ih fun j hj => h j (List.mem_cons_of_mem i hj)

/-! ## The table -/

theorem placeEntry_ofNat {p size : Nat} (hp : p < size) :
    placeEntry size (Value.ofNat p) = .ok (p : Int) := by
  rw [Value.ofNat, placeEntry, if_pos (by simpa using hp)]

/-- For the lists that there are, places are entries as all other numbers are. -/
theorem placeEntry_eq_tableEntry {size : Nat} (hsize : size ≤ 0x8000000000000000) (place : Value) :
    placeEntry size place = place.tableEntry := by
  cases place with
  | int k =>
    rw [placeEntry]
    split
    · next hk =>
      have hbounded : Value.isBounded k = true := by
        simp only [Bool.and_eq_true, decide_eq_true_eq] at hk
        simp only [Value.isBounded, Bool.and_eq_true, decide_eq_true_eq]
        omega
      rw [Value.tableEntry, Value.bounded, if_pos hbounded]
    · rfl
  | _ => rfl

/-- The entry at `i` and `j` is the place of the element that the product is equal to, or `-1` if
the product is no element. -/
structure Tabulates (G : FiniteGroup) (t : Table) : Prop where
  size_eq : t.size = G.els.length
  get_eq : ∀ i, ∀ hi : i < G.els.length, ∀ j, ∀ hj : j < G.els.length,
    ∃ c, G.mul G.els[i] G.els[j] = .ok c ∧
      ((∃ p, ∃ hp : p < G.els.length, t.get i j = p ∧ (G.els[p] == c) = true ∧
          G.contains c = .ok true) ∨
        t.get i j = -1 ∧ G.contains c = .ok false)

/-- Whether something is an element is whether its key is. -/
theorem contains_of_keyed {a k : Value} (hk : a.keyed = .ok k) :
    G.contains a = .ok (G.elements.contains k) := by
  rw [contains, Value.sought_of_keyed hk]
  rfl

namespace Indexed

variable (hG : G.Indexed)
include hG

theorem nodup_els : G.els.Nodup :=
  hG.els_eq ▸ G.elements.nodup_toList

/-- A product is equal to at most one element. -/
theorem gives_unique {a b p q : Value} (hp : G.Gives a b p) (hq : G.Gives a b q) : p = q := by
  obtain ⟨hp, c, hc, hpc⟩ := hp
  obtain ⟨hq, c', hc', hqc⟩ := hq
  rw [hc] at hc'
  obtain rfl := Except.ok.inj hc'
  rw [hG.els_eq] at hp hq
  exact Roster.eq_of_beq hp hq (BEq.trans hpc (BEq.symm hqc))

theorem none_mem (h : G.contains .none = .ok true) : Value.none ∈ G.els := by
  obtain ⟨a, ha, hnone⟩ := Roster.contains_iff.1 (Except.ok.inj h)
  rwa [hG.els_eq, ← Value.eq_none_of_beq hnone]

/-- The entry of a table is the place of a product. -/
theorem productIndex_eq {i j : Nat} (hi : i < G.els.length) (hj : j < G.els.length) :
    G.productIndex G.els.toArray i j = keyedProduct G.mul G.els[i] G.els[j] >>= fun k =>
      .ok ((G.elements.find? k).elim (-1) Int.ofNat) := by
  rw [productIndex, keyedProduct]
  simp only [List.getElem?_toArray, List.getElem?_eq_getElem hi, List.getElem?_eq_getElem hj,
    hG.position_eq]
  cases G.mul G.els[i] G.els[j] with
  | error e => rfl
  | ok c =>
    simp only [ok_bind]
    cases c.keyed with
    | error e => rfl
    | ok k =>
      simp only [ok_bind, pure_eq_ok]
      cases hfind : G.elements.find? k with
      | none => rfl
      | some p =>
        obtain ⟨hp, -⟩ := Roster.find?_eq_some_iff.1 hfind
        exact placeEntry_ofNat (by rwa [List.size_toArray, hG.els_eq])

theorem tabulates {t : Table} (ht : G.table = .ok t) : G.Tabulates t := by
  rw [hG.table_eq] at ht
  obtain ⟨hsize, hget⟩ := Table.of_build ht
  rw [List.size_toArray] at hsize hget
  refine ⟨hsize, fun i hi j hj => ?_⟩
  have hplace := hget i hi j hj
  rw [hG.productIndex_eq hi hj] at hplace
  obtain ⟨k, hproduct, hplace⟩ := bind_eq_ok.1 hplace
  obtain ⟨c, hc, hk⟩ := bind_eq_ok.1 hproduct
  have hcontains : G.contains c = .ok (G.elements.contains k) := contains_of_keyed hk
  refine ⟨c, hc, ?_⟩
  cases hfind : G.elements.find? k with
  | none =>
    rw [hfind] at hplace
    rw [Roster.find?_eq_none_iff.1 hfind] at hcontains
    exact .inr ⟨(Except.ok.inj hplace).symm, hcontains⟩
  | some p =>
    rw [hfind, Option.elim_some] at hplace
    have hentry := Except.ok.inj hplace
    obtain ⟨hp, hpk⟩ := Roster.find?_eq_some_iff.1 hfind
    have hmem : G.elements.contains k = true :=
      Roster.contains_iff.2 ⟨_, List.getElem_mem hp, hpk⟩
    rw [hmem] at hcontains
    refine .inl ⟨p, hG.els_eq ▸ hp, hentry.symm, ?_, hcontains⟩
    rw [List.getElem_of_eq hG.els_eq]
    exact BEq.trans hpk (Value.beq_of_keyed hk)

/-- There is a table if products can be keys. -/
theorem exists_table (hmul : ∀ a ∈ G.els, ∀ b ∈ G.els, ∃ k, keyedProduct G.mul a b = .ok k) :
    ∃ t, G.table = .ok t := by
  rw [hG.table_eq]
  refine Table.exists_build fun i hi j hj => ?_
  rw [List.size_toArray] at hi hj
  obtain ⟨k, hk⟩ := hmul _ (List.getElem_mem hi) _ (List.getElem_mem hj)
  rw [hG.productIndex_eq hi hj, hk, ok_bind]
  exact ⟨_, rfl⟩

end Indexed

namespace Tabulates

variable {t : Table} (h : G.Tabulates t)
include h

/-- All entries are places if all products are elements. -/
theorem nonneg_iff : (∀ i < t.size, ∀ j < t.size, 0 ≤ t.get i j) ↔
    ∀ a ∈ G.els, ∀ b ∈ G.els, ∃ c, G.mul a b = .ok c ∧ G.contains c = .ok true := by
  rw [h.size_eq]
  constructor
  · intro hpos a ha b hb
    obtain ⟨i, hi, rfl⟩ := List.getElem_of_mem ha
    obtain ⟨j, hj, rfl⟩ := List.getElem_of_mem hb
    obtain ⟨c, hc, ⟨p, hp, hget, -, hcontains⟩ | ⟨hget, -⟩⟩ := h.get_eq i hi j hj
    · exact ⟨c, hc, hcontains⟩
    · have := hpos i hi j hj
      omega
  · intro hmem i hi j hj
    obtain ⟨c, hc, ⟨p, hp, hget, -⟩ | ⟨-, hcontains⟩⟩ := h.get_eq i hi j hj
    · omega
    · obtain ⟨c', hc', hcontains'⟩ := hmem _ (List.getElem_mem hi) _ (List.getElem_mem hj)
      rw [hc] at hc'
      obtain rfl := Except.ok.inj hc'
      rw [hcontains] at hcontains'
      cases hcontains'

theorem lt_size {n : Int} (hn : n ∈ t.entries) : n < t.size := by
  obtain ⟨i, hi, j, hj, rfl⟩ := Table.exists_get hn
  rw [h.size_eq] at hi hj ⊢
  obtain ⟨c, -, ⟨p, hp, hget, -⟩ | ⟨hget, -⟩⟩ := h.get_eq i hi j hj <;> omega

section

variable (hclosed : ∀ i < t.size, ∀ j < t.size, 0 ≤ t.get i j)
include hclosed

theorem exists_place {i j : Nat} (hi : i < G.els.length) (hj : j < G.els.length) :
    ∃ p, ∃ hp : p < G.els.length, t.get i j = p ∧ G.Gives G.els[i] G.els[j] G.els[p] := by
  obtain ⟨c, hc, ⟨p, hp, hget, hpc, -⟩ | ⟨hget, -⟩⟩ := h.get_eq i hi j hj
  · exact ⟨p, hp, hget, List.getElem_mem hp, c, hc, hpc⟩
  · have := hclosed i (h.size_eq ▸ hi) j (h.size_eq ▸ hj)
    omega

variable (hG : G.Indexed)
include hG

/-- The product of two elements is the one at the place that the table has for it. -/
theorem gives_iff {i j : Nat} (hi : i < G.els.length) (hj : j < G.els.length) {p : Value} :
    G.Gives G.els[i] G.els[j] p ↔ G.els[(t.get i j).toNat]? = some p := by
  obtain ⟨q, hq, hget, hgives⟩ := h.exists_place hclosed hi hj
  rw [hget, Int.toNat_natCast, List.getElem?_eq_getElem hq, Option.some.injEq]
  constructor
  · exact hG.gives_unique hgives
  · rintro rfl
    exact hgives

/-- No triples are bad if the products associate. -/
theorem badPairs_eq_nil_iff : (∀ i < G.els.length, badPairs t i = []) ↔
    ∀ ⦃a b c d f p q⦄, a ∈ G.els → b ∈ G.els → c ∈ G.els → G.Gives a b d → G.Gives b c f →
      G.Gives d c p → G.Gives a f q → p = q := by
  simp only [FiniteGroup.badPairs_eq_nil_iff, h.size_eq]
  constructor
  · intro hassoc a b c d f p q ha hb hc hd hf hp hq
    obtain ⟨i, hi, rfl⟩ := List.getElem_of_mem ha
    obtain ⟨j, hj, rfl⟩ := List.getElem_of_mem hb
    obtain ⟨k, hk, rfl⟩ := List.getElem_of_mem hc
    rw [h.gives_iff hclosed hG hi hj] at hd
    rw [h.gives_iff hclosed hG hj hk] at hf
    obtain ⟨hij, rfl⟩ := List.getElem?_eq_some_iff.1 hd
    obtain ⟨hjk, rfl⟩ := List.getElem?_eq_some_iff.1 hf
    rw [h.gives_iff hclosed hG hij hk, hassoc i hi j hj k hk] at hp
    rw [h.gives_iff hclosed hG hi hjk] at hq
    exact Option.some.inj (hp.symm.trans hq)
  · intro hassoc i hi j hj k hk
    obtain ⟨ij, hij, hgetij, hgives⟩ := h.exists_place hclosed hi hj
    obtain ⟨jk, hjk, hgetjk, hgives'⟩ := h.exists_place hclosed hj hk
    obtain ⟨p, hp, hgetp, hp'⟩ := h.exists_place hclosed hij hk
    obtain ⟨q, hq, hgetq, hq'⟩ := h.exists_place hclosed hi hjk
    have hpq := hassoc (List.getElem_mem hi) (List.getElem_mem hj) (List.getElem_mem hk) hgives
      hgives' hp' hq'
    rw [hgetij, hgetjk, Int.toNat_natCast, Int.toNat_natCast, hgetp, hgetq,
      hG.nodup_els.getElem_inj_iff.1 hpq]

end

end Tabulates

/-! ## The check -/

/-- If nothing is found, the laws hold. -/
theorem Indexed.laws_of_verify (hG : G.Indexed) {most : Value} {m : Int}
    (hmost : most.index = .ok m) (hm : 0 < m) {v : Verdict} (hv : G.verify most = .ok v)
    (hok : v.ok = true) : G.Laws := by
  obtain ⟨hne, hidentity, hinverse, t, ht, hclosure, hbad⟩ := lists_eq_nil hmost hm hv hok
  obtain ⟨hcontains, hunit⟩ := identityViolations_eq_nil_iff.1 hidentity
  have htab := hG.tabulates ht
  have hclosed := closureViolations_eq_nil_iff.1 hclosure
  exact {
    els_ne := hne
    contains_identity := hcontains
    identity_mul := hunit
    mul_mem := htab.nonneg_iff.1 hclosed
    inverse_mul := fun a ha => by
      obtain ⟨b, hb, -, hlaws⟩ := inverseViolations_eq_nil_iff.1 hinverse a ha
      exact ⟨b, hb, hlaws⟩
    mul_assoc := (htab.badPairs_eq_nil_iff hclosed hG).1 hbad }

/-- If the laws hold, nothing is found in a group that has a table. -/
theorem Laws.verify_eq (hlaws : G.Laws) (hG : G.Indexed) (hnone : Value.none ∉ G.els)
    {t : Table} (ht : G.table = .ok t) {most : Value} {m : Int} (hmost : most.index = .ok m) :
    G.verify most = .ok ⟨[]⟩ := by
  have htab := hG.tabulates ht
  have hclosed := htab.nonneg_iff.2 hlaws.mul_mem
  have hidentity : G.identityViolations = .ok [] :=
    identityViolations_eq_nil_iff.2 ⟨hlaws.contains_identity, hlaws.identity_mul⟩
  have hinverse : G.inverseViolations = .ok [] := by
    refine inverseViolations_eq_nil_iff.2 fun a ha => ?_
    obtain ⟨b, hb, hcontains, hproducts⟩ := hlaws.inverse_mul a ha
    refine ⟨b, hb, ?_, hcontains, hproducts⟩
    rintro rfl
    exact hnone (hG.none_mem hcontains)
  have htriples : G.addTriples t most (List.range G.order) [] = .ok [] := by
    refine addTriples_eq_nil hmost (fun n => htab.lt_size) fun i hi => ?_
    have hi := List.mem_range.1 hi
    exact ⟨htab.size_eq ▸ hi, (htab.badPairs_eq_nil_iff hclosed hG).2 hlaws.mul_assoc i hi⟩
  have hne : G.order ≠ 0 := fun h0 => hlaws.els_ne (List.eq_nil_of_length_eq_zero h0)
  rw [verify, if_neg hne, hidentity, hinverse, ht]
  simp only [ok_bind]
  rw [closureViolations_eq_nil_iff.2 hclosed, ok_bind, if_pos (all_nonneg_iff.2 hclosed)]
  simp [htriples]

end FiniteGroup

end FiniteGroups
