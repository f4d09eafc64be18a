import FiniteGroups.Proofs.Homomorphisms
import FiniteGroups.Proofs.Numbers
import FiniteGroups.Proofs.Residues
import Mathlib.Algebra.Group.PUnit

/-!
# Images of generators in valid groups

Generators of a part of a valid group are sent to elements of another one. `ValidGroup.SendsGens`
says what there is to say about it, and `ValidGroup.sendsGens` that it is so : whether the
extension succeeds, whether a map is made, and what they give, is decided by the homomorphisms
alone.

What is refused is a fault of structure. Its text names generators that disagree, and where one of
them cannot be written, that is the fault. Numbers of more than `Text.maxDigits` digits cannot :
`exists_badValue` sends one of them to two places.
-/

set_option linter.unusedSectionVars false

namespace FiniteGroups

open FiniteGroup

/-! ## Extensions -/

namespace ValidGroup

/-- The elements that generators generate. -/
noncomputable def generated (G : ValidGroup) (gens : List Value) : Subgroup G.Element :=
  Subgroup.closure (extent G.Stands gens)

/-- The homomorphism sends each generator to its image. -/
def IsExtension (G K : ValidGroup) (gens images : List Value)
    (φ : G.generated gens →* K.Element) : Prop :=
  SendsEach (Within G.Stands (G.generated gens)) K.Stands gens images φ

/-- What there is to say about sending generators to images. -/
structure SendsGens (G K : ValidGroup) (gens images : List Value) : Prop where
  /-- The extension succeeds exactly if there is a homomorphism. -/
  extendMap_iff : ∀ p q,
    (∃ sent, (extendMap (.list p gens) (.list q images) G.op.meaning.call₂
      K.op.meaning.call₂).outcome = .ok sent) ↔ ∃ φ, G.IsExtension K gens images φ
  /-- It is refused with a fault of structure, or with that of writing an element. -/
  extendMap_error : ∀ p q e,
    (extendMap (.list p gens) (.list q images) G.op.meaning.call₂
      K.op.meaning.call₂).outcome = .error e →
    e.category = .structural ∨ ∃ a x, G.Stands a x ∧ a.plain = .error e
  /-- It gives each element that is generated its image. -/
  extendMap_ok : ∀ p q sent,
    (extendMap (.list p gens) (.list q images) G.op.meaning.call₂
      K.op.meaning.call₂).outcome = .ok sent → gens ≠ [] →
    Standing G.Stands sent.keys.toList ∧ extent G.Stands sent.keys.toList = G.generated gens ∧
      ∀ φ, G.IsExtension K gens images φ → ∀ a, ∀ x : G.generated gens, G.Stands a x →
        ∃ b, sent.get? a = some b ∧ K.Stands b (φ x)
  /-- A map is made exactly if moreover the generators generate the group. -/
  ofGens_iff : ∀ p q,
    (∃ f, GroupMap.ofGens G.candidate K.candidate (.list p gens) (.list q images) = .ok f) ↔
      (∃ φ, G.IsExtension K gens images φ) ∧ G.generated gens = ⊤
  /-- It is the one homomorphism that sends the generators to the images. -/
  ofGens_ok : ∀ p q f,
    GroupMap.ofGens G.candidate K.candidate (.list p gens) (.list q images) = .ok f →
    f.src = G.toFiniteGroup ∧ f.tgt = K.toFiniteGroup ∧ f.isHom = .ok true ∧
      ∃ φ : G.Element →* K.Element, SendsEach G.Stands K.Stands gens images φ ∧
        f.Sends G.Stands K.Stands φ ∧
        ∀ ψ : G.Element →* K.Element, SendsEach G.Stands K.Stands gens images ψ → ψ = φ

variable {G K : ValidGroup} {gens images : List Value}

theorem sendsGens (hgens : Standing G.Stands gens) (himages : Standing K.Stands images)
    (hlength : gens.length = images.length) : G.SendsGens K gens images where
  extendMap_iff p q := by
    rw [G.intact.call_op, K.intact.call_op]
    have hspec := G.realizes.extendMap_spec K.realizes rfl hgens himages hlength p q
    constructor
    · rintro ⟨sent, hsent⟩
      obtain ⟨φ, hφ, -⟩ := hspec.of_ok hsent
      exact ⟨φ, hφ⟩
    · intro hex
      cases hrun : (extendMap (.list p gens) (.list q images) G.mul K.mul).outcome with
      | ok sent => exact ⟨sent, rfl⟩
      | error e => exact absurd hex (hspec.of_error hrun).2
  extendMap_error p q e he := by
    rw [G.intact.call_op, K.intact.call_op] at he
    exact ((G.realizes.extendMap_spec K.realizes rfl hgens himages hlength p q).of_error he).1
  extendMap_ok p q sent hsent hne := by
    rw [G.intact.call_op, K.intact.call_op] at hsent
    obtain ⟨φ, hφ, hstand, hextent⟩ :=
      (G.realizes.extendMap_spec K.realizes rfl hgens himages hlength p q).of_ok hsent
    have hgraph : extent (Paired G.Stands K.Stands) sent.toList = graph φ := by
      rw [hextent]
      simp [hne]
    refine ⟨Assignment.standing_keys hstand, ?_, fun ψ hψ a x ha => ?_⟩
    · rw [Assignment.extent_keys hstand faithful, hgraph, image_fst_graph]
      rfl
    · rw [Assignment.exists_get?_iff hstand faithful ha, hgraph]
      obtain rfl := hψ.unique (faithful_within faithful _) faithful
        (closure_extent_within gens rfl) hlength hφ
      exact ⟨x, rfl⟩
  ofGens_iff p q := by
    constructor
    · rintro ⟨f, hf⟩
      by_contra hno
      obtain ⟨e, he⟩ := G.realizes.ofGens_error K.realizes rfl hgens himages hlength p q hno
      rw [hf] at he
      cases he
    · rintro ⟨⟨φ, hφ⟩, htop⟩
      obtain ⟨ψ, -, f, hf, -⟩ :=
        G.realizes.ofGens_spec K.realizes rfl hgens himages hlength p q hφ htop
      exact ⟨f, hf⟩
  ofGens_ok p q f hf := by
    by_cases hex : (∃ φ, G.IsExtension K gens images φ) ∧ G.generated gens = ⊤
    · obtain ⟨⟨φ, hφ⟩, htop⟩ := hex
      obtain ⟨ψ, hψ, f', hf', hsrc, htgt, hsends⟩ :=
        G.realizes.ofGens_spec K.realizes rfl hgens himages hlength p q hφ htop
      rw [hf] at hf'
      obtain rfl := Except.ok.inj hf'
      exact ⟨hsrc, htgt, hsends.isHom_eq, ψ, hψ, hsends,
        fun χ hχ => hχ.unique faithful faithful htop hlength hψ⟩
    · obtain ⟨e, he⟩ := G.realizes.ofGens_error K.realizes rfl hgens himages hlength p q hex
      rw [hf] at he
      cases he

/-- The generator of the residues modulo six is sent to itself, and products to products. -/
theorem sendsGens_residues :
    let G := validResidues (n := 6) (by decide) (by decide)
    G.SendsGens G [.int 1] [.int 1] ∧
      G.IsExtension G [.int 1] [.int 1] (G.generated [.int 1]).subtype := by
  intro G
  let one : G.Element := residue (by decide) (by decide) 1 (by decide)
  have hstands : G.Stands (.int 1) one := stands_self one
  have hstand : Standing G.Stands [.int 1] := standing_singleton hstands
  refine ⟨sendsGens hstand hstand rfl, fun i hi hi' => ?_⟩
  obtain rfl : i = 0 := Nat.lt_one_iff.1 hi
  have hmem : one ∈ G.generated [.int 1] := Subgroup.subset_closure ⟨_, by simp, hstands⟩
  exact ⟨⟨one, hmem⟩, hstands, hstands⟩

end ValidGroup

/-! ## An element that cannot be written -/

/-- A number on its own. -/
def single (m : Int) : FiniteGroup :=
  ofRoster (.ofList [.int m]) (.op .left []) (.int m) .none .none .none

/-- The number is the element of the trivial group. -/
def IsSingle (m : Int) (a : Value) (_ : Unit) : Prop :=
  a = .int m

section

variable {m : Int}

theorem els_single : (single m).els = [.int m] := by
  have hlist : (Roster.ofList [Value.int m]).toList = [.int m] := Roster.toList_ofList (by simp)
  show (Roster.promote _ _).toList = _
  rw [Roster.toList_promote (Roster.contains_ofList.2 ⟨_, by simp, BEq.rfl⟩), hlist]
  simp

theorem mul_single (a b : Value) : (single m).mul a b = .ok a := by
  show (Value.op .left []).meaning.call [a, b] = _
  rw [Value.meaning, Value.meaningWith.eq_def]
  rfl

theorem inverse_single : (single m).inverse (.int m) = .ok (.int m) := by
  have heq : (Value.int m).equal (.int m) = .ok true := by
    rw [Value.equal_of_isSimple rfl rfl, BEq.rfl]
  have hkeyed : (Value.int m).keyed = .ok (.int m) := rfl
  have hsearch : searchInverses (single m).els (single m).mul (.int m) =
      .ok (.ofList [(.int m, .int m)]) := by
    rw [els_single]
    simp [searchInverses, searchInverse, mul_single, heq, hkeyed, Assignment.ofList]
  show (do return ((← searchInverses (single m).els (single m).mul (.int m)).get?
    (← (Value.int m).keyed)).getD .none) = _
  rw [hsearch, ok_bind, hkeyed, ok_bind, Assignment.get?_singleton]
  rfl

theorem realizes_single : (single m).Realizes (IsSingle m) where
  faithful := by
    rintro _ _ ⟨⟩ ⟨⟩ rfl rfl
    simp
  mul_eq := by
    rintro _ b - - rfl -
    exact ⟨_, mul_single _ b, rfl⟩
  keyed_eq := by
    rintro _ - rfl
    exact ⟨_, rfl, rfl⟩
  intact := intact_ofRoster _ _ _ _ _ (Or.inl rfl)
  equal_eq := by
    rintro _ _ - - rfl rfl
    exact Value.equal_of_isSimple rfl rfl
  standing a ha := by
    rw [els_single] at ha
    exact ⟨(), List.mem_singleton.1 ha⟩
  surjective _ := ⟨.int m, by simp [els_single], rfl⟩
  one := rfl
  inverse_eq := by
    rintro _ - - rfl
    exact ⟨.int m, inverse_single, rfl, by simp⟩
  inverse_keyed a k ha hk := by
    rw [els_single] at ha
    obtain rfl := List.mem_singleton.1 ha
    rw [← Except.ok.inj hk]

/-- The number on its own as a valid group. -/
def validSingle (m : Int) : ValidGroup :=
  .ofRealizes (realizes_single (m := m))

end

/-- What is sent to two places is named, if it can be written. -/
theorem extendMap_twice {a b c : Value} (ha : a.keyed = .ok a) (hbc : b.equal c = .ok false)
    (mul₁ mul₂ : Value → Value → Except Fault Value) :
    (extendMap (.list 0 [a, a]) (.list 0 [b, c]) mul₁ mul₂).outcome =
      (do throw (.conflictingImages (← a.plain))) := by
  have item : ∀ x y : Value, (Value.list 0 [x, y]).item (Value.ofNat 0) = .ok x ∧
      (Value.list 0 [x, y]).item (Value.ofNat 1) = .ok y :=
    fun x y => ⟨item_list (by simp), item_list (by simp)⟩
  have hfirst : sendOne .empty a b = .ok (.ofList [(a, b)]) := by
    rw [sendOne, Assignment.get?_empty]
    rfl
  have hsecond : sendOne (.ofList [(a, b)]) a c = (do throw (.conflictingImages (← a.plain))) := by
    rw [sendOne, Assignment.get?_singleton]
    dsimp only
    rw [hbc]
    rfl
  have hassign : assignEach (.list 0 [a, a]) (.list 0 [b, c]) 2 =
      (do throw (.conflictingImages (← a.plain))) := by
    have hzero : assignEach (.list 0 [a, a]) (.list 0 [b, c]) 0 = .ok .empty := rfl
    simp only [assignEach_succ, hzero, item, ok_bind, ha, hfirst, hsecond]
  rw [outcome_extendMap (by rfl)]
  show (do
    let sent ← assignEach (.list 0 [a, a]) (.list 0 [b, c]) 2
    _) = _
  rw [hassign]
  cases a.plain <;> rfl

namespace ValidGroup

variable {G K : ValidGroup}

theorem not_isExtension_twice {a b c : Value} (hbc : (b == c) = false)
    (φ : G.generated [a, a] →* K.Element) :
    ¬G.IsExtension K [a, a] [b, c] φ := by
  intro h
  obtain ⟨y, hy, hb⟩ := h 0 (by simp) (by simp)
  obtain ⟨z, hz, hc⟩ := h 1 (by simp) (by simp)
  obtain rfl := (faithful_within faithful _).unique hy hz
  rw [← Bool.not_eq_true] at hbc
  exact hbc ((faithful hb hc).2 rfl)

end ValidGroup

/-- A number that cannot be written and is sent to two places is not refused with a fault of
structure. -/
theorem exists_badValue :
    let m : Int := (Nat.pow 10 Text.maxDigits : Nat)
    let G := validSingle m
    let K := validResidues (n := 2) (by decide) (by decide)
    Standing G.Stands [.int m, .int m] ∧ Standing K.Stands [.int 0, .int 1] ∧
      (¬∃ φ, G.IsExtension K [.int m, .int m] [.int 0, .int 1] φ) ∧
      ∃ e, (extendMap (.list 0 [.int m, .int m]) (.list 0 [.int 0, .int 1])
        G.op.meaning.call₂ K.op.meaning.call₂).outcome = .error e ∧ e.category ≠ .structural := by
  intro m G K
  have hm : G.Stands (.int m) (1 : G.Element) := ValidGroup.unit_stands
  have hzero : K.Stands (.int 0) (1 : K.Element) := ValidGroup.unit_stands
  let one : K.Element := residue (by decide) (by decide) 1 (by decide)
  have hone : K.Stands (.int 1) one := ValidGroup.stands_self one
  have hne : (Value.int 0 == .int 1) = false := by simp [← Bool.not_eq_true, beq_int]
  refine ⟨(standing_singleton hm).cons hm, (standing_singleton hone).cons hzero, ?_, ?_⟩
  · exact fun ⟨φ, hφ⟩ => ValidGroup.not_isExtension_twice hne φ hφ
  · rw [extendMap_twice rfl (by rw [Value.equal_of_isSimple rfl rfl, hne]),
      plain_of_le (Int.natAbs_natCast _).ge]
    exact ⟨.badValue, rfl, by decide⟩

end FiniteGroups
