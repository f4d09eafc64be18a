import FiniteGroups.Proofs.Numbering
import FiniteGroups.Proofs.Orbits

/-!
# Actions as maps to permutations

A group that acts on items is sent to the permutations of the numbered items. Whenever a
homomorphism followed by a faithful action on the numbers is the action itself, the map is this
homomorphism (`GroupAction.Realizes.permRep_spec`) : the permutations are those of the elements
that the homomorphism has as its values. With the range of the action as the target it is the
action, and its kernel are the elements that move no item.
-/

set_option linter.unusedSectionVars false

namespace FiniteGroups

open FiniteGroup

variable {M N X : Type} [Group M] [Group N] [MulAction M X] {R : Value → M → Prop}
  {S : Value → X → Prop} {n : Nat}

/-! ## The group of the permutations -/

/-- The permutations of the values of a homomorphism that is onto are a group that the group is
sent to. -/
theorem FiniteGroup.Realizes.realizes_perms {G : FiniteGroup} (hG : G.Realizes R) {φ : M →* N}
    (hφ : Function.Surjective φ) {ρ : N →* Equiv.Perm (Point n)} (hρ : Function.Injective ρ)
    {perms : List (Value × Value)}
    (hperms : List.Forall₂ (fun g q => ∃ x, R g x ∧ Paired R (IsPermOf ρ) q (x, φ x)) G.els perms)
    {one : Perm} (hone : one.Moves (1 : Equiv.Perm (Point n))) (name : String) (origin : Origin)
    {links : List Value} (hlinks : ∀ v ∈ links, ∃ m, v.length = .ok m) :
    (permGroup n (.ofList (perms.map Prod.snd)) one name origin links).Realizes (IsPermOf ρ) ∧
      Standing (Paired R (IsPermOf ρ)) (Assignment.ofList perms).toList ∧
      extent (Paired R (IsPermOf ρ)) (Assignment.ofList perms).toList
        = Set.range fun x => (x, φ x) := by
  have hfaithful := faithful_isPermOf hρ
  have hsnd : List.Forall₂ (fun g q => ∃ x, R g x ∧ IsPermOf ρ q (φ x)) G.els
      (perms.map Prod.snd) := by
    rw [List.forall₂_map_right_iff]
    exact hperms.imp fun _ _ ⟨x, hx, _, hq⟩ => ⟨x, hx, hq⟩
  obtain ⟨hstand, hextent⟩ := hG.faithful.extent_of_forall₂ hfaithful hsnd
  rw [hG.extent_els, Set.image_univ, hφ.range_eq] at hextent
  have hP : (permGroup n (.ofList (perms.map Prod.snd)) one name origin links).Realizes
      (IsPermOf ρ) :=
    realizes_permGroup hρ (hstand.mono fun _ => Roster.mem_of_mem_ofList)
      ((hfaithful.extent_ofList hstand).trans hextent) ⟨one, rfl, by rwa [map_one]⟩ hlinks
  obtain ⟨hsends, -⟩ := GroupMap.sends_ofList hG hP (φ := φ) hperms
  exact ⟨hP, hsends.standing, hsends.graph⟩

/-! ## The permutations of an action -/

namespace GroupAction.Realizes

variable {A : GroupAction} (hA : A.Realizes R S) {e : Point A.items.length ≃ X}
include hA

theorem exists_numbering : ∃ e : Point A.items.length ≃ X, Numbers S A.items e :=
  hA.faithful.exists_numbering hA.standing hA.distinct hA.surjective

theorem length_pos : 0 < A.items.length :=
  List.length_pos_of_ne_nil hA.items_ne

/-- The items are numbered as their keys are. -/
theorem numbers_spec (he : Numbers S A.items e) : ∃ numbers, A.numbers = .ok numbers ∧
    ∀ a x, S a x → numbers.get? a = some (e.symm x).1 := by
  obtain ⟨keys, hkeys, -, hnumbered⟩ := he.exists_keys hA.faithful hA.keyed_eq
  refine ⟨.ofList (keys.zipIdx 1), by rw [numbers, hkeys]; rfl, fun a x hx => ?_⟩
  exact hnumbered.get?_zipIdx hA.faithful hx

/-- An element is read as the permutation by which it moves the numbers. -/
theorem permOf_spec (he : Numbers S A.items e) {numbers : Assignment Value Nat}
    (hnumbers : ∀ a x, S a x → numbers.get? a = some (e.symm x).1) {a : Value} {x : M}
    (ha : R a x) : ∃ p, A.permOf numbers a = .ok p ∧ p.Moves (pointAction e x) := by
  refine he.exists_readPerm hA.length_pos _ fun b i hb => ?_
  obtain ⟨c, hc, hcx⟩ := hA.act_eq ha hb
  obtain ⟨k, hk, hkx⟩ := hA.keyed_eq hcx
  rw [hc, ok_bind, hk, ok_bind, hnumbers k _ hkx]
  rfl

/-- The action can be written. -/
theorem exists_plain : ∃ s, A.value.plain = .ok s := by
  obtain ⟨s, hs⟩ := hA.group.intact.text_eq
  have hwrite : Value.write false A.group.value = .ok s := by
    rw [FiniteGroup.value, Value.write.eq_def]
    exact hs
  refine ⟨s!"Action({s}, {A.items.length})", ?_⟩
  rw [Value.plain, value, Value.write.eq_def]
  show (do return s!"Action({← Value.write false A.group.value}, {A.items.length})") = _
  rw [hwrite]
  rfl

/-- The map to the permutations of the numbered items is made, which are composed. It sends elements
as a homomorphism does through which the action on the numbers factors. -/
theorem permRep_spec (he : Numbers S A.items e) {φ : M →* N} (hφ : Function.Surjective φ)
    {ρ : N →* Equiv.Perm (Point A.items.length)} (hρ : Function.Injective ρ)
    (hfactor : ∀ x, ρ (φ x) = pointAction e x) :
    ∃ f, A.permRep = .ok f ∧ f.src = A.group ∧
      (∃ els one name, f.tgt = permGroup A.items.length els one name .plain []) ∧
      f.Sends R (IsPermOf ρ) φ := by
  have hG := hA.group
  obtain ⟨numbers, hnumbers, hget⟩ := hA.numbers_spec he
  obtain ⟨perms, hperms, hall⟩ := exists_mapM A.group.els
      (f := fun g => do
        let p ← A.permOf numbers g
        return (← g.keyed, Value.perm p))
      (P := fun g q => ∃ x, R g x ∧ Paired R (IsPermOf ρ) q (x, φ x)) fun a ha => by
    obtain ⟨x, hx⟩ := hG.standing a ha
    obtain ⟨p, hp, hmoves⟩ := hA.permOf_spec he hget hx
    obtain ⟨k, hk, hkx⟩ := hG.keyed_eq hx
    exact ⟨(k, .perm p), by rw [hp, ok_bind, hk]; rfl, x, hx, hkx, p, rfl, hfactor x ▸ hmoves⟩
  obtain ⟨one, hone, hmoves⟩ := Perm.exists_identity hA.length_pos
  obtain ⟨s, hs⟩ := hA.exists_plain
  obtain ⟨hP, hstand, hgraph⟩ := hG.realizes_perms hφ hρ hall hmoves s!"Sym({s})" .plain
    (List.forall_mem_nil _)
  obtain ⟨f, hf, hsrc, htgt, hsends⟩ := GroupMap.ofAssignment_spec hG hP hstand hgraph
  refine ⟨f, ?_, hsrc, ⟨_, _, _, htgt⟩, hsends⟩
  rw [permRep, hnumbers, ok_bind, hperms, ok_bind]
  show (do
    let one ← Perm.identity A.items.length
    _) = _
  rw [hone, ok_bind, hs]
  exact hf

/-- The map to the permutations is a homomorphism, and its kernel consists of the elements that
move no item. -/
theorem exists_permRep_kernel : ∃ f K, A.permRep = .ok f ∧ f.isHom = .ok true ∧
    f.kernel = .ok K ∧ Consists R K (MulAction.toPermHom M X).ker := by
  obtain ⟨e, he⟩ := hA.exists_numbering
  obtain ⟨f, hf, -, -, hsends⟩ := hA.permRep_spec he
    (pointAction (M := M) e).rangeRestrict_surjective
    (pointAction (M := M) e).range.subtype_injective fun x => rfl
  obtain ⟨K, hK, hconsists⟩ := hsends.kernel_spec
  rw [MonoidHom.ker_rangeRestrict, ker_pointAction] at hconsists
  exact ⟨f, K, hf, hsends.isHom_eq, hK, hconsists⟩

end GroupAction.Realizes

end FiniteGroups
