import FiniteGroups.Proofs.Frattini
import FiniteGroups.Proofs.Numbers
import FiniteGroups.Proofs.Products

/-!
# Generated subgroups

What elements of a valid group generate is what all subgroups that contain them have in common, and
products alone give the same set. It depends on the set of the generators only, grows with it, and
generates itself. A generator that is no element is refused, and the text names it and the group
(`ValidGroup.isGenerated`).

Of the inverse it is only known what it does to the elements as they are listed. What is generated
may hold products that are written in another way and not inverted, so that it does not generate
itself, and a number of more than `Text.maxDigits` digits cannot be named
(`exists_generated_error`).
-/

set_option linter.unusedSectionVars false

namespace FiniteGroups

open FiniteGroup

variable {M : Type} {R : Value → M → Prop}

/-! ## Lists as sets -/

theorem Faithful.subset_ofList_iff (hR : Faithful R) {xs ys : List Value} (hxs : Standing R xs)
    (hys : Standing R ys) : (Roster.ofList xs).subset (Roster.ofList ys) = true ↔
      extent R xs ⊆ extent R ys := by
  rw [hR.subset_iff (hxs.mono fun _ => Roster.mem_of_mem_ofList)
    (hys.mono fun _ => Roster.mem_of_mem_ofList), hR.extent_ofList hxs, hR.extent_ofList hys]

theorem Faithful.sameSet_ofList_iff (hR : Faithful R) {xs ys : List Value} (hxs : Standing R xs)
    (hys : Standing R ys) : (Roster.ofList xs).sameSet (Roster.ofList ys) = true ↔
      extent R xs = extent R ys := by
  rw [hR.sameSet_iff (hxs.mono fun _ => Roster.mem_of_mem_ofList)
    (hys.mono fun _ => Roster.mem_of_mem_ofList), hR.extent_ofList hxs, hR.extent_ofList hys]

/-! ## Generators that are refused -/

namespace FiniteGroup

variable {G : FiniteGroup}

theorem requireMember_of_contains {g : Value} (hg : G.contains g = .ok true) :
    G.requireMember g = .ok () := by
  rw [requireMember, hg]
  rfl

theorem requireMember_of_not_contains {g : Value} {s t : String} (hg : G.contains g = .ok false)
    (hs : g.plain = .ok s) (ht : G.text = .ok t) :
    G.requireMember g = .error (.notMember s t) := by
  rw [requireMember, hg, ok_bind, hs, ht]
  rfl

/-- Some generator that is no element is named, if there is one. -/
theorem requireMembers_of_not_contains (htext : ∃ t, G.text = .ok t) {gens : List Value}
    (hgens : ∀ g ∈ gens, G.contains g = .ok true ∨
      G.contains g = .ok false ∧ ∃ s, g.plain = .ok s)
    (hout : ∃ g ∈ gens, G.contains g = .ok false) : ∃ g ∈ gens, ∃ s t,
      G.contains g = .ok false ∧ g.plain = .ok s ∧ G.text = .ok t ∧
      gens.forM (m := Except Fault) G.requireMember = .error (.notMember s t) := by
  obtain ⟨t, ht⟩ := htext
  cases hrun : gens.forM (m := Except Fault) G.requireMember with
  | ok =>
    obtain ⟨g, hg, hout⟩ := hout
    have hmember := of_forM_eq_ok hrun hg
    obtain hin | ⟨-, s, hs⟩ := hgens g hg
    · simp [hin] at hout
    · rw [requireMember_of_not_contains hout hs ht] at hmember
      cases hmember
  | error e =>
    obtain ⟨g, hg, he⟩ := exists_of_forM_eq_error hrun
    obtain hin | ⟨hout, s, hs⟩ := hgens g hg
    · rw [requireMember_of_contains hin] at he
      cases he
    · rw [requireMember_of_not_contains hout hs ht] at he
      exact ⟨g, hg, s, t, hout, hs, ht, by rw [← Except.error.inj he]⟩

/-- What a check of the generators is refused for, the subgroup is refused for. -/
theorem generated_of_error {gens : List Value} {e : Fault}
    (h : gens.forM (m := Except Fault) G.requireMember = .error e) :
    (G.generated gens).outcome = .error e := by
  simp [generated, h]

end FiniteGroup

/-! ## Valid groups -/

namespace ValidGroup

variable (G : ValidGroup)

/-- What may be offered as a generator: a value that is equal to an element, or something that is no
element and can be written in a text. -/
def Offered (g : Value) : Prop :=
  (∃ x, G.Stands g x) ∨ G.contains g = .ok false ∧ ∃ s, g.plain = .ok s

/-- The generators generate `H`. -/
structure Spans (gens : List Value) (H : FiniteGroup) : Prop where
  generated_eq : (G.toFiniteGroup.generated gens).outcome = .ok H
  standing : Standing G.Stands H.els
  /-- Its elements are those that all subgroups with the generators have in common. -/
  contains_spec : ∀ ⦃a x⦄, G.Stands a x → ∃ answer, H.contains a = .ok answer ∧
    (answer = true ↔ ∀ K : Subgroup G.Element, extent G.Stands gens ⊆ K → x ∈ K)
  /-- Products alone give the same set. -/
  spanned_eq : gens ≠ [] → ∃ found, (spanned gens G.op.meaning.call₂ none .none
    (stopAt .none)).outcome = .ok found ∧ (Roster.ofList found).sameSet H.elements = true
  subset_of_subset : ∀ ⦃gens' K⦄, (∀ g ∈ gens', G.Invertible G.Stands g) →
    (G.toFiniteGroup.generated gens').outcome = .ok K →
    (Roster.ofList gens).subset (Roster.ofList gens') = true → H.elements.subset K.elements = true
  sameSet_of_sameSet : ∀ ⦃gens' K⦄, (∀ g ∈ gens', G.Invertible G.Stands g) →
    (G.toFiniteGroup.generated gens').outcome = .ok K →
    (Roster.ofList gens).sameSet (Roster.ofList gens') = true →
    H.elements.sameSet K.elements = true
  /-- It generates itself if its elements are inverted as they are written. -/
  generated_els : (∀ a ∈ H.els, G.Invertible G.Stands a) →
    ∃ K, (G.toFiniteGroup.generated H.els).outcome = .ok K ∧ K.elements.sameSet H.elements = true

/-- What there is to say about the subgroup that generators generate. -/
structure IsGenerated (gens : List Value) : Prop where
  exists_spans : (∀ g ∈ gens, G.Invertible G.Stands g) → ∃ H, G.Spans gens H
  refused : (∃ g ∈ gens, G.contains g = .ok false) → ∃ g ∈ gens, ∃ s t,
    G.contains g = .ok false ∧ g.plain = .ok s ∧ G.text = .ok t ∧
      (G.toFiniteGroup.generated gens).outcome = .error (.notMember s t)
  precondition_iff : (∀ g ∈ gens, G.contains g = .ok true → G.Invertible G.Stands g) →
    ((∃ e, (G.toFiniteGroup.generated gens).outcome = .error e ∧ e.category = .precondition) ↔
      ∃ g ∈ gens, G.contains g = .ok false)

variable {G} {gens : List Value}

theorem spans_of_consists (hgens : ∀ g ∈ gens, G.Invertible G.Stands g) {H : FiniteGroup}
    (hH : (G.toFiniteGroup.generated gens).outcome = .ok H)
    (hconsists : Consists G.Stands H
      (Subgroup.closure (extent G.Stands gens) : Set G.Element)) : G.Spans gens H := by
  have hG := G.realizes
  have hstand := standing_of_inverts hgens
  -- what other generators span consists of what they generate, too
  have hother : ∀ ⦃gens' K⦄, (∀ g ∈ gens', G.Invertible G.Stands g) →
      (G.toFiniteGroup.generated gens').outcome = .ok K →
      Consists G.Stands K (Subgroup.closure (extent G.Stands gens') : Set G.Element) := by
    intro gens' K hgens' hK
    obtain ⟨K', hK', hconsists'⟩ := hG.span_spec_all hgens'
    obtain rfl := Except.ok.inj (hK.symm.trans hK')
    exact hconsists'
  refine ⟨hH, hconsists.standing_els, fun a x ha => ?_, fun hne => ?_,
    fun gens' K hgens' hK hsubset => ?_, fun gens' K hgens' hK hsame => ?_, fun hinv => ?_⟩
  · obtain ⟨answer, hanswer, hiff⟩ := hG.contains_spec hconsists ha
    exact ⟨answer, hanswer, hiff.trans Subgroup.mem_closure⟩
  · have hseeds : seeds gens none = .ok gens := rfl
    obtain ⟨found, hfound, hall, hextent⟩ := hG.spanned_spec hseeds hne hstand .none
    refine ⟨found.toList, by rw [G.intact.call_op, stopAt_none, hfound], ?_⟩
    rw [faithful.sameSet_iff (hall.mono fun _ => Roster.mem_of_mem_ofList) hconsists.standing,
      faithful.extent_ofList hall, hextent, hconsists.extent_eq]
  · rw [faithful.subset_ofList_iff hstand (standing_of_inverts hgens')] at hsubset
    rw [hconsists.subset_iff faithful (hother hgens' hK)]
    exact Subgroup.closure_mono hsubset
  · rw [faithful.sameSet_ofList_iff hstand (standing_of_inverts hgens')] at hsame
    rw [hconsists.sameSet_iff faithful (hother hgens' hK), hsame]
  · obtain ⟨K, hK, hconsists'⟩ := hG.span_of_subgroup hinv (hconsists.els_eq ▸ hconsists.extent_eq)
    exact ⟨K, hK, (hconsists'.sameSet_iff faithful hconsists).2 rfl⟩

/-- Generators generate a subgroup or are refused. -/
theorem isGenerated (G : ValidGroup) {gens : List Value} (hgens : ∀ g ∈ gens, G.Offered g) :
    G.IsGenerated gens := by
  have hoffered : ∀ g ∈ gens, G.contains g = .ok true ∨
      G.contains g = .ok false ∧ ∃ s, g.plain = .ok s := fun g hg =>
    (hgens g hg).imp_left fun ⟨_, hx⟩ => G.realizes.contains_eq hx
  have hexists : (∀ g ∈ gens, G.Invertible G.Stands g) → ∃ H, G.Spans gens H := by
    intro hinv
    obtain ⟨H, hH, hconsists⟩ := G.realizes.span_spec_all hinv
    exact ⟨H, spans_of_consists hinv hH hconsists⟩
  have hrefused : (∃ g ∈ gens, G.contains g = .ok false) → ∃ g ∈ gens, ∃ s t,
      G.contains g = .ok false ∧ g.plain = .ok s ∧ G.text = .ok t ∧
        (G.toFiniteGroup.generated gens).outcome = .error (.notMember s t) := by
    intro hout
    obtain ⟨g, hg, s, t, hnot, hs, ht, hrun⟩ :=
      requireMembers_of_not_contains G.intact.text_eq hoffered hout
    exact ⟨g, hg, s, t, hnot, hs, ht, generated_of_error hrun⟩
  refine ⟨hexists, hrefused, fun hinv => ⟨?_, fun hout => ?_⟩⟩
  · rintro ⟨e, he, -⟩
    by_contra hnone
    obtain ⟨H, hH⟩ := hexists fun g hg => (hoffered g hg).elim (hinv g hg)
      fun ⟨hout, _⟩ => absurd ⟨g, hg, hout⟩ hnone
    rw [hH.generated_eq] at he
    cases he
  · obtain ⟨g, -, s, t, -, -, -, hrun⟩ := hrefused hout
    exact ⟨_, hrun, rfl⟩

/-- What two residues modulo twelve generate. -/
theorem isGenerated_residues :
    let G := validResidues (n := 12) (by decide) (by decide)
    (∀ g ∈ [Value.int 4, .int 6], G.Offered g) ∧ G.IsGenerated [.int 4, .int 6] := by
  intro G
  have hoffered : ∀ g ∈ [Value.int 4, .int 6], G.Offered g := by
    intro g hg
    refine .inl (G.realizes.standing g ((mem_residues (by decide)).2 ?_))
    obtain rfl | hg := List.mem_cons.1 hg
    · exact ⟨4, by decide, rfl⟩
    · exact ⟨6, by decide, List.mem_singleton.1 hg⟩
  exact ⟨hoffered, G.isGenerated hoffered⟩

end ValidGroup

/-! ## Elements that are not inverted, and numbers that cannot be named -/

/-- What one generates modulo four holds a floating-point number. -/
theorem exists_real_of_span {c : Int} (hc : ((4 : Nat) : Int) ∣ c + 1) :
    ∃ H, (machineResidues 4 c).span [.int 1] = .ok H ∧ Standing (WritesResidue 4) H.els ∧
      ∃ z, .real z ∈ H.els := by
  have hG := realizes_machineResidues (n := 4) (by decide) (by decide) hc
  have hmem : .int 1 ∈ (machineResidues 4 c).els := (mem_residues (by decide)).2 ⟨1, by decide, rfl⟩
  have hone : WritesResidue 4 (.int 1) (Multiplicative.ofAdd 1) := ⟨1, by decide, .int, rfl⟩
  have hthree : WritesResidue 4 (.int 3) (Multiplicative.ofAdd 3) := ⟨3, by decide, .int, rfl⟩
  have hinv : ∀ g ∈ [Value.int 1], (machineResidues 4 c).Invertible (WritesResidue 4) g :=
    fun g hg => List.mem_singleton.1 hg ▸ hG.invertible_of_mem hmem
  obtain ⟨H, hH, hconsists⟩ := hG.span_spec hinv (by simp)
  refine ⟨H, hH, hconsists.standing_els, ?_⟩
  obtain ⟨found, r, hfound, hr, rfl⟩ := exists_of_span hH
  have hseed : seeds [.int 1] (some (machineResidues 4 c).inverse) = .ok [.int 1, .int 3] := by
    simp [seeds, inverse_int (by decide) hc 1]
  have htwo : Multiplicative.ofAdd 2 ∈
      Subgroup.closure (extent (WritesResidue 4) [.int 1]) := by
    have h := Subgroup.subset_closure (show Multiplicative.ofAdd 1 ∈ extent (WritesResidue 4)
      [.int 1] from ⟨_, by simp, hone⟩)
    exact mul_mem h h
  -- two is neither the identity nor one of the seeds
  obtain ⟨b, hb, hbtwo⟩ := hconsists.mem_iff.1 htwo
  obtain rfl | hmem := Roster.mem_of_mem_promote hb
  · exact absurd (hG.faithful.unique hbtwo hG.one) (by decide)
  · obtain hbseed | ⟨z, rfl⟩ := real_of_mem_spanned (by decide) (by decide) hseed (by simp)
      ((standing_singleton hthree).cons hone) hfound hr b hmem
    · obtain rfl | hbseed := List.mem_cons.1 hbseed
      · exact absurd (hG.faithful.unique hbtwo hone) (by decide)
      · obtain rfl := List.mem_singleton.1 hbseed
        exact absurd (hG.faithful.unique hbtwo hthree) (by decide)
    · exact ⟨z, hb⟩

/-- Numbers from `n` on are no elements. -/
theorem contains_machineResidues {n : Nat} {c m : Int} (hpos : 0 < n) (hm : n ≤ m) :
    (machineResidues n c).contains (.int m) = .ok false := by
  show Except.ok ((machineResidues n c).elements.contains (.int m)) = _
  rw [Except.ok.injEq, ← Bool.not_eq_true]
  intro hmem
  obtain ⟨b, hb, hbm⟩ := Roster.contains_iff.1 hmem
  obtain ⟨k, hk, rfl⟩ := (mem_residues hpos).1 hb
  have := beq_int.1 hbm
  omega

/-- What is generated does not generate itself, and a generator that is no element is not refused
for that. -/
theorem exists_generated_error :
    let G := validMachineResidues (n := 4) (by decide) (by decide)
    let m : Int := (Nat.pow 10 Text.maxDigits : Nat)
    (.int 1 ∈ G.els ∧ ∃ H, (G.toFiniteGroup.generated [.int 1]).outcome = .ok H ∧
      (G.toFiniteGroup.generated H.els).outcome = .error .overflow) ∧
    G.contains (.int m) = .ok false ∧ ∃ e,
      (G.toFiniteGroup.generated [.int m]).outcome = .error e ∧ e.category ≠ .precondition := by
  intro G m
  have hc := dvd_largeFactor 4
  obtain ⟨H, hH, hstand, hreal⟩ := exists_real_of_span hc
  have hmem : .int 1 ∈ G.els := (mem_residues (by decide)).2 ⟨1, by decide, rfl⟩
  have hpow : ∀ d, d ≠ 0 → 10 ≤ Nat.pow 10 d := fun d hd => Nat.le_self_pow hd 10
  have hout : G.contains (.int m) = .ok false := by
    have h := hpow Text.maxDigits (by decide)
    exact contains_machineResidues (by decide) (Int.ofNat_le.2 (Nat.le_trans (by decide) h))
  refine ⟨⟨hmem, H, hH, span_real (by decide) (by decide) hc (ofInt_largeFactor (by decide)) hstand
    hreal⟩, hout, .badValue, ?_, by decide⟩
  refine generated_of_error ?_
  have hmember : G.requireMember (.int m) = .error .badValue := by
    rw [requireMember, hout, ok_bind, plain_of_le (Int.natAbs_natCast _).ge]
    rfl
  rw [List.forM, hmember]
  rfl

end FiniteGroups
