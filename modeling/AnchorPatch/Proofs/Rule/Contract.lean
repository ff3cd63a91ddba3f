import AnchorPatch.Proofs.Anchor.Leftmost
import AnchorPatch.Proofs.Rule.Run

namespace AnchorPatch

variable {r : Rule} {b b' t : Text} {found : Located} {outcome : Outcome}

namespace Rule

/-- The guard text, if there is one, does not stand in the buffer. -/
def Unguarded (r : Rule) (b : Text) : Prop := ∀ g, r.unlessPresent = some g → ¬ g <:+: b

/-- The text that a rule puts at a place: its own text, or what becomes of it as a template. -/
def Supplies (r : Rule) (b : Text) (found : Located) (t : Text) : Prop :=
  if r.expand then found.anchor.expand b found.span.start r.text = .ok t else t = r.text

/-- What a rule makes of a buffer, and what it reports. -/
inductive Contract (r : Rule) (b : Text) : Text × Outcome → Prop
  | guarded {g : Text} (hg : r.unlessPresent = some g) (hb : g <:+: b) :
      Contract r b (b, .alreadyPresent .guardText)
  | missing (hguard : r.Unguarded b) (hprimary : r.anchors.primary.pattern.MatchesNowhere b)
      (hfallback : ∀ a, r.anchors.fallback = some a → a.pattern.MatchesNowhere b) :
      Contract r b (b, .notFound (nearestLine b r.anchors.probe))
  | same (hguard : r.Unguarded b) {found : Located} {t : Text} (hfinds : r.anchors.Finds b found)
      (htext : r.Supplies b found t)
      (hsplice : found.anchor.splice found.span.matched t = found.span.matched) :
      Contract r b (b, .alreadyPresent .sameSpan)
  | applied (hguard : r.Unguarded b) {found : Located} {t : Text} (hfinds : r.anchors.Finds b found)
      (htext : r.Supplies b found t)
      (hsplice : found.anchor.splice found.span.matched t ≠ found.span.matched) :
      Contract r b
        (found.span.before ++ found.anchor.splice found.span.matched t ++ found.span.after,
          .applied found.slot found.span.start
            (found.anchor.splice found.span.matched t).byteLength)

theorem unguarded_iff : r.Unguarded b ↔ r.isGuarded b = false := by
  rw [← Bool.not_eq_true, isGuarded_iff]
  simp only [Unguarded, not_exists, not_and]

theorem supplies_iff : r.Supplies b found t ↔ r.textFor b found = .ok t := by
  unfold Supplies textFor
  split
  · exact Except.mapError_eq_ok_iff.symm
  · rw [Except.ok.injEq, eq_comm]

theorem nowhere_iff :
    (r.anchors.primary.pattern.MatchesNowhere b ∧
      ∀ a, r.anchors.fallback = some a → a.pattern.MatchesNowhere b) ↔
      r.anchors.locate b = none := by
  simp only [AnchorPair.locate_eq_none_iff, Pattern.find?_eq_none_iff]

theorem contract_iff_step {result : Text × Outcome} : r.Contract b result ↔ r.Step b result := by
  constructor
  · intro h
    cases h with
    | guarded hg hb => exact .guarded (isGuarded_iff.mpr ⟨_, hg, hb⟩)
    | missing hguard hprimary hfallback =>
        exact .missing (unguarded_iff.mp hguard) (nowhere_iff.mp ⟨hprimary, hfallback⟩)
    | same hguard hfinds htext hsplice =>
        exact .same (unguarded_iff.mp hguard) (AnchorPair.locate_eq_some_iff.mpr hfinds)
          (supplies_iff.mp htext) hsplice
    | applied hguard hfinds htext hsplice =>
        exact .applied (unguarded_iff.mp hguard) (AnchorPair.locate_eq_some_iff.mpr hfinds)
          (supplies_iff.mp htext) hsplice
  · intro h
    cases h with
    | guarded hguard =>
        obtain ⟨g, hg, hb⟩ := isGuarded_iff.mp hguard
        exact .guarded hg hb
    | missing hguard hlocate =>
        obtain ⟨hprimary, hfallback⟩ := nowhere_iff.mpr hlocate
        exact .missing (unguarded_iff.mpr hguard) hprimary hfallback
    | same hguard hlocate htext hsplice =>
        exact .same (unguarded_iff.mpr hguard) (AnchorPair.locate_eq_some_iff.mp hlocate)
          (supplies_iff.mpr htext) hsplice
    | applied hguard hlocate htext hsplice =>
        exact .applied (unguarded_iff.mpr hguard) (AnchorPair.locate_eq_some_iff.mp hlocate)
          (supplies_iff.mpr htext) hsplice

/-- What a rule changed: the text at one place, which begins where the outcome says and has become
as long as it says. -/
structure Touches (b b' : Text) (outcome : Outcome) (span : Span) (n : Text) : Prop where
  whole_eq : span.whole = b
  slice_eq : b.slice? span.start span.stop = some span.matched
  result_eq : b' = span.before ++ n ++ span.after
  outcome_eq : ∃ via, outcome = .applied via span.start n.byteLength

theorem Step.touches (h : r.Step b (b', outcome)) (houtcome : outcome.isApplied = true) :
    ∃ span n, Touches b b' outcome span n ∧ n ≠ span.matched := by
  cases h with
  | guarded | missing | same => cases houtcome
  | @applied _ found t hlocate _ hsplice =>
      have hwhole := AnchorPair.whole_of_locate hlocate
      exact ⟨found.span, _, ⟨hwhole, hwhole ▸ found.span.slice?_whole, rfl, _, rfl⟩, hsplice⟩

theorem Step.isApplied_iff (h : r.Step b (b', outcome)) : outcome.isApplied = true ↔ b' ≠ b := by
  constructor
  · intro houtcome
    obtain ⟨span, n, htouches, hn⟩ := h.touches houtcome
    rw [htouches.result_eq, ← htouches.whole_eq, Span.whole]
    simpa using hn
  · intro hne
    cases houtcome : outcome.isApplied with
    | true => rfl
    | false => exact absurd (h.eq_of_not_applied houtcome) hne

end Rule

theorem RuleSet.exists_applied_of_ne {rs : List Rule} {run : RuleRun}
    (h : RuleSet.applyRules rs b = .ok run) (hne : run.buffer ≠ b) :
    ∃ o ∈ run.outcomes, o.outcome.isApplied = true := by
  refine Classical.byContradiction fun hnone => ?_
  have happlied : run.applied = [] := by
    simpa [RuleRun.applied, RuleOutcome.idsWhere, List.filter_eq_nil_iff] using hnone
  exact hne (buffer_eq_of_rests (rests_of_applied_eq_nil h happlied) h).1

/-- A rule never fails, and what it makes of a buffer and reports of it is exactly what its
contract asks. It reports that it was applied exactly where the buffer has changed, and then it has
changed the text at one place. A run that has changed its buffer reports that a rule was applied. -/
theorem Rule.apply_contract (r : Rule) (b : Text) :
    (∃ b' outcome, r.apply b = .ok (b', outcome) ∧
      (∀ result, r.Contract b result ↔ result = (b', outcome)) ∧
      (outcome.isApplied = true ↔ b' ≠ b) ∧
      (b' ≠ b → ∃ span n, Touches b b' outcome span n)) ∧
      ∀ s : RuleSet, ∃ run, s.apply b = .ok run ∧
        (run.buffer ≠ b → ∃ o ∈ run.outcomes, o.outcome.isApplied = true) := by
  refine ⟨?_, fun s => ?_⟩
  · obtain ⟨⟨b', outcome⟩, hstep⟩ := r.exists_step b
    have happly := apply_eq_ok_iff.mpr hstep
    refine ⟨b', outcome, happly, fun result => ?_, hstep.isApplied_iff, fun hne => ?_⟩
    · rw [contract_iff_step, ← apply_eq_ok_iff, happly, Except.ok.injEq, eq_comm]
    · obtain ⟨span, n, htouches, -⟩ := hstep.touches (hstep.isApplied_iff.mpr hne)
      exact ⟨span, n, htouches⟩
  · obtain ⟨run, hrun⟩ := RuleSet.exists_run s.rules b
    exact ⟨run, hrun, RuleSet.exists_applied_of_ne hrun⟩

end AnchorPatch
