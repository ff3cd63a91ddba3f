import AnchorPatch.Proofs.Rule.Run

namespace AnchorPatch.RuleSet

variable {b c : Text} {ts us : List Turn}

/-- Some of the turns in which nothing was applied are left out, and all others stay in their
order. -/
inductive LeavesOut : List Turn → List Turn → Prop
  | nil : LeavesOut [] []
  | keep {t : Turn} {ts us : List Turn} (rest : LeavesOut ts us) : LeavesOut (t :: ts) (t :: us)
  | drop {t : Turn} {ts us : List Turn} (houtcome : t.outcome.isApplied = false)
      (rest : LeavesOut ts us) : LeavesOut (t :: ts) us

theorem LeavesOut.turns (h : LeavesOut ts us) (hturns : Turns b ts c) : Turns b us c := by
  induction h generalizing b with
  | nil => exact hturns
  | keep rest ih =>
      cases hturns with
      | cons step hrest => exact .cons step (ih hrest)
  | drop houtcome rest ih =>
      cases hturns with
      | cons step hrest =>
          -- The next rule is given what the one that is left out was given.
          obtain rfl := step.eq_of_not_applied houtcome
          exact ih hrest

/-- Skipped rules can be left out: whichever of the rules that a run does not apply are left out, the
others make the same of the buffer, and each of them is given the same, leaves the same and reports
the same. -/
theorem apply_of_leavesOut (s : RuleSet) (b : Text) :
    ∃ run ts, s.apply b = .ok run ∧ Turns b ts run.buffer ∧ ts.map (·.rule) = s.rules ∧
      run.outcomes = ts.map Turn.report ∧
      ∀ us, LeavesOut ts us → Turns b us run.buffer ∧
        (⟨us.map (·.rule)⟩ : RuleSet).apply b = .ok ⟨run.buffer, us.map Turn.report⟩ := by
  obtain ⟨run, hrun⟩ := exists_run s.rules b
  obtain ⟨ts, hturns, hrules, houtcomes⟩ := applyRules_eq_ok_iff.mp hrun
  refine ⟨run, ts, hrun, hturns, hrules, houtcomes, ?_⟩
  intro us hus
  have hturns' := hus.turns hturns
  exact ⟨hturns', applyRules_eq_ok_iff.mpr ⟨us, hturns', rfl, rfl⟩⟩

end AnchorPatch.RuleSet
