import AnchorPatch.Proofs.Patcher.Commit
import AnchorPatch.Proofs.Rule.Run

namespace AnchorPatch

variable {p : Patcher} {plan : Plan} {d : Disk} {b : Text} {rs : List Rule} {run : RuleRun}

namespace Patcher

/-- A patcher plans a run that leaves its document as it is, and commits that plan, on whatever
disk, without writing anything. -/
structure WritesNothing (p : Patcher) (d : Disk) (run : RuleRun) : Prop where
  plan_eq : ∃ plan, p.plan d = .ok plan ∧ plan.run = run ∧ plan.patched = plan.unpatched
  commit_eq : ∀ plan, p.plan d = .ok plan → ∀ d',
    p.commit plan d' = (.ok { outcomes := run.outcomes, commit := .noChanges p.target }, d')
  run_eq : p.run d = (.ok { outcomes := run.outcomes, commit := .noChanges p.target }, d)

theorem writesNothing_of_plan (hplan : p.plan d = .ok plan) (h : plan.patched = plan.unpatched) :
    p.WritesNothing d plan.run := by
  have hcommit (d' : Disk) : p.commit plan d' =
      (.ok { outcomes := plan.run.outcomes, commit := .noChanges p.target }, d') := by
    rw [commit_of_unchanged h, (plan_eq_ok_iff.mp hplan).1]
    rfl
  refine ⟨⟨plan, hplan, rfl, h⟩, ?_, ?_⟩
  · intro plan' hplan' d'
    rw [hplan] at hplan'
    cases hplan'
    exact hcommit d'
  · unfold Patcher.run
    rw [hplan]
    exact hcommit d

end Patcher

namespace RuleSet

/-- A rule set finds nothing to do in a buffer: it leaves the buffer as it is, and each rule
reports what it reports alone. -/
structure Idles (s : RuleSet) (b : Text) (run : RuleRun) : Prop where
  apply_eq : s.apply b = .ok run
  buffer_eq : run.buffer = b
  applied_eq : run.applied = []
  outcomes_eq : outcomesAlone s.rules b = .ok run.outcomes

theorem idles_of_rests {s : RuleSet} (hs : ∀ r ∈ s.rules, r.Rests b) (hrun : s.apply b = .ok run) :
    s.Idles b run := by
  obtain ⟨hbuffer, happlied⟩ := buffer_eq_of_rests hs hrun
  exact ⟨hrun, hbuffer, happlied, outcomesAlone_of_rests hs hrun⟩

/-- A run applies nothing exactly where every rule rests when it is applied alone, which is where
it has nothing to do. Then the same rules in any order find nothing to do, and a patcher with them
writes nothing. -/
theorem applies_nothing_iff (s : RuleSet) (b : Text) :
    ∃ run, s.apply b = .ok run ∧
      (run.applied = [] ↔ ∀ r ∈ s.rules, r.Rests b) ∧ (∀ r ∈ s.rules, r.Rests b ↔ r.Inert b) ∧
      (run.applied = [] → ∀ s' : RuleSet, s'.rules.Perm s.rules → ∃ run', s'.Idles b run' ∧
        ∀ (p : Patcher) (d : Disk), p.rules = s' → d.readText p.target = .ok b →
          p.checkGuard d p.target = .ok () → p.WritesNothing d run') := by
  obtain ⟨run, hrun⟩ := exists_run s.rules b
  have hiff : run.applied = [] ↔ ∀ r ∈ s.rules, r.Rests b :=
    ⟨rests_of_applied_eq_nil hrun, fun hs => (buffer_eq_of_rests hs hrun).2⟩
  refine ⟨run, hrun, hiff, fun r _ => Rule.rests_iff_inert, ?_⟩
  intro happlied s' hperm
  have hs' : ∀ r ∈ s'.rules, r.Rests b := fun r hr => hiff.mp happlied r (hperm.mem_iff.mp hr)
  obtain ⟨run', hrun'⟩ := exists_run s'.rules b
  have hidles : s'.Idles b run' := idles_of_rests hs' hrun'
  refine ⟨run', hidles, ?_⟩
  rintro p d rfl hread hguard
  have hplan : p.plan d = .ok ⟨⟨p.target, b⟩, run'⟩ :=
    Patcher.plan_eq_ok_iff.mpr ⟨rfl, hread, hguard, hidles.apply_eq⟩
  exact Patcher.writesNothing_of_plan hplan hidles.buffer_eq

end RuleSet

end AnchorPatch
