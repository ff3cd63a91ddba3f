import AnchorPatch.Rule.Set
import AnchorPatch.Proofs.Rule.Apply

namespace AnchorPatch.RuleSet

variable {r : Rule} {rs : List Rule} {b : Text} {run : RuleRun}

theorem applyRules_cons_eq_ok_iff :
    applyRules (r :: rs) b = .ok run ↔
      ∃ b' outcome rest, r.apply b = .ok (b', outcome) ∧ applyRules rs b' = .ok rest ∧
        run = { rest with outcomes := { id := r.id, outcome } :: rest.outcomes } := by
  rw [applyRules, Except.bind_eq_ok_iff]
  constructor
  · rintro ⟨⟨b', outcome⟩, hr, h⟩
    obtain ⟨rest, hrest, h⟩ := Except.bind_eq_ok_iff.mp h
    exact ⟨b', outcome, rest, hr, hrest, (Except.pure_eq_ok_iff.mp h).symm⟩
  · rintro ⟨b', outcome, rest, hr, hrest, rfl⟩
    exact ⟨(b', outcome), hr, Except.bind_eq_ok_iff.mpr ⟨rest, hrest, rfl⟩⟩

theorem exists_applyRules (hrs : ∀ r ∈ rs, r.expand = false) (b : Text) :
    ∃ run, applyRules rs b = .ok run := by
  induction rs generalizing b with
  | nil => exact ⟨_, rfl⟩
  | cons r rs ih =>
      obtain ⟨⟨b', outcome⟩, hr⟩ := Rule.exists_apply (hrs r List.mem_cons_self) b
      obtain ⟨rest, hrest⟩ := ih (fun r' hr' => hrs r' (List.mem_cons_of_mem _ hr')) b'
      exact ⟨_, applyRules_cons_eq_ok_iff.mpr ⟨b', outcome, rest, hr, hrest, rfl⟩⟩

theorem applied_cons_eq_nil_iff {id : Text} {outcome : Outcome} :
    ({ run with outcomes := { id, outcome } :: run.outcomes } : RuleRun).applied = [] ↔
      outcome.isApplied = false ∧ run.applied = [] := by
  simp [RuleRun.applied, RuleOutcome.idsWhere, List.filter_eq_nil_iff]

theorem buffer_eq_of_rests (hrs : ∀ r ∈ rs, r.Rests b) (h : applyRules rs b = .ok run) :
    run.buffer = b ∧ run.applied = [] := by
  induction rs generalizing run with
  | nil =>
      cases h
      exact ⟨rfl, rfl⟩
  | cons r rs ih =>
      obtain ⟨b', outcome, rest, hr, hrest, rfl⟩ := applyRules_cons_eq_ok_iff.mp h
      obtain ⟨outcome', hr', houtcome⟩ := hrs r List.mem_cons_self
      rw [hr'] at hr
      cases hr
      obtain ⟨hbuffer, happlied⟩ := ih (fun r' hr' => hrs r' (List.mem_cons_of_mem _ hr')) hrest
      exact ⟨hbuffer, applied_cons_eq_nil_iff.mpr ⟨houtcome, happlied⟩⟩

theorem rests_of_applied_eq_nil (h : applyRules rs b = .ok run) (happlied : run.applied = []) :
    ∀ r ∈ rs, r.Rests b := by
  induction rs generalizing run with
  | nil =>
      intro r hr
      cases hr
  | cons r rs ih =>
      obtain ⟨b', outcome, rest, hr, hrest, rfl⟩ := applyRules_cons_eq_ok_iff.mp h
      obtain ⟨houtcome, happlied⟩ := applied_cons_eq_nil_iff.mp happlied
      obtain rfl := (Rule.apply_eq_ok_iff.mp hr).eq_of_not_applied houtcome
      intro r' hr'
      rcases List.mem_cons.mp hr' with rfl | hr'
      · exact ⟨outcome, hr, houtcome⟩
      · exact ih hrest happlied r' hr'

theorem unchanged_iff (h : applyRules rs b = .ok run) :
    run.buffer = b ∧ run.applied = [] ↔ ∀ r ∈ rs, r.Rests b := by
  constructor
  · rintro ⟨-, happlied⟩
    exact rests_of_applied_eq_nil h happlied
  · intro hrs
    exact buffer_eq_of_rests hrs h

end AnchorPatch.RuleSet
