import AnchorPatch.Proofs.Except
import AnchorPatch.Proofs.Regex.Cache

namespace AnchorPatch

open Regex (Cache)
open Caching (Gives gives_pure gives_mapM gives_mapM_option)

theorem Pattern.gives_compileCached (kind : PatternKind) (source : Text) :
    Gives (compileCached kind source).run (compile kind source) := by
  cases kind with
  | text => exact gives_pure _
  | regex =>
      refine (Caching.gives_getOrCompile source).bind ?_
      unfold compile
      cases Regex.compile source with
      | ok r => exact gives_pure _
      | error cause => exact gives_pure _

theorem AnchorSpec.gives_compileCached (a : AnchorSpec) : Gives a.compileCached.run a.compile :=
  (Pattern.gives_compileCached a.kind a.pattern).andThen fun _ => gives_pure _

namespace RuleSpec

theorem gives_compileCached (r : RuleSpec) : Gives r.compileCached.run r.compile := by
  have hanchor (a : AnchorSpec) : Gives (a.compileCached.adapt (RuleError.unusableAnchor r.id)).run
      (a.compile.mapError (.unusableAnchor r.id)) := a.gives_compileCached.adapt _
  exact (hanchor r.primary).andThen fun _ =>
    (gives_mapM_option hanchor r.fallback).andThen fun _ => gives_pure _

end RuleSpec

theorem RuleSet.gives_compileCached (specs : List RuleSpec) :
    Gives (compileCached specs).run (compile specs) :=
  (gives_mapM RuleSpec.gives_compileCached specs).andThen fun _ => gives_pure _

theorem AnchorSpec.gives_issuesCached (rule : Text) (slot : Slot) (a : AnchorSpec) :
    Gives (a.issuesCached rule slot) (a.issues rule slot) := by
  unfold issuesCached issues
  split
  · exact gives_pure _
  · exact (Pattern.gives_compileCached a.kind a.pattern).bind (gives_pure _)

namespace RuleSpec

theorem gives_issuesCached (r : RuleSpec) : Gives r.issuesCached r.issues := by
  have hfallback : Gives (r.fallback.mapM (AnchorSpec.issuesCached r.id .fallback))
      (r.fallback.map (AnchorSpec.issues r.id .fallback)) := by
    cases r.fallback with
    | none => exact gives_pure _
    | some a => exact (a.gives_issuesCached r.id .fallback).map some
  exact (r.primary.gives_issuesCached r.id .primary).bind (hfallback.bind (gives_pure _))

theorem gives_allIssuesCached (seen : List Text) (rs : List RuleSpec) :
    Gives (allIssuesCached seen rs) (allIssues seen rs) := by
  induction rs generalizing seen with
  | nil => exact gives_pure _
  | cons r rs ih => exact r.gives_issuesCached.bind ((ih (r.id :: seen)).bind (gives_pure _))

end RuleSpec

theorem Config.gives_validateCached (c : Config) : Gives c.validateCached c.validate :=
  (RuleSpec.gives_allIssuesCached [] c.rules).bind (gives_pure _)

theorem Pattern.ne_nil_of_compile {kind : PatternKind} {source : Text} {cause : PatternError}
    (h : compile kind source = .error cause) : source ≠ [] := by
  rintro rfl
  cases kind with
  | text => cases h
  | regex =>
      have hempty : Regex.compile [] = .ok ⟨[], .empty, []⟩ := rfl
      rw [compile, hempty] at h
      cases h

theorem AnchorSpec.compile_eq_error_iff {a : AnchorSpec} {cause : PatternError} :
    a.compile = .error cause ↔ Pattern.compile a.kind a.pattern = .error cause := by
  rw [compile, Except.bind_eq_error_iff]
  simp [pure, Except.pure]

theorem AnchorSpec.badPattern_mem_issues {a : AnchorSpec} {cause : PatternError}
    (h : a.compile = .error cause) (rule : Text) (slot : Slot) :
    .badPattern rule slot cause ∈ a.issues rule slot := by
  have hpattern := compile_eq_error_iff.mp h
  rw [issues, if_neg (Pattern.ne_nil_of_compile hpattern), hpattern]
  exact List.mem_append_left _ (List.mem_singleton_self _)

namespace RuleSpec

variable {r : RuleSpec} {rs : List RuleSpec} {slot : Slot} {cause : PatternError}

/-- The compilation of a rule stops at one of its patterns. The second pattern is reached only
where the first one compiles. -/
inductive StopsAt (r : RuleSpec) : Slot → PatternError → Prop
  | primary {cause : PatternError} (h : r.primary.compile = .error cause) :
      StopsAt r .primary cause
  | fallback {anchor : Anchor} {a : AnchorSpec} {cause : PatternError}
      (hprimary : r.primary.compile = .ok anchor) (ha : r.fallback = some a)
      (h : a.compile = .error cause) : StopsAt r .fallback cause

theorem exists_stopsAt {e : RuleError} (h : r.compile = .error e) :
    ∃ slot cause, r.StopsAt slot cause ∧ e = .unusableAnchor r.id cause := by
  rw [compile, Except.bind_eq_error_iff] at h
  rcases h with h | ⟨anchor, hprimary, h⟩
  · obtain ⟨cause, hcause, rfl⟩ := Except.mapError_eq_error_iff.mp h
    exact ⟨.primary, cause, .primary hcause, rfl⟩
  · rcases Except.bind_eq_error_iff.mp h with h | ⟨fallback, -, h⟩
    · cases hf : r.fallback with
      | none =>
          rw [hf] at h
          cases h
      | some a =>
          rw [hf, Option.mapM_some, map_eq_pure_bind, Except.bind_eq_error_iff] at h
          rcases h with h | ⟨fallback, -, h⟩
          · obtain ⟨cause, hcause, rfl⟩ := Except.mapError_eq_error_iff.mp h
            have hprimary := Except.mapError_eq_ok_iff.mp hprimary
            exact ⟨.fallback, cause, .fallback hprimary hf hcause, rfl⟩
          · cases h
    · cases h

theorem badPattern_mem_issues (h : r.StopsAt slot cause) :
    .badPattern r.id slot cause ∈ r.issues := by
  unfold issues
  cases h with
  | primary h =>
      have hmem := AnchorSpec.badPattern_mem_issues h r.id .primary
      simp [hmem]
  | fallback _ ha h =>
      have hmem := AnchorSpec.badPattern_mem_issues h r.id .fallback
      simp [ha, hmem]

theorem mem_allIssues {seen : List Text} {issue : Issue} (hr : r ∈ rs) (h : issue ∈ r.issues) :
    issue ∈ allIssues seen rs := by
  induction rs generalizing seen with
  | nil => cases hr
  | cons r' rs ih =>
      unfold allIssues
      rcases List.mem_cons.mp hr with rfl | hr
      · simp [h]
      · simp [ih hr]

/-- All that compiling changes in a rule are its anchors. -/
theorem eq_of_compile {rule : Rule} (h : r.compile = .ok rule) :
    rule = { id := r.id, description := r.description, anchors := rule.anchors, text := r.text,
             expand := r.expand, unlessPresent := r.unlessPresent } := by
  obtain ⟨anchor, -, h⟩ := Except.bind_eq_ok_iff.mp h
  obtain ⟨fallback, -, h⟩ := Except.bind_eq_ok_iff.mp h
  rw [← Except.pure_eq_ok_iff.mp h]

theorem id_of_compile {rule : Rule} (h : r.compile = .ok rule) : rule.id = r.id := by
  rw [eq_of_compile h]

end RuleSpec

theorem RuleSet.ids_of_compile {specs : List RuleSpec} {s : RuleSet} (h : compile specs = .ok s) :
    s.rules.map (·.id) = specs.map (·.id) := by
  obtain ⟨rules, hrules, h⟩ := Except.bind_eq_ok_iff.mp h
  obtain rfl := Except.pure_eq_ok_iff.mp h
  exact Except.map_eq_of_mapM_eq_ok (fun r rule => RuleSpec.id_of_compile) hrules

theorem RuleSet.exists_stopsAt {specs : List RuleSpec} {e : RuleError}
    (h : compile specs = .error e) :
    ∃ r ∈ specs, ∃ slot cause, r.StopsAt slot cause ∧ e = .unusableAnchor r.id cause := by
  rcases Except.bind_eq_error_iff.mp h with h | ⟨rules, -, h⟩
  · obtain ⟨r, hr, h⟩ := Except.exists_of_mapM_eq_error h
    exact ⟨r, hr, RuleSpec.exists_stopsAt h⟩
  · cases h

namespace Config

variable {c : Config}

theorem validate_of_mem {issue : Issue} (h : issue ∈ c.issues) : c.validate = .error c.issues := by
  unfold validate
  split
  next hnone =>
    rw [hnone] at h
    cases h
  next => rfl

theorem badPattern_mem_issues {r : RuleSpec} {slot : Slot} {cause : PatternError}
    (hr : r ∈ c.rules) (h : r.StopsAt slot cause) : .badPattern r.id slot cause ∈ c.issues :=
  List.mem_append_right _ (RuleSpec.mem_allIssues hr (RuleSpec.badPattern_mem_issues h))

theorem exists_compile_of_validate (h : c.validate = .ok ()) :
    ∃ s, RuleSet.compile c.rules = .ok s := by
  rcases hcompile : RuleSet.compile c.rules with e | s
  · obtain ⟨r, hr, slot, cause, hstops, -⟩ := RuleSet.exists_stopsAt hcompile
    rw [validate_of_mem (badPattern_mem_issues hr hstops)] at h
    cases h
  · exact ⟨s, rfl⟩

/-- Whatever has been compiled before, the rules of a configuration that is found valid compile,
and have its ids in its order; and where they do not compile, validation reports the pattern at
which compilation stops, of the rule that the error names. -/
theorem compile_of_validate (c : Config) {k k' : Cache} (hk : k.Reachable) (hk' : k'.Reachable) :
    ((c.validateCached.run k).1 = .ok () →
      ∃ s, ((RuleSet.compileCached c.rules).run k').1 = .ok s ∧
        s.rules.map (·.id) = c.rules.map (·.id)) ∧
    ∀ e, ((RuleSet.compileCached c.rules).run k').1 = .error e →
      ∃ r ∈ c.rules, ∃ slot cause, r.StopsAt slot cause ∧ e = .unusableAnchor r.id cause ∧
        ∃ issues, (c.validateCached.run k).1 = .error issues ∧
          .badPattern r.id slot cause ∈ issues := by
  rw [(gives_validateCached c).fst hk.sound,
    show ((RuleSet.compileCached c.rules).run k').1 = _ from
      (RuleSet.gives_compileCached c.rules).fst hk'.sound]
  constructor
  · intro h
    obtain ⟨s, hs⟩ := exists_compile_of_validate h
    exact ⟨s, hs, RuleSet.ids_of_compile hs⟩
  · intro e h
    obtain ⟨r, hr, slot, cause, hstops, rfl⟩ := RuleSet.exists_stopsAt h
    have hmem := badPattern_mem_issues hr hstops
    exact ⟨r, hr, slot, cause, hstops, rfl, c.issues, validate_of_mem hmem, hmem⟩

/-- A rule whose second pattern is an opening parenthesis. -/
def parenthesisConfig (kind : PatternKind) : Config where
  rules :=
    [{ id := ['r'], text := ['B'], primary := { kind := .regex, pattern := ['A'] },
       fallback := some { kind, pattern := ['('] } }]

theorem compile_of_validate_parenthesis :
    Cache.Reachable .empty ∧ (Cache.empty.getOrCompile ['A']).2.Reachable ∧
      (∃ s, ((RuleSet.compileCached (parenthesisConfig .text).rules).run
          (Cache.empty.getOrCompile ['A']).2).1 = .ok s ∧ s.rules.map (·.id) = [['r']]) ∧
      ∃ slot issues, ((parenthesisConfig .regex).validateCached.run .empty).1 = .error issues ∧
        .badPattern ['r'] slot ⟨['('], .unclosedGroup⟩ ∈ issues := by
  have hempty : Cache.Reachable .empty := .empty
  have hletter : (Cache.empty.getOrCompile ['A']).2.Reachable := hempty.compile ['A']
  refine ⟨hempty, hletter, ?_, ?_⟩
  · exact (compile_of_validate (parenthesisConfig .text) hempty hletter).1 rfl
  · obtain ⟨r, hr, slot, cause, -, he, issues, hissues, hmem⟩ :=
      (compile_of_validate (parenthesisConfig .regex) hempty hletter).2
        (.unusableAnchor ['r'] ⟨['('], .unclosedGroup⟩) rfl
    injection he with hid hcause
    rw [← hid, ← hcause] at hmem
    exact ⟨slot, issues, hissues, hmem⟩

end Config

end AnchorPatch
