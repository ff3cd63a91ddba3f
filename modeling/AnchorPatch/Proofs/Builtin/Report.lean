import AnchorPatch.Proofs.Builtin.Marker
import Mathlib.Data.List.Nodup

/-!
What the built-in rules report, and what is there in the end.

A rule that reports that it has written, or that it has found its guard text, leaves the guard text
behind. A later rule takes it away only with a place that it replaces. Main statement: the guard
text is there in the end exactly where no later rule has done so, which none does to the last two
rules.
-/

namespace AnchorPatch.Builtin

open RuleSet

variable {g : Text}

theorem not_removes_effects {u : Turn} (hg : effectsRule.unlessPresent = some g)
    (hu : u.rule = iframeRule) : ¬ u.Removes g := by
  rintro ⟨-, found, hlocate, -, hmatched, -⟩
  rw [hu] at hlocate
  obtain ⟨-, hreads⟩ := reads_of_locate_iframe hlocate
  have hwhole : g <:+: [] ++ found.span.matched ++ [] := by simpa using hmatched
  have hnil : g <:+: [] ++ [] ++ [] := guard_effects_of_replaced hg hreads hwhole []
  obtain rfl := List.infix_nil.mp hnil
  cases (guard_effects hg).2.2.2

theorem rules_nodup : rules.Nodup := List.Nodup.of_map Rule.id (by decide +kernel)

theorem rules_behind_last :
    rules.Pairwise fun r u => r ∈ rules.drop 3 → r = effectsRule ∧ u = iframeRule := by
  have hfront : ∀ r ∈ rules.take 3, r ∉ rules.drop 3 := fun r hr hr' =>
    List.disjoint_take_drop rules_nodup (Nat.le_refl 3) hr hr'
  have hsplit : (rules.take 3 ++ rules.drop 3).Pairwise fun r u =>
      r ∈ rules.drop 3 → r = effectsRule ∧ u = iframeRule := by
    refine List.pairwise_append.mpr ⟨?_, List.pairwise_pair.mpr fun _ => ⟨rfl, rfl⟩, ?_⟩
    · exact List.pairwise_of_forall_mem_list fun r hr _ _ hr' => absurd hr' (hfront r hr)
    · exact fun r hr _ _ hr' => absurd hr' (hfront r hr)
  rwa [List.take_append_drop] at hsplit

/-- Whatever the document is: a rule that does not report that it found no place leaves its guard
text behind. The guard text is there in the end exactly where no later rule has replaced the place
of all its occurrences, and the guard texts of the last two rules are always there. -/
theorem reported_guard_iff (document : Text) :
    ∃ rules run ts,
      RuleSet.compile Config.builtin.rules = .ok rules ∧ rules.apply document = .ok run ∧
        Turns document ts run.buffer ∧ ts.map (·.rule) = rules.rules ∧
        run.outcomes = ts.map Turn.report ∧
        ∀ earlier t later, ts = earlier ++ t :: later → t.outcome.isNotFound = false →
          ∃ g, t.rule.unlessPresent = some g ∧ g <:+: t.left ∧
            (g <:+: run.buffer ↔ ∀ u ∈ later, ¬ u.Removes g) ∧
            (t.rule ∈ rules.rules.drop 3 → g <:+: run.buffer) := by
  obtain ⟨run, hrun⟩ := exists_run rules document
  obtain ⟨ts, hturns, hrules, houtcomes⟩ := applyRules_eq_ok_iff.mp hrun
  refine ⟨⟨rules⟩, run, ts, compile_rules, hrun, hturns, hrules, houtcomes, ?_⟩
  rintro earlier t later rfl houtcome
  have hmem : t.rule ∈ rules := by
    rw [← hrules]
    simp
  obtain ⟨g, hg⟩ := exists_guard hmem
  have hbehind {P : Rule → Rule → Prop} (hP : rules.Pairwise P) :
      ∀ u ∈ later, P t.rule u.rule := by
    rw [← hrules, List.pairwise_map] at hP
    exact (List.pairwise_cons.mp (List.pairwise_append.mp hP).2.1).1
  have hkeeps : ∀ u ∈ later, u.rule.Keeps g := fun u hu => hbehind rules_keep_guards u hu g hg
  have hiff := hturns.guard_iff (expand_of_mem_rules hmem) hg (guard_infix_text hmem hg) hkeeps
    houtcome
  refine ⟨g, hg, hiff.1, hiff.2, ?_⟩
  intro hlast
  apply hiff.2.mpr
  intro u hu
  obtain ⟨heffects, hiframe⟩ := hbehind rules_behind_last u hu hlast
  rw [heffects] at hg
  exact not_removes_effects hg hiframe

/-- A frame among whose attributes stands the head of a handler. -/
def framedHandler : Text :=
  "<iframe async function fetchPreviewPdf() ".toList ++
    "src=\x7b`$\x7bAPI_BASE\x7d/api/reports/preview?unitId=$\x7bselectedUnit.unitId\x7d".toList ++
    "&yearMonth=$\x7byearMonth\x7d`\x7d/>".toList

theorem framedHandler_places :
    (∀ r ∈ [stateRule, helperRule, effectsRule],
        r.isGuarded framedHandler = false ∧ (r.anchors.locate framedHandler).isNone = true) ∧
      handlersRule.isGuarded framedHandler = true ∧
      iframeRule.isGuarded framedHandler = false ∧
      (iframeRule.anchors.locate framedHandler).map
        (fun found => (found.span.before, found.span.after)) = some ([], []) := by
  unfold framedHandler
  repeat rw [String.toList_ofList]
  decide +kernel

/-- A frame that holds the guard text of the handlers is replaced: the handlers are reported as
present, and their guard text is not there in the end. -/
theorem not_forall_reported_guard_infix :
    ¬ ∀ document rules run, RuleSet.compile Config.builtin.rules = .ok rules →
        rules.apply document = .ok run → ∀ r ∈ rules.rules, ∀ o ∈ run.outcomes, o.id = r.id →
        o.outcome.isNotFound = false → ∀ g, r.unlessPresent = some g → g <:+: run.buffer := by
  intro h
  obtain ⟨hmissing, hhandlers, hframe, hplace⟩ := framedHandler_places
  have hmissing (r : Rule) (hr : r ∈ [stateRule, helperRule, effectsRule]) :=
    Rule.Step.missing (hmissing r hr).1 (Option.isNone_iff_eq_none.mp (hmissing r hr).2)
  obtain ⟨found, hlocate, hends⟩ := Option.map_eq_some_iff.mp hplace
  obtain ⟨hbefore, hafter⟩ := Prod.mk.inj hends
  have hanchor := (reads_of_locate_iframe hlocate).1
  have hiframe := Rule.Step.applied hframe hlocate rfl (splice_iframe_ne hlocate)
  rw [hbefore, hafter, hanchor, splice_iframe, List.nil_append, List.append_nil] at hiframe
  let reported : RuleOutcome := ⟨handlersRule.id, .alreadyPresent .guardText⟩
  obtain ⟨ts, hturns, hrules, hreported⟩ :
      ∃ ts, Turns framedHandler ts iframeRule.text ∧ ts.map (·.rule) = rules ∧
        reported ∈ ts.map Turn.report :=
    ⟨_, .cons (hmissing stateRule (by simp)) <| .cons (hmissing helperRule (by simp)) <|
      .cons (.guarded hhandlers) <| .cons (hmissing effectsRule (by simp)) <| .cons hiframe <|
      .nil _, rfl, by simp [reported, Turn.report]⟩
  have hrun : applyRules rules framedHandler = .ok ⟨iframeRule.text, ts.map Turn.report⟩ :=
    applyRules_eq_ok_iff.mpr ⟨ts, hturns, hrules, rfl⟩
  have hguard := h _ ⟨rules⟩ _ compile_rules hrun handlersRule (by simp [rules]) reported hreported
    rfl rfl _ rfl
  obtain ⟨-, -, -, -, -, -, hnot⟩ := iframe_text
  exact hnot handlersRule (by simp [rules]) _ rfl hguard

end AnchorPatch.Builtin
