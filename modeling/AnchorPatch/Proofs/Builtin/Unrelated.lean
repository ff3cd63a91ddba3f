import AnchorPatch.Proofs.Builtin.Rerun
import AnchorPatch.Proofs.Rule.Contract
import Mathlib.Data.List.Forall2

namespace AnchorPatch

open Regex

variable {rs : List Rule} {b t w : Text}

theorem Regex.Expr.infix_of_readsItems {es : List Expr} (hw : Expr.literal w <:+: es)
    (h : Expr.ReadsItems es t) : w <:+: t := by
  obtain ⟨front, back, rfl⟩ := hw
  obtain ⟨x, y, rfl, hx, -⟩ := Expr.readsItems_append h
  obtain ⟨x, v, rfl, -, hv⟩ := Expr.readsItems_append hx
  obtain rfl := Expr.readsItems_literal.mp hv
  exact ⟨x, y, rfl⟩

theorem Text.findText_eq_none_iff : Text.findText w b = none ↔ ¬ w <:+: b := by
  rw [← Text.occurs_iff, Text.occurs, Option.not_isSome_iff_eq_none]

namespace RuleSet

/-- What a rule reports of a buffer in which neither of its anchors matches. -/
inductive Misses (b : Text) (r : Rule) : RuleOutcome → Prop
  | present {g : Text} (hg : r.unlessPresent = some g) (hb : g <:+: b) :
      Misses b r ⟨r.id, .alreadyPresent .guardText⟩
  | absent (hguard : r.Unguarded b) :
      Misses b r ⟨r.id, .notFound (nearestLine b r.anchors.probe)⟩

theorem exists_misses {r : Rule} (hlocate : r.anchors.locate b = none) :
    ∃ outcome, r.apply b = .ok (b, outcome) ∧ Misses b r ⟨r.id, outcome⟩ := by
  rcases hguard : r.isGuarded b with _ | _
  · exact ⟨_, Rule.apply_eq_ok_iff.mpr (.missing hguard hlocate),
      .absent (Rule.unguarded_iff.mpr hguard)⟩
  · obtain ⟨g, hg, hb⟩ := Rule.isGuarded_iff.mp hguard
    exact ⟨_, Rule.apply_eq_ok_iff.mpr (.guarded hguard), .present hg hb⟩

theorem exists_run_of_misses (hrs : ∀ r ∈ rs, r.anchors.locate b = none) :
    ∃ outcomes, applyRules rs b = .ok ⟨b, outcomes⟩ ∧ List.Forall₂ (Misses b) rs outcomes := by
  induction rs with
  | nil => exact ⟨[], rfl, .nil⟩
  | cons r rs ih =>
      obtain ⟨outcome, hr, hmisses⟩ := exists_misses (hrs r List.mem_cons_self)
      obtain ⟨outcomes, hrun, hall⟩ := ih fun r' hr' => hrs r' (List.mem_cons_of_mem _ hr')
      exact ⟨_, applyRules_cons_eq_ok_iff.mpr ⟨b, outcome, _, hr, hrun, rfl⟩, .cons hmisses hall⟩

theorem Misses.isAlreadyPresent_eq {r : Rule} {o : RuleOutcome} (h : Misses b r o) :
    o.id = r.id ∧ o.outcome.isAlreadyPresent = r.isGuarded b := by
  cases h with
  | present hg hb => exact ⟨rfl, (Rule.isGuarded_iff.mpr ⟨_, hg, hb⟩).symm⟩
  | absent hguard => exact ⟨rfl, (Rule.unguarded_iff.mp hguard).symm⟩

theorem alreadyPresent_of_misses {outcomes : List RuleOutcome}
    (h : List.Forall₂ (Misses b) rs outcomes) :
    RuleOutcome.idsWhere Outcome.isAlreadyPresent outcomes =
      (rs.filter (·.isGuarded b)).map (·.id) := by
  induction h with
  | nil => rfl
  | cons hmisses _ ih =>
      obtain ⟨hid, hpresent⟩ := hmisses.isAlreadyPresent_eq
      rw [RuleOutcome.idsWhere, List.filter_cons, List.filter_cons, hpresent]
      split
      · rw [List.map_cons, List.map_cons, hid, ← ih, RuleOutcome.idsWhere]
      · exact ih

end RuleSet

namespace Builtin

/-- The words for which the patterns of the built-in rules ask. -/
def placeWords : List Text :=
  ["rpOpen".toList, "buildUrl".toList, "closeReportPreviewDrawer".toList, "<iframe".toList]

theorem literal_mem_items :
    (∀ items ∈ [stateItems, helperItems, handlersItems, effectsItems, iframeItems],
      ∃ w ∈ placeWords, Expr.literal w <:+: items) ∧
      ∃ w ∈ placeWords, ∀ f ∈ previewFetchHandlers.fallback, w <:+: f.pattern := by
  unfold previewFetchHandlers stateItems helperItems handlersItems effectsItems effectsHead
    effectsTail iframeItems iframeMiddle word placeWords
  dsimp only
  repeat rw [String.toList_ofList]
  decide +kernel

theorem find_of_placeWords {source : Text} {items : List Expr} {names : List (Text × Nat)}
    (hitems : items ∈ [stateItems, helperItems, handlersItems, effectsItems, iframeItems])
    (hb : ∀ w ∈ placeWords, ¬ w <:+: b) :
    (Pattern.regex ⟨source, .ofItems items, names⟩).find? b = none := by
  rw [Option.eq_none_iff_forall_ne_some]
  intro span hspan
  obtain ⟨w, hw, hliteral⟩ := literal_mem_items.1 items hitems
  have hmatched := Expr.infix_of_readsItems hliteral (Pattern.readsItems_of_find? hspan)
  apply hb w hw
  rw [← Pattern.whole_of_find? hspan]
  exact hmatched.trans (List.infix_append _ _ _)

theorem locate_of_placeWords (hb : ∀ w ∈ placeWords, ¬ w <:+: b) :
    ∀ r ∈ rules, r.anchors.locate b = none := by
  intro r hr
  rw [AnchorPair.locate_eq_none_iff]
  rcases mem_rules_iff.mp hr with rfl | rfl | rfl | rfl | rfl
  · exact ⟨find_of_placeWords (by simp) hb, fun f hf => by cases hf⟩
  · exact ⟨find_of_placeWords (by simp) hb, fun f hf => by cases hf⟩
  · refine ⟨find_of_placeWords (by simp) hb, fun f hf => ?_⟩
    obtain ⟨w, hw, hpattern⟩ := literal_mem_items.2
    cases hf
    exact Text.findText_eq_none_iff.mpr fun hinfix => hb w hw ((hpattern _ rfl).trans hinfix)
  · exact ⟨find_of_placeWords (by simp) hb, fun f hf => by cases hf⟩
  · exact ⟨find_of_placeWords (by simp) hb, fun f hf => by cases hf⟩

/-- A document in which none of the words stands is left as it is, and no rule is applied: each one
reports that it has found nothing, or its guard text where the document holds that. -/
theorem unrelated_unchanged (document : Text) (h : ∀ w ∈ placeWords, ¬ w <:+: document) :
    ∃ rules run, RuleSet.compile Config.builtin.rules = .ok rules ∧ rules.rules.length = 5 ∧
      (∀ r ∈ rules.rules, ∃ g, r.unlessPresent = some g) ∧
      rules.apply document = .ok run ∧ run.buffer = document ∧ run.applied = [] ∧
      List.Forall₂ (RuleSet.Misses document) rules.rules run.outcomes := by
  obtain ⟨outcomes, hrun, hmisses⟩ := RuleSet.exists_run_of_misses (locate_of_placeWords h)
  have hrests : ∀ r ∈ rules, r.Rests document := fun r hr =>
    Rule.rests_of_spent (.inr (locate_of_placeWords h r hr))
  obtain ⟨hbuffer, happlied⟩ := RuleSet.buffer_eq_of_rests hrests hrun
  exact ⟨⟨rules⟩, _, compile_rules, rfl, fun r => exists_guard, hrun, hbuffer, happlied, hmisses⟩

/-- Another element with the guard text of the frame. -/
def imageDocument : Text := "<img src=\x7brpUrl\x7d />".toList

theorem unrelated_unchanged_image :
    (∀ w ∈ placeWords, ¬ w <:+: imageDocument) ∧
      ∃ rules run, RuleSet.compile Config.builtin.rules = .ok rules ∧
        rules.apply imageDocument = .ok run ∧ run.buffer = imageDocument ∧
        run.alreadyPresent = ["preview-iframe".toList] := by
  have hwords : ∀ w ∈ placeWords, ¬ w <:+: imageDocument := by
    unfold placeWords imageDocument
    repeat rw [String.toList_ofList]
    decide
  obtain ⟨_, run, hcompile, -, -, hrun, hbuffer, -, hmisses⟩ :=
    unrelated_unchanged imageDocument hwords
  rw [compile_rules] at hcompile
  cases hcompile
  refine ⟨hwords, ⟨rules⟩, run, compile_rules, hrun, hbuffer, ?_⟩
  rw [RuleRun.alreadyPresent, RuleSet.alreadyPresent_of_misses hmisses]
  unfold imageDocument
  repeat rw [String.toList_ofList]
  decide +kernel

end Builtin

end AnchorPatch
