import AnchorPatch.Proofs.Rule.Insert
import Mathlib.Data.List.Basic

namespace AnchorPatch

variable {r : Rule} {b b' s t : Text} {found : Located} {outcome : Outcome}

theorem Text.getLast?_eq_some_iff_append (before : Text) {c : Char} :
    s.getLast? = some c ↔ s ≠ [] ∧ (before ++ s).getLast? = some c := by
  by_cases hs : s = []
  · simp [hs]
  · rw [List.getLast?_append_of_ne_nil before hs]
    simp [hs]

namespace Anchor

theorem defaultSeparator_eq_nil_iff :
    defaultSeparator s t = [] ↔ t.head? = some '\n' ∨ s.getLast? = some '\n' := by
  rw [defaultSeparator, ite_eq_left_iff, or_comm]
  simp [or_iff_not_imp_left]

theorem defaultSeparator_eq_lineFeed_iff :
    defaultSeparator s t = ['\n'] ↔ t.head? ≠ some '\n' ∧ s.getLast? ≠ some '\n' := by
  rw [defaultSeparator, ite_eq_right_iff, not_or.symm, or_comm]
  simp

/-- What a match asks for is what the text up to its end asks for, unless the match is empty, a line
feed stands before it, and none begins the text behind. -/
theorem defaultSeparator_eq_append_iff (before : Text) :
    defaultSeparator s t = defaultSeparator (before ++ s) t ↔
      ¬ (s = [] ∧ (before ++ s).getLast? = some '\n' ∧ t.head? ≠ some '\n') := by
  by_cases hs : s = []
  · subst hs
    by_cases ht : t.head? = some '\n'
    · simp [defaultSeparator, ht]
    · simp [defaultSeparator, ht]
  · rw [defaultSeparator, defaultSeparator, List.getLast?_append_of_ne_nil before hs]
    simp [hs]

end Anchor

namespace Rule

theorem Step.eq_defaultSeparator (h : r.Step b (b', outcome)) (houtcome : outcome.isApplied = true)
    (hfinds : r.anchors.Finds b found) (hafter : found.anchor.placement = .after)
    (hseparator : found.anchor.separator = none) :
    ∃ t, r.Supplies b found t ∧
      b' = found.span.before ++ found.span.matched ++
        (Anchor.defaultSeparator found.span.matched t ++ t) ++ found.span.after := by
  have hlocate := AnchorPair.locate_eq_some_iff.mpr hfinds
  have hplacement : ∀ found', r.anchors.locate b = some found' →
      found'.anchor.placement = .after := by
    intro found' hfound'
    obtain rfl := Option.some.inj (hlocate.symm.trans hfound')
    exact hafter
  obtain ⟨found', k, hinserts⟩ := RuleSet.Turn.inserts_of_step h houtcome hplacement
  have hlocate' := AnchorPair.locate_eq_some_iff.mpr hinserts.finds
  obtain rfl := Option.some.inj (hlocate.symm.trans hlocate')
  have hdefault := hinserts.separator_eq
  rw [hseparator, Option.getD_none] at hdefault
  refine ⟨k.text, hinserts.supplies, ?_⟩
  rw [← hdefault]
  exact hinserts.left_eq

/-- Where a rule is applied at an anchor that puts texts behind it and gives no separator, its text
follows the match at once if it begins with a line feed or the match is not empty and ends with one,
and else behind a line feed. This is what stands there if one line feed is due at the seam, except
where the match is empty, a line feed stands before it and the text does not begin with one: there a
second one is put in. The match of a plain text is not empty unless the text is. -/
theorem seam_of_apply (h : r.apply b = .ok (b', outcome)) (houtcome : outcome.isApplied = true)
    (hfinds : r.anchors.Finds b found) (hafter : found.anchor.placement = .after)
    (hseparator : found.anchor.separator = none) :
    ∃ front t after, r.Supplies b found t ∧
      b.splitAt? found.span.stop = some (front, after) ∧
      (b' = front ++ t ++ after ↔
        t.head? = some '\n' ∨ found.span.matched ≠ [] ∧ front.getLast? = some '\n') ∧
      (b' = front ++ (['\n'] ++ t) ++ after ↔
        t.head? ≠ some '\n' ∧ (found.span.matched = [] ∨ front.getLast? ≠ some '\n')) ∧
      (b' = front ++ (Anchor.defaultSeparator front t ++ t) ++ after ↔
        ¬ (found.span.matched = [] ∧ front.getLast? = some '\n' ∧ t.head? ≠ some '\n')) ∧
      ∀ s, found.anchor.pattern = .text s → s ≠ [] → found.span.matched ≠ [] := by
  obtain ⟨t, htext, rfl⟩ :=
    (apply_eq_ok_iff.mp h).eq_defaultSeparator houtcome hfinds hafter hseparator
  have hmatch := hfinds.isLeftmost
  have hlast := Text.getLast?_eq_some_iff_append (s := found.span.matched) found.span.before
    (c := '\n')
  refine ⟨_, t, _, htext, hmatch.whole_eq ▸ found.span.splitAt?_whole_stop, ?_, ?_, ?_, ?_⟩
  · rw [List.append_cancel_right_eq, List.append_cancel_left_eq, List.append_left_eq_self,
      Anchor.defaultSeparator_eq_nil_iff, hlast]
  · rw [List.append_cancel_right_eq, List.append_cancel_left_eq, List.append_cancel_right_eq,
      Anchor.defaultSeparator_eq_lineFeed_iff, Ne, Ne, hlast, not_and_or, not_not]
  · rw [List.append_cancel_right_eq, List.append_cancel_left_eq, List.append_cancel_right_eq,
      Anchor.defaultSeparator_eq_append_iff]
  · intro s hs hne hnil
    have hmatches := hmatch.isMatch
    rw [hs] at hmatches
    exact hne (hmatches.symm.trans hnil)

/-- A rule that puts a letter at the end of a text. -/
def endSpec : RuleSpec where
  id := ['r']
  primary := { kind := .regex, pattern := ['\\', 'z'] }
  text := ['B']

def endRule : Rule where
  id := ['r']
  anchors :=
    { primary :=
        { pattern := .regex ⟨['\\', 'z'], .look .textEnd, []⟩, placement := .after,
          separator := none } }
  text := ['B']

/-- Behind the line feed at the end of a text a second one is put in. -/
theorem seam_of_apply_end :
    endSpec.compile = .ok endRule ∧
      endRule.apply ['a', '\n'] = .ok (['a', '\n', '\n', 'B'], .applied .primary 2 2) ∧
      endRule.anchors.Finds ['a', '\n']
        ⟨.primary, endRule.anchors.primary, ⟨['a', '\n'], [], []⟩⟩ ∧
      ['a', '\n', '\n', 'B'] ≠
        ['a', '\n'] ++ (Anchor.defaultSeparator ['a', '\n'] ['B'] ++ ['B']) ++ [] := by
  have happly : endRule.apply ['a', '\n'] =
      .ok (['a', '\n', '\n', 'B'], .applied .primary 2 2) := by decide +kernel
  have hfinds : endRule.anchors.Finds ['a', '\n']
      ⟨.primary, endRule.anchors.primary, ⟨['a', '\n'], [], []⟩⟩ :=
    AnchorPair.locate_eq_some_iff.mp rfl
  refine ⟨rfl, happly, hfinds, ?_⟩
  obtain ⟨front, t, after, htext, hsplit, -, -, hseam, -⟩ :=
    seam_of_apply happly rfl hfinds rfl rfl
  obtain rfl : t = ['B'] := htext
  obtain ⟨rfl, rfl⟩ := Prod.mk.inj (Option.some.inj (Eq.trans rfl hsplit))
  rw [Ne, hseam, not_not]
  exact ⟨rfl, rfl, by decide⟩

end Rule

end AnchorPatch
