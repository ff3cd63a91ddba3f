import AnchorPatch.Config.Builtin
import AnchorPatch.Proofs.Except
import AnchorPatch.Proofs.Regex.Language

namespace AnchorPatch

open Regex

/-- The rule that a description stands for if its first pattern stands for `e` and its second one
is a text. -/
def RuleSpec.withExpr (r : RuleSpec) (e : Expr) : Rule where
  id := r.id
  description := r.description
  anchors :=
    { primary :=
        { pattern := .regex ⟨r.primary.pattern, e, []⟩
          placement := r.primary.placement
          separator := r.primary.separator }
      fallback := r.fallback.map fun a =>
        { pattern := .text a.pattern, placement := a.placement, separator := a.separator } }
  text := r.text
  expand := r.expand
  unlessPresent := r.unlessPresent

theorem RuleSpec.compile_eq_withExpr {r : RuleSpec} {e : Expr} (hkind : r.primary.kind = .regex)
    (hfallback : ∀ a, r.fallback = some a → a.kind = .text)
    (hcompile : Regex.compile r.primary.pattern = .ok ⟨r.primary.pattern, e, []⟩) :
    r.compile = .ok (r.withExpr e) := by
  have hprimary : r.primary.compile = .ok (r.withExpr e).anchors.primary := by
    rw [AnchorSpec.compile, hkind, Pattern.compile, hcompile]
    rfl
  simp only [compile, hprimary]
  rcases hf : r.fallback with _ | a
  · simp only [withExpr, hf]
    rfl
  · have ha : a.compile =
        .ok { pattern := .text a.pattern, placement := a.placement, separator := a.separator } := by
      rw [AnchorSpec.compile, hfallback a hf, Pattern.compile]
      rfl
    simp only [withExpr, hf, Option.mapM_some, ha]
    rfl

namespace Builtin

def word (s : String) : List Expr := Expr.literal s.toList

/-- White space, line ends included. -/
def blanks (least : Nat) : List Expr := [.iterate least none true (.chars ⟨Text.blankRanges⟩)]

/-- Spaces and tabs. -/
def spaces : Expr := .iterate 0 none true (.chars ⟨[(9, 9), (32, 32)]⟩)

def optionalReturn : Expr := .iterate 0 (some 1) true (.chars (.single '\r'))

def optionalLineEnd : Expr := .iterate 0 (some 1) true (.seq optionalReturn (.chars (.single '\n')))

/-- As few characters as possible. -/
def anything : Expr := .iterate 0 none false (.chars .all)

/-- As many characters as possible that are not `c`. -/
def allBut (c : Char) : Expr :=
  .iterate 0 none true (.chars ⟨[(0, c.toNat - 1), (c.toNat + 1, CharSet.maxCode)]⟩)

def stateItems : List Expr :=
  word "const" ++ blanks 1 ++ word "[rpOpen," ++ blanks 0 ++ word "setRpOpen]" ++ blanks 0 ++
    word "=" ++ blanks 0 ++ word "useState(false);" ++ [spaces, optionalLineEnd]

def helperItems : List Expr :=
  .empty :: word "function" ++ blanks 1 ++ word "buildUrl(base," ++ blanks 0 ++ word "params)" ++
    blanks 0 ++ word "\x7b" ++ [anything] ++ word "\n" ++ [spaces] ++ word "\x7d" ++
    [spaces, optionalReturn] ++ word "\n"

def handlersItems : List Expr :=
  word "const" ++ (blanks 1 ++ word "openReportPreviewDrawer" ++ blanks 0 ++ word "=" ++ blanks 0 ++
    word "()" ++ blanks 0 ++ word "=>" ++ blanks 0 ++ word "\x7b" ++ [allBut '\x7d'] ++
    word "\x7d" ++ blanks 0 ++ word ";" ++ blanks 0 ++ word "const" ++ blanks 1 ++
    word "closeReportPreviewDrawer" ++ blanks 0 ++ word "=" ++ blanks 0 ++ word "()" ++ blanks 0 ++
    word "=>" ++ blanks 0 ++ [allBut ';'] ++ word ";")

/-- The front of the handler behind which the effects go. -/
def effectsHead : List Expr :=
  word "const" ++ (blanks 1 ++ word "closeReportPreviewDrawer" ++ blanks 0 ++ word "=" ++
    blanks 0 ++ word "()" ++ blanks 0 ++ word "=>" ++ blanks 0 ++ word "\x7b")

def effectsTail : List Expr := word "\x7d" ++ blanks 0 ++ word ";"

def effectsItems : List Expr :=
  .empty :: (effectsHead ++ anything :: (effectsTail ++ [spaces, optionalLineEnd]))

/-- The frame between its angle brackets. -/
def iframeMiddle : List Expr :=
  word "iframe" ++ (blanks 1 ++ [allBut '>'] ++ word "src=\x7b" ++ blanks 0 ++
    word "`$\x7bAPI_BASE\x7d/api/reports/preview?unitId=$\x7bselectedUnit.unitId\x7d" ++
    word "&yearMonth=$\x7byearMonth\x7d`" ++ blanks 0 ++ word "\x7d" ++ [allBut '>'])

def iframeItems : List Expr := word "<" ++ (iframeMiddle ++ word "/>")

/-- The first pattern of a description stands for a sequence of parts. -/
def StandsFor (r : RuleSpec) (items : List Expr) : Prop :=
  Regex.compile r.primary.pattern = .ok ⟨r.primary.pattern, .ofItems items, []⟩

-- Literals are made lists of characters first, because the kernel takes long to decode them.
theorem standsFor :
    StandsFor previewState stateItems ∧ StandsFor previewUrlHelper helperItems ∧
      StandsFor previewFetchHandlers handlersItems ∧ StandsFor previewEffects effectsItems ∧
      StandsFor previewIframe iframeItems := by
  unfold StandsFor
  refine ⟨?_, ?_, ?_, ?_, ?_⟩
  · unfold previewState stateItems word
    dsimp only
    repeat rw [String.toList_ofList]
    exact Except.toOption_eq_some_iff.mp (by decide +kernel)
  · unfold previewUrlHelper helperItems word
    dsimp only
    repeat rw [String.toList_ofList]
    exact Except.toOption_eq_some_iff.mp (by decide +kernel)
  · unfold previewFetchHandlers handlersItems word
    dsimp only
    repeat rw [String.toList_ofList]
    exact Except.toOption_eq_some_iff.mp (by decide +kernel)
  · unfold previewEffects effectsItems effectsHead effectsTail word
    dsimp only
    repeat rw [String.toList_ofList]
    exact Except.toOption_eq_some_iff.mp (by decide +kernel)
  · unfold previewIframe iframeItems iframeMiddle word
    dsimp only
    repeat rw [String.toList_ofList]
    exact Except.toOption_eq_some_iff.mp (by decide +kernel)

def stateRule : Rule := previewState.withExpr (.ofItems stateItems)

def helperRule : Rule := previewUrlHelper.withExpr (.ofItems helperItems)

def handlersRule : Rule := previewFetchHandlers.withExpr (.ofItems handlersItems)

def effectsRule : Rule := previewEffects.withExpr (.ofItems effectsItems)

def iframeRule : Rule := previewIframe.withExpr (.ofItems iframeItems)

/-- The built-in rules in their order. -/
def rules : List Rule := [stateRule, helperRule, handlersRule, effectsRule, iframeRule]

theorem compile_eq_stateRule : previewState.compile = .ok stateRule := by
  refine RuleSpec.compile_eq_withExpr rfl ?_ standsFor.1
  intro a ha
  cases ha

theorem compile_eq_helperRule : previewUrlHelper.compile = .ok helperRule := by
  refine RuleSpec.compile_eq_withExpr rfl ?_ standsFor.2.1
  intro a ha
  cases ha

theorem compile_eq_handlersRule : previewFetchHandlers.compile = .ok handlersRule := by
  refine RuleSpec.compile_eq_withExpr rfl ?_ standsFor.2.2.1
  intro a ha
  cases ha
  rfl

theorem compile_eq_effectsRule : previewEffects.compile = .ok effectsRule := by
  refine RuleSpec.compile_eq_withExpr rfl ?_ standsFor.2.2.2.1
  intro a ha
  cases ha

theorem compile_eq_iframeRule : previewIframe.compile = .ok iframeRule := by
  refine RuleSpec.compile_eq_withExpr rfl ?_ standsFor.2.2.2.2
  intro a ha
  cases ha

theorem compile_rules : RuleSet.compile Config.builtin.rules = .ok ⟨rules⟩ := by
  unfold RuleSet.compile Config.builtin
  simp only [List.mapM_cons, List.mapM_nil, compile_eq_stateRule, compile_eq_helperRule,
    compile_eq_handlersRule, compile_eq_effectsRule, compile_eq_iframeRule]
  rfl

theorem mem_rules_iff {r : Rule} :
    r ∈ rules ↔
      r = stateRule ∨ r = helperRule ∨ r = handlersRule ∨ r = effectsRule ∨ r = iframeRule := by
  simp [rules]

theorem expand_of_mem_rules {r : Rule} (hr : r ∈ rules) : r.expand = false := by
  rcases mem_rules_iff.mp hr with rfl | rfl | rfl | rfl | rfl
  all_goals rfl

theorem lines_ofList_cons {l : Text} {ls : List String} :
    lines (String.ofList l :: ls) = l ++ '\n' :: lines ls := by
  simp [lines]

theorem lines_ne_nil {l : String} {ls : List String} : lines (l :: ls) ≠ [] := by
  simp [lines]

theorem text_ne_nil {r : Rule} (hr : r ∈ rules) : r.text ≠ [] := by
  rcases mem_rules_iff.mp hr with rfl | rfl | rfl | rfl | rfl
  · exact lines_ne_nil
  · exact lines_ne_nil
  · exact List.append_ne_nil_of_left_ne_nil lines_ne_nil _
  · exact lines_ne_nil
  · exact List.append_ne_nil_of_left_ne_nil lines_ne_nil _

theorem helper_text :
    ['\n'] <:+ helperRule.text ∧
      ∀ r ∈ rules.take 1, ∀ g ∈ r.unlessPresent, ¬ g <:+: helperRule.text := by
  change _ <:+ previewUrlHelper.text ∧
    ∀ r : Rule, r ∈ _ → ∀ g ∈ _, ¬ g <:+: previewUrlHelper.text
  unfold previewUrlHelper
  dsimp only
  repeat rw [lines_ofList_cons]
  decide +kernel

theorem handlers_text :
    ¬ "const".toList <+: handlersRule.text ∧ ['a', 's'] <+: handlersRule.text ∧
      [';'] <:+ handlersRule.text ∧
      ∀ r ∈ rules.take 2, ∀ g ∈ r.unlessPresent,
        ¬ g <:+: "\n\n  ".toList ++ handlersRule.text := by
  change ¬ _ <+: previewFetchHandlers.text ∧ _ <+: previewFetchHandlers.text ∧
    _ <:+ previewFetchHandlers.text ∧
    ∀ r : Rule, r ∈ _ → ∀ g ∈ _, ¬ g <:+: _ ++ previewFetchHandlers.text
  unfold previewFetchHandlers
  dsimp only
  repeat rw [lines_ofList_cons]
  repeat rw [String.toList_ofList]
  decide +kernel

theorem effects_text :
    effectsRule.text.head? = some '\n' ∧ ['\n'] <:+ effectsRule.text ∧
      ∀ r ∈ rules.take 3, ∀ g ∈ r.unlessPresent, ¬ g <:+: effectsRule.text := by
  change previewEffects.text.head? = _ ∧ _ <:+ previewEffects.text ∧
    ∀ r : Rule, r ∈ _ → ∀ g ∈ _, ¬ g <:+: previewEffects.text
  unfold previewEffects
  dsimp only
  repeat rw [lines_ofList_cons]
  decide +kernel

theorem iframe_text :
    iframeRule.text.head? = some '<' ∧ iframeRule.text.getLast? = some '>' ∧
      ';' ∉ iframeRule.text ∧ ¬ "const".toList <:+: iframeRule.text ∧
      ¬ "<".toList ++ "iframe".toList <+: iframeRule.text ∧ ['/', '>'] <:+ iframeRule.text ∧
      ∀ r ∈ rules.take 4, ∀ g ∈ r.unlessPresent, ¬ g <:+: iframeRule.text := by
  change previewIframe.text.head? = _ ∧ previewIframe.text.getLast? = _ ∧ _ ∉ previewIframe.text ∧
    ¬ _ <:+: previewIframe.text ∧ ¬ _ <+: previewIframe.text ∧ _ <:+ previewIframe.text ∧
    ∀ r : Rule, r ∈ _ → ∀ g ∈ _, ¬ g <:+: previewIframe.text
  unfold previewIframe
  dsimp only
  repeat rw [lines_ofList_cons]
  repeat rw [String.toList_ofList]
  decide +kernel

theorem guard_infix_text {r : Rule} {g : Text} (hr : r ∈ rules) (hg : r.unlessPresent = some g) :
    g <:+: r.text := by
  rcases mem_rules_iff.mp hr with rfl | rfl | rfl | rfl | rfl
  all_goals obtain rfl := Option.some.inj hg
  · change _ <:+: previewState.text
    unfold previewState
    dsimp only
    repeat rw [lines_ofList_cons]
    repeat rw [String.toList_ofList]
    decide +kernel
  · change _ <:+: previewUrlHelper.text
    unfold previewUrlHelper
    dsimp only
    repeat rw [lines_ofList_cons]
    repeat rw [String.toList_ofList]
    decide +kernel
  · change _ <:+: previewFetchHandlers.text
    unfold previewFetchHandlers
    dsimp only
    repeat rw [lines_ofList_cons]
    repeat rw [String.toList_ofList]
    decide +kernel
  · change _ <:+: previewEffects.text
    unfold previewEffects
    dsimp only
    repeat rw [lines_ofList_cons]
    repeat rw [String.toList_ofList]
    decide +kernel
  · change _ <:+: previewIframe.text
    unfold previewIframe
    dsimp only
    repeat rw [lines_ofList_cons]
    repeat rw [String.toList_ofList]
    decide +kernel

theorem exists_guard {r : Rule} (hr : r ∈ rules) : ∃ g, r.unlessPresent = some g := by
  rcases mem_rules_iff.mp hr with rfl | rfl | rfl | rfl | rfl
  all_goals exact ⟨_, rfl⟩

theorem guard_effects {g : Text} (hg : effectsRule.unlessPresent = some g) :
    '<' ∉ g ∧ '/' ∉ g ∧ '>' ∈ g ∧ g.head? = some 'u' := by
  obtain rfl := Option.some.inj hg
  rw [String.toList_ofList]
  decide

theorem guard_front {r : Rule} {g : Text} (hr : r ∈ rules.take 3) (hg : r.unlessPresent = some g) :
    ';' ∉ g.dropLast ∧ '\n' ∉ g ∧ '<' ∉ g ∧ '/' ∉ g ∧ g.head? ≠ some '>' ∧
      ∀ e ∈ [spaces, optionalLineEnd], g.head?.all e.avoids = true := by
  obtain rfl | rfl | rfl : r = stateRule ∨ r = helperRule ∨ r = handlersRule := by
    simpa [rules] using hr
  all_goals
    obtain rfl := Option.some.inj hg
    rw [String.toList_ofList]
    decide

theorem guard_ends {r : Rule} {g : Text} (hr : r ∈ rules.take 2) (hg : r.unlessPresent = some g) :
    ¬ ['c', 'o'] <:+: g.tail ∧ g.getLast? ≠ some 'c' ∧ ¬ ['a', 's'] <:+: g.tail ∧
      g.getLast? ≠ some 'a' := by
  obtain rfl | rfl : r = stateRule ∨ r = helperRule := by simpa [rules] using hr
  all_goals
    obtain rfl := Option.some.inj hg
    rw [String.toList_ofList]
    decide

end Builtin

end AnchorPatch
