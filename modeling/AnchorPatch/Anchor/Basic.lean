import AnchorPatch.Anchor.Pattern

namespace AnchorPatch

/-- Where the text of a rule goes: behind the place that matches, or in its stead. -/
inductive Placement
  | after
  | replace
deriving Repr, DecidableEq

/-- An anchor as a configuration describes it. -/
structure AnchorSpec where
  kind : PatternKind
  pattern : Text
  placement : Placement := .after
  separator : Option Text := none
deriving Repr, DecidableEq

/-- An anchor that is ready for use. -/
structure Anchor where
  pattern : Pattern
  placement : Placement
  /-- What stands between the place and a text put behind it. -/
  separator : Option Text
deriving Repr

def AnchorSpec.compile (a : AnchorSpec) : Except PatternError Anchor := do
  return { pattern := ← Pattern.compile a.kind a.pattern, placement := a.placement,
           separator := a.separator }

namespace Anchor

/-- What is put between `current` and a text behind it when no separator is given: a line feed,
unless there is one on either side already. -/
def defaultSeparator (current newText : Text) : Text :=
  if current.getLast? = some '\n' ∨ newText.head? = some '\n' then [] else ['\n']

/-- The text that takes the place of `current`. -/
def splice (a : Anchor) (current newText : Text) : Text :=
  match a.placement with
  | .replace => newText
  | .after => current ++ a.separator.getD (defaultSeparator current newText) ++ newText

/-- A template with its references replaced by the groups of the first match at byte `start` or
behind it. A plain text has no groups and leaves a template as it is. -/
def expand (a : Anchor) (buffer : Text) (start : Nat) (template : Text)
    (searcher : Regex.Searcher := .backtracking) : Except Regex.BeyondEnd Text :=
  match a.pattern with
  | .text _ => .ok template
  | .regex r => do
      match ← searcher.capturesAt r buffer start with
      | some m => return r.expand m template
      | none => return template

end Anchor

end AnchorPatch
