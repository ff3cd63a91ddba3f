import AnchorPatch.Anchor.Basic

namespace AnchorPatch

/-- One of the two anchors of a rule. -/
inductive Slot
  | primary
  | fallback
deriving Repr, DecidableEq

def Slot.name : Slot → String
  | .primary => "primary"
  | .fallback => "fallback"

/-- The anchors of a rule. -/
structure AnchorPair where
  primary : Anchor
  fallback : Option Anchor := none
deriving Repr

/-- A place that was found, and the anchor that found it. -/
structure Located where
  slot : Slot
  anchor : Anchor
  span : Span
deriving Repr

namespace AnchorPair

/-- The leftmost place of the primary anchor, or else of the other one. -/
def locate (a : AnchorPair) (buffer : Text) (searcher : Regex.Searcher := .backtracking) :
    Option Located :=
  match a.primary.pattern.find? buffer searcher with
  | some span => some { slot := .primary, anchor := a.primary, span }
  | none => do
      let anchor ← a.fallback
      let span ← anchor.pattern.find? buffer searcher
      return { slot := .fallback, anchor, span }

/-- The probe for near misses: that of the primary anchor unless it is empty. -/
def probe (a : AnchorPair) : Text :=
  match a.primary.pattern.probe with
  | [] => (a.fallback.map (·.pattern.probe)).getD []
  | p => p

end AnchorPair

end AnchorPatch
