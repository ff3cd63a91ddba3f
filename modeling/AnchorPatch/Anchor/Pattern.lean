import AnchorPatch.Anchor.Probe
import AnchorPatch.Regex.Template
import AnchorPatch.Text.Search

namespace AnchorPatch

/-- How the text of a pattern is meant. -/
inductive PatternKind
  | regex
  | text
deriving Repr, DecidableEq

/-- How the reasons are worded for which a pattern is refused. -/
abbrev Wording := Regex.Error → String

/-- A pattern that cannot be compiled. -/
structure PatternError where
  pattern : Text
  cause : Regex.Error
deriving Repr, DecidableEq

def PatternError.message (e : PatternError) (wording : Wording := Regex.Error.message) : String :=
  let pattern := String.ofList e.pattern
  let cause := wording e.cause
  s!"invalid anchor pattern `{pattern}`: {cause}"

/-- A regular expression or a plain text. -/
inductive Pattern
  | regex (r : Regex)
  | text (s : Text)
deriving Repr

namespace Pattern

/-- Makes a pattern ready for use. A plain text needs nothing. -/
def compile (kind : PatternKind) (source : Text) : Except PatternError Pattern :=
  match kind with
  | .text => .ok (.text source)
  | .regex =>
      match Regex.compile source with
      | .ok r => .ok (.regex r)
      | .error cause => .error { pattern := source, cause }

def source : Pattern → Text
  | .regex r => r.source
  | .text s => s

/-- The leftmost place at which a pattern matches. -/
def find? (p : Pattern) (buffer : Text) (searcher : Regex.Searcher := .backtracking) :
    Option Span :=
  match p with
  | .regex r => searcher.find? r buffer
  | .text s => Text.findText s buffer

/-- The text by which a near miss of a pattern is recognised. -/
def probe : Pattern → Text
  | .regex r => Probe.ofPattern r.source
  | .text s => Probe.ofText s

end Pattern

end AnchorPatch
