import AnchorPatch.Fingerprint

namespace AnchorPatch

/-- What an edit expects to find in its span. -/
inductive Expectation
  | exact (text : Text)
  | hash (fingerprint : UInt64)
deriving Repr, DecidableEq

namespace Expectation

/-- Texts of more than this many bytes are remembered by their fingerprint. -/
def exactLimit : Nat := 1024

/-- The expectation of finding `text` again. -/
def ofText (text : Text) : Expectation :=
  if exactLimit < text.byteLength then .hash text.fingerprint else .exact text

/-- Whether a text is the one that is expected. -/
def accepts : Expectation → Text → Bool
  | .exact expected, text => text = expected
  | .hash expected, text => text.fingerprint = expected

theorem accepts_ofText (text : Text) : (ofText text).accepts text = true := by
  unfold ofText
  split <;> simp [accepts]

end Expectation

/-- A text to put in the place of the bytes from `start` to `stop`. -/
structure Edit where
  start : Nat
  stop : Nat
  newText : Text
  expected : Expectation
deriving Repr, DecidableEq

/-- Why an edit cannot be applied to a buffer. -/
inductive EditError
  /-- The span holds `found`, which is not what the edit expects. -/
  | unexpectedText (start stop : Nat) (found : Text)
  /-- The range is reversed or ends behind the buffer. -/
  | badRange (start stop length : Nat)
  | splitsCharacter (offset : Nat)
deriving Repr, DecidableEq

def EditError.message : EditError → String
  | .unexpectedText start stop _ => s!"before-text verification failed at byte {start}..{stop}"
  | .badRange start stop length =>
      s!"invalid byte range: [{start}, {stop}) in buffer of length {length}"
  | .splitsCharacter offset =>
      s!"byte offset {offset} does not fall on a UTF-8 character boundary"

/-- What an edit has done. -/
inductive EditResult
  | applied (bytes : Nat)
  | alreadyApplied
deriving Repr, DecidableEq

namespace Edit

/-- An edit that expects to find `before` in its span. -/
def replacing (start stop : Nat) (newText before : Text) : Edit :=
  { start, stop, newText, expected := .ofText before }

/-- The place of an edit in a buffer. -/
def locate (e : Edit) (buffer : Text) : Except EditError Span :=
  if e.stop < e.start ∨ buffer.byteLength < e.stop then
    .error (.badRange e.start e.stop buffer.byteLength)
  else
    match buffer.splitAt? e.start with
    | none => .error (.splitsCharacter e.start)
    | some (before, rest) =>
        match rest.splitAt? (e.stop - e.start) with
        | none => .error (.splitsCharacter e.stop)
        | some (matched, after) => .ok ⟨before, matched, after⟩

/-- Applies an edit: the new buffer, and whether anything was replaced. -/
def apply (e : Edit) (buffer : Text) : Except EditError (Text × EditResult) := do
  let span ← e.locate buffer
  if span.matched = e.newText then
    return (buffer, .alreadyApplied)
  else if e.expected.accepts span.matched then
    return (span.before ++ e.newText ++ span.after, .applied e.newText.byteLength)
  else
    throw (.unexpectedText e.start e.stop span.matched)

end Edit

end AnchorPatch
