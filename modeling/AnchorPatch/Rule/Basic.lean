import AnchorPatch.Anchor.Locate
import AnchorPatch.Edit
import AnchorPatch.NearMiss

namespace AnchorPatch

/-- A rule as a configuration describes it. -/
structure RuleSpec where
  id : Text
  description : Option Text := none
  primary : AnchorSpec
  fallback : Option AnchorSpec := none
  text : Text
  expand : Bool := false
  /-- A text whose presence means that the rule has been applied. -/
  unlessPresent : Option Text := none
deriving Repr, DecidableEq

/-- A rule that is ready for use. -/
structure Rule where
  id : Text
  description : Option Text := none
  anchors : AnchorPair
  text : Text
  expand : Bool := false
  unlessPresent : Option Text := none
deriving Repr

/-- Why a rule cannot be used or applied. -/
inductive RuleError
  | unusableAnchor (id : Text) (cause : PatternError)
  | invalidEdit (id : Text) (cause : EditError)
  | invalidSearch (id : Text) (cause : Regex.BeyondEnd)
deriving Repr, DecidableEq

def RuleError.message (e : RuleError) (wording : Wording := Regex.Error.message) : String :=
  match e with
  | .unusableAnchor id cause =>
      let id := String.ofList id
      let cause := cause.message wording
      s!"rule '{id}' has an unusable anchor: {cause}"
  | .invalidEdit id cause =>
      let id := String.ofList id
      let cause := cause.message
      s!"rule '{id}' produced an invalid edit: {cause}"
  | .invalidSearch id cause =>
      let id := String.ofList id
      let start := cause.start
      let length := cause.length
      s!"rule '{id}' searched from byte {start} of a buffer of length {length}"

/-- How a rule found that it had nothing left to do. -/
inductive Presence
  | guardText
  | sameSpan
deriving Repr, DecidableEq

/-- What a rule has done. -/
inductive Outcome
  /-- It wrote `written` bytes at byte `start`. -/
  | applied (via : Slot) (start written : Nat)
  | alreadyPresent (how : Presence)
  | notFound (nearMiss : Option NearMiss)
deriving Repr, DecidableEq

namespace Outcome

def isApplied : Outcome → Bool
  | .applied .. => true
  | _ => false

def isAlreadyPresent : Outcome → Bool
  | .alreadyPresent _ => true
  | _ => false

def isNotFound : Outcome → Bool
  | .notFound _ => true
  | _ => false

def message : Outcome → String
  | .applied via start _ =>
      let via := via.name
      s!"applied via {via} anchor at byte {start}"
  | .alreadyPresent _ => "skipped, already present"
  | .notFound none => "skipped, anchor not found"
  | .notFound (some hit) =>
      let hit := hit.message
      s!"skipped, anchor not found (closest: {hit})"

end Outcome

/-- Makes a rule ready for use. The primary anchor is compiled first. -/
def RuleSpec.compile (r : RuleSpec) : Except RuleError Rule := do
  let anchor (a : AnchorSpec) : Except RuleError Anchor :=
    a.compile.mapError (.unusableAnchor r.id)
  let primary ← anchor r.primary
  let fallback ← r.fallback.mapM anchor
  return { id := r.id, description := r.description, anchors := { primary, fallback },
           text := r.text, expand := r.expand, unlessPresent := r.unlessPresent }

namespace Rule

def isGuarded (r : Rule) (buffer : Text) : Bool :=
  r.unlessPresent.any (Text.occurs · buffer)

/-- What a rule puts at a place: its text, or what that becomes as a template. -/
def textFor (r : Rule) (buffer : Text) (found : Located)
    (searcher : Regex.Searcher := .backtracking) : Except RuleError Text :=
  if r.expand then
    (found.anchor.expand buffer found.span.start r.text searcher).mapError (.invalidSearch r.id)
  else .ok r.text

/-- The edit by which a rule writes at a place. -/
def editFor (r : Rule) (buffer : Text) (found : Located) : Except RuleError Edit := do
  let newText ← r.textFor buffer found
  return .replacing found.span.start found.span.stop
    (found.anchor.splice found.span.matched newText) found.span.matched

/-- Applies a rule: the new buffer, and what was done. -/
def apply (r : Rule) (buffer : Text) : Except RuleError (Text × Outcome) :=
  if r.isGuarded buffer then .ok (buffer, .alreadyPresent .guardText)
  else
    match r.anchors.locate buffer with
    | none => .ok (buffer, .notFound (nearestLine buffer r.anchors.probe))
    | some found => do
        let edit ← r.editFor buffer found
        match ← (edit.apply buffer).mapError (.invalidEdit r.id) with
        | (buffer, .applied bytes) => return (buffer, .applied found.slot edit.start bytes)
        | (buffer, .alreadyApplied) => return (buffer, .alreadyPresent .sameSpan)

end Rule

end AnchorPatch
