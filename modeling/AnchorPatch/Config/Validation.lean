import AnchorPatch.Rule.Set

namespace AnchorPatch

/-- What a configuration says besides its rules. -/
structure Metadata where
  name : Text := []
  description : Option Text := none
  target : Text := "frontend/src/components/reports/ClientMonthlyReport.jsx".toList
  /-- What is added to the name of the document to name its backup. -/
  backupSuffix : Text := ".bak".toList
deriving Repr, DecidableEq

/-- A description of a rule set and of the document that it is for. -/
structure Config where
  info : Metadata := {}
  rules : List RuleSpec := []
deriving Repr, DecidableEq

/-- A part of a configuration that must not be blank. -/
inductive Field
  | target
  | backupSuffix
  | id
  | text
  | unlessPresent
  | pattern (slot : Slot)
deriving Repr, DecidableEq

def Field.name : Field → String
  | .target => "meta.target"
  | .backupSuffix => "meta.backup_suffix"
  | .id => "id"
  | .text => "text"
  | .unlessPresent => "unless_present"
  | .pattern slot => slot.name ++ ".pattern"

/-- Parts of a rule that do not go together. -/
inductive Conflict
  /-- A separator is given but nothing is put behind the place. -/
  | separatorWithoutAfter (slot : Slot)
  | expandWithoutRegex
deriving Repr, DecidableEq

def Conflict.message : Conflict → String
  | .separatorWithoutAfter slot =>
      slot.name ++ " anchor: separator only applies to placement \"after\""
  | .expandWithoutRegex => "expand requires a regex anchor to capture from"

/-- Something that is wrong with a configuration. -/
inductive Issue
  | noRules
  /-- A part is blank; `rule` tells whose part it is, where that is known. -/
  | missing (rule : Option Text) (field : Field)
  | duplicateId (rule : Text)
  | badPattern (rule : Text) (slot : Slot) (cause : PatternError)
  | conflict (rule : Text) (cause : Conflict)
deriving Repr, DecidableEq

def Issue.message (i : Issue) (wording : Wording := Regex.Error.message) : String :=
  match i with
  | .noRules => "rule set contains no rules"
  | .missing (some rule) field =>
      let rule := String.ofList rule
      let field := field.name
      s!"rule '{rule}' missing required field '{field}'"
  | .missing none field =>
      let field := field.name
      s!"missing required field '{field}'"
  | .duplicateId rule =>
      let rule := String.ofList rule
      s!"rule id '{rule}' is declared more than once"
  | .badPattern rule slot cause =>
      let rule := String.ofList rule
      let slot := slot.name
      let cause := cause.message wording
      s!"rule '{rule}' has an invalid {slot} pattern: {cause}"
  | .conflict rule cause =>
      let rule := String.ofList rule
      let cause := cause.message
      s!"rule '{rule}' has invalid configuration: {cause}"

/-- All that is wrong with a configuration, in one line. -/
def Issue.messages (issues : List Issue) (wording : Wording := Regex.Error.message) : String :=
  "\n".intercalate (issues.map (·.message wording))

/-- An issue if a condition holds. -/
def Issue.when (condition : Bool) (issue : Issue) : List Issue := if condition then [issue] else []

/-- The faults of an anchor. An empty pattern is the only fault reported of its anchor. -/
def AnchorSpec.issues (rule : Text) (slot : Slot) (a : AnchorSpec) : List Issue :=
  if a.pattern = [] then [.missing (some rule) (.pattern slot)]
  else
    (match Pattern.compile a.kind a.pattern with
      | .ok _ => []
      | .error cause => [.badPattern rule slot cause])
    ++ Issue.when (a.separator.isSome && a.placement = .replace)
      (.conflict rule (.separatorWithoutAfter slot))

namespace RuleSpec

/-- Whether one of the anchors of a rule is a regular expression. -/
def hasRegex (r : RuleSpec) : Bool :=
  r.primary.kind = .regex || r.fallback.any (·.kind = .regex)

/-- What is wrong with a rule on its own. -/
def issues (r : RuleSpec) : List Issue :=
  Issue.when (Text.allBlank r.text) (.missing (some r.id) .text)
  ++ Issue.when (r.unlessPresent.any Text.allBlank) (.missing (some r.id) .unlessPresent)
  ++ r.primary.issues r.id .primary
  ++ (r.fallback.map (AnchorSpec.issues r.id .fallback)).getD []
  ++ Issue.when (r.expand && !r.hasRegex) (.conflict r.id .expandWithoutRegex)

/-- The faults of the id of a rule behind rules with the ids `seen`. -/
def idIssues (seen : List Text) (r : RuleSpec) : List Issue :=
  if Text.allBlank r.id then [.missing none .id]
  else Issue.when (seen.contains r.id) (.duplicateId r.id)

/-- The faults of rules behind rules with the ids `seen`. -/
def allIssues (seen : List Text) : List RuleSpec → List Issue
  | [] => []
  | r :: rs => r.idIssues seen ++ r.issues ++ allIssues (r.id :: seen) rs

end RuleSpec

namespace Config

/-- What is wrong with a configuration. -/
def issues (c : Config) : List Issue :=
  Issue.when (Text.allBlank c.info.target) (.missing none .target)
  ++ Issue.when (Text.allBlank c.info.backupSuffix) (.missing none .backupSuffix)
  ++ Issue.when c.rules.isEmpty .noRules
  ++ RuleSpec.allIssues [] c.rules

/-- Accepts a configuration that has no fault, and reports all faults otherwise. -/
def validate (c : Config) : Except (List Issue) Unit :=
  match c.issues with
  | [] => .ok ()
  | issues => .error issues

end Config

end AnchorPatch
