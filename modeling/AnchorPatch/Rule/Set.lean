import AnchorPatch.Rule.Basic

namespace AnchorPatch

/-- What the rule with an id has done. -/
structure RuleOutcome where
  id : Text
  outcome : Outcome
deriving Repr, DecidableEq

/-- What a rule set made of a buffer. -/
structure RuleRun where
  buffer : Text
  outcomes : List RuleOutcome
deriving Repr, DecidableEq

namespace RuleOutcome

/-- The ids of the rules with outcomes of some kind. -/
def idsWhere (test : Outcome → Bool) (outcomes : List RuleOutcome) : List Text :=
  (outcomes.filter fun o => test o.outcome).map (·.id)

end RuleOutcome

namespace RuleRun

def applied (run : RuleRun) : List Text := RuleOutcome.idsWhere Outcome.isApplied run.outcomes

def notFound (run : RuleRun) : List Text := RuleOutcome.idsWhere Outcome.isNotFound run.outcomes

def alreadyPresent (run : RuleRun) : List Text :=
  RuleOutcome.idsWhere Outcome.isAlreadyPresent run.outcomes

end RuleRun

/-- Rules in the order in which they are applied. -/
structure RuleSet where
  rules : List Rule
deriving Repr

namespace RuleSet

def compile (specs : List RuleSpec) : Except RuleError RuleSet := do
  return { rules := ← specs.mapM RuleSpec.compile }

def applyRules : List Rule → Text → Except RuleError RuleRun
  | [], buffer => .ok { buffer, outcomes := [] }
  | r :: rs, buffer => do
      let (buffer, outcome) ← r.apply buffer
      let run ← applyRules rs buffer
      return { run with outcomes := { id := r.id, outcome } :: run.outcomes }

def apply (s : RuleSet) (buffer : Text) : Except RuleError RuleRun := applyRules s.rules buffer

end RuleSet

end AnchorPatch
