import AnchorPatch.Log.Event
import AnchorPatch.Patcher

namespace AnchorPatch

def RuleOutcome.event (o : RuleOutcome) : Log.Event :=
  match o.outcome with
  | .applied via start _ => .ruleApplied o.id via start
  | .alreadyPresent .guardText => .guardTextPresent o.id
  | .alreadyPresent .sameSpan => .spanHoldsText o.id
  | .notFound closest => .anchorMissing o.id closest

namespace Patcher

/-- The events of planning, one for the document and one for each rule. -/
def planEvents (p : Patcher) (plan : Plan) : List Log.Event :=
  .runStarted p.target p.rules.rules.length plan.document.fingerprint
    :: plan.outcomes.map (·.event)

/-- The event for a document that is about to be written though rules found nothing. -/
def partEvents (p : Patcher) (plan : Plan) : List Log.Event :=
  let missing := plan.run.notFound
  if plan.isChanged && !missing.isEmpty then [.partlyPatched p.target missing] else []

def gateEvents (p : Patcher) (plan : Plan) : Except CommitError CommitOutcome → List Log.Event
  | .ok (.noChanges target) => [.unchanged target]
  | .ok (.committed target backup) =>
      let before := plan.document.fingerprint
      [.backupWritten backup before, .targetUpdated target before plan.patched.fingerprint]
  | .error (.backup ..) => []
  | .error (.write ..) =>
      [.backupWritten (p.gate.backupPath plan.document.path) plan.document.fingerprint]

/-- The events of committing a plan. Where the guard rejects the document there are none. -/
def commitEvents (p : Patcher) (plan : Plan) : Except PatchError Report → List Log.Event
  | .ok report => p.partEvents plan ++ p.gateEvents plan (.ok report.commit)
  | .error (.commit cause) => p.partEvents plan ++ p.gateEvents plan (.error cause)
  | .error _ => []

end Patcher

end AnchorPatch
