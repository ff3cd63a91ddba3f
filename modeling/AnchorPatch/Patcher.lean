import AnchorPatch.Config.Builtin
import AnchorPatch.Gate
import AnchorPatch.Guard

namespace AnchorPatch

/-- Why a document could not be patched. -/
inductive PatchError
  | unreadable (path : Path) (cause : DiskError)
  | rule (cause : RuleError)
  | guard (cause : GuardError)
  | commit (cause : CommitError)
deriving Repr

def PatchError.message : PatchError → String
  | .unreadable path cause =>
      let path := String.ofList path
      let cause := cause.message
      s!"failed to read {path}: {cause}"
  | .rule cause => cause.message
  | .guard cause => cause.message
  | .commit cause => cause.message

def PatchError.cause? : PatchError → Option String
  | .unreadable _ cause => some cause.message
  | .rule (.unusableAnchor _ cause) => some (cause.message Regex.Error.message)
  | .rule (.invalidEdit _ cause) => some cause.message
  | .rule (.invalidSearch ..) => none
  | .guard (.unresolved cause) => some cause.message
  | .guard _ => none
  | .commit cause => some cause.cause.message

/-- A configured run: rules, the document they are for, and the guard of the workspace. -/
structure Patcher where
  target : Path
  rules : RuleSet
  gate : Gate
  guard : Option Guard := none
deriving Repr

/-- A document and what the rules made of it. -/
structure Plan where
  document : Document
  run : RuleRun
deriving Repr, DecidableEq

/-- What a run has done. -/
structure Report where
  outcomes : List RuleOutcome
  commit : CommitOutcome
deriving Repr, DecidableEq

def noChangesMessage : String :=
  "No changes applied (file already patched or patterns not found)."

namespace Plan

def unpatched (p : Plan) : Text := p.document.content

def patched (p : Plan) : Text := p.run.buffer

def outcomes (p : Plan) : List RuleOutcome := p.run.outcomes

/-- Whether the rules have changed the document. -/
def isChanged (p : Plan) : Bool := Gate.hasChanges p.document p.patched

end Plan

namespace Report

/-- Whether the document was written. -/
def isChanged (r : Report) : Bool := r.commit.isCommitted

def notFound (r : Report) : List Text := RuleOutcome.idsWhere Outcome.isNotFound r.outcomes

def status (r : Report) : String :=
  match r.commit with
  | .committed target backup =>
      let target := String.ofList target
      let backup := String.ofList backup
      s!"Updated {target} (backup at {backup})"
  | .noChanges _ => noChangesMessage

end Report

namespace Patcher

/-- The path of the document, which is below the root unless it is absolute. -/
def targetPath (root target : Path) : Path :=
  if root.parts = [.here] then target else root.join target

/-- A patcher for a configuration, with a guard for the workspace at `root`. -/
def ofConfig (d : Disk) (c : Config) (root : Path) : Except PatchError Patcher := do
  let rules ← (RuleSet.compile c.rules).mapError .rule
  let guard ← (Guard.create d root).mapError .guard
  return { target := targetPath root c.info.target, rules
           gate := { backupSuffix := c.info.backupSuffix }, guard := some guard }

def builtin (d : Disk) (root : Path) : Except PatchError Patcher := ofConfig d .builtin root

def checkGuard (p : Patcher) (d : Disk) (path : Path) : Except PatchError Unit :=
  match p.guard with
  | none => .ok ()
  | some g => do
      let _ ← (g.validate d path).mapError .guard
      return ()

/-- Reads the document and applies the rules to it. -/
def plan (p : Patcher) (d : Disk) : Except PatchError Plan := do
  let document ← (Document.read d p.target).mapError (.unreadable p.target)
  p.checkGuard d p.target
  let run ← (p.rules.apply document.content).mapError .rule
  return { document, run }

/-- Passes a plan through the gate. The guard is asked only if something is to be written. -/
def commit (p : Patcher) (plan : Plan) (d : Disk) : Except PatchError Report × Disk :=
  match if plan.isChanged then p.checkGuard d plan.document.path else .ok () with
  | .error e => (.error e, d)
  | .ok _ =>
      let (result, d) := p.gate.commit plan.document plan.patched d
      match result with
      | .error e => (.error (.commit e), d)
      | .ok commit => (.ok { outcomes := plan.outcomes, commit }, d)

def run (p : Patcher) (d : Disk) : Except PatchError Report × Disk :=
  match p.plan d with
  | .error e => (.error e, d)
  | .ok plan => p.commit plan d

/-- The sign in front of the line for an outcome. Rules that found nothing have no line. -/
def outcomeSign? : Outcome → Option String
  | .applied .. => some "✓"
  | .alreadyPresent _ => some "⊙"
  | .notFound _ => none

/-- The line for what a rule did, with the description of the first rule of that id. -/
def outcomeLine? (p : Patcher) (o : RuleOutcome) : Option String := do
  let sign ← outcomeSign? o.outcome
  let id := String.ofList o.id
  let message := o.outcome.message
  match (p.rules.rules.find? (·.id = o.id)).bind (·.description) with
  | some description =>
      let description := String.ofList description
      return s!"{sign} {id}: {message} ({description})"
  | none => return s!"{sign} {id}: {message}"

/-- A line for each rule that did something or had nothing left to do. -/
def outcomeLines (p : Patcher) (plan : Plan) : List String :=
  plan.outcomes.filterMap p.outcomeLine?

/-- What a run without writing says at its end. -/
def dryRunStatus (p : Patcher) (plan : Plan) : String :=
  if plan.isChanged then
    let target := String.ofList plan.document.path
    let backup := String.ofList (p.gate.backupPath plan.document.path)
    s!"Would update {target} (backup at {backup})"
  else noChangesMessage

end Patcher

end AnchorPatch
