import AnchorPatch.CommandLine.Request
import AnchorPatch.Diff.Display
import AnchorPatch.Log.Filter
import AnchorPatch.Log.Trace

namespace AnchorPatch.CommandLine

/-- What a run finds in its surroundings. -/
structure Surroundings where
  disk : Disk
  colours : Bool := false
  logFilter : Option Text := none
deriving Repr

/-- A line on the error stream. Only the lines of events bear the time. -/
inductive Notice
  | event (e : Log.Event)
  | line (s : Text)
deriving Repr, DecidableEq

def Notice.text : Notice → Text
  | .event e => e.line.toList
  | .line s => s

/-- What a run leaves behind. -/
structure Effect where
  code : Nat := 0
  output : Text := []
  notices : List Notice := []
  disk : Disk
deriving Repr

def errorLines (e : PatchError) : List Text :=
  let cause := e.cause?.elim [] fun cause => ["", "Caused by:", "    " ++ cause]
  (("Error: " ++ e.message) :: cause).map String.toList

def Effect.after (output : Text) (notices : List Notice) (o : Effect) : Effect :=
  { o with output := output ++ o.output, notices := notices ++ o.notices }

def Effect.ofError (e : PatchError) (d : Disk) : Effect :=
  { code := 1, notices := (errorLines e).map .line, disk := d }

/-- Goes on with a result, and ends with its error if there is one. -/
def Effect.ofResult {α : Type} (d : Disk) (x : Except PatchError α) (f : α → Effect) : Effect :=
  match x with
  | .error e => .ofError e d
  | .ok a => f a

/-- The events that a filter admits. -/
def logged (filter : Log.Filter) (events : List Log.Event) : List Notice :=
  (events.filter filter.admits).map .event

def statusLine (style : Style) (colours : Bool) (status : String) : Text :=
  style.paint colours status.toList ++ ['\n']

def commit (p : Patcher) (plan : Plan) (filter : Log.Filter) (s : Surroundings) : Effect :=
  let (result, disk) := p.commit plan s.disk
  let rest : Effect :=
    match result with
    | .error e => .ofError e disk
    | .ok report =>
        let style := if report.isChanged then Style.green else .yellow
        { output := statusLine style s.colours report.status, disk }
  rest.after [] (logged filter (p.commitEvents plan result))

def outcomeNotices (p : Patcher) (plan : Plan) (r : Request) (colours : Bool) : List Notice :=
  if 0 < r.verbosity then
    (p.outcomeLines plan).map fun line => .line (Style.dimmed.paint colours line.toList)
  else []

/-- The changes of a plan, if they are asked for. -/
def changes (p : Patcher) (plan : Plan) (r : Request) (colours : Bool) : Text :=
  if r.diff && plan.isChanged then Diff.display p.target plan.unpatched plan.patched colours else []

/-- Patches the document. A dry run ends before anything is written. -/
def patch (r : Request) (s : Surroundings) : Effect :=
  let filter := Log.Filter.choose r.verbosity s.logFilter
  .ofResult s.disk (Patcher.builtin s.disk ['.']) fun p =>
    .ofResult s.disk (p.plan s.disk) fun plan =>
      let rest :=
        if r.dryRun then
          { output := statusLine .cyan s.colours (p.dryRunStatus plan), disk := s.disk }
        else commit p plan filter s
      rest.after (changes p plan r s.colours)
        (logged filter (p.planEvents plan) ++ outcomeNotices p plan r s.colours)

def run (arguments : List Text) (s : Surroundings) : Effect :=
  match Request.ofArguments arguments with
  | .ok r => patch r s
  | .error .help => { output := helpText.toList, disk := s.disk }
  | .error .version => { output := versionText.toList, disk := s.disk }
  | .error (.error e) =>
      { code := 2, notices := e.lines.map (.line ·.toList), disk := s.disk }

end AnchorPatch.CommandLine
