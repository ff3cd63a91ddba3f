import AnchorPatch.Log.Level
import AnchorPatch.NearMiss
import AnchorPatch.Anchor.Locate
import AnchorPatch.Path
import AnchorPatch.Text.Quoted

namespace AnchorPatch.Log

/-- Something that a run reports while it goes on. -/
inductive Event
  | runStarted (target : Path) (rules : Nat) (fingerprint : UInt64)
  | guardTextPresent (rule : Text)
  | anchorMissing (rule : Text) (closest : Option NearMiss)
  | ruleApplied (rule : Text) (via : Slot) (start : Nat)
  | spanHoldsText (rule : Text)
  /-- Some rules found nothing, and yet the document is written. -/
  | partlyPatched (target : Path) (missing : List Text)
  | unchanged (target : Path)
  | backupWritten (backup : Path) (fingerprint : UInt64)
  | targetUpdated (target : Path) (before after : UInt64)
deriving Repr, DecidableEq

/-- A part of the program that logs events. -/
inductive Origin
  | pipeline
  | rule
  | gate
deriving Repr, DecidableEq

def Origin.name : Origin → Text
  | .pipeline => "preview_patcher::pipeline".toList
  | .rule => "preview_patcher::rules::rule".toList
  | .gate => "preview_patcher::gate".toList

namespace Event

def level : Event → Level
  | .runStarted .. => .info
  | .guardTextPresent .. => .debug
  | .anchorMissing .. => .warn
  | .ruleApplied .. => .info
  | .spanHoldsText .. => .debug
  | .partlyPatched .. => .warn
  | .unchanged .. => .debug
  | .backupWritten .. => .debug
  | .targetUpdated .. => .info

def origin : Event → Origin
  | .runStarted .. | .partlyPatched .. => .pipeline
  | .guardTextPresent .. | .anchorMissing .. | .ruleApplied .. | .spanHoldsText .. => .rule
  | .unchanged .. | .backupWritten .. | .targetUpdated .. => .gate

def message : Event → String
  | .runStarted .. => "running rule set"
  | .guardTextPresent .. => "guard text present, skipping"
  | .anchorMissing .. => "anchor not found, skipping"
  | .ruleApplied .. => "rule applied"
  | .spanHoldsText .. => "span already holds replacement"
  | .partlyPatched .. => "writing a partially patched document"
  | .unchanged .. => "buffer unchanged, skipping write"
  | .backupWritten .. => "backup written"
  | .targetUpdated .. => "target updated"

def quotedList (ts : List Text) : String :=
  "[" ++ ", ".intercalate (ts.map fun t => String.ofList (Text.quote t)) ++ "]"

def fields : Event → List (String × String)
  | .runStarted target rules fingerprint =>
      [("target", String.ofList target), ("rules", toString rules),
       ("hash", toString fingerprint.toNat)]
  | .guardTextPresent rule => [("rule", String.ofList rule)]
  | .anchorMissing rule none => [("rule", String.ofList rule)]
  | .anchorMissing rule (some hit) => [("rule", String.ofList rule), ("closest", hit.message)]
  | .ruleApplied rule via start =>
      [("rule", String.ofList rule), ("via", via.name), ("byte_start", toString start)]
  | .spanHoldsText rule => [("rule", String.ofList rule)]
  | .partlyPatched target missing =>
      [("target", String.ofList target), ("missing", quotedList missing)]
  | .unchanged target => [("target", String.ofList target)]
  | .backupWritten backup fingerprint =>
      [("backup", String.ofList backup), ("hash", toString fingerprint.toNat)]
  | .targetUpdated target before after =>
      [("target", String.ofList target), ("before", toString before.toNat),
       ("after", toString after.toNat)]

def fieldNames (e : Event) : List Text := "message".toList :: e.fields.map (·.1.toList)

def line (e : Event) : String :=
  let fields := e.fields.map fun (name, value) => name ++ "=" ++ value
  " ".intercalate (e.level.label :: e.message :: fields)

end Event

end AnchorPatch.Log
