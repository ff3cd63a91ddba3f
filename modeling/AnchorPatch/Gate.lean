import AnchorPatch.Disk.Replace
import AnchorPatch.Disk.Walk
import AnchorPatch.Fingerprint

/-!
The change gate.

The gate writes a changed text over its document, after it has saved the text that was read as a
backup beside it. An unchanged text is not written. If the backup cannot be written, the document
is not touched.
-/

namespace AnchorPatch

/-- A text and the path from which it was read. -/
structure Document where
  path : Path
  content : Text
deriving Repr, DecidableEq

namespace Document

def read (d : Disk) (p : Path) : Except DiskError Document := do
  return { path := p, content := ← d.readText p }

def fingerprint (doc : Document) : UInt64 := doc.content.fingerprint

end Document

/-- Why a change could not be written. -/
inductive CommitError
  | backup (path : Path) (cause : DiskError)
  | write (path : Path) (cause : DiskError)
deriving Repr, DecidableEq

def CommitError.message : CommitError → String
  | .backup path cause =>
      let path := String.ofList path
      let cause := cause.message
      s!"failed to write backup {path}: {cause}"
  | .write path cause =>
      let path := String.ofList path
      let cause := cause.message
      s!"failed to write {path}: {cause}"

def CommitError.cause : CommitError → DiskError
  | .backup _ cause => cause
  | .write _ cause => cause

/-- What the gate has done. -/
inductive CommitOutcome
  | noChanges (target : Path)
  | committed (target backup : Path)
deriving Repr, DecidableEq

def CommitOutcome.isCommitted : CommitOutcome → Bool
  | .noChanges _ => false
  | .committed .. => true

/-- The gate through which changes pass. -/
structure Gate where
  backupSuffix : Text
deriving Repr, DecidableEq

namespace Gate

/-- The path of the backup of a document: its path with the suffix added to the name. -/
def backupPath (g : Gate) (target : Path) : Path :=
  target.withFileName (target.fileName?.getD [] ++ g.backupSuffix)

/-- Whether a text differs from the one that was read. -/
def hasChanges (doc : Document) (patched : Text) : Bool := doc.content ≠ patched

/-- Writes a text over its document. The disk is given back also where the gate fails. -/
def commit (g : Gate) (doc : Document) (patched : Text) (d : Disk) :
    Except CommitError CommitOutcome × Disk :=
  if hasChanges doc patched then
    let backup := g.backupPath doc.path
    let mode := d.mode? doc.path
    match d.replaceFile backup doc.content mode with
    | .error e => (.error (.backup backup e), d)
    | .ok saved =>
        match saved.replaceFile doc.path patched mode with
        | .error e => (.error (.write doc.path e), saved)
        | .ok written => (.ok (.committed doc.path backup), written)
  else (.ok (.noChanges doc.path), d)

end Gate

end AnchorPatch
