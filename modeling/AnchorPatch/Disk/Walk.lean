import AnchorPatch.Disk.Basic

/-!
Where paths lead.

A path is followed piece by piece. Links are followed too, though not more than forty of them, and
a link at the very end only if that is asked for. Every piece, even an empty one behind the last
slash, asks for a directory in front of it.
-/

namespace AnchorPatch.Disk

def maxLinks : Nat := 40

def maxNameLength : Nat := 255

/-- The pieces of a path and the location from which they lead on, for a path that starts at `l`. -/
def start (l : Location) (p : Path) : Location × List Text :=
  (if p.isAbsolute then [] else l, p.pieces)

/-- Follows pieces from a location. `onLink` follows the pieces of a link and those behind it. -/
def walkPieces (d : Disk) (follow : Bool)
    (onLink : Location × List Text → Except DiskError Location) :
    Location → List Text → Except DiskError Location
  | l, [] => .ok l
  | l, s :: rest =>
      match d.get? l with
      | some (.directory _) =>
          if s = [] || s = ['.'] then walkPieces d follow onLink l rest
          else if s = ['.', '.'] then walkPieces d follow onLink l.dropLast rest
          else if maxNameLength < s.byteLength then .error .nameTooLong
          else
            match d.get? (l ++ [s]) with
            | none => .error .notFound
            | some (.link target) =>
                if rest = [] && !follow then .ok (l ++ [s])
                else if target = [] then .error .notFound
                else
                  let (l, pieces) := start l target
                  onLink (l, pieces ++ rest)
            | some _ => walkPieces d follow onLink (l ++ [s]) rest
      | some _ => .error .notADirectory
      | none => .error .notFound

/-- Follows pieces from a location across at most `n` links. -/
def walk (d : Disk) (follow : Bool) : Nat → Location → List Text → Except DiskError Location
  | 0, l, pieces => walkPieces d follow (fun _ => .error .tooManyLinks) l pieces
  | n + 1, l, pieces => walkPieces d follow (fun (l, ps) => walk d follow n l ps) l pieces

/-- The location that a path leads to; a link at its end is followed or not. -/
def locate (d : Disk) (follow : Bool) (p : Path) : Except DiskError Location :=
  if p = [] then .error .notFound
  else
    let (l, pieces) := start d.current p
    d.walk follow maxLinks l pieces

/-- The place that a path leads to, links being followed. -/
def canonicalize (d : Disk) (p : Path) : Except DiskError Location := d.locate true p

/-- The entry that a path leads to. -/
def find (d : Disk) (p : Path) : Except DiskError Entry := do
  match d.get? (← d.canonicalize p) with
  | some e => return e
  | none => throw .notFound

def read (d : Disk) (p : Path) : Except DiskError Content := do
  match ← d.find p with
  | .file content _ => return content
  | .directory _ => throw .isADirectory
  | .link _ => throw .tooManyLinks

def readText (d : Disk) (p : Path) : Except DiskError Text := do
  match ← d.read p with
  | .text s => return s
  | .bytes _ => throw .notText

def mode? (d : Disk) (p : Path) : Option Nat :=
  match d.find p with
  | .ok (.file _ mode) => some mode
  | .ok (.directory mode) => some mode
  | _ => none

end AnchorPatch.Disk
