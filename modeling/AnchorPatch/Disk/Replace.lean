import AnchorPatch.Disk.Walk

namespace AnchorPatch.Disk

def privateMode : Nat := 0o600

def parentPath (p : Path) : Path :=
  match p.parent? with
  | some (c :: q) => c :: q
  | _ => ['.']

/-- The directory that a path leads to. -/
def directoryAt (d : Disk) (p : Path) : Except DiskError Location := do
  let l ← d.canonicalize p
  match d.get? l with
  | some (.directory _) => return l
  | _ => throw .notADirectory

/-- The pieces of a path before the last one that is not empty, that one, and whether slashes
follow it. -/
def splitLast (p : Path) : List Text × Text × Bool :=
  let back := p.pieces.reverse
  match back.dropWhile (· = []) with
  | [] => ([], [], back.length ≠ 1)
  | s :: rest => (rest.reverse, s, back.head? = some [])

/-- The location that a file takes when it gets the name that a path ends with. -/
def renameLocation (d : Disk) (p : Path) : Except DiskError Location := do
  if p = [] then throw .notFound
  let (front, name, slash) := splitLast p
  let l ← d.walk true maxLinks (if p.isAbsolute then [] else d.current) front
  match d.get? l with
  | some (.directory _) => pure ()
  | _ => throw .notADirectory
  if name = [] || name = ['.'] || name = ['.', '.'] then throw .busy
  if maxNameLength < name.byteLength then throw .nameTooLong
  if slash then throw .notADirectory
  match d.get? (l ++ [name]) with
  | some (.directory _) => throw .isADirectory
  | _ => return l ++ [name]

/-- Puts a file at a path in the place of what is there. -/
def replaceFile (d : Disk) (p : Path) (content : Text) (mode : Option Nat) :
    Except DiskError Disk := do
  let _ ← d.directoryAt (parentPath p)
  let l ← d.renameLocation p
  return d.put l (.file (.text content) (mode.getD privateMode))

end AnchorPatch.Disk
