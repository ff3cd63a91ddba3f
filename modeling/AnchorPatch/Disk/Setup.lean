import AnchorPatch.Disk.Walk

namespace AnchorPatch.Disk

def fileMode : Nat := 0o644

/-- Makes directories along pieces, starting from a location. What is there already is kept. -/
def makeDirectoriesFrom : Location → List Text → Disk → Disk
  | _, [], d => d
  | l, s :: rest, d =>
      match d.walk true maxLinks l [s] with
      | .ok l => makeDirectoriesFrom l rest d
      | .error _ => makeDirectoriesFrom (l ++ [s]) rest (d.put (l ++ [s]) (.directory directoryMode))

def makeDirectories (d : Disk) (p : Path) : Disk :=
  let (l, pieces) := start d.current p
  makeDirectoriesFrom l pieces d

def makeParent (d : Disk) (p : Path) : Disk :=
  match p.parent? with
  | some q => d.makeDirectories q
  | none => d

/-- The location of a file that is written to a path. A link that leads nowhere gives its target. -/
def writeLocation (d : Disk) : Nat → Path → Except DiskError Location
  | 0, _ => .error .tooManyLinks
  | n + 1, p =>
      match d.canonicalize p with
      | .ok l => .ok l
      | .error _ => do
          let l ← d.canonicalize ((p.parent?.filter (· ≠ [])).getD ['.'])
          let name ← match p.fileName? with
            | some name => .ok name
            | none => .error .isADirectory
          match d.get? (l ++ [name]) with
          | some (.link target) => writeLocation d n ((Location.toPath l).join target)
          | _ => return l ++ [name]

def writeFile (d : Disk) (p : Path) (content : Content) : Disk :=
  let d := d.makeParent p
  match d.writeLocation maxLinks p with
  | .ok l => d.put l (.file content fileMode)
  | .error _ => d

def makeLink (d : Disk) (p target : Path) : Disk :=
  let d := d.makeParent p
  match d.canonicalize ((p.parent?.filter (· ≠ [])).getD ['.']), p.fileName? with
  | .ok l, some name => d.put (l ++ [name]) (.link target)
  | _, _ => d

def remove (d : Disk) (p : Path) : Disk :=
  match d.locate false p with
  | .ok l => d.erase l
  | .error _ => d

def setMode (d : Disk) (p : Path) (mode : Nat) : Disk :=
  match d.canonicalize p with
  | .error _ => d
  | .ok l =>
      match d.get? l with
      | some (.file content _) => d.put l (.file content mode)
      | some (.directory _) => d.put l (.directory mode)
      | _ => d

/-- The names below a location with a mark for directories and links, in ascending order. -/
def listing (d : Disk) (root : Location) : List Text :=
  let below := d.entries.filter fun (l, _) => root.isPrefixOf l && l ≠ root
  let names := below.map fun (l, e) =>
    let name := ['/'].intercalate (l.drop root.length)
    match e with
    | .directory _ => name ++ ['/']
    | .link _ => name ++ ['@']
    | .file .. => name
  names.mergeSort fun a b => !(b < a)

end AnchorPatch.Disk
