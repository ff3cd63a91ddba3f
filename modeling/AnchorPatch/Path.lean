import AnchorPatch.Text.Basic

namespace AnchorPatch

abbrev Path := List Char

namespace Path

/-- What stands between the slashes of a path. -/
def pieces : Path → List Text
  | [] => [[]]
  | '/' :: s => [] :: pieces s
  | c :: s =>
      match pieces s with
      | [] => [[c]]
      | p :: ps => (c :: p) :: ps

def isAbsolute (p : Path) : Bool := p.head? = some '/'

/-- A part of a path that means something. -/
inductive Part
  | root
  /-- The part `.` at the front of a relative path. -/
  | here
  | up
  | name (s : Text)
deriving Repr, DecidableEq

/-- The meaning of a piece that is not the first one of a relative path. -/
def Part.ofPiece? (s : Text) : Option Part :=
  if s = [] || s = ['.'] then none
  else if s = ['.', '.'] then some .up
  else some (.name s)

/-- The parts of a path that mean something. -/
def parts (p : Path) : List Part :=
  match pieces p with
  | [] => []
  | first :: rest =>
      let front :=
        if p.isAbsolute then [.root]
        else if first = ['.'] then [.here]
        else (Part.ofPiece? first).toList
      front ++ rest.filterMap Part.ofPiece?

/-- Drops the pieces at the end that mean nothing. The pieces are in reverse, and the first piece
of the path, which is the last here, is kept if it is not empty. -/
def dropIdle : List Text → List Text
  | [] => []
  | [first] => if first = [] then [] else [first]
  | s :: rest => if s = [] || s = ['.'] then dropIdle rest else s :: rest

/-- The pieces up to the last one that means something, in reverse. For an absolute path the empty
piece in front of the first slash is left out. -/
def backwards (p : Path) : List Text := dropIdle (pieces p).reverse

/-- The last name of a path, unless the path ends with `..` or has no name. -/
def fileName? (p : Path) : Option Text :=
  match backwards p with
  | [] => none
  | s :: _ => if s = ['.'] || s = ['.', '.'] then none else some s

/-- The path with some parts, of which the last one comes first. -/
def ofBackwards (absolute : Bool) (ps : List Text) : Path :=
  let body := ['/'].intercalate ps.reverse
  if absolute && body.head? ≠ some '/' then '/' :: body else body

/-- A path without its last part. The root and the empty path have no parent. -/
def parent? (p : Path) : Option Path :=
  match backwards p with
  | [] => none
  | _ :: rest => some (ofBackwards p.isAbsolute (dropIdle rest))

/-- A path followed by another one; an absolute second path stands on its own. -/
def join (p q : Path) : Path :=
  if q.isAbsolute then q
  else if p = [] || p.getLast? = some '/' then p ++ q
  else p ++ '/' :: q

/-- A path with another last name. A path without a last name gets one. -/
def withFileName (p : Path) (name : Text) : Path :=
  match p.fileName?, p.parent? with
  | some _, some q => q.join name
  | _, _ => p.join name

end Path

end AnchorPatch
