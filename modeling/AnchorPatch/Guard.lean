import AnchorPatch.Disk.Walk

namespace AnchorPatch

/-- Keeps changes inside a workspace. -/
structure Guard where
  root : Location
  /-- Names that no directory or file on the way from the root may have. -/
  forbidden : List Text
deriving Repr, DecidableEq

/-- Why a path is refused. -/
inductive GuardError
  | outside (place workspace : Location)
  | forbidden (place : Location) (name : Text)
  | unresolved (cause : DiskError)
deriving Repr, DecidableEq

def GuardError.message : GuardError → String
  | .outside place workspace =>
      let place := String.ofList place.toPath
      let workspace := String.ofList workspace.toPath
      s!"path is outside workspace: {place} (workspace: {workspace})"
  | .forbidden place name =>
      let place := String.ofList place.toPath
      let name := String.ofList name
      s!"path is inside forbidden directory '{name}': {place}"
  | .unresolved cause =>
      let cause := cause.message
      s!"failed to canonicalize path: {cause}"

namespace Guard

/-- The directories in which nothing is written. -/
def defaultForbidden : List Text :=
  ["node_modules".toList, ".git".toList, "dist".toList, "build".toList]

/-- The guard of a workspace, whose root has to exist. -/
def create (d : Disk) (root : Path) (forbidden : List Text := defaultForbidden) :
    Except GuardError Guard := do
  return { root := ← (d.canonicalize root).mapError .unresolved, forbidden }

/-- A path as the guard sees it: a relative one starts from the root of the workspace. -/
def absolute (g : Guard) (p : Path) : Path :=
  if p.isAbsolute then p else g.root.toPath.join p

/-- Refuses a place outside of the workspace or in a directory that is forbidden. -/
def check (g : Guard) (place : Location) : Except GuardError Unit :=
  if g.root.isPrefixOf place then
    match (place.drop g.root.length).find? g.forbidden.contains with
    | some name => .error (.forbidden place name)
    | none => .ok ()
  else .error (.outside place g.root)

/-- Judges a path; gives the place that it leads to. -/
def validate (g : Guard) (d : Disk) (p : Path) : Except GuardError Location := do
  let place ← (d.canonicalize (g.absolute p)).mapError .unresolved
  g.check place
  return place

end Guard

end AnchorPatch
