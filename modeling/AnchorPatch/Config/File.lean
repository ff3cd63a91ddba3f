import AnchorPatch.Config.Builtin
import AnchorPatch.Config.Schema
import AnchorPatch.Disk.Walk
import AnchorPatch.Toml.Reader

namespace AnchorPatch

/-- Why a text is not an acceptable configuration. -/
inductive LoadFault
  | syntaxFault (cause : Toml.Error)
  | schema (cause : SchemaError)
  | invalid (issues : List Issue)
deriving Repr

/-- How the faults of a document are worded. -/
abbrev TomlWording := Toml.Error → String

def LoadFault.cause (f : LoadFault) (wording : Wording := Regex.Error.message)
    (tomlWording : TomlWording := Toml.Error.message) : String :=
  match f with
  | .syntaxFault cause => tomlWording cause
  | .schema cause => cause.message
  | .invalid issues => Issue.messages issues wording

/-- What is wrong with a configuration, and with which file if it comes from one. -/
def LoadFault.message (f : LoadFault) (path : Option Text) (wording : Wording := Regex.Error.message)
    (tomlWording : TomlWording := Toml.Error.message) : String :=
  let origin := match path with
    | none => ""
    | some p => " (" ++ String.ofList p ++ ")"
  let task := match f with
    | .invalid _ => "invalid rule set"
    | _ => "failed to parse rule set TOML"
  task ++ origin ++ ": " ++ f.cause wording tomlWording

namespace Config

def read (s : Text) : Except LoadFault Config :=
  match Toml.parse s with
  | .error e => .error (.syntaxFault e)
  | .ok v => (ofValue v).mapError .schema

/-- Reads a configuration and accepts it only if it has no fault. -/
def load (s : Text) : Except LoadFault Config := do
  let c ← read s
  match c.validate with
  | .ok _ => return c
  | .error issues => throw (.invalid issues)

end Config

/-- Why a configuration file cannot be loaded. -/
inductive FileFault
  | unreadable (path : Path) (cause : DiskError)
  | unacceptable (path : Path) (cause : LoadFault)
deriving Repr

def FileFault.cause (f : FileFault) (wording : Wording := Regex.Error.message)
    (tomlWording : TomlWording := Toml.Error.message) : String :=
  match f with
  | .unreadable _ cause => cause.message
  | .unacceptable _ cause => cause.cause wording tomlWording

def FileFault.message (f : FileFault) (wording : Wording := Regex.Error.message)
    (tomlWording : TomlWording := Toml.Error.message) : String :=
  match f with
  | .unreadable path cause =>
      let path := String.ofList path
      let cause := cause.message
      s!"failed to read rule set from {path}: {cause}"
  | .unacceptable path cause => cause.message (some path) wording tomlWording

def Config.loadFile (d : Disk) (p : Path) : Except FileFault Config := do
  let s ← (d.readText p).mapError (.unreadable p)
  (Config.load s).mapError (.unacceptable p)

end AnchorPatch
