import AnchorPatch.Text.Distance

namespace AnchorPatch.CommandLine

/-- What can be asked for on the command line. -/
inductive Flag
  | dryRun
  | diff
  | verbose
  | help
  | version
deriving Repr, DecidableEq

namespace Flag

def all : List Flag := [.dryRun, .diff, .verbose, .help, .version]

def name : Flag → Text
  | .dryRun => "dry-run".toList
  | .diff => "diff".toList
  | .verbose => "verbose".toList
  | .help => "help".toList
  | .version => "version".toList

def letter : Flag → Char
  | .dryRun => 'n'
  | .diff => 'd'
  | .verbose => 'v'
  | .help => 'h'
  | .version => 'V'

/-- Whether a flag may be given more than once. -/
def isCounted : Flag → Bool
  | .verbose => true
  | _ => false

def shown (f : Flag) : String :=
  let name := String.ofList f.name
  if f.isCounted then s!"--{name}..." else s!"--{name}"

def purpose : Flag → String
  | .dryRun => "Dry run - show what would be changed without modifying files"
  | .diff => "Show unified diff of changes"
  | .verbose => "Log rule outcomes to stderr (-v info, -vv debug)"
  | .help => "Print help"
  | .version => "Print version"

def ofName? (name : Text) : Option Flag := all.find? (·.name = name)

def ofLetter? (letter : Char) : Option Flag := all.find? (·.letter = letter)

/-- Whether a name is so near to that of a flag that it may be a misspelling of it. -/
def isLike (name : Text) (f : Flag) : Bool := Text.Likeness.le ⟨7, 10⟩ (Text.likeness name f.name)

/-- The flag whose name is most like a name; of several the last one. -/
def nearest? (name : Text) : Option Flag :=
  (all.filter (isLike name)).foldl
    (fun best f =>
      match best with
      | none => some f
      | some b =>
          if Text.Likeness.le (Text.likeness name b.name) (Text.likeness name f.name) then some f
          else some b)
    none

theorem ofName?_name (f : Flag) : ofName? f.name = some f := by cases f <;> decide

theorem ofLetter?_letter (f : Flag) : ofLetter? f.letter = some f := by cases f <;> decide

end Flag

end AnchorPatch.CommandLine
