import AnchorPatch.CommandLine.Flag

namespace AnchorPatch.CommandLine

def programName : String := "preview-patcher"

def versionText : String := programName ++ " 0.1.0\n"

/-- How the program is called with some flags, or with any if none are given. Each flag is shown
once, at the place of its first occurrence. -/
def usage (flags : List Flag) : String :=
  let shown := if flags.isEmpty then ["[OPTIONS]"] else flags.eraseDups.map Flag.shown
  "Usage: " ++ " ".intercalate (programName :: shown)

def helpLine (f : Flag) : String :=
  let width := (Flag.all.map (·.shown.length)).foldl max 0 + 2
  let letter := f.letter
  s!"  -{letter}, " ++ f.shown.pushn ' ' (width - f.shown.length) ++ f.purpose

def helpText : String :=
  "\n".intercalate
    (["Retrofit the blob-backed report preview into ClientMonthlyReport.jsx", "", usage [], "",
      "Options:"] ++ Flag.all.map helpLine) ++ "\n"

/-- Why the arguments cannot be read. `seen` holds the flags that were read before. -/
inductive UsageError
  /-- An argument that is neither a flag nor a word behind two dashes. -/
  | unexpected (argument : Text)
  | unknownName (name : Text) (seen : List Flag)
  | repeated (flag : Flag)
  | unwantedValue (flag : Flag) (value : Text) (seen : List Flag)
deriving Repr, DecidableEq

/-- What keeps the program from patching. -/
inductive Stop
  | help
  | version
  | error (cause : UsageError)
deriving Repr, DecidableEq

/-- What the arguments ask for. -/
structure Request where
  /-- In the order of their first occurrences; a counted flag has the place of its last one. -/
  flags : List Flag := []
  verbosity : Nat := 0
deriving Repr, DecidableEq

namespace Request

def dryRun (r : Request) : Bool := r.flags.contains .dryRun

def diff (r : Request) : Bool := r.flags.contains .diff

/-- Takes up a flag. One for help or the version ends the reading, and so does one that must not be
repeated. -/
def take (r : Request) (f : Flag) : Except Stop Request :=
  match f with
  | .help => .error .help
  | .version => .error .version
  | .verbose => .ok { flags := r.flags.erase f ++ [f], verbosity := r.verbosity + 1 }
  | f => if r.flags.contains f then .error (.error (.repeated f)) else .ok { r with flags := r.flags ++ [f] }

/-- Takes up the flags behind a single dash, one letter each. -/
def takeLetters (r : Request) : List Char → Except Stop Request
  | [] => .ok r
  | c :: cs =>
      match Flag.ofLetter? c with
      | none => .error (.error (.unexpected ['-', c]))
      | some f => do takeLetters (← r.take f) cs

/-- Takes a flag that is given by its name, maybe with a value behind an equals sign. No flag has
a value. -/
def takeWord (r : Request) (word : Text) : Except Stop Request :=
  let (name, value) := word.span (· ≠ '=')
  match Flag.ofName? name, value with
  | none, _ => .error (.error (.unknownName name r.flags))
  | some f, [] => r.take f
  | some f, _ :: value => .error (.error (.unwantedValue f value r.flags))

/-- Reads arguments. Two dashes on their own end the flags, and no other arguments are known. -/
def readFrom (r : Request) : List Text → Except Stop Request
  | [] => .ok r
  | ['-', '-'] :: [] => .ok r
  | ['-', '-'] :: argument :: _ => .error (.error (.unexpected argument))
  | ('-' :: '-' :: word) :: rest => do readFrom (← r.takeWord word) rest
  | ('-' :: c :: cs) :: rest => do readFrom (← r.takeLetters (c :: cs)) rest
  | argument :: _ => .error (.error (.unexpected argument))

def ofArguments (arguments : List Text) : Except Stop Request := readFrom {} arguments

end Request

namespace UsageError

def headline : UsageError → String
  | .unexpected argument =>
      let argument := String.ofList argument
      s!"error: unexpected argument '{argument}' found"
  | .unknownName name _ =>
      let name := String.ofList name
      s!"error: unexpected argument '--{name}' found"
  | .repeated flag =>
      let flag := flag.shown
      s!"error: the argument '{flag}' cannot be used multiple times"
  | .unwantedValue flag value _ =>
      let flag := flag.shown
      let value := String.ofList value
      s!"error: unexpected value '{value}' for '{flag}' found; no more were expected"

/-- The flag that may have been meant. -/
def suggestion? : UsageError → Option Flag
  | .unknownName name _ => Flag.nearest? name
  | _ => none

def flags : UsageError → List Flag
  | .unexpected _ | .repeated _ => []
  | .unknownName name seen => seen ++ (Flag.nearest? name).toList
  | .unwantedValue flag _ seen => seen ++ [flag]

def tip (flag : Flag) : List String :=
  let name := String.ofList flag.name
  [s!"  tip: a similar argument exists: '--{name}'", ""]

/-- Everything that is said of an error, line by line. -/
def lines (e : UsageError) : List String :=
  [e.headline, ""] ++ e.suggestion?.elim [] tip
    ++ [usage e.flags, "", "For more information, try '--help'."]

end UsageError

end AnchorPatch.CommandLine
