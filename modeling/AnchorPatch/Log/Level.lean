import AnchorPatch.Text.Basic

namespace AnchorPatch.Log

/-- How important an event is. -/
inductive Level
  | error
  | warn
  | info
  | debug
  | trace
deriving Repr, DecidableEq

namespace Level

/-- A number for each level, smaller ones being more important. -/
def rank : Level → Nat
  | .error => 1
  | .warn => 2
  | .info => 3
  | .debug => 4
  | .trace => 5

def name : Level → String
  | .error => "ERROR"
  | .warn => "WARN"
  | .info => "INFO"
  | .debug => "DEBUG"
  | .trace => "TRACE"

/-- A level as it stands at the front of a log line, five characters wide. -/
def label (l : Level) : String := "".pushn ' ' (5 - l.name.length) ++ l.name

end Level

/-- The events that pass: those up to a level, or none. -/
inductive Limit
  | off
  | upTo (l : Level)
deriving Repr, DecidableEq

namespace Limit

/-- Whether a limit lets a level through. -/
def admits : Limit → Level → Bool
  | .off, _ => false
  | .upTo most, l => l.rank ≤ most.rank

def all : List Limit :=
  [.off, .upTo .error, .upTo .warn, .upTo .info, .upTo .debug, .upTo .trace]

def name : Limit → Text
  | .off => ['o', 'f', 'f']
  | .upTo l => l.name.toList.map Char.toLower

def readNumber : Nat → Text → Option Nat
  | n, [] => some n
  | n, c :: s => if c.isDigit then readNumber (10 * n + (c.toNat - '0'.toNat)) s else none

/-- A limit that is written as a number. -/
def number? : Text → Option Nat
  | '+' :: c :: s => readNumber 0 (c :: s)
  | c :: s => readNumber 0 (c :: s)
  | [] => none

/-- Reads a limit: its number, or its name in letters of either case. -/
def ofText? (s : Text) : Option Limit :=
  match number? s with
  | some n => all[n]?
  | none => all.find? fun l => l.name = s.map Char.toLower

theorem ofText?_name (l : Limit) : ofText? l.name = some l := by
  rcases l with _ | l
  · decide
  · cases l <;> decide

end Limit

end AnchorPatch.Log
