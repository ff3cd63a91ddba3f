import AnchorPatch.CharSet
import AnchorPatch.Text.Blank
import AnchorPatch.Unicode.Property

namespace AnchorPatch.Regex

/-- What a condition on words asks of the characters at its two sides. -/
inductive WordSide
  | boundary
  | interior
  | start
  | stop
  | startHalf
  | stopHalf
deriving Repr, DecidableEq

/-- A condition on a place between two characters. -/
inductive Look
  | textStart
  | textEnd
  /-- At the start of a line; `crlf` takes a carriage return for a line end too. -/
  | lineStart (crlf : Bool)
  | lineEnd (crlf : Bool)
  /-- A condition on words; `unicode` takes all word characters, not only those of ASCII. -/
  | word (side : WordSide) (unicode : Bool)
deriving Repr, DecidableEq

def asciiWordChars : CharSet := ⟨[(48, 57), (65, 90), (95, 95), (97, 122)]⟩

/-- Whether a character belongs to words. What is missing does not. -/
def isWordChar (unicode : Bool) : Option Char → Bool
  | none => false
  | some c => (if unicode then Unicode.wordChars else asciiWordChars).contains c

/-- Whether a condition holds between two characters that belong to words or not. -/
def WordSide.holds : WordSide → Bool → Bool → Bool
  | .boundary, before, after => before != after
  | .interior, before, after => before == after
  | .start, before, after => !before && after
  | .stop, before, after => before && !after
  | .startHalf, before, _ => !before
  | .stopHalf, _, after => !after

/-- Whether a condition holds between two characters, either of which may be missing. -/
def Look.holds : Look → Option Char → Option Char → Bool
  | .textStart, before, _ => before.isNone
  | .textEnd, _, after => after.isNone
  | .lineStart false, before, _ => before.all (· = '\n')
  | .lineEnd false, _, after => after.all (· = '\n')
  | .lineStart true, before, after =>
      before.all (· = '\n') || (before = some '\r' && after ≠ some '\n')
  | .lineEnd true, before, after =>
      after.all (· = '\r') || (after = some '\n' && before ≠ some '\r')
  | .word side unicode, before, after =>
      side.holds (isWordChar unicode before) (isWordChar unicode after)

/-- What a pattern matches. -/
inductive Expr
  | empty
  | chars (s : CharSet)
  | look (l : Look)
  /-- A part whose place is remembered under a number. -/
  | group (index : Nat) (body : Expr)
  | seq (first second : Expr)
  /-- Either of two parts, the first being preferred. -/
  | alt (first second : Expr)
  /-- A part at least `least` and at most `most` times, as often as possible if `greedy` and as
  seldom as possible otherwise. -/
  | iterate (least : Nat) (most : Option Nat) (greedy : Bool) (body : Expr)
deriving Repr, DecidableEq

/-- Whether some match of an expression takes a character. -/
def Expr.mayConsume : Expr → Bool
  | .empty => false
  | .chars _ => true
  | .look _ => false
  | .group _ body => body.mayConsume
  | .seq first second => first.mayConsume || second.mayConsume
  | .alt first second => first.mayConsume || second.mayConsume
  | .iterate _ most _ body => most ≠ some 0 && body.mayConsume

/-- Whether every match of an expression takes a character. -/
def Expr.consumes : Expr → Bool
  | .empty => false
  | .chars _ => true
  | .look _ => false
  | .group _ body => body.consumes
  | .seq first second => first.consumes || second.consumes
  | .alt first second => first.consumes && second.consumes
  | .iterate least _ _ body => least ≠ 0 && body.consumes

/-- An iteration. A second copy of a part that never takes a character adds nothing, so such a
part is taken at most once. Any number of copies of a part that need not take a character are either
none or at least one. -/
def Expr.iterated (least : Nat) (most : Option Nat) (greedy : Bool) (body : Expr) : Expr :=
  if !body.mayConsume then .iterate (min least 1) (some (min (most.getD 1) 1)) greedy body
  else if least = 0 ∧ most = none ∧ !body.consumes then
    .iterate 0 (some 1) greedy (.iterate 1 none greedy body)
  else .iterate least most greedy body

/-- One expression after another. -/
def Expr.ofItems : List Expr → Expr
  | [] => .empty
  | e :: es => es.foldl .seq e

/-- One of some expressions, an earlier one being preferred. -/
def Expr.ofBranches : List Expr → Expr
  | [] => .empty
  | [e] => e
  | e :: es => .alt e (ofBranches es)

end AnchorPatch.Regex
