import AnchorPatch.Regex.Basic

/-!
Templates.

A template is a text with references to the groups of a match. A reference is a dollar sign
followed by a number or a name, which stands between braces if a letter, a digit or an underscore
follows it. Two dollar signs stand for one.
-/

namespace AnchorPatch.Regex

/-- How a template refers to a group. -/
inductive GroupRef
  | number (n : Nat)
  | name (s : Text)
deriving Repr, DecidableEq

/-- A part of a template. -/
inductive Piece
  | literal (c : Char)
  | reference (ref : GroupRef)
deriving Repr, DecidableEq

def isRefChar (c : Char) : Bool := c.isAlphanum || c = '_'

/-- The group that a reference names. A number is written in digits, perhaps behind a plus sign,
and is less than two to the power 64; all else is a name. -/
def GroupRef.ofText (s : Text) : GroupRef :=
  let digits : Text := match s with
    | '+' :: rest => rest
    | rest => rest
  let n := digits.foldl (fun n c => 10 * n + (c.toNat - '0'.toNat)) 0
  if digits ≠ [] ∧ digits.all Char.isDigit ∧ n < 0x10000000000000000 then .number n else .name s

/-- Reads the reference behind a dollar sign; also gives what follows it. -/
def GroupRef.read? (s : Text) : Option (GroupRef × Text) :=
  match s with
  | '{' :: s =>
      match s.dropWhile (· ≠ '}') with
      | [] => none
      | _ :: rest => some (.ofText (s.takeWhile (· ≠ '}')), rest)
  | s =>
      match s.takeWhile isRefChar with
      | [] => none
      | chars => some (.ofText chars, s.dropWhile isRefChar)

/-- The parts of a template. A dollar sign that begins no reference stands for itself. -/
def readTemplate : Nat → Text → List Piece
  | 0, _ => []
  | _ + 1, [] => []
  | fuel + 1, '$' :: '$' :: s => .literal '$' :: readTemplate fuel s
  | fuel + 1, '$' :: s =>
      match GroupRef.read? s with
      | some (ref, rest) => .reference ref :: readTemplate fuel rest
      | none => .literal '$' :: readTemplate fuel s
  | fuel + 1, c :: s => .literal c :: readTemplate fuel s

/-- The text of the group that a reference names; nothing for a group that is not there. -/
def groupText (r : Regex) (m : Match) : GroupRef → Text
  | .number n => (m.group? n).getD []
  | .name s => ((r.names.find? (·.1 = s)).bind fun (_, n) => m.group? n).getD []

def Piece.expand (r : Regex) (m : Match) : Piece → Text
  | .literal c => [c]
  | .reference ref => r.groupText m ref

/-- A template with the texts of the groups in the place of its references. -/
def expand (r : Regex) (m : Match) (template : Text) : Text :=
  (readTemplate (template.length + 1) template).flatMap (Piece.expand r m)

end AnchorPatch.Regex
