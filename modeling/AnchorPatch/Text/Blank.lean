import AnchorPatch.Text.Basic

namespace AnchorPatch.Text

/-- The characters with the property `White_Space`, as ranges of code points. -/
def blankRanges : List (Nat × Nat) :=
  [(0x09, 0x0d), (0x20, 0x20), (0x85, 0x85), (0xa0, 0xa0), (0x1680, 0x1680), (0x2000, 0x200a),
   (0x2028, 0x2029), (0x202f, 0x202f), (0x205f, 0x205f), (0x3000, 0x3000)]

def isBlank (c : Char) : Bool :=
  blankRanges.any fun (lo, hi) => lo ≤ c.toNat && c.toNat ≤ hi

def trimStart (s : Text) : Text := s.dropWhile isBlank

def trimEnd (s : Text) : Text := (s.reverse.dropWhile isBlank).reverse

/-- A text without the blanks at its ends. -/
def trim (s : Text) : Text := trimEnd (trimStart s)

/-- The lines of a text, without their line ends. A text that ends with a line end has no empty last
line, and the empty text has no line. -/
def lines : Text → List Text
  | [] => []
  | '\r' :: '\n' :: s => [] :: lines s
  | '\n' :: s => [] :: lines s
  | c :: s =>
      match lines s with
      | [] => [[c]]
      | l :: ls => (c :: l) :: ls

/-- What stands between the blanks of a text. -/
def words : Text → List Text
  | [] => []
  | [c] => if isBlank c then [] else [[c]]
  | c :: d :: s =>
      if isBlank c then words (d :: s)
      else if isBlank d then [c] :: words (d :: s)
      else
        match words (d :: s) with
        | [] => [[c]]
        | w :: ws => (c :: w) :: ws

/-- The words of a text with one space between them. -/
def squeeze (s : Text) : Text := [' '].intercalate (words s)

def allBlank (s : Text) : Bool := s.all isBlank

end AnchorPatch.Text
