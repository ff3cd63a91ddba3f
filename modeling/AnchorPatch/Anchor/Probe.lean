import AnchorPatch.Text.Blank

namespace AnchorPatch.Probe

/-- Where the reader of a pattern is. -/
inductive Mode
  | plain
  | escape
  /-- Behind the class of blanks, whose count is skipped. -/
  | blanks
  | flags
deriving Repr, DecidableEq

/-- Whether a character says how often something is repeated. -/
def isCountSign (c : Char) : Bool := c = '*' || c = '+' || c = '?'

def isStop (c : Char) : Bool :=
  isCountSign c || c = '.' || c = '[' || c = '|' || c = '\x7b' || c = '$'

/-- Adds a blank unless one stands at the end. The text is held in reverse. -/
def addBlank (out : Text) : Text := if out.head? = some ' ' then out else ' ' :: out

/-- The plain text at the front of a pattern, in reverse; `out` is what has been read so far. -/
def scan : Mode → Text → Text → Text
  | _, out, [] => out
  | .escape, out, c :: s =>
      if c = 's' then scan .blanks (addBlank out) s
      else if c.isAlphanum then out
      else scan .plain (c :: out) s
  | .flags, out, c :: s => scan (if c = ':' || c = ')' then .plain else .flags) out s
  | mode, out, c :: s =>
      if mode = .blanks && isCountSign c then scan .blanks out s
      else if c = '\\' then scan .escape out s
      else if c = '(' then scan (if s.head? = some '?' then .flags else .plain) out s
      else if c = ')' || c = '^' then scan .plain out s
      else if isStop c then out
      else scan .plain (c :: out) s

/-- The plain text at the front of a pattern, with single blanks between its words. -/
def ofPattern (pattern : Text) : Text := Text.squeeze (scan .plain [] pattern).reverse

/-- The probe of a plain text: its first line that is not blank. -/
def ofText (s : Text) : Text :=
  (((Text.lines s).map Text.trim).find? (· ≠ [])).getD []

end AnchorPatch.Probe
