import AnchorPatch.Diff.Hunk
import AnchorPatch.Path
import AnchorPatch.Style

namespace AnchorPatch.Diff

def Mark.sign : Mark → Char
  | .kept => ' '
  | .deleted => '-'
  | .inserted => '+'

def Mark.style : Mark → Style
  | .kept => .plain
  | .deleted => .red
  | .inserted => .green

def isTerminated (line : Text) : Bool := line.getLast?.any fun c => c = '\n' || c = '\r'

/-- A line with its sign. A line without line end gets one, and an empty line follows it. -/
def Change.display (c : Change) (colours : Bool) : Text :=
  if isTerminated c.line then c.mark.style.paint colours (c.mark.sign :: c.line)
  else c.mark.style.paint colours (c.mark.sign :: c.line ++ ['\n']) ++ ['\n']

def Hunk.display (h : Hunk) (colours : Bool) : Text :=
  Style.cyan.paint colours h.header.toList ++ '\n' :: h.changes.flatMap (·.display colours)

/-- The two lines above all hunks. -/
def headlines (path : Path) (colours : Bool) : Text :=
  let line (sign : String) (what : String) : Text :=
    Style.dimmed.paint colours (sign.toList ++ ' ' :: path ++ ' ' :: what.toList) ++ ['\n']
  line "---" "(original)" ++ line "+++" "(patched)"

/-- What is shown of the change from one text to another. -/
def display (path : Path) (old new : Text) (colours : Bool) : Text :=
  headlines path colours ++ (hunksBetween old new).flatMap (·.display colours)

end AnchorPatch.Diff
