import AnchorPatch.Diff.Shortest
import AnchorPatch.Diff.Tidy

namespace AnchorPatch.Diff

def radius : Nat := 3

/-- Keeps at most `radius` lines of the first step. -/
def trimFirst : List Op → List Op
  | [] => []
  | op :: ops =>
      if op.kind = .equal then
        let n := op.oldCount - radius
        (op.moveDown n).shrink n :: ops
      else op :: ops

/-- Keeps at most `radius` lines of the last step. -/
def trimLast : List Op → List Op
  | [] => []
  | [op] => if op.kind = .equal then [op.shrink (op.oldCount - radius)] else [op]
  | op :: ops => op :: trimLast ops

/-- Parts a script wherever many lines are kept. `group` holds the steps of the current hunk, the
last first. -/
def split (group : List Op) : List Op → List (List Op)
  | [] => if group.isEmpty || (group.length = 1 && group.all (·.kind = .equal)) then [] else [group.reverse]
  | op :: ops =>
      if op.kind = .equal && 2 * radius < op.oldCount then
        let n := op.oldCount - radius
        (op.shrink n :: group).reverse :: split [(op.moveDown n).shrink n] ops
      else split (op :: group) ops

/-- The steps of a script in groups, each with some kept lines around its changes. -/
def hunks (ops : List Op) : List (List Op) := split [] (trimLast (trimFirst ops))

/-- How a line of a hunk came about. -/
inductive Mark
  | kept
  | deleted
  | inserted
deriving Repr, DecidableEq

/-- A line that is kept, deleted or inserted. -/
structure Change where
  mark : Mark
  line : Text
deriving Repr, DecidableEq

def runLines (lines : Array Text) (start count : Nat) (mark : Mark) : List Change :=
  (lines.toList.drop start).take count |>.map fun line => { mark, line }

def Op.changes (src : Source) (op : Op) : List Change :=
  match op.kind with
  | .equal => runLines src.old op.oldStart op.oldCount .kept
  | _ =>
      runLines src.old op.oldStart op.oldCount .deleted
        ++ runLines src.new op.newStart op.newCount .inserted

/-- A hunk: its place in the old and in the new lines, and its lines. -/
structure Hunk where
  oldStart : Nat
  oldStop : Nat
  newStart : Nat
  newStop : Nat
  changes : List Change
deriving Repr, DecidableEq

def Hunk.ofOps? (src : Source) (ops : List Op) : Option Hunk := do
  let first ← ops.head?
  let last ← ops.getLast?
  return { oldStart := first.oldStart, oldStop := last.oldStop
           newStart := first.newStart, newStop := last.newStop
           changes := ops.flatMap (Op.changes src) }

/-- A place in lines: the number of the first line, and the number of lines unless it is one. A
place without lines is named by the line before it. -/
def rangeText (start stop : Nat) : String :=
  let count := stop - start
  if count = 1 then toString (start + 1)
  else
    let first := if count = 0 then start else start + 1
    s!"{first},{count}"

/-- The lines of the two texts that a hunk is about. -/
def Hunk.header (h : Hunk) : String :=
  let old := rangeText h.oldStart h.oldStop
  let new := rangeText h.newStart h.newStop
  s!"@@ -{old} +{new} @@"

/-- The hunks of the change from one text to another. -/
def hunksBetween (old new : Text) : List Hunk :=
  let src : Source := { old := (lines old).toArray, new := (lines new).toArray }
  (hunks (tidy src (shortScript src.old src.new))).filterMap (Hunk.ofOps? src)

end AnchorPatch.Diff
