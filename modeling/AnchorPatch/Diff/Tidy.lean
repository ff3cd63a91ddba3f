import AnchorPatch.Diff.Op

/-!
Tidy edit scripts.

A script is tidied by moving deletions and then insertions as far towards the front and then
towards the end as the lines around them allow. Steps of one kind that meet become one, and steps
that stand for nothing disappear. In the end a deletion and an insertion side by side become a
replacement.
-/

namespace AnchorPatch.Diff

/-- A script around one of its steps. -/
structure Focus where
  before : List Op
  this : Op
  after : List Op

/-- The lines that a script is about. -/
structure Source where
  old : Array Text
  new : Array Text

def Source.oldRun (src : Source) (op : Op) : Run := ⟨src.old, op.oldStart, op.oldStop⟩

def Source.newRun (src : Source) (op : Op) : Run := ⟨src.new, op.newStart, op.newStop⟩

/-- Keeps `n` lines more at the front of the steps behind an insertion, which is `this`, when it
moves up into the kept lines of `prev`. -/
def keepBehind (prev this : Op) (n : Nat) : List Op → List Op
  | next :: rest =>
      if next.kind = .equal then (next.moveUp n).grow n :: rest
      else .equal (prev.oldStop - n) (this.newStop - n) n :: next :: rest
  | [] => [.equal (prev.oldStop - n) (this.newStop - n) n]

/-- Keeps `n` lines more at the end of the steps before an insertion, which is `this`, when it
moves down into the kept lines of `next`. -/
def keepAhead (this next : Op) (n : Nat) : List Op → List Op
  | prev :: rest =>
      if prev.kind = .equal then prev.grow n :: rest
      else .equal next.oldStart this.newStart n :: prev :: rest
  | [] => [.equal next.oldStart this.newStart n]

def consUnlessEmpty (op : Op) (ops : List Op) : List Op := if op.isEmpty then ops else op :: ops

/-- Moves a deletion or an insertion towards the front. Kept lines stop a deletion, and an
insertion passes those that it ends with. -/
def moveUp (src : Source) : Nat → Focus → Focus
  | 0, f => f
  | fuel + 1, f =>
      match f.before with
      | [] => f
      | prev :: before =>
          if prev.kind = .equal then
            let n := if f.this.kind = .insert then (src.oldRun prev).commonBack (src.newRun f.this) else 0
            if 0 < n then
              moveUp src fuel
                { before := consUnlessEmpty (prev.shrink n) before
                  this := f.this.moveUp n
                  after := keepBehind prev f.this n f.after }
            else if prev.isEmpty then moveUp src fuel { f with before }
            else f
          else if prev.kind = f.this.kind then
            moveUp src fuel
              { f with before, this := prev.grow (f.this.oldCount + f.this.newCount) }
          else moveUp src fuel { before, this := f.this, after := prev :: f.after }

/-- Moves a deletion or an insertion towards the end. Kept lines stop a deletion, and an insertion
passes those that it begins with. -/
def moveDown (src : Source) : Nat → Focus → Focus
  | 0, f => f
  | fuel + 1, f =>
      match f.after with
      | [] => f
      | next :: after =>
          if next.kind = .equal then
            let n := if f.this.kind = .insert then (src.oldRun next).commonFront (src.newRun f.this) else 0
            if 0 < n then
              moveDown src fuel
                { before := keepAhead f.this next n f.before
                  this := f.this.moveDown n
                  after := consUnlessEmpty ((next.moveDown n).shrink n) after }
            else if next.isEmpty then moveDown src fuel { f with after }
            else f
          else if next.kind = f.this.kind then
            moveDown src fuel
              { f with this := f.this.grow (next.oldCount + next.newCount), after }
          else moveDown src fuel { before := next :: f.before, this := f.this, after }

/-- Moves the steps of a kind one after another. `before` holds the steps that are done, the last
first. -/
def tidyKind (src : Source) (kind : Kind) (limit : Nat) : Nat → List Op → List Op → List Op
  | 0, before, after => before.reverse ++ after
  | _ + 1, before, [] => before.reverse
  | fuel + 1, before, op :: after =>
      if op.kind = kind then
        let f := moveDown src limit (moveUp src limit ⟨before, op, after⟩)
        tidyKind src kind limit fuel (f.this :: f.before) f.after
      else tidyKind src kind limit fuel (op :: before) after

/-- Joins deletions and insertions side by side to one replacement, and kept lines to one step. -/
def joinSteps : List Op → List Op
  | [] => []
  | op :: ops =>
      match joinSteps ops with
      | [] => [op]
      | next :: rest =>
          match op.kind, next.kind with
          | .equal, .equal =>
              { op with oldCount := op.oldCount + next.oldCount
                        newCount := op.newCount + next.newCount } :: rest
          | .equal, _ | _, .equal => op :: next :: rest
          | .delete, .delete => { op with oldCount := op.oldCount + next.oldCount } :: rest
          | .insert, .insert => { op with newCount := op.newCount + next.newCount } :: rest
          | .delete, _ =>
              { next with kind := .replace, oldStart := op.oldStart
                          oldCount := op.oldCount + next.oldCount } :: rest
          | _, _ =>
              { next with kind := .replace, newStart := op.newStart
                          newCount := op.newCount + next.newCount } :: rest

/-- Moves the steps of a script so that changes stand together, and joins what has come together. -/
def tidy (src : Source) (ops : List Op) : List Op :=
  let limit := 2 * (ops.length + src.old.size + src.new.size) + 2
  let ops := tidyKind src .delete limit limit [] ops
  let ops := tidyKind src .insert limit limit [] ops
  joinSteps ops

end AnchorPatch.Diff
