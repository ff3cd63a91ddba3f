import AnchorPatch.Text.Basic

namespace AnchorPatch.Diff

/-- The lines of a text, each with its line end. Only the last one may have none. -/
def lines : Text → List Text
  | [] => []
  | '\r' :: '\n' :: s => ['\r', '\n'] :: lines s
  | c :: s =>
      if c = '\n' || c = '\r' then [c] :: lines s
      else
        match lines s with
        | [] => [[c]]
        | l :: ls => (c :: l) :: ls

theorem flatten_lines (s : Text) : (lines s).flatten = s := by
  fun_induction lines s with
  | case1 => rfl
  | case2 s ih => simp [ih]
  | case3 c s _ _ ih => simp [ih]
  | case4 c s _ _ h ih =>
      rw [h] at ih
      simp at ih
      simp [← ih]
  | case5 c s _ _ l ls h ih =>
      rw [h] at ih
      simpa using ih

/-- What a step does with its lines. -/
inductive Kind
  | equal
  | delete
  | insert
  | replace
deriving Repr, DecidableEq

/-- A step: `oldCount` lines from `oldStart` on become `newCount` lines from `newStart` on. -/
structure Op where
  kind : Kind
  oldStart : Nat
  oldCount : Nat
  newStart : Nat
  newCount : Nat
deriving Repr, DecidableEq

namespace Op

def equal (oldStart newStart count : Nat) : Op := ⟨.equal, oldStart, count, newStart, count⟩

def delete (oldStart count newStart : Nat) : Op := ⟨.delete, oldStart, count, newStart, 0⟩

def insert (oldStart newStart count : Nat) : Op := ⟨.insert, oldStart, 0, newStart, count⟩

def oldStop (op : Op) : Nat := op.oldStart + op.oldCount

def newStop (op : Op) : Nat := op.newStart + op.newCount

def isEmpty (op : Op) : Bool := op.oldCount = 0 && op.newCount = 0

/-- Moves the runs of a step `n` lines towards the front. -/
def moveUp (op : Op) (n : Nat) : Op :=
  { op with oldStart := op.oldStart - n, newStart := op.newStart - n }

/-- Moves the runs of a step `n` lines towards the end. -/
def moveDown (op : Op) (n : Nat) : Op :=
  { op with oldStart := op.oldStart + n, newStart := op.newStart + n }

def grow (op : Op) (n : Nat) : Op :=
  match op.kind with
  | .delete => { op with oldCount := op.oldCount + n }
  | .insert => { op with newCount := op.newCount + n }
  | _ => { op with oldCount := op.oldCount + n, newCount := op.newCount + n }

def shrink (op : Op) (n : Nat) : Op :=
  match op.kind with
  | .delete => { op with oldCount := op.oldCount - n }
  | .insert => { op with newCount := op.newCount - n }
  | _ => { op with oldCount := op.oldCount - n, newCount := op.newCount - n }

end Op

/-- A run of lines: a part of an array between two positions. -/
structure Run where
  lines : Array Text
  start : Nat
  stop : Nat

namespace Run

def length (r : Run) : Nat := r.stop - r.start

/-- A run without its first `n` lines. -/
def dropFront (r : Run) (n : Nat) : Run := { r with start := r.start + n }

/-- A run without its last `n` lines. -/
def dropBack (r : Run) (n : Nat) : Run := { r with stop := r.stop - n }

end Run

/-- How many of the lines from two positions on, `n` at most, are equal pairwise. -/
def commonFrom (a b : Array Text) : Nat → Nat → Nat → Nat
  | 0, _, _ => 0
  | n + 1, i, j =>
      match a[i]?, b[j]? with
      | some x, some y => if x = y then commonFrom a b n (i + 1) (j + 1) + 1 else 0
      | _, _ => 0

/-- How many of the lines before two positions, `n` at most, are equal pairwise. -/
def commonBefore (a b : Array Text) : Nat → Nat → Nat → Nat
  | n + 1, i + 1, j + 1 =>
      match a[i]?, b[j]? with
      | some x, some y => if x = y then commonBefore a b n i j + 1 else 0
      | _, _ => 0
  | _, _, _ => 0

/-- The number of lines that two runs have in common at their fronts. -/
def Run.commonFront (r s : Run) : Nat :=
  commonFrom r.lines s.lines (min r.length s.length) r.start s.start

/-- The number of lines that two runs have in common at their backs. -/
def Run.commonBack (r s : Run) : Nat :=
  commonBefore r.lines s.lines (min r.length s.length) r.stop s.stop

end AnchorPatch.Diff
