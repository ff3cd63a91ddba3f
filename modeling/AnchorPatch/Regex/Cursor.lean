import AnchorPatch.Regex.Expr

namespace AnchorPatch.Regex

/-- The place of a group, in bytes. -/
structure GroupPlace where
  index : Nat
  start : Nat
  stop : Nat
deriving Repr, DecidableEq

/-- A place in a text during a match. -/
structure Cursor where
  /-- What stands before the place, the nearest character first. -/
  before : Text
  after : Text
  offset : Nat
  /-- The groups that were passed on the way, the latest first. -/
  groups : List GroupPlace
  offset_eq : offset = before.byteLength

namespace Cursor

/-- The place in front of a text. -/
def ofText (s : Text) : Cursor :=
  { before := [], after := s, offset := 0, groups := [], offset_eq := rfl }

/-- The text that a cursor is a place of. -/
def whole (c : Cursor) : Text := c.before.reverse ++ c.after

/-- The place behind the next character. -/
def next? (c : Cursor) : Option Cursor :=
  match c.after with
  | [] => none
  | x :: rest =>
      some
        { c with
          before := x :: c.before, after := rest, offset := c.offset + x.utf8Size
          offset_eq := by simp [c.offset_eq, Nat.add_comm] }

/-- The place behind the next character, if that is one of a set. -/
def step? (s : CharSet) (c : Cursor) : Option Cursor :=
  match c.after with
  | [] => none
  | x :: _ => if s.contains x then c.next? else none

/-- Remembers that a group which began at `start` ends here. -/
def record (index start : Nat) (c : Cursor) : Cursor :=
  { c with groups := ⟨index, start, c.offset⟩ :: c.groups }

/-- Whether a condition holds at a place. -/
def satisfies (c : Cursor) (l : Look) : Bool := l.holds c.before.head? c.after.head?

theorem next?_of_step? {s : CharSet} {c d : Cursor} (h : c.step? s = some d) :
    c.next? = some d := by
  unfold step? at h
  split at h
  · cases h
  · split at h
    · exact h
    · cases h

end Cursor

end AnchorPatch.Regex
