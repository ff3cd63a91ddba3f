import AnchorPatch.Text.Basic

namespace AnchorPatch.Text

/-- Extends a row by one character: from the distances of the tails of a text to `t` to the
distances of the same tails to `c :: t`. -/
def extendRow (c : Char) : Text → List Nat → List Nat
  | [], row => [row.headD 0 + 1]
  | _ :: _, [] => []
  | a :: s, d :: row =>
      let rest := extendRow c s row
      let best :=
        if a = c then row.headD 0
        else min d (min (rest.headD 0) (row.headD 0)) + 1
      best :: rest

def emptyRow : Text → List Nat
  | [] => [0]
  | _ :: s => (s.length + 1) :: emptyRow s

/-- The distances of the tails of `s` to `t`, that of `s` itself first. -/
def distanceRow (s : Text) : Text → List Nat
  | [] => emptyRow s
  | c :: t => extendRow c s (distanceRow s t)

/-- The least number of characters to insert, delete or exchange. -/
def distance (s t : Text) : Nat := (distanceRow s t).headD 0

/-- A likeness as a fraction; one is perfect. -/
structure Likeness where
  numerator : Nat
  denominator : Nat
deriving Repr, DecidableEq

/-- A text in which characters are marked that have found a partner. -/
abbrev Marked := List (Char × Bool)

/-- Takes the first free `c` at a place between `lo` and `hi`; `i` is the place of the first
character. -/
def take? (c : Char) (lo hi : Nat) : Nat → Marked → Option Marked
  | _, [] => none
  | i, (d, taken) :: rest =>
      if hi < i then none
      else if lo ≤ i && c = d && !taken then some ((d, true) :: rest)
      else (take? c lo hi (i + 1) rest).map ((d, taken) :: ·)

/-- Takes the characters of a text, each at most `range` places away from its own place. Gives
those that could be taken. -/
def takeAll (range : Nat) : Nat → Text → Marked → Text × Marked
  | _, [], marked => ([], marked)
  | i, c :: s, marked =>
      match take? c (i - range) (i + range) 0 marked with
      | none => takeAll range (i + 1) s marked
      | some marked =>
          let (shared, marked) := takeAll range (i + 1) s marked
          (c :: shared, marked)

/-- How far apart partners may stand. -/
def likenessRange (s t : Text) : Nat := max s.length t.length / 2 - 1

/-- The mean of the shares of common characters in both texts and the share of those that are in
order. -/
def likeness (s t : Text) : Likeness :=
  let (left, marked) := takeAll (likenessRange s t) 0 s (t.map (·, false))
  let right := (marked.filter (·.2)).map (·.1)
  let common := left.length
  let moved := ((left.zip right).countP fun (c, d) => c ≠ d) / 2
  if s = [] && t = [] then ⟨1, 1⟩
  else if common = 0 then ⟨0, 1⟩
  else
    ⟨common * common * (s.length + t.length) + (common - moved) * s.length * t.length,
     3 * s.length * t.length * common⟩

namespace Likeness

def le (x y : Likeness) : Bool := x.numerator * y.denominator ≤ y.numerator * x.denominator

end Likeness

end AnchorPatch.Text
