/-!
Sets of characters.

A set is kept as a list of ranges of code points in ascending order, with a gap between neighbours.
-/

namespace AnchorPatch

/-- A set of characters, as ascending ranges of code points. -/
structure CharSet where
  ranges : List (Nat × Nat)
deriving Repr, DecidableEq

namespace CharSet

def maxCode : Nat := 0x10ffff

def empty : CharSet := ⟨[]⟩

/-- The characters from `lo` to `hi`. -/
def range (lo hi : Nat) : CharSet := ⟨if lo ≤ hi then [(lo, hi)] else []⟩

def all : CharSet := range 0 maxCode

def single (c : Char) : CharSet := ⟨[(c.toNat, c.toNat)]⟩

/-- Whether a code point lies in one of the ranges. The search stops at the first range beyond it.
-/
def inRanges (c : Nat) : List (Nat × Nat) → Bool
  | [] => false
  | (lo, hi) :: rest => if c < lo then false else if c ≤ hi then true else inRanges c rest

/-- Whether a code is in a set. -/
def holds (s : CharSet) (c : Nat) : Bool := inRanges c s.ranges

def contains (s : CharSet) (c : Char) : Bool := s.holds c.toNat

/-- Adds a range to ascending ranges, joining it with those that it touches. -/
def insertRange (lo hi : Nat) : List (Nat × Nat) → List (Nat × Nat)
  | [] => [(lo, hi)]
  | (a, b) :: rest =>
      if hi + 1 < a then (lo, hi) :: (a, b) :: rest
      else if b + 1 < lo then (a, b) :: insertRange lo hi rest
      else insertRange (min lo a) (max hi b) rest

/-- A set with the characters from `lo` to `hi` added. -/
def insert (s : CharSet) (lo hi : Nat) : CharSet := ⟨insertRange lo hi s.ranges⟩

def union (s t : CharSet) : CharSet :=
  ⟨t.ranges.foldl (fun rs (lo, hi) => insertRange lo hi rs) s.ranges⟩

/-- The ranges between ascending ranges, from `next` on up to `top`. -/
def gaps (top : Nat) : Nat → List (Nat × Nat) → List (Nat × Nat)
  | next, [] => if next ≤ top then [(next, top)] else []
  | next, (lo, hi) :: rest =>
      if next < lo then (next, lo - 1) :: gaps top (hi + 1) rest else gaps top (hi + 1) rest

/-- The characters up to `top` that are not in a set. -/
def complementUpTo (top : Nat) (s : CharSet) : CharSet := ⟨gaps top 0 s.ranges⟩

def complement (s : CharSet) : CharSet := s.complementUpTo maxCode

def inter (s t : CharSet) : CharSet := (s.complement.union t.complement).complement

/-- The characters of `s` that are not in `t`. -/
def diff (s t : CharSet) : CharSet := s.inter t.complement

/-- The characters that are in one of two sets only. -/
def symmDiff (s t : CharSet) : CharSet := (s.union t).diff (s.inter t)

/-- Whether a set has no character beyond those of ASCII. -/
def isAscii (s : CharSet) : Bool := s.ranges.all fun (_, hi) => hi < 128

end CharSet

end AnchorPatch
