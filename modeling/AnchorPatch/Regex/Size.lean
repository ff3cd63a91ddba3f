import AnchorPatch.Regex.Expr

/-!
The size limit.

A pattern is refused when an automaton for it would take more than ten mebibytes. The automaton
reads the bytes of the UTF-8 form. A state takes 32 bytes and each further transition of a state
that branches takes some more, and a counted iteration takes a copy of its body for each count.
-/

namespace AnchorPatch.Regex

def stateSize : Nat := 32

/-- The ranges of bytes, from the first byte of a character on, that together read the characters
from `lo` to `hi`, which have UTF-8 forms of equal length. The ranges are split where a range of a
leading byte would not allow all values of the bytes behind it. -/
def alignedRanges : Nat → Nat → Nat → List (Nat × Nat)
  | 0, lo, hi => [(lo, hi)]
  | level + 1, lo, hi =>
      let unit := Nat.pow 64 (level + 1)
      if lo / unit = hi / unit then alignedRanges level lo hi
      else
        let lowEnd := (lo / unit + 1) * unit
        let highStart := hi / unit * unit
        let front := if lo % unit = 0 then [] else alignedRanges level lo (lowEnd - 1)
        let back := if (hi + 1) % unit = 0 then [] else alignedRanges level highStart hi
        let start := if lo % unit = 0 then lo else lowEnd
        let stop := if (hi + 1) % unit = 0 then hi else highStart - 1
        front ++ (if start ≤ stop then [(start, stop)] else []) ++ back

/-- The parts of a range of characters whose UTF-8 forms have `level + 1` bytes. -/
def sequencesOfLength (level first last : Nat) (lo hi : Nat) : List (Nat × List (Nat × Nat)) :=
  let lo := max lo first
  let hi := min hi last
  if lo ≤ hi then
    (alignedRanges level lo hi).map fun (a, b) =>
      (level + 1, (List.range (level + 1)).map fun i =>
        (a / Nat.pow 64 (level - i), b / Nat.pow 64 (level - i)))
  else []

def byteSequences (lo hi : Nat) : List (Nat × List (Nat × Nat)) :=
  sequencesOfLength 0 0 0x7f lo hi ++ sequencesOfLength 1 0x80 0x7ff lo hi ++
  sequencesOfLength 2 0x800 0xd7ff lo hi ++ sequencesOfLength 2 0xe000 0xffff lo hi ++
  sequencesOfLength 3 0x10000 0x10ffff lo hi

def sharedRanges : List (Nat × Nat) → List (Nat × Nat) → Nat
  | a :: s, b :: t => if a = b then sharedRanges s t + 1 else 0
  | _, _ => 0

/-- The number of states for sequences, when those with a common start share it. -/
def statesOf (last : Nat × List (Nat × Nat)) : List (Nat × List (Nat × Nat)) → Nat
  | [] => 0
  | s :: rest =>
      let shared := if s.1 = last.1 then sharedRanges last.2 s.2 else 0
      s.1 - shared + statesOf s rest

def setSize (s : CharSet) : Nat :=
  match s.ranges with
  | [(lo, hi)] =>
      if lo = hi then stateSize * (Char.ofNat lo).utf8Size
      else if hi < 128 then stateSize
      else general s
  | _ => if s.isAscii then 2 * stateSize + 8 * s.ranges.length else general s
where
  general (s : CharSet) : Nat :=
    let sequences := s.ranges.flatMap fun (lo, hi) => byteSequences lo hi
    2 * stateSize + 4 * sequences.length + stateSize * statesOf (0, []) sequences

def Expr.size : Expr → Nat
  | .empty => stateSize
  | .chars s => setSize s
  | .look _ => stateSize
  | .group _ body => body.size + 2 * stateSize
  | .seq first second => first.size + second.size
  | .alt first second => first.size + second.size + stateSize + 8
  | .iterate least (some most) _ body =>
      if most = 0 then stateSize
      else if least = most then least * body.size
      else most * body.size + (most - least) * (stateSize + 8) + stateSize
  | .iterate least none _ body =>
      let branch := stateSize + 8
      if least = 0 then
        if body.consumes then body.size + branch else body.size + 2 * branch + stateSize
      else least * body.size + branch

def sizeLimit : Nat := 10 * 0x100000

end AnchorPatch.Regex
