import AnchorPatch.Diff.Op

/-!
Short edit scripts.

Lines that two runs have in common at their ends are kept. In between a shortest way from the
front and one from the back are drawn out until they meet, and the two sides of the meeting point
are treated likewise.
-/

namespace AnchorPatch.Diff

/-- For each diagonal, how many old lines the farthest way on it has passed. -/
structure Frontier where
  reach : Array Nat
  center : Nat

namespace Frontier

def new (limit : Nat) : Frontier := ⟨Array.replicate (2 * limit + 3) 0, limit + 1⟩

def get (v : Frontier) (k : Int) : Nat := v.reach.getD (k + v.center).toNat 0

def set (v : Frontier) (k : Int) (x : Nat) : Frontier :=
  { v with reach := v.reach.setIfInBounds (k + v.center).toNat x }

/-- How far the diagonal `k` is reached with the `d`th edit, before any further lines in common. -/
def edge (v : Frontier) (d k : Int) : Nat :=
  if k = -d || (k ≠ d && v.get (k - 1) < v.get (k + 1)) then v.get (k + 1)
  else v.get (k - 1) + 1

end Frontier

/-- The diagonals that are reached with `d` edits, from the greatest one down. -/
def diagonals (d : Nat) : List Int := (List.range (d + 1)).map fun i : Nat => (d : Int) - 2 * (i : Int)

/-- How many edits the search from one side has to go through at most. -/
def editLimit (n m : Nat) : Nat := (n + m + 1) / 2 + 1

/-- A place in two runs: a number of old and of new lines that are passed. -/
abbrev Meeting := Nat × Nat

/-- Draws the ways from the front out by one edit, along the given diagonals. Gives the place at
which a way from the back is met, if there is one. -/
def forward (r s : Run) (back : Frontier) (d : Nat) :
    List Int → Frontier → Except Meeting Frontier
  | [], front => .ok front
  | k :: ks, front =>
      let x := front.edge d k
      let y : Int := x - k
      let common :=
        if x < r.length && 0 ≤ y && y.toNat < s.length then
          (r.dropFront x).commonFront (s.dropFront y.toNat)
        else 0
      let delta : Int := r.length - s.length
      let front := front.set k (x + common)
      if delta % 2 ≠ 0 && (k - delta).natAbs + 1 ≤ d
          && r.length ≤ x + common + back.get (delta - k) then
        .error (x, y.toNat)
      else forward r s back d ks front

/-- Draws the ways from the back out by one edit, along the given diagonals. -/
def backward (r s : Run) (front : Frontier) (d : Nat) :
    List Int → Frontier → Except Meeting Frontier
  | [], back => .ok back
  | k :: ks, back =>
      let x := back.edge d k
      let y : Int := x - k
      let common :=
        if x < r.length && 0 ≤ y && y.toNat < s.length then
          (r.dropBack x).commonBack (s.dropBack y.toNat)
        else 0
      let delta : Int := r.length - s.length
      let back := back.set k (x + common)
      if delta % 2 = 0 && (k - delta).natAbs ≤ d
          && r.length ≤ x + common + front.get (delta - k) then
        .error (r.length - (x + common), s.length - (y.toNat + common))
      else backward r s front d ks back

/-- Draws ways out from both sides, up to `n` edits more, until they meet. -/
def meet (r s : Run) : Nat → Nat → Frontier → Frontier → Option Meeting
  | 0, _, _, _ => none
  | n + 1, d, front, back =>
      match forward r s back d (diagonals d) front with
      | .error place => some place
      | .ok front =>
          match backward r s front d (diagonals d) back with
          | .error place => some place
          | .ok back => meet r s n (d + 1) front back

def meeting (r s : Run) : Option Meeting :=
  let limit := editLimit r.length s.length
  meet r s limit 0 (.new limit) (.new limit)

/-- The steps that put one run of lines in the place of another. -/
def exchange (r s : Run) : List Op :=
  (if r.length = 0 then [] else [.delete r.start r.length s.start])
    ++ if s.length = 0 then [] else [.insert r.start s.start s.length]

/-- The steps for what two runs do not have in common at their fronts and ends. -/
def scriptBetween (recurse : Run → Run → List Op) (r s : Run) : List Op :=
  if r.length = 0 || s.length = 0 then exchange r s
  else
    match meeting r s with
    | some (x, y) =>
        recurse { r with stop := r.start + x } { s with stop := s.start + y }
          ++ recurse (r.dropFront x) (s.dropFront y)
    | none => exchange r s

def keep (oldStart newStart count : Nat) : List Op :=
  if count = 0 then [] else [.equal oldStart newStart count]

/-- The steps from one run to another, which is split where the two searches meet. -/
def scriptOfRuns : Nat → Run → Run → List Op
  | 0, r, s => exchange r s
  | fuel + 1, r, s =>
      let front := r.commonFront s
      let r' := r.dropFront front
      let s' := s.dropFront front
      let back := r'.commonBack s'
      keep r.start s.start front
        ++ scriptBetween (scriptOfRuns fuel) (r'.dropBack back) (s'.dropBack back)
        ++ keep (r'.stop - back) (s'.stop - back) back

/-- A shortest list of steps from some lines to others. -/
def shortScript (old new : Array Text) : List Op :=
  scriptOfRuns (old.size + new.size + 1) ⟨old, 0, old.size⟩ ⟨new, 0, new.size⟩

end AnchorPatch.Diff
