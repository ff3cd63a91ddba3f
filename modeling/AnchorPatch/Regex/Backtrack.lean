import AnchorPatch.Regex.Cursor

namespace AnchorPatch.Regex

/-- A turn on the way from an expression down to one of its parts. -/
inductive Turn
  | first
  | second
  /-- A copy that an iteration has to take, with `n` more such copies behind it. -/
  | copy (n : Nat)
  /-- The choice of an iteration that may take up to `n` further copies, or any number of them if
  `n` is zero. -/
  | choice (n : Nat)
  /-- The copy that is taken at such a choice. -/
  | further (n : Nat)
deriving DecidableEq

/-- Where a part stands in an expression: the turns that lead to it, the last one first. -/
abbrev Address := List Turn

/-- The copy behind which `n` more have to follow. Without a bound, the last of them is the copy
that may follow any number of times. -/
def Turn.ofCopy (most : Option Nat) (n : Nat) : Turn :=
  if n = 0 ∧ most = none then .further 0 else .copy n

/-- The choices that a search has come to, each with the places where it did, which are the bits of
a number. -/
abbrev Visited := List (Address × Nat)

namespace Visited

/-- Whether a choice was come to at a place. -/
def contains (v : Visited) (a : Address) (place : Nat) : Bool :=
  match v with
  | [] => false
  | (b, places) :: v => if b = a then places.testBit place else contains v a place

/-- Remembers that a choice was come to at a place. -/
def insert (v : Visited) (a : Address) (place : Nat) : Visited :=
  match v with
  | [] => [(a, 1 <<< place)]
  | (b, places) :: v =>
      if b = a then (b, places ||| 1 <<< place) :: v else (b, places) :: insert v a place

end Visited

/-- A search that goes on from a place: where it ends if it succeeds, and all choices that were come
to by then. -/
abbrev Search := Cursor → Visited → Option Cursor × Visited

namespace Search

/-- A search that ends at once. -/
def done : Search := fun c v => (some c, v)

/-- Takes the next character if it is one of a set. -/
def step (s : CharSet) (k : Search) : Search := fun c v =>
  match c.step? s with
  | some d => k d v
  | none => (none, v)

/-- A choice between two ways, of which the first is preferred. At a place where it was come to
before, it leads nowhere. -/
def either (a : Address) (first second : Search) : Search := fun c v =>
  if v.contains a c.offset then (none, v)
  else
    match first c (v.insert a c.offset) with
    | (some d, v) => (some d, v)
    | (none, v) => second c v

/-- Takes `n` copies of a part. -/
def copies (copy : Nat → Search → Search) : Nat → Search → Search
  | 0, k, c, v => k c v
  | n + 1, k, c, v => copy n (copies copy n k) c v

/-- Takes further copies of a part, up to `rest` of them, as many as possible if `greedy` and as few
as possible otherwise. -/
def further (a : Address) (copy : Nat → Search → Search) (greedy : Bool) (k : Search) :
    Nat → Option Nat → Search
  | 0, _, _, v => (none, v)
  | fuel + 1, rest, c, v =>
      if rest = some 0 then k c v
      else
        let n := rest.getD 0
        let on : Search := copy n (further a copy greedy k fuel (rest.map (· - 1)))
        either (.choice n :: a) (if greedy then on else k) (if greedy then k else on) c v

/-- Goes on from the first of some places from which that succeeds. -/
def fromEach (k : Search) : List Cursor → Visited → Option Cursor × Visited
  | [], v => (none, v)
  | c :: cs, v =>
      match k c v with
      | (some d, v) => (some d, v)
      | (none, v) => fromEach k cs v

/-- The places in a run of characters of a set, the farthest first, in front of those that were
passed. The run is taken as by `further`, one character a copy. -/
def reach (a : Address) (s : CharSet) :
    Text → Option Nat → Cursor → Visited → List Cursor → List Cursor × Visited
  | _, some 0, c, v, passed => (c :: passed, v)
  | t, rest, c, v, passed =>
      let choice := .choice (rest.getD 0) :: a
      if v.contains choice c.offset then (passed, v)
      else
        match t, c.step? s with
        | _ :: t, some d =>
            reach a s t (rest.map (· - 1)) d (v.insert choice c.offset) (c :: passed)
        | _, _ => (c :: passed, v.insert choice c.offset)

/-- Goes on from the nearest place in a run of characters of a set from which that succeeds. -/
def nearest (a : Address) (s : CharSet) (k : Search) :
    Text → Option Nat → Search
  | _, some 0, c, v => k c v
  | t, rest, c, v =>
      let choice := .choice (rest.getD 0) :: a
      if v.contains choice c.offset then (none, v)
      else
        match k c (v.insert choice c.offset) with
        | (some d, v) => (some d, v)
        | (none, v) =>
            match t, c.step? s with
            | _ :: t, some d => nearest a s k t (rest.map (· - 1)) d v
            | _, _ => (none, v)

/-- The further copies of a single character. -/
def run (a : Address) (s : CharSet) (greedy : Bool) (rest : Option Nat) (k : Search) : Search :=
  fun c v =>
    if greedy then
      let (places, v) := reach a s c.after rest c v []
      fromEach k places v
    else nearest a s k c.after rest c v

end Search

/-- Looks for the preferred way through an expression behind which `k` succeeds. The choices on the
way are visited at most once at each place. -/
def Expr.search : Expr → Address → Search → Search
  | .empty, _, k, c, v => k c v
  | .chars s, _, k, c, v => k.step s c v
  | .look l, _, k, c, v => if c.satisfies l then k c v else (none, v)
  | .group index body, a, k, c, v => body.search a (fun d => k (d.record index c.offset)) c v
  | .seq first second, a, k, c, v =>
      first.search (.first :: a) (second.search (.second :: a) k) c v
  | .alt first second, a, k, c, v =>
      Search.either a (first.search (.first :: a) k) (second.search (.second :: a) k) c v
  | .iterate least most greedy (.chars s), a, k, c, v =>
      Search.copies (fun _ => .step s) least (.run a s greedy (most.map (· - least)) k) c v
  | .iterate least most greedy body, a, k, c, v =>
      let copy (n : Nat) : Search → Search := body.search (.ofCopy most n :: a)
      let further (n : Nat) : Search → Search := body.search (.further n :: a)
      let rest := most.map (· - least)
      Search.copies copy least
        (fun d v => Search.further a further greedy k (rest.getD d.after.length + 1) rest d v) c v

end AnchorPatch.Regex
