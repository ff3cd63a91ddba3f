import AnchorPatch.Decimal
import AnchorPatch.Text.Blank
import AnchorPatch.Text.Distance
import AnchorPatch.Text.Search

namespace AnchorPatch

/-- How alike two texts are: `distance` edits in a text of `longest` characters. -/
structure Similarity where
  distance : Nat
  longest : Nat
deriving Repr, DecidableEq

namespace Similarity

def perfect : Similarity := ⟨0, 1⟩

def ofTexts (s t : Text) : Similarity := ⟨Text.distance s t, max s.length t.length⟩

/-- Whether texts are similar enough for a near miss. -/
def passesFloor (x : Similarity) : Bool := 5 * x.distance ≤ 2 * x.longest

/-- Whether `x` is the smaller relative distance. -/
def better (x y : Similarity) : Bool := x.distance * y.longest < y.distance * x.longest

def value (x : Similarity) : BinaryFraction :=
  (BinaryFraction.nearest x.distance x.longest).complement

def percent (x : Similarity) : String := (x.value.times 100).decimal 0

end Similarity

/-- The line of a buffer that resembles a probe most. -/
structure NearMiss where
  line : Nat
  text : Text
  similarity : Similarity
deriving Repr, DecidableEq

namespace NearMiss

def message (m : NearMiss) : String :=
  s!"line {m.line} ({m.similarity.percent}% similar): {String.ofList m.text}"

/-- How near a line comes to a probe; a line that holds the probe could not come nearer. -/
def score (probe line : Text) : Similarity :=
  if Text.occurs probe line then .perfect else .ofTexts line probe

/-- The best line from number `n` on; `best` is the best line before. -/
def search (probe : Text) : Nat → List Text → Option NearMiss → Option NearMiss
  | _, [], best => best
  | n, l :: ls, best =>
      let line := Text.trim l
      let similarity := score probe line
      if line = [] || !similarity.passesFloor then search probe (n + 1) ls best
      else
        match best with
        | none => search probe (n + 1) ls (some ⟨n, line, similarity⟩)
        | some b =>
            if similarity.better b.similarity then
              search probe (n + 1) ls (some ⟨n, line, similarity⟩)
            else search probe (n + 1) ls best

end NearMiss

/-- The first line of `buffer` that resembles `probe` most, if any resembles it enough. -/
def nearestLine (buffer probe : Text) : Option NearMiss :=
  let probe := Text.trim probe
  if probe = [] then none else NearMiss.search probe 1 (Text.lines buffer) none

end AnchorPatch
