import AnchorPatch.Regex.Backtrack
import AnchorPatch.Regex.Parser
import AnchorPatch.Regex.Resolve
import AnchorPatch.Regex.Size

namespace AnchorPatch

/-- A pattern that is ready for use, with the numbers of its named groups. -/
structure Regex where
  source : Text
  expr : Regex.Expr
  names : List (Text × Nat)
deriving Repr, DecidableEq

namespace Regex

/-- Makes a pattern ready for use, unless it is too large. -/
def compile (source : Text) : Except Error Regex := do
  let ast ← Ast.parse source
  let (expr, _) ← ast.resolve {}
  if sizeLimit < expr.size then throw .tooLarge
  return { source, expr, names := ast.groupNames }

/-- A match, between two places of a text. -/
structure Match where
  first : Cursor
  last : Cursor

namespace Match

def span (m : Match) : Span where
  before := m.first.before.reverse
  matched := (m.last.before.take (m.last.before.length - m.first.before.length)).reverse
  after := m.last.after

/-- The text of a group, if it took part in the match. The group zero is the whole match. -/
def group? (m : Match) (index : Nat) : Option Text :=
  if index = 0 then some m.span.matched
  else do
    let place ← m.last.groups.find? (·.index = index)
    m.last.whole.slice? place.start place.stop

end Match

/-- The preferred match that begins at a place. -/
def matchAt? (r : Regex) (c : Cursor) : Option Match :=
  (r.expr.search [] .done c []).1.map fun d => ⟨c, d⟩

/-- Looks for a match at a place and then at up to `n` places behind it. A choice from which no way
led on is not tried again from a later place. -/
def searchFrom (r : Regex) : Nat → Cursor → Visited → Option Match
  | 0, c, v => (r.expr.search [] .done c v).1.map fun d => ⟨c, d⟩
  | n + 1, c, v =>
      match r.expr.search [] .done c v with
      | (some d, _) => some ⟨c, d⟩
      | (none, v) => c.next?.bind fun d => searchFrom r n d v

/-- The leftmost match from a place on. -/
def search? (r : Regex) (c : Cursor) : Option Match := searchFrom r c.after.length c []

/-- The leftmost match in a text. -/
def find? (r : Regex) (s : Text) : Option Match := r.search? (.ofText s)

/-- The first place of a text that has at least `start` bytes before it. -/
def placeFrom (start : Nat) : Nat → Cursor → Option Cursor
  | 0, c => if start ≤ c.offset then some c else none
  | n + 1, c => if start ≤ c.offset then some c else c.next?.bind (placeFrom start n)

/-- A search that would begin beyond the end of a text. -/
structure BeyondEnd where
  start : Nat
  length : Nat
deriving Repr, DecidableEq

/-- The leftmost match that begins at byte `start` or behind it. What stands before is not
searched, but conditions on the text before the match see it. One byte beyond the end there is no
match; farther out no search is possible. -/
def findFrom (r : Regex) (s : Text) (start : Nat) : Except BeyondEnd (Option Match) :=
  if s.byteLength + 1 < start then .error { start, length := s.byteLength }
  else .ok ((placeFrom start s.length (.ofText s)).bind r.search?)

/-- The two searches with a regular expression: for the place of its match in a text, and for the
match with its groups from a byte on. -/
structure Searcher where
  find? : Regex → Text → Option Span
  capturesAt : Regex → Text → Nat → Except BeyondEnd (Option Match)

/-- The searches by backtracking. -/
def Searcher.backtracking : Searcher where
  find? r s := (r.find? s).map Match.span
  capturesAt := findFrom

end Regex

end AnchorPatch
