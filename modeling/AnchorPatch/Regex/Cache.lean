import AnchorPatch.Regex.Basic

namespace AnchorPatch.Regex

/-- Compiled patterns by their texts. -/
structure Cache where
  entries : List (Text × Regex) := []
deriving Repr

namespace Cache

def capacity : Nat := 256

def empty : Cache := {}

def size (c : Cache) : Nat := c.entries.length

def clear (_ : Cache) : Cache := empty

def get? (c : Cache) (source : Text) : Option Regex := c.entries.lookup source

/-- A cache that is full is cleared before a pattern is added. -/
def makeRoom (c : Cache) : Cache := if capacity ≤ c.size then empty else c

/-- The compiled pattern, from the cache if it is there. A pattern that is refused is not kept. -/
def getOrCompile (c : Cache) (source : Text) : Except Error Regex × Cache :=
  match c.get? source with
  | some r => (.ok r, c)
  | none =>
      let room := c.makeRoom
      match Regex.compile source with
      | .error e => (.error e, room)
      | .ok r => (.ok r, { entries := (source, r) :: room.entries })

end Cache

end AnchorPatch.Regex
