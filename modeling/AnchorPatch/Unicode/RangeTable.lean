import AnchorPatch.CharSet

namespace AnchorPatch.Unicode

/-- Reads lists of decimal numbers: a blank ends a number and a comma a list. `number` is the number
read so far, if one has begun, and `list` holds the finished ones in reverse. -/
def readNumbers : Option Nat → List Nat → List Char → List (List Nat)
  | number, list, [] => [(number.toList ++ list).reverse]
  | number, list, c :: rest =>
      if c.isDigit then readNumbers (some (number.getD 0 * 10 + (c.toNat - 48))) list rest
      else if c = ',' then (number.toList ++ list).reverse :: readNumbers none [] rest
      else readNumbers none (number.toList ++ list) rest

/-- The lists of numbers that a text holds. -/
def numberLists (s : List Char) : List (List Nat) := readNumbers none [] s

/-- The numbers reached from `start` by steps, `start` first. -/
def runningSums (start : Nat) : List Nat → List Nat
  | [] => [start]
  | step :: steps => start :: runningSums (start + step) steps

/-- Reads pairs of a gap and a length, `next` being the first code point behind the range before. -/
def readRanges (next : Nat) : List Nat → List (Nat × Nat)
  | gap :: length :: rest =>
      (next + gap, next + gap + length - 1) :: readRanges (next + gap + length) rest
  | _ => []

/-- The set that a table of ranges stands for. -/
def decode (table : String) : CharSet :=
  ⟨readRanges 0 ((numberLists table.toList).headD [])⟩

/-- The set with a name, or with one of its other names. -/
def lookup? (name : String) (tables : List (List String × String)) : Option CharSet :=
  (tables.find? fun (names, _) => names.contains name).map fun (_, table) => decode table

end AnchorPatch.Unicode
