namespace AnchorPatch

/-- The quotient of two numbers rounded to the nearest integer, a tie to the even one. -/
def roundedQuotient (n d : Nat) : Nat :=
  let q := n / d
  let r := n % d
  if 2 * r < d then q
  else if d < 2 * r then q + 1
  else if q % 2 = 0 then q else q + 1

/-- The number `mantissa / 2 ^ scale`. -/
structure BinaryFraction where
  mantissa : Nat
  scale : Nat
deriving Repr, DecidableEq

namespace BinaryFraction

def precision : Nat := 53

/-- The binary fraction nearest to `n / d`. The quotient may not be so large that it has more
integer bits than the precision allows. -/
def nearest (n d : Nat) : BinaryFraction :=
  if n = 0 then ⟨0, 0⟩
  else
    let guess := precision + d.log2 - n.log2
    let scale := if Nat.pow 2 precision ≤ n * Nat.pow 2 guess / d then guess - 1 else guess
    ⟨roundedQuotient (n * Nat.pow 2 scale) d, scale⟩

/-- One minus a fraction, rounded. -/
def complement (x : BinaryFraction) : BinaryFraction :=
  nearest (Nat.pow 2 x.scale - x.mantissa) (Nat.pow 2 x.scale)

/-- A multiple of a fraction, rounded. -/
def times (x : BinaryFraction) (n : Nat) : BinaryFraction :=
  nearest (x.mantissa * n) (Nat.pow 2 x.scale)

/-- A fraction with a number of decimal places, rounded to the nearest. -/
def decimal (x : BinaryFraction) (places : Nat) : String :=
  let n := roundedQuotient (x.mantissa * Nat.pow 10 places) (Nat.pow 2 x.scale)
  let whole := toString (n / Nat.pow 10 places)
  if places = 0 then whole
  else
    let digits := toString (n % Nat.pow 10 places)
    whole ++ "." ++ String.ofList (List.replicate (places - digits.length) '0') ++ digits

end BinaryFraction

end AnchorPatch
