import AnchorPatch.Decimal

/-!
Floating-point numbers and their shortest text.

A number written in decimal digits stands for the nearest binary number with 53 significant bits,
a tie going to the even one. It is printed with the fewest digits that stand for the same binary
number, and never with an exponent.
-/

namespace AnchorPatch

/-- A number as it is written: an optional minus sign, and `digits * 10 ^ exponent`. -/
structure DecimalNumber where
  negative : Bool
  digits : Nat
  exponent : Int
deriving Repr, DecidableEq

/-- A ratio of two numbers. -/
structure Ratio where
  num : Nat
  den : Nat
deriving Repr, DecidableEq

/-- The number `n * base ^ e`. -/
def Ratio.scaled (n base : Nat) (e : Int) : Ratio :=
  if 0 ≤ e then ⟨n * Nat.pow base e.toNat, 1⟩ else ⟨n, Nat.pow base (-e).toNat⟩

/-- The number `mantissa * 2 ^ exponent`. -/
structure BinaryNumber where
  mantissa : Nat
  exponent : Int
deriving Repr, DecidableEq

namespace BinaryNumber

def minExponent : Int := -1074

def maxExponent : Int := 971

/-- The binary number nearest to a ratio that is not zero, if there is one. -/
def nearest? (x : Ratio) : Option BinaryNumber :=
  let guess : Int := (x.num.log2 : Int) - x.den.log2 - 52
  let rounded (e : Int) : Nat :=
    if 0 ≤ e then roundedQuotient x.num (x.den * Nat.pow 2 e.toNat)
    else roundedQuotient (x.num * Nat.pow 2 (-e).toNat) x.den
  -- The quotient may have one bit less than its parts suggest.
  let tight : Int := if rounded guess < Nat.pow 2 52 then guess - 1 else guess
  let e := max tight minExponent
  let m := rounded e
  let (m, e) := if m = Nat.pow 2 53 then (Nat.pow 2 52, e + 1) else (m, e)
  if maxExponent < e then none else some ⟨m, e⟩

/-- The binary number that a decimal number other than zero stands for. Exponents far out of range
are not computed with. -/
def ofDecimal? (x : DecimalNumber) : Option BinaryNumber :=
  let size : Int := (Nat.toDigits 10 x.digits).length + x.exponent
  if x.digits = 0 || size < -400 then some ⟨0, minExponent⟩
  else if 400 < size then none
  else nearest? (.scaled x.digits 10 x.exponent)

/-- The two multiples of `10 ^ e` next to a binary number, as multiples. -/
def neighbours (x : BinaryNumber) (e : Int) : Nat × Nat :=
  let r := Ratio.scaled x.mantissa 2 x.exponent
  let q := if 0 ≤ e then r.num / (r.den * Nat.pow 10 e.toNat) else r.num * Nat.pow 10 (-e).toNat / r.den
  (q, q + 1)

/-- The distance of `n * 10 ^ e` from a binary number, multiplied by a number that depends on `e`
only. -/
def distance (x : BinaryNumber) (e : Int) (n : Nat) : Nat :=
  let a := Ratio.scaled x.mantissa 2 x.exponent
  let b := Ratio.scaled n 10 e
  let p := a.num * b.den
  let q := b.num * a.den
  if p < q then q - p else p - q

/-- The fewest digits that stand for a binary number, looked for from the exponent `e` downwards. -/
def shortestFrom (x : BinaryNumber) : Nat → Int → DecimalNumber
  | 0, e => ⟨false, (x.neighbours e).1, e⟩
  | fuel + 1, e =>
      let (low, high) := x.neighbours e
      let reads (n : Nat) : Bool := n ≠ 0 && ofDecimal? ⟨false, n, e⟩ = some x
      match reads low, reads high with
      | true, true =>
          let nearer := if x.distance e high < x.distance e low then high else low
          ⟨false, nearer, e⟩
      | true, false => ⟨false, low, e⟩
      | false, true => ⟨false, high, e⟩
      | false, false => shortestFrom x fuel (e - 1)

/-- The decimal number with the fewest digits that reads as a binary number; of two such the nearer
one. -/
def shortest (x : BinaryNumber) : DecimalNumber :=
  if x.mantissa = 0 then ⟨false, 0, 0⟩ else shortestFrom x 700 310

end BinaryNumber

/-- The text of `digits * 10 ^ exponent`, with a decimal point. -/
def pointText (digits : Nat) (exponent : Int) : String :=
  let ds := Nat.toDigits 10 digits
  if 0 ≤ exponent then
    String.ofList (if digits = 0 then ds else ds ++ List.replicate exponent.toNat '0') ++ ".0"
  else
    let places := (-exponent).toNat
    let padded := List.replicate (places + 1 - ds.length) '0' ++ ds
    let whole := padded.take (padded.length - places)
    String.ofList whole ++ "." ++ String.ofList (padded.drop (padded.length - places))

def DecimalNumber.text (x : DecimalNumber) : String :=
  let sign := if x.negative then "-" else ""
  match BinaryNumber.ofDecimal? x with
  | none => sign ++ "inf"
  | some b =>
      let s := b.shortest
      sign ++ pointText s.digits s.exponent

end AnchorPatch
