import AnchorPatch.Toml.Value

namespace AnchorPatch.Toml

/-- The digits of a number whose digits may be parted by single underscores. -/
def digitsOf? (isDigit : Char → Bool) : Text → Option Text
  | [] => none
  | [c] => if isDigit c then some [c] else none
  | c :: '_' :: s => if isDigit c then (digitsOf? isDigit s).map (c :: ·) else none
  | c :: s => if isDigit c then (digitsOf? isDigit s).map (c :: ·) else none

def digitValue (c : Char) : Nat :=
  if '0' ≤ c ∧ c ≤ '9' then c.toNat - '0'.toNat
  else if 'a' ≤ c ∧ c ≤ 'f' then c.toNat - 'a'.toNat + 10
  else c.toNat - 'A'.toNat + 10

def numberOf (base : Nat) (digits : Text) : Nat :=
  digits.foldl (fun n c => base * n + digitValue c) 0

def isHexDigit (c : Char) : Bool :=
  c.isDigit || ('a' ≤ c && c ≤ 'f') || ('A' ≤ c && c ≤ 'F')

/-- Cuts off a sign; tells whether it is a minus. -/
def splitSign : Text → Bool × Text
  | '-' :: s => (true, s)
  | '+' :: s => (false, s)
  | s => (false, s)

/-- The digits of a decimal integer without sign, which has no leading zero. -/
def decimalDigits? (s : Text) : Option Text :=
  match digitsOf? Char.isDigit s with
  | some ('0' :: _ :: _) => none
  | digits => digits

/-- Refuses a number that is not one of 64 bits. -/
def checkInteger (n : Int) : Except Error Value :=
  if -0x8000000000000000 ≤ n ∧ n < 0x8000000000000000 then .ok (.integer n) else .error .badNumber

/-- Reads the digits of a number of some base. -/
def readBased (base : Nat) (isDigit : Char → Bool) (s : Text) : Except Error Value :=
  match digitsOf? isDigit s with
  | some digits => checkInteger (numberOf base digits)
  | none => .error .badNumber

/-- Cuts a text at the first character that satisfies a test, which is dropped. -/
def cutWhere (test : Char → Bool) (s : Text) : Text × Option Text :=
  match s.dropWhile (fun c => !test c) with
  | [] => (s, none)
  | _ :: rest => (s.takeWhile (fun c => !test c), some rest)

def exponentOf? (s : Text) : Option Int :=
  let (negative, s) := splitSign s
  (digitsOf? Char.isDigit s).map fun digits =>
    let n : Int := numberOf 10 digits
    if negative then -n else n

/-- The number that a text with a point or an exponent stands for. -/
def floatOf? (s : Text) : Option DecimalNumber := do
  let (negative, s) := splitSign s
  let (number, exponent) := cutWhere (fun c => c = 'e' || c = 'E') s
  let (whole, fraction) := cutWhere (· = '.') number
  let wholeDigits ← decimalDigits? whole
  let fractionDigits ← match fraction with
    | none => some []
    | some f => digitsOf? Char.isDigit f
  let e ← match exponent with
    | none => some 0
    | some e => exponentOf? e
  if fraction.isNone && exponent.isNone then none
  return { negative, digits := numberOf 10 (wholeDigits ++ fractionDigits)
           exponent := e - fractionDigits.length }

def readDecimal (s : Text) : Except Error Value :=
  let (negative, digits) := splitSign s
  match String.ofList digits with
  | "inf" => .ok (.float (.infinite negative))
  | "nan" => .ok (.float .notANumber)
  | _ =>
      match decimalDigits? digits with
      | some ds =>
          let n : Int := numberOf 10 ds
          checkInteger (if negative then -n else n)
      | none =>
          match floatOf? s with
          | some x =>
              if (BinaryNumber.ofDecimal? x).isSome then .ok (.float (.finite x))
              else .error .badNumber
          | none => .error .badNumber

/-- Takes a number of exactly `width` digits between bounds off the front. -/
def takeNumber? (width lo hi : Nat) (s : Text) : Option (Nat × Text) :=
  let digits := s.take width
  let n := numberOf 10 digits
  if digits.length = width && digits.all Char.isDigit && lo ≤ n && n ≤ hi
      && !(s.drop width).head?.any Char.isDigit then some (n, s.drop width)
  else none

def dropChar? (c : Char) : Text → Option Text
  | [] => none
  | d :: s => if c = d then some s else none

def isLeapYear (year : Nat) : Bool :=
  year % 4 = 0 && (year % 100 ≠ 0 || year % 400 = 0)

def daysInMonth (year month : Nat) : Nat :=
  if month = 2 then if isLeapYear year then 29 else 28
  else if month = 4 || month = 6 || month = 9 || month = 11 then 30
  else 31

def dropDate? (s : Text) : Option Text := do
  let (year, s) ← takeNumber? 4 0 9999 s
  let (month, s) ← takeNumber? 2 1 12 (← dropChar? '-' s)
  let (_, s) ← takeNumber? 2 1 (daysInMonth year month) (← dropChar? '-' s)
  return s

/-- Drops a time off the front. The seconds may be missing. -/
def dropTime? (s : Text) : Option Text := do
  let (_, s) ← takeNumber? 2 0 23 s
  let (_, s) ← takeNumber? 2 0 59 (← dropChar? ':' s)
  match s with
  | ':' :: s => do
      let (_, s) ← takeNumber? 2 0 60 s
      match s with
      | '.' :: s =>
          match s.takeWhile Char.isDigit with
          | [] => none
          | digits => some (s.drop digits.length)
      | s => some s
  | s => some s

def isOffset (s : Text) : Bool :=
  match s with
  | [] => true
  | ['Z'] | ['z'] => true
  | '+' :: s | '-' :: s => hoursAndMinutes s
  | _ => false
where
  hoursAndMinutes (s : Text) : Bool :=
    ((do
      let (_, s) ← takeNumber? 2 0 23 s
      let (_, s) ← takeNumber? 2 0 59 (← dropChar? ':' s)
      return s) : Option Text) = some []

/-- Whether a text is a date, a time or both, and in the last case perhaps an offset. -/
def isDate (s : Text) : Bool :=
  match dropDate? s with
  | some [] => true
  | some (c :: s) => (c = 'T' || c = 't' || c = ' ') && (dropTime? s).any isOffset
  | none => dropTime? s = some []

/-- Whether a text begins like a date or a time. -/
def looksLikeDate (s : Text) : Bool :=
  match s.dropWhile Char.isDigit with
  | '-' :: _ | ':' :: _ => s.head?.any Char.isDigit
  | _ => false

/-- Reads a value that stands between no quotes or brackets. -/
def readWord (s : Text) : Except Error Value :=
  match s with
  | '0' :: 'x' :: s => readBased 16 isHexDigit s
  | '0' :: 'o' :: s => readBased 8 (fun c => '0' ≤ c && c ≤ '7') s
  | '0' :: 'b' :: s => readBased 2 (fun c => c = '0' || c = '1') s
  | s =>
      match String.ofList s with
      | "true" => .ok (.boolean true)
      | "false" => .ok (.boolean false)
      | _ =>
          if looksLikeDate s then if isDate s then .ok .date else .error .badDate
          else readDecimal s

end AnchorPatch.Toml
