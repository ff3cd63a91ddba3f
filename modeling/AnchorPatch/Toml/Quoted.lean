import AnchorPatch.Toml.Value

namespace AnchorPatch.Toml

/-- Whether a character may stand as it is in a text on one line or in a comment. -/
def isPlain (c : Char) : Bool := c = '\t' || (0x20 ≤ c.toNat && c.toNat ≠ 0x7f)

/-- What follows a line end. -/
def dropLineEnd? : Text → Option Text
  | '\n' :: s => some s
  | '\r' :: '\n' :: s => some s
  | _ => none

def dropBlanks (s : Text) : Text := s.dropWhile fun c => c = ' ' || c = '\t'

def hexValue? (c : Char) : Option Nat :=
  if '0' ≤ c ∧ c ≤ '9' then some (c.toNat - '0'.toNat)
  else if 'a' ≤ c ∧ c ≤ 'f' then some (c.toNat - 'a'.toNat + 10)
  else if 'A' ≤ c ∧ c ≤ 'F' then some (c.toNat - 'A'.toNat + 10)
  else none

/-- Reads `n` hexadecimal digits. -/
def readHex (value : Nat) : Nat → Text → Option (Nat × Text)
  | 0, s => some (value, s)
  | _ + 1, [] => none
  | n + 1, c :: s => do readHex (16 * value + (← hexValue? c)) n s

/-- Reads the code of a character in `width` hexadecimal digits. -/
def readCode (width : Nat) (s : Text) : Except Error (Char × Text) :=
  match readHex 0 width s with
  | none => .error .badEscape
  | some (n, rest) =>
      if h : n.isValidChar then .ok (Char.ofNatAux n h, rest) else .error .badEscape

def readEscape : Text → Except Error (Char × Text)
  | [] => .error .badEscape
  | c :: s =>
      match c with
      | 'b' => .ok ('\x08', s)
      | 't' => .ok ('\t', s)
      | 'n' => .ok ('\n', s)
      | 'f' => .ok ('\x0c', s)
      | 'r' => .ok ('\r', s)
      | 'e' => .ok ('\x1b', s)
      | '"' => .ok ('"', s)
      | '\\' => .ok ('\\', s)
      | 'x' => readCode 2 s
      | 'u' => readCode 4 s
      | 'U' => readCode 8 s
      | _ => .error .badEscape

/-- Drops blanks and line ends behind a backslash at the end of a line. -/
def dropBlankLines : Nat → Text → Text
  | 0, s => s
  | fuel + 1, s =>
      match dropLineEnd? (dropBlanks s) with
      | some rest => dropBlankLines fuel rest
      | none => dropBlanks s

/-- Reads a quoted text that ends in its line. -/
def readLineText (quote : Char) : Nat → Text → Except Error (Text × Text)
  | 0, _ => .error .unclosedText
  | _ + 1, [] => .error .unclosedText
  | fuel + 1, c :: s =>
      if c = quote then .ok ([], s)
      else if c = '\\' && quote = '"' then do
        let (c, s) ← readEscape s
        let (text, rest) ← readLineText quote fuel s
        return (c :: text, rest)
      else if isPlain c then do
        let (text, rest) ← readLineText quote fuel s
        return (c :: text, rest)
      else .error .badCharacter

/-- How many of the next characters, up to `n`, are quotes. -/
def countQuotes (quote : Char) : Nat → Text → Nat
  | n + 1, c :: s => if c = quote then countQuotes quote n s + 1 else 0
  | _, _ => 0

/-- Reads a text over several lines behind its opening quotes. Up to two quotes may stand in front
of the closing ones. -/
def readBlockText (quote : Char) : Nat → Text → Except Error (Text × Text)
  | 0, _ => .error .unclosedText
  | _ + 1, [] => .error .unclosedText
  | fuel + 1, c :: s =>
      let quotes := countQuotes quote 5 (c :: s)
      if 3 ≤ quotes then .ok (List.replicate (quotes - 3) quote, (c :: s).drop quotes)
      else if c = '\\' && quote = '"' then
        match dropLineEnd? (dropBlanks s) with
        | some rest => readBlockText quote fuel (dropBlankLines rest.length rest)
        | none => do
            let (c, s) ← readEscape s
            let (text, rest) ← readBlockText quote fuel s
            return (c :: text, rest)
      else if isPlain c || c = '\n' then do
        let (text, rest) ← readBlockText quote fuel s
        return (c :: text, rest)
      else if c = '\r' && s.head? = some '\n' then do
        let (text, rest) ← readBlockText quote fuel s
        return (c :: text, rest)
      else .error .badCharacter

def opensBlock (quote : Char) : Text → Bool
  | a :: b :: c :: _ => a = quote && b = quote && c = quote
  | _ => false

/-- Reads a quoted text, which begins with `quote`. A line end right behind the quotes is dropped.
-/
def readText (quote : Char) (s : Text) : Except Error (Text × Text) :=
  if opensBlock quote s then
    let body := s.drop 3
    readBlockText quote (body.length + 1) ((dropLineEnd? body).getD body)
  else readLineText quote (s.length + 1) (s.drop 1)

end AnchorPatch.Toml
