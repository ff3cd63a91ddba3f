import AnchorPatch.Regex.Ast
import AnchorPatch.Text.Blank
import AnchorPatch.Unicode.Property

/-!
Reading patterns.

A pattern is read from left to right. The reader of patterns and the reader of bracketed classes
each keep the unfinished outer parts on a stack, and every step of theirs uses up at least one
character. The flag `x` makes blanks and comments between the parts disappear, which the argument
`free` stands for.
-/

namespace AnchorPatch.Regex

/-- Drops blanks and comments; `inComment` tells whether a comment is being dropped. -/
def dropBlanks (inComment : Bool) : Text → Text
  | [] => []
  | c :: s =>
      if inComment then dropBlanks (c ≠ '\n') s
      else if Text.isBlank c then dropBlanks false s
      else if c = '#' then dropBlanks true s
      else c :: s

/-- The text from which reading goes on, behind blanks and comments if these mean nothing. -/
def settle (free : Bool) (s : Text) : Text := if free then dropBlanks false s else s

/-- Collects characters up to `stop`, settling after each; also gives what follows `stop`. -/
def collectUntil (free : Bool) (stop : Char) : Nat → Text → Option (Text × Text)
  | 0, _ => none
  | _ + 1, [] => none
  | fuel + 1, c :: s =>
      if c = stop then some ([], s)
      else (collectUntil free stop fuel (settle free s)).map fun (cs, rest) => (c :: cs, rest)

/-- Collects characters that pass a test. -/
def collectWhile (free : Bool) (test : Char → Bool) : Nat → Text → Text × Text
  | 0, s => ([], s)
  | _ + 1, [] => ([], [])
  | fuel + 1, c :: s =>
      if test c then
        let (cs, rest) := collectWhile free test fuel (settle free s)
        (c :: cs, rest)
      else ([], c :: s)

def hexDigit? (c : Char) : Option Nat :=
  if '0' ≤ c ∧ c ≤ '9' then some (c.toNat - '0'.toNat)
  else if 'a' ≤ c ∧ c ≤ 'f' then some (c.toNat - 'a'.toNat + 10)
  else if 'A' ≤ c ∧ c ≤ 'F' then some (c.toNat - 'A'.toNat + 10)
  else none

def hexNumber? : Nat → Text → Option Nat
  | n, [] => some n
  | n, c :: s => do hexNumber? (16 * n + (← hexDigit? c)) s

def charOfCode? (n : Nat) : Option Char :=
  if h : n.isValidChar then some (Char.ofNatAux n h) else none

/-- The character with a code in hexadecimal digits. -/
def charOfHex (digits : Text) : Except Error Char :=
  match digits with
  | [] => .error .badCode
  | _ =>
      match (hexNumber? 0 digits).bind charOfCode? with
      | some c => .ok c
      | none => .error .badCode

/-- Takes `n` characters, settling between them. -/
def collectExactly (free : Bool) : Nat → Text → Option (Text × Text)
  | 0, s => some ([], s)
  | _ + 1, [] => none
  | n + 1, c :: s =>
      (collectExactly free n (if n = 0 then s else settle free s)).map
        fun (cs, rest) => (c :: cs, rest)

/-- What an escape or a single character stands for. -/
inductive Primitive
  | literal (char : Char) (byte : Bool)
  | assertion (assertion : Assertion)
  | letter (letter : LetterClass) (negated : Bool)
  | property (query : PropertyQuery) (negated : Bool)

/-- Reads a character code of `width` digits or between braces. -/
def readCode (free : Bool) (width : Nat) (s : Text) : Except Error (Primitive × Text) :=
  match settle free s with
  | [] => .error .badCode
  | '{' :: s =>
      match collectUntil free '}' (s.length + 1) (settle free s) with
      | none => .error .badCode
      | some (digits, rest) => do return (.literal (← charOfHex digits) false, rest)
  | s =>
      match collectExactly free width s with
      | none => .error .badCode
      | some (digits, rest) => do return (.literal (← charOfHex digits) (width = 2), rest)

/-- What stands before and behind the first occurrence of a text. -/
def cutAt? (separator : Text) : Text → Option (Text × Text)
  | [] => none
  | c :: s =>
      if separator.isPrefixOf (c :: s) then some ([], (c :: s).drop separator.length)
      else (cutAt? separator s).map fun (a, b) => (c :: a, b)

/-- The property that a text between braces asks for. -/
def PropertyQuery.ofText (s : Text) : PropertyQuery :=
  match cutAt? ['!', '='] s with
  | some (key, wanted) => .value true key wanted
  | none =>
      match cutAt? [':'] s with
      | some (key, wanted) => .value false key wanted
      | none =>
          match cutAt? ['='] s with
          | some (key, wanted) => .value false key wanted
          | none => .name s

/-- Reads the property behind the letter of its escape. -/
def readProperty (free negated : Bool) (s : Text) : Except Error (Primitive × Text) :=
  match settle free s with
  | [] => .error .badEscape
  | '{' :: s =>
      match collectUntil free '}' (s.length + 1) (settle free s) with
      | none => .error .badEscape
      | some (name, rest) => .ok (.property (.ofText name) negated, rest)
  | '\\' :: _ => .error .badEscape
  | c :: s => .ok (.property (.name [c]) negated, s)

/-- Reads what may follow `\b` between braces. Braces that begin otherwise are left to be read as a
count. -/
def readBoundary (free : Bool) (s : Text) : Except Error (Assertion × Text) :=
  match s with
  | '{' :: r =>
      let isNameChar (c : Char) : Bool := c.isAlpha || c = '-'
      match settle free r with
      | [] => .error .badEscape
      | c :: r =>
          if isNameChar c then
            let (name, rest) := collectWhile free isNameChar (r.length + 1) (c :: r)
            match rest with
            | '}' :: rest =>
                match String.ofList name with
                | "start" => .ok (.wordStart, rest)
                | "end" => .ok (.wordEnd, rest)
                | "start-half" => .ok (.wordStartHalf, rest)
                | "end-half" => .ok (.wordEndHalf, rest)
                | _ => .error .badEscape
            | _ => .error .badEscape
          else .ok (.wordBoundary, s)
  | _ => .ok (.wordBoundary, s)

/-- The characters that may be escaped to stand for themselves: all of ASCII but letters, digits and
angle brackets. -/
def isEscapable (c : Char) : Bool :=
  c.toNat < 128 && !c.isAlphanum && c ≠ '<' && c ≠ '>'

/-- Reads what stands behind a backslash. -/
def readEscape (free : Bool) : Text → Except Error (Primitive × Text)
  | [] => .error .badEscape
  | c :: s =>
      match c with
      | 'x' => readCode free 2 s
      | 'u' => readCode free 4 s
      | 'U' => readCode free 8 s
      | 'p' => readProperty free false s
      | 'P' => readProperty free true s
      | 'd' => .ok (.letter .digit false, s)
      | 'D' => .ok (.letter .digit true, s)
      | 's' => .ok (.letter .space false, s)
      | 'S' => .ok (.letter .space true, s)
      | 'w' => .ok (.letter .word false, s)
      | 'W' => .ok (.letter .word true, s)
      | 'a' => .ok (.literal '\x07' false, s)
      | 'f' => .ok (.literal '\x0c' false, s)
      | 't' => .ok (.literal '\t' false, s)
      | 'n' => .ok (.literal '\n' false, s)
      | 'r' => .ok (.literal '\r' false, s)
      | 'v' => .ok (.literal '\x0b' false, s)
      | 'A' => .ok (.assertion .textStart, s)
      | 'z' => .ok (.assertion .textEnd, s)
      | 'B' => .ok (.assertion .notWordBoundary, s)
      | '<' => .ok (.assertion .wordStart, s)
      | '>' => .ok (.assertion .wordEnd, s)
      | 'b' => do
          let (a, rest) ← readBoundary free s
          return (.assertion a, rest)
      | c =>
          if c.isDigit then .error .backreference
          else if isEscapable c then .ok (.literal c false, s)
          else .error .badEscape

def NamedClass.ofName? (name : Text) : Option NamedClass :=
  match String.ofList name with
  | "alnum" => some .alnum
  | "alpha" => some .alpha
  | "ascii" => some .ascii
  | "blank" => some .blank
  | "cntrl" => some .cntrl
  | "digit" => some .digit
  | "graph" => some .graph
  | "lower" => some .lower
  | "print" => some .print
  | "punct" => some .punct
  | "space" => some .space
  | "upper" => some .upper
  | "word" => some .word
  | "xdigit" => some .xdigit
  | _ => none

/-- Reads a class such as `[:alpha:]`, if one stands there. -/
def readNamedClass? (s : Text) : Option (ClassAst × Text) :=
  match s with
  | ':' :: s =>
      let (negated, s) := match s with
        | '^' :: s => (true, s)
        | s => (false, s)
      match s.dropWhile (· ≠ ':') with
      | ':' :: ']' :: rest =>
          (NamedClass.ofName? (s.takeWhile (· ≠ ':'))).map fun n => (.named n negated, rest)
      | _ => none
  | _ => none

/-- The character that decides whether a hyphen, at the front of `s`, is one of a range. Behind free
blanks it is the next character, and a comment sign counts as a blank. -/
def peekBehindHyphen (free : Bool) (s : Text) : Option Char :=
  let s := s.tail
  if free then
    match s.dropWhile Text.isBlank with
    | '#' :: r => (r.dropWhile Text.isBlank).head?.or s.head?
    | c :: _ => some c
    | [] => s.head?
  else s.head?

/-- Reads one item of a class before it is known whether a range begins with it. -/
def readClassItem (free : Bool) : Text → Except Error (Primitive × Text)
  | [] => .error .unclosedClass
  | '\\' :: s => readEscape free s
  | c :: s => .ok (.literal c false, s)

def Primitive.toClass : Primitive → Except Error ClassAst
  | .literal c _ => .ok (.range c c)
  | .letter l negated => .ok (.letter l negated)
  | .property q negated => .ok (.property q negated)
  | .assertion _ => .error .badClassItem

def Primitive.toChar : Primitive → Except Error Char
  | .literal c _ => .ok c
  | _ => .error .badRange

/-- Reads one item of a class, or a range between two characters. -/
def readClassRange (free : Bool) (s : Text) : Except Error (ClassAst × Text) := do
  let (first, rest) ← readClassItem free s
  match settle free rest with
  | [] => throw .unclosedClass
  | c :: rest =>
      let next := peekBehindHyphen free (c :: rest)
      if c ≠ '-' || next = some ']' || next = some '-' then
        return (← first.toClass, c :: rest)
      else
        match settle free rest with
        | [] => throw .unclosedClass
        | rest =>
            let (last, rest) ← readClassItem free rest
            let lo ← first.toChar
            let hi ← last.toChar
            if hi < lo then throw .badRange
            return (.range lo hi, rest)

/-- An unfinished part around the class that is being read. -/
inductive ClassFrame
  /-- An opened bracket, with the items that stand before it. -/
  | bracket (outer : List ClassAst) (negated : Bool)
  | operand (operator : ClassOperator) (left : ClassAst)

/-- Puts an operand that has ended together with the ones before it. -/
def closeOperand (stack : List ClassFrame) (right : ClassAst) : ClassAst × List ClassFrame :=
  match stack with
  | .operand operator left :: stack => (.operation operator left right, stack)
  | stack => (right, stack)

/-- Lets what has been read inside a bracket wait for the right operand of an operator. -/
def openOperand (stack : List ClassFrame) (items : List ClassAst) (operator : ClassOperator) :
    List ClassFrame :=
  let (left, stack) := closeOperand stack (.ofItems items.reverse)
  .operand operator left :: stack

/-- Reads the hyphens that may stand, as characters, behind an opening bracket. -/
def readHyphens (free : Bool) : Nat → Text → List ClassAst → List ClassAst × Text
  | fuel + 1, '-' :: s, items => readHyphens free fuel (settle free s) (.range '-' '-' :: items)
  | _, s, items => (items, s)

/-- Reads what stands behind an opening bracket: the negation, and the characters that stand for
themselves only there. -/
def openBracket (free : Bool) (s : Text) : Except Error (Bool × List ClassAst × Text) :=
  let s := settle free s
  let (negated, s) := match s with
    | '^' :: r => (true, settle free r)
    | r => (false, r)
  let (items, s) := readHyphens free s.length s []
  match items, s with
  | _, [] => .error .unclosedClass
  | [], ']' :: s =>
      match settle free s with
      | [] => .error .unclosedClass
      | s => .ok (negated, [.range ']' ']'], s)
  | items, s => .ok (negated, items, s)

/-- Reads a class from behind its first opening bracket. `items` holds, in reverse, what has been
read inside the innermost bracket. -/
def readClass (free : Bool) :
    Nat → List ClassFrame → List ClassAst → Text → Except Error (Ast × Text)
  | 0, _, _, _ => .error .unclosedClass
  | fuel + 1, stack, items, s =>
      match settle free s with
      | [] => .error .unclosedClass
      | '[' :: s =>
          match readNamedClass? s with
          | some (c, rest) => readClass free fuel stack (c :: items) rest
          | none => do
              let (negated, inner, rest) ← openBracket free s
              readClass free fuel (.bracket items negated :: stack) inner rest
      | ']' :: s =>
          let (body, stack) := closeOperand stack (.ofItems items.reverse)
          match stack with
          | [.bracket _ negated] => .ok (.bracketed negated body, s)
          | .bracket outer negated :: stack =>
              readClass free fuel stack (.bracketed negated body :: outer) s
          | _ => .error .unclosedClass
      | '&' :: '&' :: s => readClass free fuel (openOperand stack items .intersection) [] s
      | '-' :: '-' :: s => readClass free fuel (openOperand stack items .difference) [] s
      | '~' :: '~' :: s => readClass free fuel (openOperand stack items .symmetricDifference) [] s
      | s => do
          let (item, rest) ← readClassRange free s
          readClass free fuel stack (item :: items) rest

def Flag.ofChar? : Char → Option Flag
  | 'i' => some .caseInsensitive
  | 'm' => some .multiLine
  | 's' => some .dotMatchesLineEnd
  | 'U' => some .swapGreed
  | 'u' => some .unicode
  | 'R' => some .carriageReturn
  | 'x' => some .ignoreBlanks
  | _ => none

/-- Reads flags up to the colon or parenthesis that ends them. `read` holds them in reverse. -/
def readFlags (read : List FlagSign) : Text → Except Error (List FlagSign × Text)
  | [] => .error .badFlags
  | c :: s =>
      if c = ':' || c = ')' then
        match read with
        | .negation :: _ => .error .badFlags
        | _ => .ok (read.reverse, c :: s)
      else
        let sign := if c = '-' then some .negation else (Flag.ofChar? c).map .flag
        match sign with
        | none => .error .badFlags
        | some sign => if read.contains sign then .error .badFlags else readFlags (sign :: read) s

/-- Whether a character can stand in the name of a group, in the first place or behind it. -/
def isNameChar (first : Bool) (c : Char) : Bool :=
  if first then c = '_' || Unicode.alphabetic.contains c
  else
    c = '_' || c = '.' || c = '[' || c = ']' || Unicode.alphabetic.contains c
      || Unicode.numeric.contains c

/-- Reads the name of a group and the bracket behind it. -/
def readName (s : Text) : Except Error (Text × Text) :=
  let name := s.takeWhile (· ≠ '>')
  match name, s.drop name.length with
  | c :: cs, _ :: rest =>
      if isNameChar true c && cs.all (isNameChar false) then .ok (c :: cs, rest)
      else .error .badGroupName
  | _, _ => .error .badGroupName

/-- A group that waits for its closing parenthesis, with what stands before it. -/
structure Frame where
  kind : GroupKind
  branches : List Ast
  items : List Ast
  free : Bool

/-- How far the reader has come. `items` and `branches` hold, in reverse, the parts of the current
alternative and the alternatives before it. -/
structure ParseState where
  rest : Text
  free : Bool := false
  items : List Ast := []
  branches : List Ast := []
  stack : List Frame := []
  names : List Text := []
  groups : Nat := 0

namespace ParseState

def body (st : ParseState) : Ast :=
  let last := Ast.ofItems st.items.reverse
  match st.branches with
  | [] => last
  | branches => .alternation (last :: branches).reverse

def push (st : ParseState) (item : Ast) (rest : Text) : ParseState :=
  { st with items := item :: st.items, rest }

def enter (st : ParseState) (kind : GroupKind) (free : Bool) (rest : Text) : ParseState :=
  { st with
    rest, free, items := [], branches := []
    stack := ⟨kind, st.branches, st.items, st.free⟩ :: st.stack }

/-- Begins a group that has the next number, and perhaps a name. -/
def enterCapture (st : ParseState) (name : Option Text) (rest : Text) : ParseState :=
  { st with groups := st.groups + 1, names := name.toList ++ st.names }.enter
    (.capture (st.groups + 1) name) st.free rest

def readNamedGroup (st : ParseState) (s : Text) : Except Error ParseState := do
  let (name, rest) ← readName s
  if st.names.contains name then throw .repeatedGroupName
  return st.enterCapture (some name) rest

/-- Reads what stands behind the bracket that opens a group, which may be flags only. -/
def openGroup (st : ParseState) (s : Text) : Except Error ParseState :=
  match settle st.free s with
  | '?' :: '=' :: _ | '?' :: '!' :: _ | '?' :: '<' :: '=' :: _ | '?' :: '<' :: '!' :: _ =>
      .error .lookAround
  | '?' :: 'P' :: '<' :: s => st.readNamedGroup s
  | '?' :: '<' :: s => st.readNamedGroup s
  | '?' :: s => do
      let (flags, rest) ← readFlags [] s
      let free := (flagSetting .ignoreBlanks true flags).getD st.free
      match rest with
      | ')' :: rest =>
          if flags.isEmpty then throw .missingOperand
          return { st.push (.flags flags) rest with free }
      | rest => return st.enter (.plain flags) free rest.tail
  | s => .ok (st.enterCapture none s)

/-- Ends the innermost group. -/
def closeGroup (st : ParseState) (s : Text) : Except Error ParseState :=
  match st.stack with
  | [] => .error .unopenedGroup
  | f :: stack =>
      .ok { st with
        rest := s, stack, free := f.free, branches := f.branches
        items := .group f.kind st.body :: f.items }

/-- Makes an iteration of the last part. -/
def iterate (st : ParseState) (least : Nat) (most : Option Nat) (greedy : Bool) (s : Text) :
    Except Error ParseState :=
  match st.items with
  | [] | .empty :: _ | .flags _ :: _ => .error .missingOperand
  | item :: items =>
      .ok { st with rest := s, items := .iteration least most greedy item :: items }

/-- Whether an iteration is greedy, which it is unless a question mark follows. -/
def readGreed : Text → Bool × Text
  | '?' :: s => (false, s)
  | s => (true, s)

/-- Makes an iteration of the last part as a sign asks for it. -/
def iterateSign (st : ParseState) (least : Nat) (most : Option Nat) (s : Text) :
    Except Error ParseState :=
  let (greedy, rest) := readGreed s
  st.iterate least most greedy rest

def readNumber (free : Bool) (s : Text) : Except Error (Option Nat × Text) :=
  let s := s.dropWhile Text.isBlank
  let (digits, rest) := collectWhile free Char.isDigit (s.length + 1) s
  let (_, rest) := collectWhile free Text.isBlank (rest.length + 1) rest
  let n := digits.foldl (fun n c => 10 * n + (c.toNat - '0'.toNat)) 0
  if digits = [] then .ok (none, rest)
  else if n < 0x100000000 then .ok (some n, rest)
  else .error .badCount

/-- Makes an iteration of the last part as the counts between braces ask for it. -/
def iterateCount (st : ParseState) (s : Text) : Except Error ParseState := do
  if st.items.isEmpty then throw .missingOperand
  match ← readNumber st.free (settle st.free s) with
  | (none, _) => throw .badCount
  | (some least, rest) =>
      let (most, rest) ← match rest with
        | ',' :: rest =>
            match settle st.free rest with
            | '}' :: _ => pure (none, settle st.free rest)
            | rest => do
                match ← readNumber st.free rest with
                | (none, _) => throw .badCount
                | (some most, rest) => pure (some most, rest)
        | rest => pure (some least, rest)
      match rest with
      | '}' :: rest =>
          if most.any (· < least) then throw .badCount
          let (greedy, rest) := readGreed (settle st.free rest)
          st.iterate least most greedy rest
      | _ => throw .badCount

def pushPrimitive (st : ParseState) (p : Primitive) (rest : Text) : ParseState :=
  st.push (match p with
    | .literal c byte => .literal c byte
    | .assertion a => .assertion a
    | .letter l negated => .letter l negated
    | .property q negated => .property q negated) rest

/-- Reads the next part, which begins with `c`. -/
def step (st : ParseState) (c : Char) (s : Text) : Except Error ParseState :=
  match c with
  | '(' => st.openGroup s
  | ')' => st.closeGroup s
  | '|' =>
      .ok { st with
        rest := s, items := [], branches := .ofItems st.items.reverse :: st.branches }
  | '[' => do
      let (negated, items, rest) ← openBracket st.free s
      let (ast, rest) ← readClass st.free (rest.length + 1) [.bracket [] negated] items rest
      return st.push ast rest
  | '?' => st.iterateSign 0 (some 1) s
  | '*' => st.iterateSign 0 none s
  | '+' => st.iterateSign 1 none s
  | '{' => st.iterateCount s
  | '\\' => do
      let (p, rest) ← readEscape st.free s
      return st.pushPrimitive p rest
  | '.' => .ok (st.push .dot s)
  | '^' => .ok (st.push (.assertion .lineStart) s)
  | '$' => .ok (st.push (.assertion .lineEnd) s)
  | c => .ok (st.push (.literal c false) s)

/-- Reads part after part until the end of the pattern. -/
def run : Nat → ParseState → Except Error Ast
  | 0, _ => .error .unclosedGroup
  | fuel + 1, st =>
      match settle st.free st.rest with
      | [] => if st.stack.isEmpty then .ok st.body else .error .unclosedGroup
      | c :: s => st.step c s >>= run fuel

end ParseState

/-- The greatest depth to which the parts of a pattern may be nested. -/
def maxDepth : Nat := 250

def Ast.parse (pattern : Text) : Except Error Ast := do
  let ast ← ParseState.run (pattern.length + 1) { rest := pattern }
  if maxDepth < ast.depth then throw .nestedTooDeep
  return ast

end AnchorPatch.Regex
