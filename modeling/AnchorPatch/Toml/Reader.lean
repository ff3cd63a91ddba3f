import AnchorPatch.Toml.Quoted
import AnchorPatch.Toml.Scalar
import AnchorPatch.Toml.Table

namespace AnchorPatch.Toml

def maxDepth : Nat := 80

def dropComment (s : Text) : Except Error Text :=
  match s with
  | '#' :: s =>
      match s.dropWhile isPlain with
      | [] => .ok []
      | rest => if (dropLineEnd? rest).isSome then .ok rest else .error .badCharacter
  | s => .ok s

def dropSpace : Nat → Text → Except Error Text
  | 0, s => .ok s
  | fuel + 1, s => do
      let s ← dropComment (dropBlanks s)
      match dropLineEnd? s with
      | some rest => dropSpace fuel rest
      | none => return s

/-- Drops all that may stand between the items of an array or table in braces. -/
def dropAllSpace (s : Text) : Except Error Text := dropSpace (s.length + 1) s

/-- Goes on to the next line, in front of which only a comment may stand. -/
def endLine (s : Text) : Except Error Text := do
  let s ← dropComment (dropBlanks s)
  match s with
  | [] => return []
  | s =>
      match dropLineEnd? s with
      | some rest => return rest
      | none => throw .expectedLineEnd

def isKeyChar (c : Char) : Bool := c.isAlphanum || c = '_' || c = '-'

def readKeyPart (s : Text) : Except Error (Text × Text) :=
  match s with
  | '"' :: _ => if opensBlock '"' s then .error .badKey else readText '"' s
  | '\'' :: _ => if opensBlock '\'' s then .error .badKey else readText '\'' s
  | s =>
      match s.takeWhile isKeyChar with
      | [] => .error .badKey
      | part => .ok (part, s.dropWhile isKeyChar)

/-- Reads the parts of a key, between which dots stand. -/
def readKey : Nat → Text → Except Error (List Text × Text)
  | 0, _ => .error .badKey
  | fuel + 1, s => do
      let (part, rest) ← readKeyPart (dropBlanks s)
      match dropBlanks rest with
      | '.' :: rest =>
          let (parts, rest) ← readKey fuel rest
          return (part :: parts, rest)
      | rest => return ([part], rest)

def splitKey (key : List Text) : List Text × Text := (key.dropLast, key.getLast?.getD [])

def endsWord (c : Char) : Bool :=
  c = ' ' || c = '\t' || c = '\n' || c = '\r' || c = ',' || c = '#' || c = '=' || c = '['
    || c = ']' || c = '\x7b' || c = '\x7d' || c = '"' || c = '\''

/-- Takes a word off the front. A time may stand behind a date and a blank. -/
def takeWord (s : Text) : Text × Text :=
  let isPart (c : Char) : Bool := !endsWord c
  let word := s.takeWhile isPart
  let rest := s.dropWhile isPart
  match rest with
  | ' ' :: more =>
      if dropDate? word = some [] && more.head?.any Char.isDigit then
        (word ++ ' ' :: more.takeWhile isPart, more.dropWhile isPart)
      else (word, rest)
  | rest => (word, rest)

/-- Reads items up to a closing bracket. `more` tells that an item may follow without a comma. -/
def readItems (item : Text → Except Error (Value × Text)) :
    Nat → Bool → Text → Except Error (List Value × Text)
  | 0, _, _ => .error .unclosedArray
  | fuel + 1, more, s => do
      match ← dropAllSpace s with
      | [] => throw .unclosedArray
      | ']' :: rest => return ([], rest)
      | ',' :: rest => if more then throw .badValue else readItems item fuel true rest
      | s =>
          if !more then throw .badValue
          let (v, rest) ← item s
          let (vs, rest) ← readItems item fuel false rest
          return (v :: vs, rest)

/-- Reads the pairs of a table that stands in one line. -/
def readPairs (item : Text → Except Error (Value × Text)) :
    Nat → Bool → Entries → Text → Except Error (Entries × Text)
  | 0, _, _, _ => .error .unclosedTable
  | fuel + 1, more, es, s => do
      match ← dropAllSpace s with
      | [] => throw .unclosedTable
      | '\x7d' :: rest => return (es, rest)
      | ',' :: rest => if more then throw .badValue else readPairs item fuel true es rest
      | s =>
          if !more then throw .badValue
          let (key, rest) ← readKey (s.length + 1) s
          match ← dropAllSpace rest with
          | '=' :: rest =>
              let (v, rest) ← item (← dropAllSpace rest)
              let (path, last) := splitKey key
              let es ← es.insert last v path
              readPairs item fuel false es rest
          | _ => throw .expectedEquals

/-- Reads a value, inside which arrays and tables in braces may be nested to some depth. -/
def readValue : Nat → Text → Except Error (Value × Text)
  | 0, s =>
      match s with
      | '[' :: _ | '\x7b' :: _ => .error .nestedTooDeep
      | s => readPlain s
  | depth + 1, s =>
      match s with
      | '[' :: rest => do
          let (vs, rest) ← readItems (readValue depth) (rest.length + 1) true rest
          return (.array vs, rest)
      | '\x7b' :: rest => do
          let (es, rest) ← readPairs (readValue depth) (rest.length + 1) true [] rest
          return (.table (Node.entriesToValues es), rest)
      | s => readPlain s
where
  readPlain (s : Text) : Except Error (Value × Text) :=
    match s with
    | '"' :: _ => do
        let (t, rest) ← readText '"' s
        return (.text t, rest)
    | '\'' :: _ => do
        let (t, rest) ← readText '\'' s
        return (.text t, rest)
    | s => do
        let (word, rest) := takeWord s
        return (← readWord word, rest)

/-- A document that is being read: its tables, and the path of the one that was opened last. -/
structure Draft where
  root : Entries := []
  path : List Text := []

namespace Draft

/-- Reads the header of a table. -/
def readHeader (d : Draft) (s : Text) : Except Error (Draft × Text) :=
  match s with
  | '[' :: s => do
      let (key, rest) ← readKey (s.length + 1) s
      match rest with
      | ']' :: ']' :: rest =>
          let (path, last) := splitKey key
          let root ← d.root.modifyAt (Entries.openElement last) path
          return ({ root, path := key }, rest)
      | _ => throw .badKey
  | s => do
      let (key, rest) ← readKey (s.length + 1) s
      match rest with
      | ']' :: rest =>
          let (path, last) := splitKey key
          let root ← d.root.modifyAt (Entries.openTable last) path
          return ({ root, path := key }, rest)
      | _ => throw .badKey

/-- Reads a key and its value. -/
def readPair (d : Draft) (s : Text) : Except Error (Draft × Text) := do
  let (key, rest) ← readKey (s.length + 1) s
  match rest with
  | '=' :: rest =>
      let (v, rest) ← readValue maxDepth (dropBlanks rest)
      let (path, last) := splitKey key
      let root ← d.root.modifyAt (Entries.insert last v path) d.path
      return ({ d with root }, rest)
  | _ => throw .expectedEquals

/-- Reads line after line. -/
def readLines : Nat → Draft → Text → Except Error Draft
  | 0, d, _ => .ok d
  | fuel + 1, d, s => do
      match ← dropAllSpace s with
      | [] => return d
      | '[' :: s =>
          let (d, rest) ← d.readHeader s
          readLines fuel d (← endLine rest)
      | s =>
          let (d, rest) ← d.readPair s
          readLines fuel d (← endLine rest)

end Draft

/-- Reads a document; a byte order mark in front of it is dropped. -/
def parse (s : Text) : Except Error Value := do
  let s := match s with
    | '\uFEFF' :: s => s
    | s => s
  let d ← Draft.readLines (s.length + 1) {} s
  return .table (Node.entriesToValues d.root)

end AnchorPatch.Toml
