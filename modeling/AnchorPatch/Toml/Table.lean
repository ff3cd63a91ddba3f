import AnchorPatch.Toml.Value

/-!
Tables under construction.

A table of a document is opened by a header, by a header of a table below it, or by a dotted key.
These ways must not be mixed: a header opens a table once, and a dotted key reaches only into
tables that no header opened.
-/

namespace AnchorPatch.Toml

/-- How a table has come into a document. -/
inductive Origin
  | header
  | path
  | dotted
deriving Repr, DecidableEq

/-- What a key stands for while a document is read. -/
inductive Node
  | value (v : Value)
  | table (origin : Origin) (entries : List (Text × Node))
  | tables (elements : List (List (Text × Node)))

abbrev Entries := List (Text × Node)

mutual

def Node.toValue : Node → Value
  | .value v => v
  | .table _ entries => .table (Node.entriesToValues entries)
  | .tables elements => .array (Node.elementsToValues elements).reverse

def Node.entriesToValues : List (Text × Node) → List (Text × Value)
  | [] => []
  | (key, node) :: rest => (key, node.toValue) :: entriesToValues rest

def Node.elementsToValues : List (List (Text × Node)) → List Value
  | [] => []
  | entries :: rest => .table (Node.entriesToValues entries) :: elementsToValues rest

end

namespace Entries

/-- Replaces the node of a key, or adds one. -/
def put (key : Text) (node : Node) : Entries → Entries
  | [] => [(key, node)]
  | (k, n) :: rest => if k = key then (k, node) :: rest else (k, n) :: put key node rest

/-- Adds a key that is not there yet. -/
def add (es : Entries) (key : Text) (node : Node) : Except Error Entries :=
  if (es.lookup key).isSome then .error (.repeatedKey key) else .ok (es ++ [(key, node)])

/-- Gives a value to the key below the tables of `path`, which a dotted key names. -/
def insert (key : Text) (v : Value) : List Text → Entries → Except Error Entries
  | [], es => es.add key (.value v)
  | p :: path, es =>
      match es.lookup p with
      | none => do
          let inner ← insert key v path []
          return es ++ [(p, .table .dotted inner)]
      | some (.table origin inner) =>
          if origin = .header || (path.isEmpty && origin ≠ .dotted) then .error (.repeatedKey p)
          else do
            let inner ← insert key v path inner
            return es.put p (.table origin inner)
      | some (.tables (inner :: before)) =>
          if path.isEmpty then .error (.repeatedKey p)
          else do
            let inner ← insert key v path inner
            return es.put p (.tables (inner :: before))
      | some _ => .error (.notATable p)

/-- Changes the table that a header path leads to. Missing tables on the way are opened. -/
def modifyAt (f : Entries → Except Error Entries) : List Text → Entries → Except Error Entries
  | [], es => f es
  | p :: path, es =>
      match es.lookup p with
      | none => do
          let inner ← modifyAt f path []
          return es ++ [(p, .table .path inner)]
      | some (.table origin inner) => do
          let inner ← modifyAt f path inner
          return es.put p (.table origin inner)
      | some (.tables (inner :: before)) => do
          let inner ← modifyAt f path inner
          return es.put p (.tables (inner :: before))
      | some _ => .error (.notATable p)

/-- Opens a table. One that was opened by the header of a table below it moves to the end. -/
def openTable (key : Text) (es : Entries) : Except Error Entries :=
  match es.lookup key with
  | none => .ok (es ++ [(key, .table .header [])])
  | some (.table .path inner) =>
      .ok (es.filter (fun e => e.1 ≠ key) ++ [(key, .table .header inner)])
  | some _ => .error (.repeatedKey key)

/-- Adds an empty table to a list of tables. -/
def openElement (key : Text) (es : Entries) : Except Error Entries :=
  match es.lookup key with
  | none => .ok (es ++ [(key, .tables [[]])])
  | some (.tables elements) => .ok (es.put key (.tables ([] :: elements)))
  | some _ => .error (.repeatedKey key)

end Entries

end AnchorPatch.Toml
