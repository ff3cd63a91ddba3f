import AnchorPatch.Config.Validation
import AnchorPatch.Text.Quoted
import AnchorPatch.Toml.Value

/-!
Configurations in documents.

A configuration is a table with the keys `meta` and `rules`. Keys that mean nothing are skipped,
and keys that are missing have the value that the configuration gives them. A record may also be
written as an array of its fields in their order. The keys are read in the order in which they are
written, and the first fault is reported.
-/

namespace AnchorPatch

open Toml (Value)

/-- What a value is expected to be. -/
inductive Shape
  | text
  | boolean
  | sequence
  | record (name : String)
deriving Repr, DecidableEq

def Shape.message : Shape → String
  | .text => "a string"
  | .boolean => "a boolean"
  | .sequence => "a sequence"
  | .record name => "struct " ++ name

/-- Why a document does not describe a configuration. -/
inductive SchemaError
  | wrongType (found : Value) (expected : Shape)
  | missingField (name : String)
  | tooShort (length : Nat) (name : String) (fields : Nat)
  | unknownChoice (found : Text) (first second : String)
  | notAChoice
  | noChoice
  | severalChoices
  | contentInTable
  | contentInArray
  | contentNotTable (found : Value)
deriving Repr

def Toml.Value.describe : Value → String
  | .text s => "string " ++ String.ofList (Text.quote s)
  | .integer n => "integer `" ++ toString n ++ "`"
  | .float (.finite x) => "floating point `" ++ x.text ++ "`"
  | .float (.infinite negative) =>
      if negative then "floating point `-inf`" else "floating point `inf`"
  | .float .notANumber => "floating point `NaN`"
  | .boolean b => "boolean `" ++ (if b then "true" else "false") ++ "`"
  | .date => "map"
  | .array _ => "sequence"
  | .table _ => "map"

def Toml.Value.typeName : Value → String
  | .text _ => "string"
  | .integer _ => "integer"
  | .float _ => "float"
  | .boolean _ => "boolean"
  | .date => "datetime"
  | .array _ => "array"
  | .table _ => "table"

def SchemaError.message : SchemaError → String
  | .wrongType found expected =>
      "invalid type: " ++ found.describe ++ ", expected " ++ expected.message
  | .missingField field => "missing field `" ++ field ++ "`"
  | .tooShort length record fields =>
      s!"invalid length {length}, expected struct {record} with {fields} elements"
  | .unknownChoice found first second =>
      "unknown variant `" ++ String.ofList found ++ "`, expected `" ++ first ++ "` or `" ++ second
        ++ "`"
  | .notAChoice => "wanted string or table"
  | .noChoice => "wanted exactly 1 element, found 0 elements"
  | .severalChoices => "wanted exactly 1 element, more than 1 element"
  | .contentInTable => "expected empty table"
  | .contentInArray => "expected empty array"
  | .contentNotTable found => "expected table, found " ++ found.typeName

namespace Schema

def readText : Value → Except SchemaError Text
  | .text s => .ok s
  | v => .error (.wrongType v .text)

def readBoolean : Value → Except SchemaError Bool
  | .boolean b => .ok b
  | v => .error (.wrongType v .boolean)

/-- Two things that are named in a document. -/
structure Choice (α : Type) where
  first : String × α
  second : String × α

def Choice.named (c : Choice α) (s : Text) : Except SchemaError α :=
  let name := String.ofList s
  if name = c.first.1 then .ok c.first.2
  else if name = c.second.1 then .ok c.second.2
  else .error (.unknownChoice s c.first.1 c.second.1)

/-- Accepts nothing but an empty table or list. -/
def checkEmpty : Value → Except SchemaError Unit
  | .table [] => .ok ()
  | .table _ => .error .contentInTable
  | .array [] => .ok ()
  | .array _ => .error .contentInArray
  | v => .error (.contentNotTable v)

/-- Reads a choice: its name, or a table with its name as the only key and nothing below it. -/
def Choice.read (c : Choice α) : Value → Except SchemaError α
  | .text s => c.named s
  | .table [] => .error .noChoice
  | .table [(name, content)] => do
      let a ← c.named name
      checkEmpty content
      return a
  | .table _ => .error .severalChoices
  | _ => .error .notAChoice

def patternKind : Choice PatternKind := ⟨("regex", .regex), ("text", .text)⟩

def placement : Choice Placement := ⟨("after", .after), ("replace", .replace)⟩

/-- The name of a record and the names of its fields. -/
structure RecordShape where
  name : String
  fields : List String

/-- The entries of a record: those of a table, or the items of a list in the order of the fields. -/
def RecordShape.entries (r : RecordShape) : Value → Except SchemaError (List (String × Value))
  | .table entries => .ok (entries.map fun (k, v) => (String.ofList k, v))
  | .array items => .ok (r.fields.zip items)
  | .date => .ok []
  | v => .error (.wrongType v (.record r.name))

/-- The error for a field that is not there. -/
def RecordShape.missing (r : RecordShape) (field : String) : Value → SchemaError
  | .array items => .tooShort items.length r.name r.fields.length
  | _ => .missingField field

/-- Checks that a record has a field. -/
def RecordShape.require (r : RecordShape) (v : Value) (field : String) :
    Option α → Except SchemaError α
  | some a => .ok a
  | none => .error (r.missing field v)

def anchorShape : RecordShape :=
  ⟨"AnchorDefinition", ["type", "pattern", "placement", "separator"]⟩

def ruleShape : RecordShape :=
  ⟨"RuleDefinition",
    ["id", "description", "primary", "fallback", "text", "expand", "unless_present"]⟩

def metadataShape : RecordShape := ⟨"Metadata", ["name", "description", "target", "backup_suffix"]⟩

/-- What has been read of an anchor. -/
structure AnchorDraft where
  kind : Option PatternKind := none
  pattern : Option Text := none
  placement : Placement := .after
  separator : Option Text := none

def AnchorDraft.set (d : AnchorDraft) : String × Value → Except SchemaError AnchorDraft
  | ("type", v) => do return { d with kind := some (← patternKind.read v) }
  | ("pattern", v) => do return { d with pattern := some (← readText v) }
  | ("placement", v) => do return { d with placement := ← Schema.placement.read v }
  | ("separator", v) => do return { d with separator := some (← readText v) }
  | _ => .ok d

/-- Reads an anchor, which has to have a pattern of some kind. -/
def readAnchor (v : Value) : Except SchemaError AnchorSpec := do
  let d ← (← anchorShape.entries v).foldlM AnchorDraft.set {}
  return { kind := ← anchorShape.require v "type" d.kind
           pattern := ← anchorShape.require v "pattern" d.pattern
           placement := d.placement
           separator := d.separator }

/-- The fields of a rule that were read so far. -/
structure RuleDraft where
  id : Option Text := none
  description : Option Text := none
  primary : Option AnchorSpec := none
  fallback : Option AnchorSpec := none
  text : Option Text := none
  expand : Bool := false
  unlessPresent : Option Text := none

def RuleDraft.set (d : RuleDraft) : String × Value → Except SchemaError RuleDraft
  | ("id", v) => do return { d with id := some (← readText v) }
  | ("description", v) => do return { d with description := some (← readText v) }
  | ("primary", v) => do return { d with primary := some (← readAnchor v) }
  | ("fallback", v) => do return { d with fallback := some (← readAnchor v) }
  | ("text", v) => do return { d with text := some (← readText v) }
  | ("expand", v) => do return { d with expand := ← readBoolean v }
  | ("unless_present", v) => do return { d with unlessPresent := some (← readText v) }
  | _ => .ok d

/-- Reads a rule, which has to have an id, a primary anchor and a text. -/
def readRule (v : Value) : Except SchemaError RuleSpec := do
  let d ← (← ruleShape.entries v).foldlM RuleDraft.set {}
  return { id := ← ruleShape.require v "id" d.id
           description := d.description
           primary := ← ruleShape.require v "primary" d.primary
           fallback := d.fallback
           text := ← ruleShape.require v "text" d.text
           expand := d.expand
           unlessPresent := d.unlessPresent }

def setMetadata (m : Metadata) : String × Value → Except SchemaError Metadata
  | ("name", v) => do return { m with name := ← readText v }
  | ("description", v) => do return { m with description := some (← readText v) }
  | ("target", v) => do return { m with target := ← readText v }
  | ("backup_suffix", v) => do return { m with backupSuffix := ← readText v }
  | _ => .ok m

def readMetadata (v : Value) : Except SchemaError Metadata := do
  (← metadataShape.entries v).foldlM setMetadata {}

def readRules : Value → Except SchemaError (List RuleSpec)
  | .array items => items.mapM readRule
  | v => .error (.wrongType v .sequence)

def configShape : RecordShape := ⟨"RuleSetConfig", ["meta", "rules"]⟩

def setConfig (c : Config) : String × Value → Except SchemaError Config
  | ("meta", v) => do return { c with info := ← readMetadata v }
  | ("rules", v) => do return { c with rules := ← readRules v }
  | _ => .ok c

end Schema

def Config.ofValue (v : Value) : Except SchemaError Config := do
  (← Schema.configShape.entries v).foldlM Schema.setConfig {}

end AnchorPatch
