import AnchorPatch.Decimal.Shortest
import AnchorPatch.Text.Basic

namespace AnchorPatch.Toml

/-- Why a text is not a TOML document. -/
inductive Error
  | badCharacter
  | badKey
  | badValue
  | badNumber
  | badDate
  | badEscape
  | unclosedText
  | unclosedArray
  | unclosedTable
  | expectedEquals
  | expectedLineEnd
  | repeatedKey (key : Text)
  | notATable (key : Text)
  | nestedTooDeep
deriving Repr, DecidableEq

/-- A floating-point number as it is written. -/
inductive FloatLiteral
  | finite (x : DecimalNumber)
  | infinite (negative : Bool)
  | notANumber
deriving Repr, DecidableEq

/-- A value. The keys of a table are in the order in which they are written. -/
inductive Value
  | text (s : Text)
  | integer (n : Int)
  | float (x : FloatLiteral)
  | boolean (b : Bool)
  | date
  | array (items : List Value)
  | table (entries : List (Text × Value))
deriving Repr

def Error.message : Error → String
  | .badCharacter => "a character is not allowed here"
  | .badKey => "a key is not well formed"
  | .badValue => "a value is not well formed"
  | .badNumber => "a number is not well formed or out of range"
  | .badDate => "a date or time is not well formed or out of range"
  | .badEscape => "an escape has no meaning"
  | .unclosedText => "a text is not closed"
  | .unclosedArray => "an array is not closed"
  | .unclosedTable => "a table is not closed"
  | .expectedEquals => "a key has no value"
  | .expectedLineEnd => "something stands where a line should end"
  | .repeatedKey key =>
      let key := String.ofList key
      s!"the key {key} is given twice"
  | .notATable key =>
      let key := String.ofList key
      s!"the key {key} is not that of a table"
  | .nestedTooDeep => "arrays or tables are nested too deeply"

end AnchorPatch.Toml
