import AnchorPatch.Text.Basic

namespace AnchorPatch.Regex

inductive Error
  | unclosedGroup
  | unopenedGroup
  | unclosedClass
  | badEscape
  | badCode
  | badRange
  | badClassItem
  | missingOperand
  | badCount
  | badFlags
  | badGroupName
  | repeatedGroupName
  | lookAround
  | backreference
  | nestedTooDeep
  | unknownProperty
  | unicodeDisabled
  | invalidUtf8
  | tooLarge
deriving Repr, DecidableEq

def Error.message : Error → String
  | .unclosedGroup => "a group is not closed"
  | .unopenedGroup => "a group is closed that was not opened"
  | .unclosedClass => "a bracketed class is not closed"
  | .badEscape => "an escape has no meaning"
  | .badCode => "a character code is not one of a character"
  | .badRange => "a range of a class is not one from a character to a later one"
  | .badClassItem => "an item of a class does not stand for characters"
  | .missingOperand => "there is nothing to repeat"
  | .badCount => "a count is not well formed"
  | .badFlags => "the flags of a group are not well formed"
  | .badGroupName => "the name of a group is not well formed"
  | .repeatedGroupName => "two groups have one name"
  | .lookAround => "conditions on the text around a match are not supported"
  | .backreference => "references to groups are not supported"
  | .nestedTooDeep => "the parts are nested too deeply"
  | .unknownProperty => "there is no such character property"
  | .unicodeDisabled => "this needs the flag for all characters"
  | .invalidUtf8 => "a match could begin or end inside a character"
  | .tooLarge => "the pattern is too large"

/-- A letter that changes how the following part is read. -/
inductive Flag
  | caseInsensitive
  | multiLine
  | dotMatchesLineEnd
  | swapGreed
  | unicode
  | carriageReturn
  | ignoreBlanks
deriving Repr, DecidableEq

/-- One sign in a list of flags; the flags after a negation are turned off. -/
inductive FlagSign
  | negation
  | flag (flag : Flag)
deriving Repr, DecidableEq

/-- The setting that a list of flags gives to one flag, if it mentions it. -/
def flagSetting (wanted : Flag) : Bool → List FlagSign → Option Bool
  | _, [] => none
  | _, .negation :: rest => flagSetting wanted false rest
  | on, .flag f :: rest => if f = wanted then some on else flagSetting wanted on rest

/-- The classes with a one-letter escape. -/
inductive LetterClass
  | digit
  | space
  | word
deriving Repr, DecidableEq

/-- The classes with a name between colons. -/
inductive NamedClass
  | alnum | alpha | ascii | blank | cntrl | digit | graph | lower | print | punct | space | upper
  | word | xdigit
deriving Repr, DecidableEq

/-- How a character property is asked for. -/
inductive PropertyQuery
  | name (name : Text)
  | value (differs : Bool) (name value : Text)
deriving Repr, DecidableEq

inductive ClassOperator
  | intersection
  | difference
  | symmetricDifference
deriving Repr, DecidableEq

/-- What stands between brackets. -/
inductive ClassAst
  | empty
  | range (lo hi : Char)
  | named (name : NamedClass) (negated : Bool)
  | letter (letter : LetterClass) (negated : Bool)
  | property (query : PropertyQuery) (negated : Bool)
  | bracketed (negated : Bool) (body : ClassAst)
  | union (items : List ClassAst)
  | operation (operator : ClassOperator) (left right : ClassAst)
deriving Repr

/-- A condition on the place between two characters, as it is written. -/
inductive Assertion
  | lineStart
  | lineEnd
  | textStart
  | textEnd
  | wordBoundary
  | notWordBoundary
  | wordStart
  | wordEnd
  | wordStartHalf
  | wordEndHalf
deriving Repr, DecidableEq

/-- What the parentheses of a group are for. -/
inductive GroupKind
  | capture (index : Nat) (name : Option Text)
  | plain (flags : List FlagSign)
deriving Repr, DecidableEq

/-- A pattern as it is written. -/
inductive Ast
  | empty
  | flags (flags : List FlagSign)
  /-- A character; `byte` tells that it is written as a two-digit code. -/
  | literal (char : Char) (byte : Bool)
  | dot
  | assertion (assertion : Assertion)
  | letter (letter : LetterClass) (negated : Bool)
  | property (query : PropertyQuery) (negated : Bool)
  | bracketed (negated : Bool) (body : ClassAst)
  | iteration (least : Nat) (most : Option Nat) (greedy : Bool) (body : Ast)
  | group (kind : GroupKind) (body : Ast)
  | alternation (branches : List Ast)
  | sequence (items : List Ast)
deriving Repr

mutual

def ClassAst.depth : ClassAst → Nat
  | .bracketed _ body => body.depth + 1
  | .union items => ClassAst.depths items + 1
  | .operation _ left right => max left.depth right.depth + 1
  | _ => 0

def ClassAst.depths : List ClassAst → Nat
  | [] => 0
  | item :: items => max item.depth (ClassAst.depths items)

end

mutual

def Ast.depth : Ast → Nat
  | .bracketed _ body => body.depth + 1
  | .iteration _ _ _ body => body.depth + 1
  | .group _ body => body.depth + 1
  | .alternation branches => Ast.depths branches + 1
  | .sequence items => Ast.depths items + 1
  | _ => 0

def Ast.depths : List Ast → Nat
  | [] => 0
  | item :: items => max item.depth (Ast.depths items)

end

def Ast.ofItems : List Ast → Ast
  | [] => .empty
  | [item] => item
  | items => .sequence items

def ClassAst.ofItems : List ClassAst → ClassAst
  | [] => .empty
  | [item] => item
  | items => .union items

end AnchorPatch.Regex
