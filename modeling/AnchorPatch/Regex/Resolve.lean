import AnchorPatch.Regex.Ast
import AnchorPatch.Regex.Expr
import AnchorPatch.Unicode.CaseFolding
import AnchorPatch.Unicode.Category
import AnchorPatch.Unicode.Script

namespace AnchorPatch.Regex

/-- The flags that are in force at a part of a pattern. -/
structure Flags where
  caseInsensitive : Bool := false
  multiLine : Bool := false
  dotMatchesLineEnd : Bool := false
  swapGreed : Bool := false
  unicode : Bool := true
  carriageReturn : Bool := false

/-- The flags behind a list of flags. -/
def Flags.update (f : Flags) (signs : List FlagSign) : Flags :=
  let value (flag : Flag) (old : Bool) : Bool := (flagSetting flag true signs).getD old
  { caseInsensitive := value .caseInsensitive f.caseInsensitive
    multiLine := value .multiLine f.multiLine
    dotMatchesLineEnd := value .dotMatchesLineEnd f.dotMatchesLineEnd
    swapGreed := value .swapGreed f.swapGreed
    unicode := value .unicode f.unicode
    carriageReturn := value .carriageReturn f.carriageReturn }

def NamedClass.toSet : NamedClass → CharSet
  | .alnum => ⟨[(48, 57), (65, 90), (97, 122)]⟩
  | .alpha => ⟨[(65, 90), (97, 122)]⟩
  | .ascii => ⟨[(0, 127)]⟩
  | .blank => ⟨[(9, 9), (32, 32)]⟩
  | .cntrl => ⟨[(0, 31), (127, 127)]⟩
  | .digit => ⟨[(48, 57)]⟩
  | .graph => ⟨[(33, 126)]⟩
  | .lower => ⟨[(97, 122)]⟩
  | .print => ⟨[(32, 126)]⟩
  | .punct => ⟨[(33, 47), (58, 64), (91, 96), (123, 126)]⟩
  | .space => ⟨[(9, 13), (32, 32)]⟩
  | .upper => ⟨[(65, 90)]⟩
  | .word => asciiWordChars
  | .xdigit => ⟨[(48, 57), (65, 70), (97, 102)]⟩

def LetterClass.toSet (unicode : Bool) : LetterClass → CharSet
  | .digit => if unicode then Unicode.decimalDigits else NamedClass.digit.toSet
  | .space => if unicode then ⟨Text.blankRanges⟩ else NamedClass.space.toSet
  | .word => if unicode then Unicode.wordChars else asciiWordChars

/-- A set with the characters that differ from its own in case only, if case is ignored. -/
def Flags.foldCase (f : Flags) (s : CharSet) : CharSet :=
  if f.unicode then Unicode.foldCase s
  else
    let swapped := (List.range 26).foldl (fun t i =>
      let upper := 65 + i
      let lower := 97 + i
      let t := if s.holds upper then t.insert lower lower else t
      if s.holds lower then t.insert upper upper else t) s
    swapped

/-- Refuses a set with characters beyond those of ASCII where a match could end inside of one. -/
def Flags.check (f : Flags) (s : CharSet) : Except Error CharSet :=
  if f.unicode || s.isAscii then .ok s else .error .invalidUtf8

/-- The characters that are not in a set. -/
def Flags.negate (f : Flags) (s : CharSet) : CharSet :=
  s.complementUpTo (if f.unicode then CharSet.maxCode else 255)

/-- Closes a set under case if that is asked for, and then negates it if that is asked for. -/
def Flags.finish (f : Flags) (negated : Bool) (s : CharSet) : Except Error CharSet :=
  let s := if f.caseInsensitive then f.foldCase s else s
  f.check (if negated then f.negate s else s)

def Flags.letterSet (f : Flags) (letter : LetterClass) (negated : Bool) : Except Error CharSet :=
  let s := letter.toSet f.unicode
  f.check (if negated then f.negate s else s)

/-- The form in which the names of properties and their values are compared: small letters without
blanks, hyphens, underscores and a leading `is`. -/
def normalName (s : Text) : String :=
  let lower := s.map Char.toLower
  let marked := ['i', 's'].isPrefixOf lower
  let kept := (if marked then lower.drop 2 else lower).filter fun c =>
    c.toNat < 128 && c ≠ ' ' && c ≠ '_' && c ≠ '-'
  if marked && kept = ['c'] then "isc" else String.ofList kept

def PropertyQuery.toSet? : PropertyQuery → Option CharSet
  | .name s =>
      let n := normalName s
      let ambiguous := n = "cf" || n = "sc" || n = "lc"
      let property := if ambiguous then none else Unicode.property? n
      match property with
      | some set => some set
      | none =>
          if !ambiguous && Unicode.otherPropertyNames.contains n then none
          else (Unicode.category? n).or (Unicode.script? n)
  | .value _ key s =>
      let n := normalName s
      match normalName key with
      | "gc" | "generalcategory" => Unicode.category? n
      | "sc" | "script" => Unicode.script? n
      | "scx" | "scriptextensions" => Unicode.scriptExtension? n
      | _ => none

def PropertyQuery.differs : PropertyQuery → Bool
  | .name _ => false
  | .value differs _ _ => differs

/-- The characters with a property, or without it. -/
def Flags.propertySet (f : Flags) (query : PropertyQuery) (negated : Bool) :
    Except Error CharSet :=
  if f.unicode then
    match query.toSet? with
    | some s => f.finish (negated != query.differs) s
    | none => .error .unknownProperty
  else .error .unicodeDisabled

mutual

/-- The characters of a class. -/
def ClassAst.resolve (f : Flags) : ClassAst → Except Error CharSet
  | .empty => .ok CharSet.empty
  | .range lo hi =>
      if f.unicode || hi.toNat < 128 then .ok (CharSet.range lo.toNat hi.toNat)
      else .error .unicodeDisabled
  | .named n negated => f.finish negated n.toSet
  | .letter l negated => f.letterSet l negated
  | .property query negated => f.propertySet query negated
  | .bracketed negated body => do f.finish negated (← body.resolve f)
  | .union items => ClassAst.resolveAll f CharSet.empty items
  | .operation op left right => do
      let l ← left.resolve f
      let r ← right.resolve f
      let (l, r) := if f.caseInsensitive then (f.foldCase l, f.foldCase r) else (l, r)
      match op with
      | .intersection => return l.inter r
      | .difference => return l.diff r
      | .symmetricDifference => return l.symmDiff r

def ClassAst.resolveAll (f : Flags) (s : CharSet) : List ClassAst → Except Error CharSet
  | [] => .ok s
  | item :: items => do ClassAst.resolveAll f (s.union (← item.resolve f)) items

end

/-- The characters that a single character stands for. -/
def Flags.literalSet (f : Flags) (c : Char) : CharSet :=
  if f.caseInsensitive then
    if f.unicode then
      (Unicode.orbitOf c.toNat).foldl (fun s d => s.insert d d) (CharSet.single c)
    else f.foldCase (CharSet.single c)
  else CharSet.single c

/-- The characters that a dot stands for. -/
def Flags.dotSet (f : Flags) : CharSet :=
  if f.dotMatchesLineEnd then CharSet.all
  else
    let lineEnds := CharSet.single '\n'
    (if f.carriageReturn then lineEnds.union (CharSet.single '\r') else lineEnds).complement

/-- The condition that an assertion stands for. -/
def Flags.look (f : Flags) : Assertion → Look
  | .lineStart => if f.multiLine then .lineStart f.carriageReturn else .textStart
  | .lineEnd => if f.multiLine then .lineEnd f.carriageReturn else .textEnd
  | .textStart => .textStart
  | .textEnd => .textEnd
  | .wordBoundary => .word .boundary f.unicode
  | .notWordBoundary => .word .interior f.unicode
  | .wordStart => .word .start f.unicode
  | .wordEnd => .word .stop f.unicode
  | .wordStartHalf => .word .startHalf f.unicode
  | .wordEndHalf => .word .stopHalf f.unicode

mutual

/-- The expression that a pattern stands for, and the flags in force after it. -/
def Ast.resolve (f : Flags) : Ast → Except Error (Expr × Flags)
  | .empty => .ok (.empty, f)
  | .flags signs => .ok (.empty, f.update signs)
  | .literal c byte =>
      if !f.unicode && byte && 128 ≤ c.toNat then .error .invalidUtf8
      else .ok (.chars (f.literalSet c), f)
  | .dot => if f.unicode then .ok (.chars f.dotSet, f) else .error .invalidUtf8
  | .assertion a => .ok (.look (f.look a), f)
  | .letter l negated => do return (.chars (← f.letterSet l negated), f)
  | .property query negated => do return (.chars (← f.propertySet query negated), f)
  | .bracketed negated body => do return (.chars (← f.finish negated (← body.resolve f)), f)
  | .iteration least most greedy body => do
      let (e, _) ← body.resolve f
      return (.iterated least most (greedy != f.swapGreed) e, f)
  | .group (.capture index _) body => do
      let (e, _) ← body.resolve f
      return (.group index e, f)
  | .group (.plain signs) body => do
      let (e, _) ← body.resolve (f.update signs)
      return (e, f)
  | .alternation branches => do
      let (es, f) ← Ast.resolveAll f branches
      return (.ofBranches es, f)
  | .sequence items => do
      let (es, f) ← Ast.resolveAll f items
      return (.ofItems es, f)

/-- The expressions that some patterns stand for, each under the flags that the one before left. -/
def Ast.resolveAll (f : Flags) : List Ast → Except Error (List Expr × Flags)
  | [] => .ok ([], f)
  | item :: items => do
      let (e, f) ← item.resolve f
      let (es, f) ← Ast.resolveAll f items
      return (e :: es, f)

end

mutual

/-- The names of the groups of a pattern with their numbers. -/
def Ast.groupNames : Ast → List (Text × Nat)
  | .group (.capture index (some name)) body => (name, index) :: body.groupNames
  | .group _ body => body.groupNames
  | .iteration _ _ _ body => body.groupNames
  | .alternation branches => Ast.allGroupNames branches
  | .sequence items => Ast.allGroupNames items
  | _ => []

def Ast.allGroupNames : List Ast → List (Text × Nat)
  | [] => []
  | item :: items => item.groupNames ++ Ast.allGroupNames items

end

end AnchorPatch.Regex
