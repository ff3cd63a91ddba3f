import AnchorPatch.Log.Event
import AnchorPatch.Regex.Basic
import AnchorPatch.Text.Blank

/-!
Filter directives.

A directive limits the events of the parts of the program whose names begin with its target. It
may be narrowed to events that carry a field, and to spans, which the program does not open. It is
written as `target[span{field}]=level`, and most of that may be left out.
-/

namespace AnchorPatch.Log

/-- A field that a directive asks for, maybe with a pattern for its value. -/
structure FieldTest where
  name : Text
  value : Option Text := none
deriving Repr, DecidableEq

/-- A rule by which events are admitted. -/
structure Directive where
  target : Option Text := none
  span : Option Text := none
  field : Option FieldTest := none
  limit : Limit := .upTo .trace
deriving Repr, DecidableEq

namespace Directive

/-- Whether a directive asks for a span or for a field. -/
def isDynamic (d : Directive) : Bool := d.span.isSome || d.field.isSome

/-- Whether a directive asks for nothing that only shows in an event. -/
def isStatic (d : Directive) : Bool := d.span.isNone && d.field.all (·.value.isNone)

/-- Whether a directive speaks of an event. -/
def concerns (d : Directive) (e : Event) : Bool :=
  d.target.all (·.isPrefixOf e.origin.name) && d.field.all fun f => e.fieldNames.contains f.name

/-- How far a directive has been read, with what has been read of its current part, in reverse. -/
inductive Stage
  | start
  | head (read : Text)
  | span (read : Text)
  | field (read : Text)
  | fieldEnd
  | spanEnd
  | level (read : Text)
deriving Repr, DecidableEq

/-- A character with which a directive may begin, apart from a bracket. -/
def isHeadChar (c : Char) : Bool :=
  c = '-' || c = ':' || c = '_' || Unicode.alphabetic.contains c
    || ((Unicode.category? "n").getD CharSet.empty).contains c

/-- The test of a field, which asks for its name and perhaps for its value. -/
def fieldTest? (s : Text) : Option FieldTest :=
  if s = [] then none
  else
    match s.span (· ≠ '=') with
    | (name, []) => some { name }
    | (name, _ :: rest) =>
        let value := rest.takeWhile (· ≠ '=')
        if (Regex.compile value).toOption.isSome then some { name, value := some value } else none

/-- Reads a further character: the first one decides what is read, and the second one is taken. -/
def step (d : Directive) : Stage → Char → Char → Option (Directive × Stage)
  | .start, '[', _ => some (d, .span [])
  | .start, c, x => if isHeadChar c then some (d, .head [x]) else none
  | .head read, '=', _ => some ({ d with target := some read.reverse }, .level [])
  | .head read, '[', _ => some ({ d with target := some read.reverse }, .span [])
  | .head read, _, x => some (d, .head (x :: read))
  | .span read, ']', _ => some ({ d with span := some read.reverse }, .spanEnd)
  | .span read, '\x7b', _ =>
      some ({ d with span := if read = [] then none else some read.reverse }, .field [])
  | .span read, _, x => some (d, .span (x :: read))
  | .field read, '\x7d', _ => do
      return ({ d with field := some (← fieldTest? read.reverse) }, .fieldEnd)
  | .field read, _, x => some (d, .field (x :: read))
  | .fieldEnd, ']', _ => some (d, .spanEnd)
  | .fieldEnd, _, _ => none
  | .spanEnd, '=', _ => some (d, .level [])
  | .spanEnd, _, _ => none
  | .level read, _, x => some (d, .level (x :: read))

/-- Ends a directive; `rest` belongs to the part that was read last. A level that is left out is
the last one, and a lone word is a level or else a target. -/
def finish (d : Directive) (rest : Text) : Stage → Option Directive
  | .head read =>
      let word := read.reverse ++ rest
      match Limit.ofText? word with
      | some limit => some { d with limit }
      | none => some { d with target := some word }
  | .level read =>
      let word := read.reverse ++ rest
      if word = [] then some d else (Limit.ofText? word).map fun limit => { d with limit }
  | .spanEnd => some d
  | _ => none

def readFrom (d : Directive) : Stage → Text → Text → Option Directive
  | stage, [], rest => d.finish rest stage
  | stage, c :: cs, x :: xs => do
      let (d, stage) ← d.step stage c x
      readFrom d stage cs xs
  | _, _ :: _, [] => none

/-- Reads a directive. White space around it does not decide where its parts end, and yet is part
of it, so that behind a blank every part begins and ends one character early. -/
def ofText? (s : Text) : Option Directive := readFrom {} .start (Text.trim s) s

def text (d : Directive) : Text :=
  match d.target with
  | some target => target ++ '=' :: d.limit.name
  | none => d.limit.name

end Directive

/-- The directive that is in force if none is given. -/
def defaultDirective (verbosity : Nat) : Directive where
  target := some "preview_patcher".toList
  limit :=
    match verbosity with
    | 0 => .upTo .warn
    | 1 => .upTo .info
    | _ => .upTo .debug

end AnchorPatch.Log
