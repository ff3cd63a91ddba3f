import AnchorPatch.Log.Directive

namespace AnchorPatch.Log

/-- Directives, the most special one first, no two of them about the same. -/
structure Filter where
  directives : List Directive
deriving Repr, DecidableEq

namespace Filter

/-- What a directive is about: no two directives of a filter are about the same. -/
def key (d : Directive) : Option Text × Option Text := (d.target, d.field.map (·.name))

/-- Whether the field of a directive goes before that of another one: the later one in
alphabetical order does, and any does before none. -/
def fieldFirst (d e : Directive) : Bool :=
  match d.field, e.field with
  | some f, some g => g.name < f.name
  | some _, none => true
  | none, _ => false

/-- Whether a directive is more special than another one. One without a target is less special
than one with an empty target. -/
def special (d e : Directive) : Bool :=
  let length (d : Directive) := d.target.elim 0 fun t => t.byteLength + 1
  length e < length d || (length e = length d && fieldFirst d e)

/-- Puts a directive in its place, or in the place of one that is about the same. -/
def insert (d : Directive) : List Directive → List Directive
  | [] => [d]
  | e :: es =>
      if key d = key e then d :: es
      else if special d e then d :: e :: es
      else e :: insert d es

/-- A filter of directives; later ones replace earlier ones. Directives about spans are no use for
events, so that a filter which has nothing else lets no event through, and one without any
directive lets errors through. -/
def ofDirectives (ds : List Directive) : Filter :=
  let (dynamic, plain) := ds.partition (·.isDynamic)
  let usable := plain ++ dynamic.filter (·.isStatic)
  if ds = [] then ⟨[{ limit := .upTo .error }]⟩ else ⟨usable.foldl (fun es d => insert d es) []⟩

def pieces : Text → List Text
  | [] => [[]]
  | c :: s =>
      match pieces s with
      | [] => [[c]]
      | p :: ps => if c = ',' then [] :: p :: ps else (c :: p) :: ps

/-- Reads directives between commas. One that cannot be read makes the whole list void. -/
def ofText? (s : Text) : Option Filter := do
  let directives ← ((pieces s).filter (· ≠ [])).mapM Directive.ofText?
  return ofDirectives directives

def admits (f : Filter) (e : Event) : Bool :=
  match f.directives.find? (·.concerns e) with
  | some d => d.limit.admits e.level
  | none => false

/-- The filter for a number of requests for more. Without any the surroundings may name a filter,
which is passed over if it cannot be read. -/
def choose (verbosity : Nat) (named : Option Text) : Filter :=
  let default := ofDirectives [defaultDirective verbosity]
  if verbosity = 0 then ((named.bind ofText?).getD default) else default

end Filter

end AnchorPatch.Log
