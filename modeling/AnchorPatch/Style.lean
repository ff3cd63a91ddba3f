import AnchorPatch.Text.Search

namespace AnchorPatch

/-- How a text is shown. -/
inductive Style
  | plain
  | dimmed
  | red
  | green
  | yellow
  | cyan
deriving Repr, DecidableEq

namespace Style

def escape (n : Nat) : Text := '\x1b' :: '[' :: Nat.toDigits 10 n ++ ['m']

def reset : Text := escape 0

/-- Turns a style on. Plain text needs no code. -/
def code? : Style → Option Text
  | .plain => none
  | .dimmed => some (escape 2)
  | .red => some (escape 31)
  | .green => some (escape 32)
  | .yellow => some (escape 33)
  | .cyan => some (escape 36)

/-- Puts a code behind every reset in a text. `pending` is the number of characters of a reset
that are still to be passed. -/
def resume (code : Text) : Nat → Text → Text
  | _, [] => []
  | 0, c :: s =>
      if reset.isPrefixOf (c :: s) then c :: resume code (reset.length - 1) s else c :: resume code 0 s
  | 1, c :: s => c :: code ++ resume code 0 s
  | n + 2, c :: s => c :: resume code (n + 1) s

/-- Writes a text in a style if colours are on. A reset inside the text does not end the style. -/
def paint (style : Style) (colours : Bool) (s : Text) : Text :=
  match if colours then style.code? else none with
  | none => s
  | some code => code ++ resume code 0 s ++ reset

@[simp] theorem paint_false (style : Style) (s : Text) : style.paint false s = s := rfl

@[simp] theorem paint_plain (colours : Bool) (s : Text) : Style.plain.paint colours s = s := by
  cases colours <;> rfl

end Style

end AnchorPatch
