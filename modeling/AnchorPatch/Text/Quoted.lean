import AnchorPatch.Text.Basic
import AnchorPatch.Unicode.Category
import AnchorPatch.Unicode.Property

namespace AnchorPatch.Text

/-- The characters that cannot be printed: all but visible ones and the space. -/
def unprintable : CharSet :=
  let group (name : String) : CharSet := (Unicode.category? name).getD CharSet.empty
  ((group "c").union (group "z")).diff (CharSet.single ' ')

def extending : CharSet := (Unicode.property? "graphemeextend").getD CharSet.empty

def quoteChar (c : Char) : Text :=
  match c with
  | '\x00' => ['\\', '0']
  | '\t' => ['\\', 't']
  | '\r' => ['\\', 'r']
  | '\n' => ['\\', 'n']
  | '"' => ['\\', '"']
  | '\\' => ['\\', '\\']
  | c =>
      if 0x20 ≤ c.toNat && c.toNat < 0x7f then [c]
      else if extending.contains c || unprintable.contains c then
        ['\\', 'u', '\x7b'] ++ Nat.toDigits 16 c.toNat ++ ['\x7d']
      else [c]

def quote (s : Text) : Text := '"' :: s.flatMap quoteChar ++ ['"']

end AnchorPatch.Text
