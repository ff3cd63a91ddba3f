/-!
Texts and byte positions.

A text is a list of characters. Every position that the program reads or reports counts the bytes of
the UTF-8 form, so a text has a byte length and can be cut at a byte position, provided that the
position does not fall inside a character.
-/

namespace AnchorPatch

/-- A buffer, a pattern, a template or any other piece of a document. -/
abbrev Text := List Char

namespace Text

def byteLength : Text → Nat
  | [] => 0
  | c :: s => c.utf8Size + byteLength s

@[simp] theorem byteLength_nil : byteLength [] = 0 := rfl

@[simp] theorem byteLength_cons (c : Char) (s : Text) :
    byteLength (c :: s) = c.utf8Size + byteLength s := rfl

@[simp] theorem byteLength_append (s t : Text) :
    byteLength (s ++ t) = byteLength s + byteLength t := by
  induction s with
  | nil => simp
  | cons c s ih => simp [ih, Nat.add_assoc]

@[simp] theorem byteLength_reverse (s : Text) : byteLength s.reverse = byteLength s := by
  induction s with
  | nil => rfl
  | cons c s ih => simp [ih, Nat.add_comm]

/-- Cuts a text after `n` bytes. There is no such cut inside a character or past the end. -/
def splitAt? : Nat → Text → Option (Text × Text)
  | 0, s => some ([], s)
  | _ + 1, [] => none
  | n + 1, c :: s =>
      if c.utf8Size ≤ n + 1 then
        (splitAt? (n + 1 - c.utf8Size) s).map fun (a, b) => (c :: a, b)
      else none

theorem append_of_splitAt? {n : Nat} {s a b : Text} (h : splitAt? n s = some (a, b)) :
    a ++ b = s := by
  induction s generalizing n a b with
  | nil => cases n <;> simp_all [splitAt?]
  | cons c s ih =>
      cases n with
      | zero => simp_all [splitAt?]
      | succ n =>
          simp only [splitAt?] at h
          split at h
          · obtain ⟨⟨x, y⟩, hxy, he⟩ := Option.map_eq_some_iff.1 h
            cases he
            simp [ih hxy]
          · cases h

theorem byteLength_of_splitAt? {n : Nat} {s a b : Text} (h : splitAt? n s = some (a, b)) :
    byteLength a = n := by
  induction s generalizing n a b with
  | nil => cases n <;> simp_all [splitAt?]
  | cons c s ih =>
      cases n with
      | zero => simp_all [splitAt?]
      | succ n =>
          simp only [splitAt?] at h
          split at h
          · obtain ⟨⟨x, y⟩, hxy, he⟩ := Option.map_eq_some_iff.1 h
            cases he
            simp [ih hxy]
            omega
          · cases h

theorem splitAt?_byteLength (a b : Text) : splitAt? (byteLength a) (a ++ b) = some (a, b) := by
  induction a with
  | nil => cases b <;> rfl
  | cons c a ih =>
      have hc : 0 < c.utf8Size := c.utf8Size_pos
      obtain ⟨n, hn⟩ : ∃ n, byteLength (c :: a) = n + 1 := ⟨c.utf8Size + byteLength a - 1, by simp; omega⟩
      have hle : c.utf8Size ≤ n + 1 := by simp at hn; omega
      have hsub : n + 1 - c.utf8Size = byteLength a := by simp at hn; omega
      rw [hn, List.cons_append]
      simp only [splitAt?, if_pos hle, hsub, ih, Option.map_some]

/-- A number of bytes after which no character is cut. -/
def IsBoundary (s : Text) (n : Nat) : Prop := (splitAt? n s).isSome

instance (s : Text) (n : Nat) : Decidable (IsBoundary s n) :=
  inferInstanceAs (Decidable ((splitAt? n s).isSome = true))

/-- The text from byte `start` up to byte `stop`, when both are positions of it in this order. -/
def slice? (s : Text) (start stop : Nat) : Option Text := do
  if stop < start then none
  let (_, rest) ← splitAt? start s
  let (middle, _) ← splitAt? (stop - start) rest
  return middle

end Text

/-- A place in a text: what stands before it, the text at it, and what follows. -/
structure Span where
  before : Text
  matched : Text
  after : Text
deriving Repr, DecidableEq

namespace Span

def start (p : Span) : Nat := p.before.byteLength

def stop (p : Span) : Nat := p.before.byteLength + p.matched.byteLength

/-- The text that a span is a place of. -/
def whole (p : Span) : Text := p.before ++ p.matched ++ p.after

end Span

end AnchorPatch
