import AnchorPatch.Text.Basic

namespace AnchorPatch.Text

/-- What follows `p` in a text that begins with `p`. -/
def dropPiece? : Text → Text → Option Text
  | [], s => some s
  | _ :: _, [] => none
  | p :: ps, c :: s => if p = c then dropPiece? ps s else none

/-- The leftmost occurrence of `piece`; `before` holds, reversed, what was passed already. -/
def findFrom (piece : Text) (before : Text) : Text → Option Span
  | [] => if piece = [] then some ⟨before.reverse, [], []⟩ else none
  | c :: s =>
      match dropPiece? piece (c :: s) with
      | some rest => some ⟨before.reverse, piece, rest⟩
      | none => findFrom piece (c :: before) s

/-- The leftmost occurrence of `piece` in `s`. -/
def findText (piece s : Text) : Option Span := findFrom piece [] s

/-- Whether `piece` occurs in `s`. -/
def occurs (piece s : Text) : Bool := (findText piece s).isSome

theorem append_of_dropPiece? {p s r : Text} (h : dropPiece? p s = some r) : p ++ r = s := by
  induction p generalizing s with
  | nil => simpa [dropPiece?] using h.symm
  | cons a p ih =>
      cases s with
      | nil => cases h
      | cons c s =>
          simp only [dropPiece?] at h
          split at h
          · subst_vars
            simp [ih h]
          · cases h

theorem dropPiece?_append (p r : Text) : dropPiece? p (p ++ r) = some r := by
  induction p with
  | nil => rfl
  | cons a p ih => simp [dropPiece?, ih]

theorem whole_of_findFrom {piece before s : Text} {p : Span}
    (h : findFrom piece before s = some p) : p.whole = before.reverse ++ s := by
  induction s generalizing before with
  | nil =>
      simp only [findFrom] at h
      split at h
      · cases h; simp [Span.whole]
      · cases h
  | cons c s ih =>
      simp only [findFrom] at h
      split at h
      next rest hr =>
        cases h
        simp [Span.whole, append_of_dropPiece? hr]
      next => simpa using ih h

theorem matched_of_findFrom {piece before s : Text} {p : Span}
    (h : findFrom piece before s = some p) : p.matched = piece := by
  induction s generalizing before with
  | nil =>
      simp only [findFrom] at h
      split at h
      · cases h; simp_all
      · cases h
  | cons c s ih =>
      simp only [findFrom] at h
      split at h
      · cases h; rfl
      · exact ih h

end AnchorPatch.Text
