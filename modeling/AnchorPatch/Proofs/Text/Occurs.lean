import AnchorPatch.Text.Search

namespace AnchorPatch.Text

variable {piece s t u before : Text} {c : Char}

theorem dropPiece?_isSome_iff : (dropPiece? piece s).isSome = true ↔ piece <+: s := by
  rw [Option.isSome_iff_exists]
  constructor
  · rintro ⟨rest, h⟩
    exact ⟨rest, append_of_dropPiece? h⟩
  · rintro ⟨rest, rfl⟩
    exact ⟨rest, dropPiece?_append piece rest⟩

theorem findFrom_isSome_iff : (findFrom piece before s).isSome = true ↔ piece <:+: s := by
  induction s generalizing before with
  | nil =>
      rw [findFrom, List.infix_nil]
      split <;> simp_all
  | cons c s ih =>
      rw [findFrom, List.infix_cons_iff, ← dropPiece?_isSome_iff]
      split
      next rest hrest => simp [hrest]
      next hnone => simp [hnone, ih]

theorem occurs_iff : occurs piece s = true ↔ piece <:+: s := findFrom_isSome_iff

theorem prefix_of_separator (hc : c ∉ piece) (h : piece <+: s ++ c :: t) : piece <+: s := by
  induction s generalizing piece with
  | nil =>
      cases piece with
      | nil => exact List.nil_prefix
      | cons x piece =>
          rw [List.nil_append, List.cons_prefix_cons] at h
          exact absurd (h.1 ▸ List.mem_cons_self) hc
  | cons y s ih =>
      cases piece with
      | nil => exact List.nil_prefix
      | cons x piece =>
          rw [List.cons_append, List.cons_prefix_cons] at h
          rw [List.cons_prefix_cons]
          exact ⟨h.1, ih (fun hmem => hc (List.mem_cons_of_mem _ hmem)) h.2⟩

theorem infix_of_separator (hc : c ∉ piece) (h : piece <:+: s ++ c :: t) :
    piece <:+: s ∨ piece <:+: t := by
  induction s with
  | nil =>
      rcases List.infix_cons_iff.mp h with h | h
      · exact .inl (prefix_of_separator hc (show piece <+: [] ++ c :: t from h)).isInfix
      · exact .inr h
  | cons y s ih =>
      rcases List.infix_cons_iff.mp h with h | h
      · exact .inl (prefix_of_separator hc (show piece <+: (y :: s) ++ c :: t from h)).isInfix
      · rcases ih h with h | h
        · exact .inl (List.infix_cons h)
        · exact .inr h

theorem exists_between {d : Char} (hhead : s.head? = some c) (hlast : s.getLast? = some d)
    (hne : c ≠ d) : ∃ u, s = c :: (u ++ [d]) := by
  obtain ⟨u, rfl⟩ := List.head?_eq_some_iff.mp hhead
  obtain ⟨v, hv⟩ := List.getLast?_eq_some_iff.mp hlast
  cases v with
  | nil =>
      cases hv
      exact absurd rfl hne
  | cons x v =>
      cases hv
      exact ⟨v, rfl⟩

end AnchorPatch.Text
