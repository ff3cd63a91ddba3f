import AnchorPatch.Proofs.Anchor.Leftmost

namespace AnchorPatch.Regex

variable {r : Regex} {b t u before rest : Text} {start n : Nat} {m m' : Match}

/-- The match that is leftmost among those that begin at a byte of a text or behind it, and of those
that begin at its place the preferred one. -/
structure IsFirst (r : Regex) (b : Text) (start : Nat) (m : Match) : Prop where
  place : ∃ t u, b = t ++ u ∧ m.first = .behind t u
  start_le : start ≤ m.first.offset
  preferred : ∃ w, r.expr.Prefers m.first w m.last
  leftmost : ∀ t u, b = t ++ u → start ≤ t.byteLength → t.byteLength < m.first.offset →
    r.expr.ends (.behind t u) = ∅

/-- A search for the place of a match finds the first match in the text, if there is one. -/
def Searcher.FindsFirst (S : Searcher) (r : Regex) : Prop :=
  ∀ b span, S.find? r b = some span ↔ ∃ m, r.IsFirst b 0 m ∧ m.span = span

/-- A search for a match with its groups finds the first match from a byte of the text on, if there
is one. It is the text as a whole in which that match is the first. -/
def Searcher.CapturesFirst (S : Searcher) (r : Regex) : Prop :=
  ∀ b start m, start ≤ b.byteLength →
    (S.capturesAt r b start = .ok (some m) ↔ r.IsFirst b start m)

namespace IsFirst

theorem start_span (h : r.IsFirst b start m) : m.span.start = m.first.offset := by
  obtain ⟨t, u, -, hfirst⟩ := h.place
  rw [Span.start, Match.span, hfirst, Cursor.behind, List.reverse_reverse]

theorem offset_le (h : r.IsFirst b start m) : m.first.offset ≤ b.byteLength := by
  obtain ⟨t, u, rfl, hfirst⟩ := h.place
  rw [hfirst, Cursor.behind, Text.byteLength_append]
  exact Nat.le_add_right _ _

theorem ends_ne_empty (h : r.IsFirst b start m) : r.expr.ends m.first ≠ ∅ := by
  obtain ⟨w, hw⟩ := h.preferred
  exact Set.nonempty_iff_ne_empty.mp ⟨m.last, w, hw.goes⟩

theorem offset_le_of_isFirst (h : r.IsFirst b start m) (h' : r.IsFirst b start m') :
    m.first.offset ≤ m'.first.offset := by
  refine Nat.le_of_not_lt fun hlt => h'.ends_ne_empty ?_
  obtain ⟨t, u, hb, hfirst⟩ := h'.place
  rw [hfirst] at hlt ⊢
  refine h.leftmost t u hb ?_ hlt
  have hle := h'.start_le
  rwa [hfirst] at hle

theorem unique (h : r.IsFirst b start m) (h' : r.IsFirst b start m') : m = m' := by
  have hoffset := Nat.le_antisymm (h.offset_le_of_isFirst h') (h'.offset_le_of_isFirst h)
  obtain ⟨t, u, rfl, hfirst⟩ := h.place
  obtain ⟨t', u', hb, hfirst'⟩ := h'.place
  obtain ⟨w, hw⟩ := h.preferred
  obtain ⟨w', hw'⟩ := h'.preferred
  rw [hfirst, hfirst'] at hoffset
  obtain rfl := Text.eq_of_byteLength hb hoffset
  obtain rfl := List.append_cancel_left hb
  obtain ⟨first, last⟩ := m
  obtain ⟨first', last'⟩ := m'
  obtain rfl : first = _ := hfirst
  obtain rfl : first' = _ := hfirst'
  exact congrArg _ (hw.unique hw').2

theorem of_zero (h : r.IsFirst b 0 m) : r.IsFirst b m.span.start m := by
  refine ⟨h.place, Nat.le_of_eq h.start_span, h.preferred, fun t u hb hle hlt => ?_⟩
  rw [h.start_span] at hle
  omega

end IsFirst

theorem length_lt_of_byteLength_lt (h : t ++ u = before ++ rest)
    (hlt : t.byteLength < before.byteLength) : t.length < before.length := by
  refine Nat.lt_of_not_le fun hle => ?_
  obtain ⟨x, rfl⟩ := List.prefix_of_prefix_length_le ⟨rest, h.symm⟩ ⟨u, rfl⟩ hle
  rw [Text.byteLength_append] at hlt
  omega

theorem exists_placeFrom (before : Text) (h : start ≤ (before ++ rest).byteLength) :
    ∃ t u, rest = t ++ u ∧
      placeFrom start rest.length (.behind before rest) = some (.behind (before ++ t) u) ∧
        start ≤ (before ++ t).byteLength ∧
          ∀ t' u', rest = t' ++ u' → start ≤ (before ++ t').byteLength →
            ∃ x, t' = t ++ x ∧ u = x ++ u' := by
  induction rest generalizing before with
  | nil =>
      refine ⟨[], [], rfl, ?_, h, fun t' u' htu _ => ⟨t', rfl, htu⟩⟩
      rw [List.append_nil] at h ⊢
      exact if_pos h
  | cons c rest ih =>
      by_cases hle : start ≤ before.byteLength
      · refine ⟨[], c :: rest, rfl, ?_, ?_, fun t' u' htu _ => ⟨t', rfl, htu⟩⟩
        · rw [List.append_nil]
          exact if_pos hle
        · rwa [List.append_nil]
      · rw [List.append_cons] at h
        obtain ⟨t, u, rfl, hplace, hstart, hbehind⟩ := ih _ h
        rw [← List.append_cons] at hplace hstart
        refine ⟨c :: t, u, rfl, ?_, hstart, fun t' u' htu hle' => ?_⟩
        · have hahead : ¬ start ≤ (Cursor.behind before (c :: (t ++ u))).offset := hle
          rw [List.length_cons, placeFrom, if_neg hahead, Cursor.next?_behind, Option.bind_some]
          exact hplace
        · rcases List.cons_eq_append_iff.mp htu with ⟨rfl, -⟩ | ⟨t'', rfl, hrest⟩
          · rw [List.append_nil] at hle'
            exact absurd hle' hle
          · rw [List.append_cons] at hle'
            obtain ⟨x, rfl, hx⟩ := hbehind t'' u' hrest hle'
            exact ⟨x, rfl, hx⟩

theorem findFrom_zero (r : Regex) (b : Text) : r.findFrom b 0 = .ok (r.find? b) := by
  rw [findFrom, if_neg (Nat.not_lt_zero _)]
  cases b <;> rfl

theorem findFrom_eq_some_iff (h : start ≤ b.byteLength) :
    r.findFrom b start = .ok (some m) ↔ r.IsFirst b start m := by
  obtain ⟨t, u, rfl, hplace, hstart, hbehind⟩ := exists_placeFrom [] h
  rw [List.nil_append] at hplace hstart
  have hfind : r.findFrom (t ++ u) start =
      .ok (Text.firstPlace (fun t u => r.matchAt? (.behind t u)) t u) := by
    have hreach : ¬ (t ++ u).byteLength + 1 < start := Nat.not_lt.mpr (Nat.le_succ_of_le h)
    have hplace' : placeFrom start (t ++ u).length (.ofText (t ++ u)) = some (.behind t u) := hplace
    rw [findFrom, if_neg hreach, hplace', Option.bind_some]
    exact congrArg _ (r.searchFrom_behind t u)
  have hfirst {m : Match}
      (hm : Text.firstPlace (fun t u => r.matchAt? (.behind t u)) t u = some m) :
      r.IsFirst (t ++ u) start m := by
    obtain ⟨x, y, rfl, hat, hnone⟩ := Text.exists_of_firstPlace hm
    obtain ⟨hfirst, w, hw⟩ := matchAt?_eq_some_iff.mp hat
    refine ⟨⟨t ++ x, y, by simp, hfirst⟩, ?_, ⟨w, hfirst ▸ hw⟩, fun t' u' htu hle hlt => ?_⟩
    · rw [hfirst, Cursor.offset_behind, Text.byteLength_append]
      exact Nat.le_add_right_of_le hstart
    · obtain ⟨x', rfl, hx'⟩ := hbehind t' u' htu hle
      rw [hfirst, Cursor.offset_behind, Text.byteLength_append, Text.byteLength_append,
        Nat.add_lt_add_iff_left] at hlt
      exact matchAt?_eq_none_iff.mp (hnone x' u' hx' (length_lt_of_byteLength_lt hx'.symm hlt))
  rw [hfind, Except.ok.injEq]
  refine ⟨hfirst, fun hm => ?_⟩
  cases hfound : Text.firstPlace (fun t u => r.matchAt? (.behind t u)) t u with
  | some m' => rw [hm.unique (hfirst hfound)]
  | none =>
      obtain ⟨t', u', htu, hplace⟩ := hm.place
      have hle := hm.start_le
      rw [hplace] at hle
      obtain ⟨x, rfl, hx⟩ := hbehind t' u' htu hle
      have hnone := matchAt?_eq_none_iff.mp (Text.firstPlace_eq_none_iff.mp hfound x u' hx)
      exact absurd (hplace ▸ hnone) hm.ends_ne_empty

theorem find?_eq_some_iff : r.find? b = some m ↔ r.IsFirst b 0 m := by
  rw [← findFrom_eq_some_iff (Nat.zero_le _), findFrom_zero, Except.ok.injEq]

namespace Searcher

theorem findsFirst_backtracking (r : Regex) : backtracking.FindsFirst r := by
  intro b span
  have hfind : backtracking.find? r b = (r.find? b).map Match.span := rfl
  rw [hfind, Option.map_eq_some_iff]
  exact exists_congr fun m => and_congr find?_eq_some_iff Iff.rfl

theorem capturesFirst_backtracking (r : Regex) : backtracking.CapturesFirst r :=
  fun _ _ _ => findFrom_eq_some_iff

end Searcher

end AnchorPatch.Regex
