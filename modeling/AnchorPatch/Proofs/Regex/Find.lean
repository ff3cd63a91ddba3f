import AnchorPatch.Regex.Basic
import AnchorPatch.Proofs.Regex.Covers
import AnchorPatch.Proofs.Regex.Preferred

namespace AnchorPatch.Regex

open Cursor (Passes)

variable {r : Regex} {c : Cursor} {m : Match} {n : Nat} {s t u w : Text} {v : Visited}

theorem matchAt?_eq_some_iff :
    r.matchAt? c = some m ↔ m.first = c ∧ ∃ w, r.expr.Prefers c w m.last := by
  obtain ⟨first, last⟩ := m
  rcases Expr.search_cases (r.expr.spent_nil c) with ⟨w, d, v, hsearch, hd⟩ | ⟨v, hsearch, hnone, -⟩
  · rw [matchAt?, hsearch]
    constructor
    · intro h
      cases h
      exact ⟨rfl, w, hd⟩
    · rintro ⟨rfl, w', hlast⟩
      rw [(hd.unique hlast).2]
      rfl
  · rw [matchAt?, hsearch]
    constructor
    · nofun
    · rintro ⟨-, w, hlast⟩
      have hmem : last ∈ r.expr.ends c := ⟨w, hlast.goes⟩
      rw [hnone] at hmem
      exact absurd hmem (Set.notMem_empty _)

theorem matchAt?_eq_none_iff : r.matchAt? c = none ↔ r.expr.ends c = ∅ := by
  rcases Expr.search_cases (r.expr.spent_nil c) with ⟨w, d, v, hsearch, hd⟩ | ⟨v, hsearch, hnone, -⟩
  · rw [matchAt?, hsearch]
    refine ⟨nofun, fun hnone => ?_⟩
    have hmem : d ∈ r.expr.ends c := ⟨w, hd.goes⟩
    rw [hnone] at hmem
    exact absurd hmem (Set.notMem_empty _)
  · rw [matchAt?, hsearch]
    exact ⟨fun _ => hnone, fun _ => rfl⟩

theorem mem_ends_of_matchAt? (h : r.matchAt? c = some m) : m.last ∈ r.expr.ends c := by
  obtain ⟨-, w, hw⟩ := matchAt?_eq_some_iff.mp h
  exact ⟨w, hw.goes⟩

theorem searchFrom_eq_of_spent (h : r.expr.Spent v c)
    (hrest : ∀ d v', r.expr.Spent v' d → r.searchFrom n d v' = r.searchFrom n d []) :
    r.searchFrom (n + 1) c v =
      match r.matchAt? c with
      | some m => some m
      | none => c.next?.bind fun d => r.searchFrom n d [] := by
  rw [searchFrom]
  rcases Expr.search_cases h with ⟨w, d, v', hsearch, hd⟩ | ⟨v', hsearch, hnone, hspent⟩
  · have hat : r.matchAt? c = some ⟨c, d⟩ := matchAt?_eq_some_iff.mpr ⟨rfl, w, hd⟩
    rw [hsearch, hat]
  · rw [hsearch, matchAt?_eq_none_iff.mpr hnone]
    cases hnext : c.next? with
    | none => rfl
    | some d => exact hrest d v' (hspent.next hnext)

/-- As long as no way leads on from what was visited, a search answers as if nothing was. -/
theorem searchFrom_of_spent (h : r.expr.Spent v c) : r.searchFrom n c v = r.searchFrom n c [] := by
  induction n generalizing c v with
  | zero =>
      rcases Expr.search_cases h with ⟨w, d, v', hsearch, hd⟩ | ⟨v', hsearch, hnone, -⟩
      · have hat : r.matchAt? c = some ⟨c, d⟩ := matchAt?_eq_some_iff.mpr ⟨rfl, w, hd⟩
        rw [searchFrom, hsearch]
        exact hat.symm
      · rw [searchFrom, hsearch]
        exact (matchAt?_eq_none_iff.mpr hnone).symm
  | succ n ih =>
      rw [searchFrom_eq_of_spent h fun d v' => ih,
        searchFrom_eq_of_spent (r.expr.spent_nil c) fun d v' => ih]

theorem searchFrom_succ (r : Regex) (n : Nat) (c : Cursor) :
    r.searchFrom (n + 1) c [] =
      match r.matchAt? c with
      | some m => some m
      | none => c.next?.bind fun d => r.searchFrom n d [] :=
  searchFrom_eq_of_spent (r.expr.spent_nil c) fun _ _ => searchFrom_of_spent

theorem exists_of_searchFrom (h : r.searchFrom n c [] = some m) :
    (∃ t, c.Passes t m.first) ∧ m.last ∈ r.expr.ends m.first := by
  have hat {c : Cursor} (h : r.matchAt? c = some m) :
      (∃ t, c.Passes t m.first) ∧ m.last ∈ r.expr.ends m.first := by
    have hmem := mem_ends_of_matchAt? h
    obtain ⟨rfl, -⟩ := matchAt?_eq_some_iff.mp h
    exact ⟨⟨[], .refl _⟩, hmem⟩
  induction n generalizing c with
  | zero => exact hat h
  | succ n ih =>
      rw [searchFrom_succ] at h
      split at h
      next m' hm =>
        cases h
        exact hat hm
      · obtain ⟨d, hd, h⟩ := Option.bind_eq_some_iff.mp h
        obtain ⟨x, hx⟩ := Cursor.passes_of_next? hd
        obtain ⟨⟨t, ht⟩, hlast⟩ := ih h
        exact ⟨⟨[x] ++ t, hx.trans ht⟩, hlast⟩

theorem span_of_passes (h : m.first.Passes t m.last) :
    m.span.matched = t ∧ m.span.whole = m.first.whole := by
  have hmatched : m.span.matched = t := by
    simp [Match.span, h.2]
  refine ⟨hmatched, ?_⟩
  rw [Span.whole, hmatched]
  simp [Match.span, Cursor.whole, h.1]

theorem span_of_find? (h : r.find? s = some m) :
    m.span.whole = s ∧ r.expr.Reads m.span.matched := by
  obtain ⟨⟨t, ht⟩, hlast⟩ := exists_of_searchFrom h
  obtain ⟨u, hu, hpass⟩ := Expr.leads_of_mem_ends hlast
  obtain ⟨hmatched, hwhole⟩ := span_of_passes hpass
  refine ⟨?_, hmatched ▸ hu⟩
  rw [hwhole, ht.whole_eq]
  rfl

theorem searchFrom_ne_none (hw : r.expr.Covers w) (hafter : c.after = t ++ (w ++ u))
    (hn : t.length ≤ n) : r.searchFrom n c [] ≠ none := by
  have hat {c : Cursor} (hafter : c.after = w ++ u) : r.matchAt? c ≠ none := by
    obtain ⟨v, y, hway, -⟩ := hw [] ⟨c, []⟩ u hafter (Spot.fresh_of_made_eq_nil rfl)
    rw [ne_eq, matchAt?_eq_none_iff]
    exact Set.nonempty_iff_ne_empty.mp ⟨y.cursor, v, y.made, hway⟩
  induction t generalizing c n with
  | nil =>
      cases n with
      | zero => exact hat hafter
      | succ n =>
          rw [searchFrom_succ]
          split
          · simp
          next hnone => exact absurd hnone (hat hafter)
  | cons x t ih =>
      obtain ⟨n, rfl⟩ := Nat.exists_eq_add_of_le' (Nat.lt_of_lt_of_le (Nat.succ_pos t.length) hn)
      rw [searchFrom_succ]
      split
      · simp
      · obtain ⟨before, after, offset, groups, hoffset⟩ := c
        obtain rfl : after = x :: (t ++ (w ++ u)) := hafter
        exact ih rfl (Nat.le_of_succ_le_succ hn)

theorem find?_ne_none (hw : r.expr.Covers w) (t u : Text) : r.find? (t ++ (w ++ u)) ≠ none := by
  refine searchFrom_ne_none hw (show (Cursor.ofText (t ++ (w ++ u))).after = _ from rfl) ?_
  rw [Cursor.ofText, List.length_append]
  exact Nat.le_add_right _ _

end AnchorPatch.Regex
