import AnchorPatch.Anchor.Locate
import AnchorPatch.Proofs.Regex.Find
import AnchorPatch.Proofs.Text.Occurs

namespace AnchorPatch

variable {α : Type} {b t u before rest : Text} {span : Span}

namespace Text

/-- Asks at one place of a text after another, each time for what stands before and behind it. -/
def firstPlace (f : Text → Text → Option α) (before : Text) : Text → Option α
  | [] => f before []
  | c :: s =>
      match f before (c :: s) with
      | some a => some a
      | none => firstPlace f (before ++ [c]) s

variable {f : Text → Text → Option α} {a : α}

theorem map_firstPlace {β : Type} (f : Text → Text → Option α) (g : α → β) (before rest : Text) :
    (firstPlace f before rest).map g = firstPlace (fun t u => (f t u).map g) before rest := by
  induction rest generalizing before with
  | nil => rfl
  | cons c s ih =>
      rw [firstPlace, firstPlace, ← ih]
      cases f before (c :: s) with
      | none => rfl
      | some a => rfl

theorem firstPlace_eq_none_iff :
    firstPlace f before rest = none ↔ ∀ t u, rest = t ++ u → f (before ++ t) u = none := by
  induction rest generalizing before with
  | nil => simp [firstPlace]
  | cons c s ih =>
      rw [firstPlace]
      constructor
      · intro h t u htu
        split at h
        · cases h
        next hnone =>
          rcases List.cons_eq_append_iff.mp htu with ⟨rfl, rfl⟩ | ⟨t', rfl, rfl⟩
          · rwa [List.append_nil]
          · rw [List.append_cons]
            exact ih.mp h t' u rfl
      · intro h
        have hnone : f before (c :: s) = none := by simpa using h [] (c :: s) rfl
        rw [hnone]
        refine ih.mpr fun t u htu => ?_
        rw [List.append_assoc]
        exact h (c :: t) u (congrArg (c :: ·) htu)

theorem firstPlace_append (before : Text)
    (h : ∀ t u, rest = t ++ u → u ≠ [] → f (before ++ t) (u ++ b) = none) :
    firstPlace f before (rest ++ b) = firstPlace f (before ++ rest) b := by
  induction rest generalizing before with
  | nil => rw [List.nil_append, List.append_nil]
  | cons c s ih =>
      have hnone : f before (c :: (s ++ b)) = none := by simpa using h [] (c :: s) rfl (by simp)
      rw [List.cons_append, firstPlace, hnone]
      have hrest : firstPlace f (before ++ [c]) (s ++ b) = firstPlace f (before ++ [c] ++ s) b := by
        refine ih (before ++ [c]) fun t u htu hu => ?_
        rw [List.append_assoc]
        exact h (c :: t) u (congrArg (c :: ·) htu) hu
      rw [hrest, List.append_assoc, List.singleton_append]

theorem exists_of_firstPlace (h : firstPlace f before rest = some a) :
    ∃ t u, rest = t ++ u ∧ f (before ++ t) u = some a ∧
      ∀ t' u', rest = t' ++ u' → t'.length < t.length → f (before ++ t') u' = none := by
  induction rest generalizing before with
  | nil => exact ⟨[], [], rfl, by rwa [List.append_nil], fun t' u' _ hlt => absurd hlt (by simp)⟩
  | cons c s ih =>
      rw [firstPlace] at h
      split at h
      next a' ha' =>
        cases h
        exact ⟨[], c :: s, rfl, by rwa [List.append_nil], fun t' u' _ hlt => absurd hlt (by simp)⟩
      next hnone =>
        obtain ⟨t, u, rfl, ha, hbefore⟩ := ih h
        refine ⟨c :: t, u, rfl, by rwa [List.append_cons], fun t' u' htu hlt => ?_⟩
        rcases List.cons_eq_append_iff.mp htu with ⟨rfl, rfl⟩ | ⟨t'', rfl, hrest⟩
        · rwa [List.append_nil]
        · rw [List.append_cons]
          exact hbefore t'' u' hrest (Nat.lt_of_succ_lt_succ hlt)

end Text

theorem Span.start_le_of_length_le {p q : Span} (h : p.whole = q.whole)
    (hlength : p.before.length ≤ q.before.length) : p.start ≤ q.start := by
  rw [Span.whole, Span.whole, List.append_assoc, List.append_assoc] at h
  have hprefix : p.before <+: q.before :=
    List.prefix_of_prefix_length_le ⟨_, h⟩ ⟨_, rfl⟩ hlength
  obtain ⟨t, ht⟩ := hprefix
  rw [Span.start, Span.start, ← ht, Text.byteLength_append]
  exact Nat.le_add_right _ _

namespace Regex

/-- The place in a text between what stands before it and behind it. -/
def Cursor.behind (before rest : Text) : Cursor where
  before := before.reverse
  after := rest
  offset := before.byteLength
  groups := []
  offset_eq := (Text.byteLength_reverse before).symm

@[simp] theorem Cursor.offset_behind (before rest : Text) :
    (behind before rest).offset = before.byteLength := rfl

theorem Cursor.next?_behind (before : Text) (c : Char) (rest : Text) :
    (behind before (c :: rest)).next? = some (behind (before ++ [c]) rest) := by
  simp [behind, next?]

theorem Cursor.whole_behind (before rest : Text) : (behind before rest).whole = before ++ rest := by
  simp [behind, whole]

variable {r : Regex} {m : Match}

theorem searchFrom_behind (r : Regex) (before rest : Text) :
    r.searchFrom rest.length (.behind before rest) [] =
      Text.firstPlace (fun t u => r.matchAt? (.behind t u)) before rest := by
  induction rest generalizing before with
  | nil => rfl
  | cons c rest ih =>
      rw [List.length_cons, searchFrom_succ, Text.firstPlace, Cursor.next?_behind, Option.bind_some, ih]
      cases r.matchAt? (.behind before (c :: rest)) with
      | none => rfl
      | some m => rfl

theorem find?_eq_firstPlace (r : Regex) (s : Text) :
    r.find? s = Text.firstPlace (fun t u => r.matchAt? (.behind t u)) [] s :=
  r.searchFrom_behind [] s

end Regex

namespace Pattern

/-- A pattern matches at a place: a plain text stands there, and of all ways through a regular
expression that begin at its front the preferred one ends behind it. -/
def Matches : Pattern → Span → Prop
  | .text s, span => span.matched = s
  | .regex r, span =>
      ∃ (m : Regex.Match) (w : List Bool),
        m.first = .behind span.before (span.matched ++ span.after) ∧
          r.expr.Prefers m.first w m.last ∧ m.span = span

/-- The match of a pattern that begins between two parts of a text. -/
def matchBetween? (p : Pattern) (before rest : Text) : Option Span :=
  match p with
  | .text s => (Text.dropPiece? s rest).map fun after => ⟨before, s, after⟩
  | .regex r => (r.matchAt? (.behind before rest)).map Regex.Match.span

variable {p : Pattern}

theorem findFrom_eq_firstPlace (piece before s : Text) :
    Text.findFrom piece before s =
      Text.firstPlace (matchBetween? (.text piece)) before.reverse s := by
  induction s generalizing before with
  | nil => cases piece <;> rfl
  | cons c s ih =>
      rw [Text.findFrom, Text.firstPlace, matchBetween?]
      cases Text.dropPiece? piece (c :: s) with
      | none =>
          rw [ih, List.reverse_cons]
          rfl
      | some after => rfl

theorem find?_eq_firstPlace (p : Pattern) (b : Text) :
    p.find? b = Text.firstPlace p.matchBetween? [] b := by
  cases p with
  | text s => exact findFrom_eq_firstPlace s [] b
  | regex r =>
      have hfind : (regex r).find? b = (r.find? b).map Regex.Match.span := rfl
      rw [hfind, Regex.find?_eq_firstPlace, Text.map_firstPlace]
      rfl

theorem whole_of_matchBetween? (h : p.matchBetween? before rest = some span) :
    span.before = before ∧ span.whole = before ++ rest := by
  cases p with
  | text s =>
      obtain ⟨after, hafter, rfl⟩ := Option.map_eq_some_iff.mp h
      rw [Span.whole, List.append_assoc, Text.append_of_dropPiece? hafter]
      exact ⟨rfl, rfl⟩
  | regex r =>
      obtain ⟨m, hm, rfl⟩ := Option.map_eq_some_iff.mp h
      obtain ⟨hfirst, -⟩ := Regex.matchAt?_eq_some_iff.mp hm
      obtain ⟨t, -, hpass⟩ := Regex.Expr.leads_of_mem_ends (Regex.mem_ends_of_matchAt? hm)
      rw [← hfirst] at hpass
      rw [(Regex.span_of_passes hpass).2, hfirst, Regex.Cursor.whole_behind]
      exact ⟨by rw [Regex.Match.span, hfirst, Regex.Cursor.behind, List.reverse_reverse], rfl⟩

theorem matchBetween?_eq_some_iff :
    p.matchBetween? before rest = some span ↔
      span.before = before ∧ span.matched ++ span.after = rest ∧ p.Matches span := by
  constructor
  · intro h
    obtain ⟨rfl, hwhole⟩ := whole_of_matchBetween? h
    rw [Span.whole, List.append_assoc, List.append_cancel_left_eq] at hwhole
    subst hwhole
    refine ⟨rfl, rfl, ?_⟩
    cases p with
    | text s =>
        obtain ⟨after, -, hspan⟩ := Option.map_eq_some_iff.mp h
        exact (congrArg Span.matched hspan).symm
    | regex r =>
        obtain ⟨m, hm, hspan⟩ := Option.map_eq_some_iff.mp h
        obtain ⟨hfirst, w, hw⟩ := Regex.matchAt?_eq_some_iff.mp hm
        exact ⟨m, w, hfirst, hfirst ▸ hw, hspan⟩
  · rintro ⟨rfl, rfl, h⟩
    cases p with
    | text s =>
        obtain rfl : span.matched = s := h
        rw [matchBetween?, Text.dropPiece?_append]
        rfl
    | regex r =>
        obtain ⟨m, w, hfirst, hw, hspan⟩ := h
        have hm := Regex.matchAt?_eq_some_iff.mpr ⟨hfirst, w, hfirst ▸ hw⟩
        exact Option.map_eq_some_iff.mpr ⟨m, hm, hspan⟩

/-- No place of a text is one at which the pattern matches. -/
def MatchesNowhere (p : Pattern) (b : Text) : Prop := ∀ span : Span, span.whole = b → ¬ p.Matches span

/-- The leftmost place of a text at which a pattern matches. -/
structure IsLeftmost (p : Pattern) (b : Text) (span : Span) : Prop where
  whole_eq : span.whole = b
  isMatch : p.Matches span
  start_le : ∀ other : Span, other.whole = b → p.Matches other → span.start ≤ other.start

theorem IsLeftmost.unique {other : Span} (h : p.IsLeftmost b span) (h' : p.IsLeftmost b other) :
    span = other := by
  have hstart := Nat.le_antisymm (h.start_le other h'.whole_eq h'.isMatch)
    (h'.start_le span h.whole_eq h.isMatch)
  have hwhole := h.whole_eq.trans h'.whole_eq.symm
  rw [Span.whole, Span.whole, List.append_assoc, List.append_assoc] at hwhole
  have hbefore := Text.eq_of_byteLength hwhole hstart
  have hrest : span.matched ++ span.after = other.matched ++ other.after := by
    rwa [hbefore, List.append_cancel_left_eq] at hwhole
  have hsome := matchBetween?_eq_some_iff.mpr ⟨hbefore, hrest, h.isMatch⟩
  rw [matchBetween?_eq_some_iff.mpr ⟨rfl, rfl, h'.isMatch⟩] at hsome
  exact (Option.some.inj hsome).symm

theorem find?_eq_none_iff : p.find? b = none ↔ p.MatchesNowhere b := by
  rw [find?_eq_firstPlace, Text.firstPlace_eq_none_iff]
  constructor
  · rintro h span rfl hmatch
    have hnone := h span.before (span.matched ++ span.after) (List.append_assoc ..)
    rw [List.nil_append, matchBetween?_eq_some_iff.mpr ⟨rfl, rfl, hmatch⟩] at hnone
    cases hnone
  · rintro h t u rfl
    rw [List.nil_append, Option.eq_none_iff_forall_ne_some]
    intro span hspan
    obtain ⟨rfl, rfl, hmatch⟩ := matchBetween?_eq_some_iff.mp hspan
    exact h span (List.append_assoc ..) hmatch

theorem isLeftmost_of_find? (h : p.find? b = some span) : p.IsLeftmost b span := by
  rw [find?_eq_firstPlace] at h
  obtain ⟨t, u, rfl, hspan, hbefore⟩ := Text.exists_of_firstPlace h
  rw [List.nil_append] at hspan
  obtain ⟨rfl, rfl, hmatch⟩ := matchBetween?_eq_some_iff.mp hspan
  refine ⟨List.append_assoc .., hmatch, fun other hwhole hother => ?_⟩
  have hlength : span.before.length ≤ other.before.length := by
    refine Nat.le_of_not_lt fun hlt => ?_
    have hnone := hbefore other.before (other.matched ++ other.after)
      (by rw [← hwhole, Span.whole, List.append_assoc]) hlt
    rw [List.nil_append, matchBetween?_eq_some_iff.mpr ⟨rfl, rfl, hother⟩] at hnone
    cases hnone
  refine Span.start_le_of_length_le ?_ hlength
  rw [hwhole, Span.whole, List.append_assoc]

/-- A search finds the leftmost place at which its pattern matches. -/
theorem find?_eq_some_iff : p.find? b = some span ↔ p.IsLeftmost b span := by
  refine ⟨isLeftmost_of_find?, fun h => ?_⟩
  cases hfind : p.find? b with
  | none => exact absurd h.isMatch (find?_eq_none_iff.mp hfind span h.whole_eq)
  | some other => rw [(isLeftmost_of_find? hfind).unique h]

end Pattern

namespace AnchorPair

variable {a : AnchorPair} {found : Located}

/-- Where a pair of anchors finds its place: the leftmost match of the first anchor, or that of the
second one in a text in which the first one matches nowhere. -/
inductive Finds (a : AnchorPair) (b : Text) : Located → Prop
  | primary {span : Span} (h : a.primary.pattern.IsLeftmost b span) :
      Finds a b ⟨.primary, a.primary, span⟩
  | fallback {anchor : Anchor} {span : Span} (hprimary : a.primary.pattern.MatchesNowhere b)
      (hanchor : a.fallback = some anchor) (h : anchor.pattern.IsLeftmost b span) :
      Finds a b ⟨.fallback, anchor, span⟩

theorem Finds.isLeftmost (h : a.Finds b found) :
    found.anchor.pattern.IsLeftmost b found.span := by
  cases h with
  | primary h => exact h
  | fallback _ _ h => exact h

theorem locate_eq_some_iff : a.locate b = some found ↔ a.Finds b found := by
  unfold locate
  constructor
  · intro h
    split at h
    next span hspan =>
      cases h
      exact .primary (Pattern.find?_eq_some_iff.mp hspan)
    next hnone =>
      obtain ⟨anchor, hanchor, h⟩ := Option.bind_eq_some_iff.mp h
      obtain ⟨span, hspan, h⟩ := Option.bind_eq_some_iff.mp h
      cases h
      exact .fallback (Pattern.find?_eq_none_iff.mp hnone) hanchor
        (Pattern.find?_eq_some_iff.mp hspan)
  · intro h
    cases h with
    | primary h => rw [Pattern.find?_eq_some_iff.mpr h]
    | fallback hprimary hanchor h =>
        rw [Pattern.find?_eq_none_iff.mpr hprimary, hanchor]
        simp [Pattern.find?_eq_some_iff.mpr h]

end AnchorPair

end AnchorPatch
