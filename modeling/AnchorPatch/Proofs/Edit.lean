import AnchorPatch.Edit

namespace AnchorPatch

variable {b s t u : Text} {m n : Nat}

namespace Text

/-- The UTF-8 form of a text. -/
def utf8 (s : Text) : List UInt8 := s.flatMap String.utf8EncodeChar

theorem utf8_append (s t : Text) : utf8 (s ++ t) = utf8 s ++ utf8 t := List.flatMap_append

theorem length_utf8 (s : Text) : s.utf8.length = s.byteLength := by
  induction s with
  | nil => rfl
  | cons c s ih =>
      rw [utf8, List.flatMap_cons, List.length_append, String.length_utf8EncodeChar,
        byteLength_cons, ← ih, utf8]

theorem splitAt?_eq_some_iff : splitAt? n s = some (t, u) ↔ s = t ++ u ∧ t.byteLength = n := by
  constructor
  · intro h
    exact ⟨(append_of_splitAt? h).symm, byteLength_of_splitAt? h⟩
  · rintro ⟨rfl, rfl⟩
    exact splitAt?_byteLength t u

theorem isBoundary_iff : s.IsBoundary n ↔ ∃ t u, s = t ++ u ∧ t.byteLength = n := by
  simp only [IsBoundary, Option.isSome_iff_exists, Prod.exists, splitAt?_eq_some_iff]

theorem isBoundary_append_iff : (t ++ u).IsBoundary (t.byteLength + n) ↔ u.IsBoundary n := by
  simp only [isBoundary_iff]
  constructor
  · rintro ⟨x, y, hxy, hlength⟩
    rcases List.append_eq_append_iff.mp hxy with ⟨z, rfl, rfl⟩ | ⟨z, rfl, rfl⟩
    · rw [byteLength_append, Nat.add_left_cancel_iff] at hlength
      exact ⟨z, y, rfl, hlength⟩
    · rw [byteLength_append] at hlength
      exact ⟨[], u, rfl, by rw [byteLength_nil]; omega⟩
  · rintro ⟨x, y, rfl, rfl⟩
    exact ⟨t ++ x, y, (List.append_assoc ..).symm, byteLength_append t x⟩

end Text

namespace Span

theorem splitAt?_start (p : Span) :
    p.whole.splitAt? p.start = some (p.before, p.matched ++ p.after) := by
  rw [whole, List.append_assoc]
  exact Text.splitAt?_byteLength _ _

theorem splitAt?_stop (p : Span) :
    Text.splitAt? (p.stop - p.start) (p.matched ++ p.after) = some (p.matched, p.after) := by
  have hlength : p.stop - p.start = p.matched.byteLength := by
    simp [start, stop]
  rw [hlength]
  exact Text.splitAt?_byteLength _ _

theorem splitAt?_whole_stop (p : Span) :
    p.whole.splitAt? p.stop = some (p.before ++ p.matched, p.after) := by
  have hlength : p.stop = (p.before ++ p.matched).byteLength := by
    rw [stop, Text.byteLength_append]
  rw [hlength]
  exact Text.splitAt?_byteLength _ _

/-- The bytes between the two ends of a place are what stands there, and both ends are positions of
the text. -/
theorem slice?_whole (p : Span) : p.whole.slice? p.start p.stop = some p.matched := by
  have hle : ¬ p.stop < p.start := by
    simp [start, stop]
  simp [Text.slice?, hle, p.splitAt?_start, p.splitAt?_stop]

theorem start_le_byteLength (p : Span) : p.start ≤ p.whole.byteLength := by
  simp only [start, whole, Text.byteLength_append]
  omega

end Span

namespace Edit

/-- The range of an edit is a range of the buffer. -/
def InRange (e : Edit) (b : Text) : Prop := e.start ≤ e.stop ∧ e.stop ≤ b.byteLength

/-- The place in the buffer that an edit names. -/
structure Names (e : Edit) (b : Text) (span : Span) : Prop where
  whole_eq : span.whole = b
  start_eq : span.start = e.start
  stop_eq : span.stop = e.stop

/-- What an edit makes of a buffer. -/
inductive Contract (e : Edit) (b : Text) : Except EditError (Text × EditResult) → Prop
  | badRange (hrange : ¬ e.InRange b) :
      Contract e b (.error (.badRange e.start e.stop b.byteLength))
  | splitsStart (hrange : e.InRange b) (hstart : ¬ b.IsBoundary e.start) :
      Contract e b (.error (.splitsCharacter e.start))
  | splitsStop (hrange : e.InRange b) (hstart : b.IsBoundary e.start)
      (hstop : ¬ b.IsBoundary e.stop) : Contract e b (.error (.splitsCharacter e.stop))
  | alreadyApplied {span : Span} (hspan : e.Names b span) (hnew : span.matched = e.newText) :
      Contract e b (.ok (b, .alreadyApplied))
  | applied {span : Span} (hspan : e.Names b span) (hnew : span.matched ≠ e.newText)
      (hexpected : e.expected.accepts span.matched = true) :
      Contract e b
        (.ok (span.before ++ e.newText ++ span.after, .applied e.newText.byteLength))
  | unexpected {span : Span} (hspan : e.Names b span) (hnew : span.matched ≠ e.newText)
      (hexpected : e.expected.accepts span.matched = false) :
      Contract e b (.error (.unexpectedText e.start e.stop span.matched))

variable {e : Edit} {span : Span} {result : Except EditError (Text × EditResult)}

theorem locate_eq_ok (h : e.Names b span) : e.locate b = .ok span := by
  obtain ⟨rfl, hstart, hstop⟩ := h
  have hrange : ¬ (span.stop < span.start ∨ span.whole.byteLength < span.stop) := by
    simp only [Span.start, Span.stop, Span.whole, Text.byteLength_append]
    omega
  simp only [locate, ← hstart, ← hstop, if_neg hrange, span.splitAt?_start, span.splitAt?_stop]

theorem exists_contract (e : Edit) (b : Text) : ∃ result, e.Contract b result := by
  by_cases hrange : e.InRange b
  · by_cases hstart : b.IsBoundary e.start
    · by_cases hstop : b.IsBoundary e.stop
      · obtain ⟨before, rest, rfl, hbefore⟩ := Text.isBoundary_iff.mp hstart
        obtain ⟨n, hn⟩ := Nat.exists_eq_add_of_le hrange.1
        rw [hn, ← hbefore, Text.isBoundary_append_iff] at hstop
        obtain ⟨matched, after, rfl, hmatched⟩ := Text.isBoundary_iff.mp hstop
        have hspan : e.Names (before ++ (matched ++ after)) ⟨before, matched, after⟩ := by
          refine ⟨List.append_assoc .., hbefore, ?_⟩
          rw [Span.stop, hbefore, hmatched, hn]
        by_cases hnew : matched = e.newText
        · exact ⟨_, .alreadyApplied hspan hnew⟩
        · cases hexpected : e.expected.accepts matched with
          | true => exact ⟨_, .applied hspan hnew hexpected⟩
          | false => exact ⟨_, .unexpected hspan hnew hexpected⟩
      · exact ⟨_, .splitsStop hrange hstart hstop⟩
    · exact ⟨_, .splitsStart hrange hstart⟩
  · exact ⟨_, .badRange hrange⟩

theorem apply_of_contract (h : e.Contract b result) : e.apply b = result := by
  have hin (hrange : e.InRange b) : ¬ (e.stop < e.start ∨ b.byteLength < e.stop) := by
    rw [InRange] at hrange
    omega
  cases h with
  | badRange hrange =>
      have hout : e.stop < e.start ∨ b.byteLength < e.stop := by
        rw [InRange] at hrange
        omega
      rw [apply, locate, if_pos hout]
      rfl
  | splitsStart hrange hstart =>
      rw [Text.IsBoundary, Option.not_isSome_iff_eq_none] at hstart
      rw [apply, locate, if_neg (hin hrange), hstart]
      rfl
  | splitsStop hrange hstart hstop =>
      obtain ⟨before, rest, rfl, hbefore⟩ := Text.isBoundary_iff.mp hstart
      obtain ⟨n, hn⟩ := Nat.exists_eq_add_of_le hrange.1
      rw [hn, ← hbefore, Text.isBoundary_append_iff, Text.IsBoundary,
        Option.not_isSome_iff_eq_none] at hstop
      have hrest : rest.splitAt? (e.stop - e.start) = none := by
        rw [hn, Nat.add_sub_cancel_left, hstop]
      have hsplit := Text.splitAt?_byteLength before rest
      rw [hbefore] at hsplit
      simp only [apply, locate, if_neg (hin hrange), hsplit, hrest]
      rfl
  | alreadyApplied hspan hnew =>
      rw [apply, locate_eq_ok hspan]
      exact if_pos hnew
  | applied hspan hnew hexpected =>
      rw [apply, locate_eq_ok hspan]
      exact (if_neg hnew).trans (if_pos hexpected)
  | unexpected hspan hnew hexpected =>
      rw [apply, locate_eq_ok hspan]
      exact (if_neg hnew).trans (if_neg (by simp [hexpected]))

theorem apply_eq_iff : e.apply b = result ↔ e.Contract b result := by
  refine ⟨?_, apply_of_contract⟩
  rintro rfl
  obtain ⟨result, h⟩ := exists_contract e b
  exact apply_of_contract h ▸ h

theorem apply_replacing (p : Span) (newText : Text) :
    (replacing p.start p.stop newText p.matched).apply p.whole =
      if p.matched = newText then .ok (p.whole, .alreadyApplied)
      else .ok (p.before ++ newText ++ p.after, .applied newText.byteLength) := by
  have hspan : (replacing p.start p.stop newText p.matched).Names p.whole p := ⟨rfl, rfl, rfl⟩
  split
  next hnew => exact apply_of_contract (.alreadyApplied hspan hnew)
  next hnew =>
    exact apply_of_contract (.applied hspan hnew (Expectation.accepts_ofText p.matched))

theorem utf8_of_names (h : e.Names b span) :
    (span.before ++ e.newText ++ span.after).utf8 =
      b.utf8.take e.start ++ e.newText.utf8 ++ b.utf8.drop e.stop := by
  obtain ⟨rfl, hstart, hstop⟩ := h
  have hbefore : span.before.utf8.length = e.start := by
    rw [Text.length_utf8, ← hstart, Span.start]
  have hupto : (span.before ++ span.matched).utf8.length = e.stop := by
    rw [Text.length_utf8, ← hstop, Span.stop, Text.byteLength_append]
  have htake : span.whole.utf8.take e.start = span.before.utf8 := by
    rw [Span.whole, List.append_assoc, Text.utf8_append, ← hbefore, List.take_left]
  have hdrop : span.whole.utf8.drop e.stop = span.after.utf8 := by
    rw [Span.whole, Text.utf8_append, ← hupto, List.drop_left]
  rw [htake, hdrop, Text.utf8_append, Text.utf8_append]

theorem ne_of_applied {b' : Text} (h : e.apply b = .ok (b', .applied n)) :
    b' ≠ b ∧ b'.utf8 = b.utf8.take e.start ++ e.newText.utf8 ++ b.utf8.drop e.stop := by
  cases apply_eq_iff.mp h with
  | @applied span hspan hnew =>
      refine ⟨?_, utf8_of_names hspan⟩
      rw [← hspan.whole_eq, Span.whole]
      simpa using Ne.symm hnew

end Edit

theorem Expectation.accepts_ofText_iff (before text : Text) :
    (ofText before).accepts text = true ↔
      if before.byteLength ≤ 1024 then text = before
      else text.fingerprint = before.fingerprint := by
  rw [ofText, exactLimit]
  by_cases h : before.byteLength ≤ 1024
  · simp only [if_neg (Nat.not_lt.mpr h), if_pos h, accepts, decide_eq_true_eq]
  · simp only [if_pos (Nat.not_le.mp h), if_neg h, accepts, decide_eq_true_eq]

/-- What a sequence of edits made of a buffer. -/
structure EditRun where
  buffer : Text
  results : List (Except EditError EditResult)

namespace Edit

/-- Applies edits one after another to one buffer, and goes on behind an edit that fails. -/
def applyAll : List Edit → Text → EditRun
  | [], b => { buffer := b, results := [] }
  | e :: es, b =>
      match e.apply b with
      | .ok (b', result) =>
          let run := applyAll es b'
          { run with results := .ok result :: run.results }
      | .error cause =>
          let run := applyAll es b
          { run with results := .error cause :: run.results }

theorem applyAll_append (es es' : List Edit) (b : Text) :
    applyAll (es ++ es') b =
      { buffer := (applyAll es' (applyAll es b).buffer).buffer
        results := (applyAll es b).results ++ (applyAll es' (applyAll es b).buffer).results } := by
  induction es generalizing b with
  | nil => rfl
  | cons e es ih =>
      rw [List.cons_append, applyAll, applyAll]
      cases e.apply b with
      | ok r => simp only [ih, List.cons_append]
      | error cause => simp only [ih, List.cons_append]

variable {e : Edit} {es : List Edit} {cause : EditError}

theorem applyAll_of_error (es' : List Edit)
    (h : e.apply (applyAll es b).buffer = .error cause) :
    (applyAll (es ++ e :: es') b).buffer = (applyAll (es ++ es') b).buffer ∧
      (applyAll (es ++ e :: es') b).results =
        (applyAll es b).results ++ .error cause ::
          (applyAll es' (applyAll es b).buffer).results := by
  rw [applyAll_append, applyAll_append, applyAll, h]
  exact ⟨rfl, rfl⟩

/-- An edit makes of a buffer exactly what its contract says. Where it is applied it changes the
buffer, and no byte outside its range. What it expects when it is made for a text is that text, or
its fingerprint beyond 1024 bytes. In a sequence an edit that fails might as well not be there: the
edits behind it see the same buffers and report the same. -/
theorem edit_contract (e : Edit) (b : Text) :
    (∀ result, e.apply b = result ↔ e.Contract b result) ∧
      (∀ b' n, e.apply b = .ok (b', .applied n) →
        b' ≠ b ∧ b'.utf8 = b.utf8.take e.start ++ e.newText.utf8 ++ b.utf8.drop e.stop) ∧
      (∀ before text, (replacing e.start e.stop e.newText before).expected.accepts text = true ↔
        if before.byteLength ≤ 1024 then text = before
        else text.fingerprint = before.fingerprint) ∧
      ∀ es es' cause, e.apply (applyAll es b).buffer = .error cause →
        (applyAll (es ++ e :: es') b).buffer = (applyAll (es ++ es') b).buffer ∧
          (applyAll (es ++ es') b).results =
            (applyAll es b).results ++ (applyAll es' (applyAll es b).buffer).results ∧
          (applyAll (es ++ e :: es') b).results =
            (applyAll es b).results ++ .error cause ::
              (applyAll es' (applyAll es b).buffer).results := by
  refine ⟨fun _ => apply_eq_iff, fun _ _ h => ne_of_applied h, fun before text => ?_,
    fun es es' cause h => ?_⟩
  · exact Expectation.accepts_ofText_iff before text
  · obtain ⟨hbuffer, hresults⟩ := applyAll_of_error es' h
    exact ⟨hbuffer, by rw [applyAll_append], hresults⟩

end Edit

end AnchorPatch
