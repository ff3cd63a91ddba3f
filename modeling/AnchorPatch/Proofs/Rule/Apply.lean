import AnchorPatch.Rule.Basic
import AnchorPatch.Proofs.Edit
import AnchorPatch.Proofs.Except
import AnchorPatch.Proofs.Regex.Find
import AnchorPatch.Proofs.Text.Occurs

namespace AnchorPatch

variable {b t : Text} {span : Span}

theorem Pattern.whole_of_find? {p : Pattern} (h : p.find? b = some span) : span.whole = b := by
  cases p with
  | regex r =>
      obtain ⟨m, hm, rfl⟩ := Option.map_eq_some_iff.mp h
      exact (Regex.span_of_find? hm).1
  | text s => exact Text.whole_of_findFrom h

namespace AnchorPair

variable {a : AnchorPair} {found : Located}

theorem find?_of_locate (h : a.locate b = some found) :
    found.anchor.pattern.find? b = some found.span ∧
      (found.anchor = a.primary ∨
        a.primary.pattern.find? b = none ∧ a.fallback = some found.anchor) := by
  unfold locate at h
  split at h
  next span hspan =>
    cases h
    exact ⟨hspan, .inl rfl⟩
  next hnone =>
    obtain ⟨anchor, hanchor, h⟩ := Option.bind_eq_some_iff.mp h
    obtain ⟨span, hspan, h⟩ := Option.bind_eq_some_iff.mp h
    cases h
    exact ⟨hspan, .inr ⟨hnone, hanchor⟩⟩

theorem locate_eq_none_iff :
    a.locate b = none ↔
      a.primary.pattern.find? b = none ∧ ∀ f, a.fallback = some f → f.pattern.find? b = none := by
  unfold locate
  split
  next span hspan => simp [hspan]
  next hnone =>
    constructor
    · intro h
      refine ⟨hnone, ?_⟩
      intro f hf
      rcases hspan : f.pattern.find? b with _ | span
      · rfl
      · simp [hf, hspan] at h
    · rintro ⟨-, h⟩
      rcases hf : a.fallback with _ | f
      · rfl
      · simp [h f hf]

theorem whole_of_locate (h : a.locate b = some found) : found.span.whole = b :=
  Pattern.whole_of_find? (find?_of_locate h).1

end AnchorPair

theorem Anchor.splice_of_replace {a : Anchor} (h : a.placement = .replace)
    (current newText : Text) : a.splice current newText = newText := by
  simp only [splice, h]

theorem Anchor.splice_of_after {a : Anchor} (h : a.placement = .after) (current newText : Text) :
    a.splice current newText =
      current ++ a.separator.getD (defaultSeparator current newText) ++ newText := by
  simp only [splice, h]

theorem Anchor.infix_splice (a : Anchor) (current newText : Text) :
    newText <:+: a.splice current newText := by
  unfold splice
  split
  · exact List.infix_rfl
  · exact (List.suffix_append _ _).isInfix

theorem Anchor.splice_ne_of_after {a : Anchor} (h : a.placement = .after) (ht : t ≠ [])
    (current : Text) : a.splice current t ≠ current := by
  intro heq
  simp only [splice, h] at heq
  rw [List.append_assoc, List.append_right_eq_self, List.append_eq_nil_iff] at heq
  exact ht heq.2

namespace Rule

/-- What a rule can do to a buffer. -/
inductive Step (r : Rule) (b : Text) : Text × Outcome → Prop
  | guarded (hguard : r.isGuarded b = true) : Step r b (b, .alreadyPresent .guardText)
  | missing (hguard : r.isGuarded b = false) (hlocate : r.anchors.locate b = none) :
      Step r b (b, .notFound (nearestLine b r.anchors.probe))
  | same (hguard : r.isGuarded b = false) {found : Located} {t : Text}
      (hlocate : r.anchors.locate b = some found) (htext : r.textFor b found = .ok t)
      (hsplice : found.anchor.splice found.span.matched t = found.span.matched) :
      Step r b (b, .alreadyPresent .sameSpan)
  | applied (hguard : r.isGuarded b = false) {found : Located} {t : Text}
      (hlocate : r.anchors.locate b = some found) (htext : r.textFor b found = .ok t)
      (hsplice : found.anchor.splice found.span.matched t ≠ found.span.matched) :
      Step r b
        (found.span.before ++ found.anchor.splice found.span.matched t ++ found.span.after,
          .applied found.slot found.span.start
            (found.anchor.splice found.span.matched t).byteLength)

variable {r : Rule} {found : Located} {result : Text × Outcome}

theorem apply_of_locate (hguard : r.isGuarded b = false) (hlocate : r.anchors.locate b = some found)
    (htext : r.textFor b found = .ok t) :
    r.apply b =
      if found.span.matched = found.anchor.splice found.span.matched t then
        .ok (b, .alreadyPresent .sameSpan)
      else
        .ok (found.span.before ++ found.anchor.splice found.span.matched t ++ found.span.after,
          .applied found.slot found.span.start
            (found.anchor.splice found.span.matched t).byteLength) := by
  have hedit : r.editFor b found = .ok (.replacing found.span.start found.span.stop
      (found.anchor.splice found.span.matched t) found.span.matched) := by
    rw [editFor, htext]
    rfl
  have happly := Edit.apply_replacing found.span (found.anchor.splice found.span.matched t)
  rw [AnchorPair.whole_of_locate hlocate] at happly
  by_cases hsplice : found.span.matched = found.anchor.splice found.span.matched t
  · rw [if_pos hsplice] at happly ⊢
    simp only [apply, hguard, Bool.false_eq_true, if_false, hlocate, hedit, bind, Except.bind,
      happly]
    rfl
  · rw [if_neg hsplice] at happly ⊢
    simp only [apply, hguard, Bool.false_eq_true, if_false, hlocate, hedit, bind, Except.bind,
      happly]
    rfl

/-- A rule does one of the things that `Step` lists, and nothing else. -/
theorem apply_eq_ok_iff : r.apply b = .ok result ↔ r.Step b result := by
  constructor
  · intro h
    rcases hguard : r.isGuarded b with _ | _
    · rcases hlocate : r.anchors.locate b with _ | found
      · rw [apply, hguard, hlocate] at h
        cases h
        exact .missing hguard hlocate
      · rcases htext : r.textFor b found with e | t
        · rw [apply, hguard, hlocate] at h
          simp [editFor, htext, bind, Except.bind] at h
        · rw [apply_of_locate hguard hlocate htext] at h
          split at h
          next hsplice =>
            cases h
            exact .same hguard hlocate htext hsplice.symm
          next hsplice =>
            cases h
            exact .applied hguard hlocate htext (Ne.symm hsplice)
    · rw [apply, hguard] at h
      cases h
      exact .guarded hguard
  · intro h
    cases h with
    | guarded hguard => simp [apply, hguard]
    | missing hguard hlocate => simp [apply, hguard, hlocate]
    | same hguard hlocate htext hsplice =>
        rw [apply_of_locate hguard hlocate htext, if_pos hsplice.symm]
    | applied hguard hlocate htext hsplice =>
        rw [apply_of_locate hguard hlocate htext, if_neg (Ne.symm hsplice)]

theorem exists_apply (hexpand : r.expand = false) (b : Text) :
    ∃ result, r.apply b = .ok result := by
  rcases hguard : r.isGuarded b with _ | _
  · rcases hlocate : r.anchors.locate b with _ | found
    · exact ⟨_, apply_eq_ok_iff.mpr (.missing hguard hlocate)⟩
    · have htext : r.textFor b found = .ok r.text := by simp [textFor, hexpand]
      rw [apply_of_locate hguard hlocate htext]
      split
      · exact ⟨_, rfl⟩
      · exact ⟨_, rfl⟩
  · exact ⟨_, apply_eq_ok_iff.mpr (.guarded hguard)⟩

theorem isGuarded_iff : r.isGuarded b = true ↔ ∃ g, r.unlessPresent = some g ∧ g <:+: b := by
  rw [isGuarded, Option.any_eq_true]
  simp only [Text.occurs_iff]

theorem infix_of_isGuarded {g : Text} (hg : r.unlessPresent = some g)
    (h : r.isGuarded b = true) : g <:+: b := by
  obtain ⟨g', hg', hb⟩ := isGuarded_iff.mp h
  rw [hg] at hg'
  exact Option.some.inj hg' ▸ hb

theorem eq_text_of_textFor (hexpand : r.expand = false) (htext : r.textFor b found = .ok t) :
    t = r.text := by
  simp only [textFor, hexpand, Bool.false_eq_true, if_false, Except.ok.injEq] at htext
  exact htext.symm

/-- A rule leaves a buffer as it is. -/
def Rests (r : Rule) (b : Text) : Prop :=
  ∃ outcome, r.apply b = .ok (b, outcome) ∧ outcome.isApplied = false

/-- A rule sees its guard text in a buffer, or does not find any of its anchors there. -/
def Spent (r : Rule) (b : Text) : Prop := r.isGuarded b = true ∨ r.anchors.locate b = none

theorem Step.eq_of_not_applied {b' : Text} {outcome : Outcome} (h : r.Step b (b', outcome))
    (houtcome : outcome.isApplied = false) : b' = b := by
  cases h with
  | guarded | missing | same => rfl
  | applied => cases houtcome

theorem rests_of_spent (h : r.Spent b) : r.Rests b := by
  rcases hguard : r.isGuarded b with _ | _
  · rcases h with h | h
    · rw [hguard] at h
      cases h
    · exact ⟨_, apply_eq_ok_iff.mpr (.missing hguard h), rfl⟩
  · exact ⟨_, apply_eq_ok_iff.mpr (.guarded hguard), rfl⟩

theorem rests_iff_spent (hexpand : r.expand = false)
    (hfresh : ∀ found, r.anchors.locate b = some found →
      found.anchor.splice found.span.matched r.text ≠ found.span.matched) :
    r.Rests b ↔ r.Spent b := by
  refine ⟨?_, rests_of_spent⟩
  rintro ⟨outcome, h, houtcome⟩
  generalize hresult : (b, outcome) = result at h
  cases apply_eq_ok_iff.mp h with
  | guarded hguard => exact .inl hguard
  | missing hguard hlocate => exact .inr hlocate
  | applied =>
      cases hresult
      cases houtcome
  | @same _ found t hlocate htext hsplice =>
      obtain rfl := eq_text_of_textFor hexpand htext
      exact absurd hsplice (hfresh found hlocate)

/-- A rule writes its own guard text. -/
def WritesGuard (r : Rule) : Prop := ∃ g, r.unlessPresent = some g ∧ g <:+: r.text

theorem Step.isGuarded_of_applied {b' : Text} {outcome : Outcome} (hexpand : r.expand = false)
    (hguard : r.WritesGuard) (h : r.Step b (b', outcome)) (houtcome : outcome.isApplied = true) :
    r.isGuarded b' = true := by
  obtain ⟨g, hg, htext⟩ := hguard
  cases h with
  | guarded | missing | same => cases houtcome
  | @applied _ found t hlocate ht hsplice =>
      obtain rfl := eq_text_of_textFor hexpand ht
      have hinfix := htext.trans (found.anchor.infix_splice found.span.matched r.text)
      exact isGuarded_iff.mpr ⟨g, hg, hinfix.trans (List.infix_append _ _ _)⟩

/-- A rule does nothing to a buffer that it has been applied to: where it has written, it sees its
guard text now, and otherwise it reports what it reported before. -/
def Idempotent (r : Rule) : Prop :=
  ∀ b, ∃ b' first second, r.apply b = .ok (b', first) ∧ r.apply b' = .ok (b', second) ∧
    second.isApplied = false ∧
    (first.isApplied = true → second = .alreadyPresent .guardText) ∧
    (first.isApplied = false → second = first)

theorem idempotent_of_writesGuard (hexpand : r.expand = false) (hguard : r.WritesGuard) :
    r.Idempotent := by
  intro b
  obtain ⟨⟨b', first⟩, hfirst⟩ := exists_apply hexpand b
  have hstep := apply_eq_ok_iff.mp hfirst
  cases houtcome : first.isApplied with
  | true =>
      have hsecond := Step.guarded (hstep.isGuarded_of_applied hexpand hguard houtcome)
      exact ⟨b', first, _, hfirst, apply_eq_ok_iff.mpr hsecond, rfl, fun _ => rfl,
        fun h => absurd houtcome (by simp [h])⟩
  | false =>
      obtain rfl := hstep.eq_of_not_applied houtcome
      exact ⟨b', first, first, hfirst, hfirst, houtcome, fun h => absurd houtcome (by simp [h]),
        fun _ => rfl⟩

/-- A rule that writes its own guard text rests after it has been applied. -/
theorem rests_of_apply {b' : Text} {outcome : Outcome} (hexpand : r.expand = false)
    (hguard : r.WritesGuard) (h : r.apply b = .ok (b', outcome)) : r.Rests b' := by
  obtain ⟨_, _, second, hfirst, hsecond, houtcome, -⟩ := idempotent_of_writesGuard hexpand hguard b
  rw [h] at hfirst
  cases hfirst
  exact ⟨second, hsecond, houtcome⟩

end Rule

end AnchorPatch
