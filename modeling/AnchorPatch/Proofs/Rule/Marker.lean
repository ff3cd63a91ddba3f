import AnchorPatch.Proofs.Rule.Run
import AnchorPatch.Proofs.Text.Seam

/-!
What a run leaves of a text.

A rule that replaces a place takes away what stands there. Main statements: the guard text of a
rule stands in the buffer that the rule leaves, unless it reports that it found no place; and it
stands in the last buffer exactly where no later turn takes it out, provided that the later rules
neither break nor make an occurrence of it in another way.
-/

namespace AnchorPatch

variable {r : Rule} {b c g : Text} {found : Located}

/-- A turn takes a text out of its buffer: the place that it replaces holds the text, which stands
neither before that place nor behind it. -/
def RuleSet.Turn.Removes (t : RuleSet.Turn) (g : Text) : Prop :=
  t.outcome.isApplied = true ∧ ∃ found, t.rule.anchors.locate t.given = some found ∧
    found.anchor.placement = .replace ∧ g <:+: found.span.matched ∧
      ¬ g <:+: found.span.before ∧ ¬ g <:+: found.span.after

/-- Occurrences of `g` do not reach across the ends of a place, and writing `t` there does not make
any. -/
inductive Located.Spares (found : Located) (t g : Text) : Prop
  | after {s : Text} (hplacement : found.anchor.placement = .after)
      (hseparator : found.anchor.separator.getD
        (Anchor.defaultSeparator found.span.matched t) = s)
      (hend : Text.EndsApart g found.span.matched) (hend' : Text.EndsApart g (s ++ t))
      (hnot : ¬ g <:+: s ++ t)
  | replace (hplacement : found.anchor.placement = .replace)
      (hbegin : Text.BeginsApart g found.span.matched)
      (hend : Text.EndsApart g found.span.matched) (hbegin' : Text.BeginsApart g t)
      (hend' : Text.EndsApart g t) (hnot : ¬ g <:+: t)

namespace Rule

/-- Whatever a rule does to a buffer, it leaves the occurrences of `g` as they are or takes all of
them out with the place that it replaces. -/
def Keeps (r : Rule) (g : Text) : Prop :=
  ∀ b b' outcome, r.Step b (b', outcome) →
    (g <:+: b' ↔ g <:+: b ∧ ¬ RuleSet.Turn.Removes ⟨r, b, b', outcome⟩ g)

theorem keeps_of_spares (hexpand : r.expand = false)
    (h : ∀ b found, r.anchors.locate b = some found → found.Spares r.text g) : r.Keeps g := by
  intro b b' outcome hstep
  cases hstep with
  | guarded => simp [RuleSet.Turn.Removes, Outcome.isApplied]
  | missing => simp [RuleSet.Turn.Removes, Outcome.isApplied]
  | same => simp [RuleSet.Turn.Removes, Outcome.isApplied]
  | @applied _ found t hlocate htext hsplice =>
      obtain rfl := eq_text_of_textFor hexpand htext
      have hwhole := AnchorPair.whole_of_locate hlocate
      simp only [RuleSet.Turn.Removes, hlocate, Option.some.injEq, exists_eq_left',
        Outcome.isApplied, true_and]
      rw [← hwhole]
      cases h b found hlocate with
      | after hplacement hseparator hend hend' hnot =>
          have hinsert := Text.infix_insert_iff hend hend' hnot found.span.before found.span.after
          simp only [hplacement, reduceCtorEq, false_and, not_false_eq_true, and_true]
          rw [Span.whole, ← hinsert, Anchor.splice_of_after hplacement, hseparator]
          simp only [List.append_assoc]
      | replace hplacement hbegin hend hbegin' hend' hnot =>
          rw [Anchor.splice_of_replace hplacement, Span.whole, Text.infix_between_iff hbegin hend,
            Text.infix_between_iff hbegin' hend']
          simp only [hplacement, true_and]
          grind

theorem guard_infix_of_step {b' : Text} {outcome : Outcome} (hexpand : r.expand = false)
    (hg : r.unlessPresent = some g) (htext : g <:+: r.text) (h : r.Step b (b', outcome))
    (houtcome : outcome.isNotFound = false) : g <:+: b' := by
  cases happlied : outcome.isApplied with
  | true => exact infix_of_isGuarded hg (h.isGuarded_of_applied hexpand ⟨g, hg, htext⟩ happlied)
  | false =>
      cases h with
      | guarded hguard => exact infix_of_isGuarded hg hguard
      | missing => cases houtcome
      | applied => cases happlied
      | @same _ found t hlocate ht hsplice =>
          obtain rfl := eq_text_of_textFor hexpand ht
          have hmatched : g <:+: found.span.matched := by
            rw [← hsplice]
            exact htext.trans (found.anchor.infix_splice _ _)
          rw [← AnchorPair.whole_of_locate hlocate, Span.whole]
          exact hmatched.trans (List.infix_append _ _ _)

end Rule

namespace RuleSet

variable {ts earlier later : List Turn} {t : Turn}

theorem Turns.infix_iff (h : Turns b ts c) (hts : ∀ t ∈ ts, t.rule.Keeps g) :
    g <:+: c ↔ g <:+: b ∧ ∀ t ∈ ts, ¬ t.Removes g := by
  induction h with
  | nil => simp
  | cons step rest ih =>
      rw [ih fun t ht => hts t (List.mem_cons_of_mem _ ht),
        hts _ List.mem_cons_self _ _ _ step, List.forall_mem_cons, and_assoc]

theorem Turns.split (h : Turns b (earlier ++ t :: later) c) :
    t.rule.Step t.given (t.left, t.outcome) ∧ Turns t.left later c := by
  induction earlier generalizing b with
  | nil =>
      cases h with
      | cons step rest => exact ⟨step, rest⟩
  | cons t' earlier ih =>
      cases h with
      | cons step rest => exact ih rest

/-- Where the later rules keep the guard text of a rule, it stands in the last buffer of a run
exactly where none of them takes it out again, if the rule reports that it has found its place or
its guard text. -/
theorem Turns.guard_iff (h : Turns b (earlier ++ t :: later) c) (hexpand : t.rule.expand = false)
    (hg : t.rule.unlessPresent = some g) (htext : g <:+: t.rule.text)
    (hlater : ∀ u ∈ later, u.rule.Keeps g) (houtcome : t.outcome.isNotFound = false) :
    g <:+: t.left ∧ (g <:+: c ↔ ∀ u ∈ later, ¬ u.Removes g) := by
  obtain ⟨step, rest⟩ := h.split
  have hleft := Rule.guard_infix_of_step hexpand hg htext step houtcome
  refine ⟨hleft, ?_⟩
  rw [rest.infix_iff hlater]
  simp [hleft]

end RuleSet

end AnchorPatch
