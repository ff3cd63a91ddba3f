import AnchorPatch.Proofs.Regex.Context
import AnchorPatch.Proofs.Rule.Set
import AnchorPatch.Proofs.Text.Seam

namespace AnchorPatch

open Regex

variable {r : Rule} {items : List Expr} {source before rest b b' x y : Text}
  {names : List (Text × Nat)} {span : Span}

theorem Pattern.readsItems_of_matchBetween?
    (h : (Pattern.regex ⟨source, .ofItems items, names⟩).matchBetween? before rest = some span) :
    Expr.ReadsItems items span.matched := by
  obtain ⟨m, hm, rfl⟩ := Option.map_eq_some_iff.mp h
  obtain ⟨hfirst, -⟩ := Regex.matchAt?_eq_some_iff.mp hm
  obtain ⟨t, ht, hpass⟩ := Expr.leads_of_mem_ends (Regex.mem_ends_of_matchAt? hm)
  rw [← hfirst] at hpass
  rw [(Regex.span_of_passes hpass).1]
  exact Expr.readsItems_of_ofItems ht

namespace Rule

/-- What a rule whose first pattern is a sequence of parts makes of a text, if it finds its place
without reading the end of the text. -/
def rewrite? (r : Rule) (items : List Expr) (b : Text) : Option Text :=
  (Expr.settledSpan? items b).map fun span =>
    span.before ++ r.anchors.primary.splice span.matched r.text ++ span.after

/-- What a rule makes of a text without reading the end of it, it makes of the text in every longer
buffer that does not hold its guard text, if no match begins in what stands before. -/
theorem step_within (hexpand : r.expand = false) (hwrites : r.WritesGuard)
    (hpattern : r.anchors.primary.pattern = .regex ⟨source, .ofItems items, names⟩)
    (h : r.rewrite? items b = some b') (hguard : r.isGuarded (x ++ (b ++ y)) = false)
    (hx : ∀ t u, x = t ++ u → u ≠ [] →
      r.anchors.primary.pattern.matchBetween? t (u ++ (b ++ y)) = none) :
    ∃ start written,
      r.Step (x ++ (b ++ y)) (x ++ (b' ++ y), .applied .primary start written) := by
  obtain ⟨span, hspan, rfl⟩ := Option.map_eq_some_iff.mp h
  rw [hpattern] at hx
  let place : Span := ⟨x ++ span.before, span.matched, span.after ++ y⟩
  have hlocate : r.anchors.locate (x ++ (b ++ y)) = some ⟨.primary, r.anchors.primary, place⟩ := by
    rw [AnchorPair.locate, hpattern, find?_within hspan hx]
  have hsplice : r.anchors.primary.splice span.matched r.text ≠ span.matched := by
    intro heq
    obtain ⟨g, hg, htext⟩ := hwrites
    have hmatched : g <:+: span.matched := heq ▸ htext.trans (Anchor.infix_splice _ _ _)
    have hbuffer : g <:+: x ++ (b ++ y) := by
      rw [← AnchorPair.whole_of_locate hlocate]
      exact hmatched.trans (List.infix_append _ _ _)
    rw [isGuarded_iff.mpr ⟨g, hg, hbuffer⟩] at hguard
    cases hguard
  have hwritten : x ++ (span.before ++ r.anchors.primary.splice span.matched r.text ++
      span.after ++ y) =
        place.before ++ r.anchors.primary.splice place.matched r.text ++ place.after := by
    simp [place]
  rw [hwritten]
  exact ⟨_, _, .applied hguard hlocate (by simp [textFor, hexpand]) hsplice⟩

theorem isGuarded_within_iff {g : Text} (hg : r.unlessPresent = some g)
    (hx : Text.Apart g x (b ++ y)) (hb : Text.Apart g b y) :
    r.isGuarded (x ++ (b ++ y)) = true ↔ g <:+: x ∨ r.isGuarded b = true ∨ g <:+: y := by
  have hiff {t : Text} : r.isGuarded t = true ↔ g <:+: t := by
    rw [isGuarded_iff, hg]
    simp
  rw [hiff, hiff, hx.infix_append_iff, hb.infix_append_iff]

end Rule

theorem RuleSet.applyRules_of_guarded {rs : List Rule} (hrs : ∀ r ∈ rs, r.isGuarded b = true) :
    applyRules rs b = .ok ⟨b, rs.map fun r => ⟨r.id, .alreadyPresent .guardText⟩⟩ := by
  induction rs with
  | nil => rfl
  | cons r rs ih =>
      have hr : r.apply b = .ok (b, .alreadyPresent .guardText) :=
        Rule.apply_eq_ok_iff.mpr (.guarded (hrs r List.mem_cons_self))
      have hrest := ih fun r' hr' => hrs r' (List.mem_cons_of_mem _ hr')
      exact applyRules_cons_eq_ok_iff.mpr ⟨b, _, _, hr, hrest, rfl⟩

end AnchorPatch
