import AnchorPatch.Proofs.Builtin.Patterns
import AnchorPatch.Proofs.Rule.Set

/-!
Running the built-in rules twice.

The last two rules never have anything left to do after a run: the last one leaves its own guard
text, and what it writes neither removes the guard text of the one before nor makes a place for
it. Main statement: a second run changes nothing exactly where none of the first three rules has
anything left to do.
-/

namespace AnchorPatch

open Regex

variable {b t u : Text} {span : Span}

theorem Pattern.readsItems_of_find? {source : Text} {items : List Expr} {names : List (Text × Nat)}
    (h : (Pattern.regex ⟨source, .ofItems items, names⟩).find? b = some span) :
    Expr.ReadsItems items span.matched := by
  obtain ⟨m, hm, rfl⟩ := Option.map_eq_some_iff.mp h
  exact Expr.readsItems_of_ofItems (Regex.span_of_find? hm).2

theorem AnchorPair.reads_of_locate {a : AnchorPair} {source : Text} {items : List Expr}
    {names : List (Text × Nat)}
    (hpattern : a.primary.pattern = .regex ⟨source, .ofItems items, names⟩)
    (hfallback : a.fallback = none) {found : Located} (h : a.locate b = some found) :
    found.anchor = a.primary ∧ Expr.ReadsItems items found.span.matched := by
  obtain ⟨hfind, hanchor | ⟨-, hanchor⟩⟩ := find?_of_locate h
  · rw [hanchor, hpattern] at hfind
    exact ⟨hanchor, Pattern.readsItems_of_find? hfind⟩
  · rw [hfallback] at hanchor
    cases hanchor

theorem CharSet.contains_all (c : Char) : CharSet.all.contains c = true := by
  have hc : c.toNat ≤ maxCode := by
    have hvalid := c.valid
    change c.toNat < _ ∨ _ ∧ c.toNat < _ at hvalid
    unfold maxCode
    omega
  simp [CharSet.contains, CharSet.holds, CharSet.all, CharSet.range, CharSet.inRanges, hc]

namespace Builtin

theorem exists_of_readsItems_word {s : String} {es : List Expr}
    (h : Expr.ReadsItems (word s ++ es) t) : ∃ u, t = s.toList ++ u ∧ Expr.ReadsItems es u := by
  obtain ⟨v, u, rfl, hv, hu⟩ := Expr.readsItems_append h
  obtain rfl := Expr.readsItems_literal.mp hv
  exact ⟨u, rfl, hu⟩

theorem writesGuard_of_mem_rules {r : Rule} (hr : r ∈ rules) : r.WritesGuard := by
  obtain ⟨g, hg⟩ := exists_guard hr
  exact ⟨g, hg, guard_infix_text hr hg⟩

/-- A rule without a template that writes its own guard text does nothing to a buffer that it has
been applied to, whatever its anchors are. The built-in rules are such rules, so each of them alone
is idempotent. -/
theorem guarded_rules_idempotent :
    (∀ r : Rule, r.expand = false → r.WritesGuard → r.Idempotent) ∧
      ∃ rules, RuleSet.compile Config.builtin.rules = .ok rules ∧ rules.rules.length = 5 ∧
        ∀ r ∈ rules.rules, r.expand = false ∧ r.WritesGuard ∧ r.Idempotent := by
  refine ⟨fun r => Rule.idempotent_of_writesGuard, ⟨rules⟩, compile_rules, rfl, ?_⟩
  intro r hr
  have hexpand := expand_of_mem_rules hr
  have hguard := writesGuard_of_mem_rules hr
  exact ⟨hexpand, hguard, Rule.idempotent_of_writesGuard hexpand hguard⟩

theorem splice_ne_of_after {r : Rule} {found : Located}
    (hprimary : r.anchors.primary.placement = .after)
    (hfallback : ∀ f, r.anchors.fallback = some f → f.placement = .after) (htext : r.text ≠ [])
    (h : r.anchors.locate b = some found) :
    found.anchor.splice found.span.matched r.text ≠ found.span.matched := by
  apply Anchor.splice_ne_of_after ?_ htext
  rcases (AnchorPair.find?_of_locate h).2 with hanchor | ⟨-, hanchor⟩
  · rw [hanchor]
    exact hprimary
  · exact hfallback _ hanchor

theorem splice_handlers_ne {found : Located} (h : handlersRule.anchors.locate b = some found) :
    found.anchor.splice found.span.matched handlersRule.text ≠ found.span.matched := by
  obtain ⟨hfind, hanchor | ⟨-, hanchor⟩⟩ := AnchorPair.find?_of_locate h
  · rw [hanchor] at hfind ⊢
    have hreads : Expr.ReadsItems handlersItems found.span.matched :=
      Pattern.readsItems_of_find? hfind
    obtain ⟨u, hu, -⟩ := exists_of_readsItems_word hreads
    have hplacement : handlersRule.anchors.primary.placement = .replace := rfl
    rw [Anchor.splice_of_replace hplacement, hu]
    intro heq
    exact handlers_text.1 ⟨u, heq.symm⟩
  · refine Anchor.splice_ne_of_after ?_ (text_ne_nil (mem_rules_iff.mpr (by simp))) _
    rw [← Option.some.inj hanchor]

theorem reads_of_locate_iframe {found : Located} (h : iframeRule.anchors.locate b = some found) :
    found.anchor = iframeRule.anchors.primary ∧ Expr.ReadsItems iframeItems found.span.matched :=
  AnchorPair.reads_of_locate rfl rfl h

theorem splice_iframe (current : Text) :
    iframeRule.anchors.primary.splice current iframeRule.text = iframeRule.text := by
  have hplacement : iframeRule.anchors.primary.placement = .replace := rfl
  exact Anchor.splice_of_replace hplacement _ _

theorem splice_iframe_ne {found : Located} (h : iframeRule.anchors.locate b = some found) :
    found.anchor.splice found.span.matched iframeRule.text ≠ found.span.matched := by
  obtain ⟨hanchor, hreads⟩ := reads_of_locate_iframe h
  obtain ⟨u, hu, hreads⟩ := exists_of_readsItems_word hreads
  obtain ⟨v, w, rfl, hv, -⟩ := Expr.readsItems_append hreads
  obtain ⟨v, rfl, -⟩ := exists_of_readsItems_word hv
  rw [hanchor, splice_iframe, hu, List.append_assoc, ← List.append_assoc]
  intro heq
  exact iframe_text.2.2.2.2.1 ⟨v ++ w, heq.symm⟩

theorem rests_iff_spent {r : Rule} (hr : r ∈ rules) : r.Rests b ↔ r.Spent b := by
  have htext := text_ne_nil hr
  rcases mem_rules_iff.mp hr with rfl | rfl | rfl | rfl | rfl
  · refine Rule.rests_iff_spent rfl fun found => splice_ne_of_after rfl ?_ htext
    rintro f ⟨⟩
  · refine Rule.rests_iff_spent rfl fun found => splice_ne_of_after rfl ?_ htext
    rintro f ⟨⟩
  · exact Rule.rests_iff_spent rfl fun found => splice_handlers_ne
  · refine Rule.rests_iff_spent rfl fun found => splice_ne_of_after rfl ?_ htext
    rintro f ⟨⟩
  · exact Rule.rests_iff_spent rfl fun found => splice_iframe_ne

theorem find_effects {head tail : Text} (hhead : Expr.ReadsItems effectsHead head)
    (htail : Expr.ReadsItems effectsTail tail) (x u y : Text) :
    effectsRule.anchors.primary.pattern.find? (x ++ ((head ++ (u ++ tail)) ++ y)) ≠ none := by
  have hcovers : (Expr.ofItems effectsItems).Covers (head ++ (u ++ tail)) := by
    apply Expr.CoversItems.ofItems
    have hend : Expr.CoversItems [spaces, optionalLineEnd] ([] ++ ([] ++ [])) :=
      .cons (Expr.covers_run (by simp) (Nat.le_refl 0)) (.cons (Expr.covers_optional _ _) .nil)
    have hany : anything.Covers u :=
      Expr.covers_run (fun c _ => CharSet.contains_all c) (Nat.zero_le _)
    have hall : Expr.CoversItems effectsItems
        ([] ++ (head ++ (u ++ (tail ++ ([] ++ ([] ++ [])))))) :=
      .cons Expr.covers_empty <|
        (Expr.coversItems_of_isPlain (by decide) hhead).append <|
          .cons hany <| (Expr.coversItems_of_isPlain (by decide) htail).append hend
    simpa using hall
  intro hnone
  exact Regex.find?_ne_none (r := ⟨previewEffects.primary.pattern, .ofItems effectsItems, []⟩)
    hcovers x y (Option.map_eq_none_iff.mp hnone)

theorem exists_of_reads_iframe {m : Text} (h : Expr.ReadsItems iframeItems m) :
    ∃ u, m = '<' :: (u ++ ['/', '>']) ∧ '>' ∉ u := by
  obtain ⟨v, rfl, hv⟩ := exists_of_readsItems_word h
  obtain ⟨u, w, rfl, hu, hw⟩ := Expr.readsItems_append hv
  obtain rfl := Expr.readsItems_literal.mp hw
  exact ⟨u, rfl, Expr.notMem_of_readsItems (by decide +kernel) hu⟩

theorem guard_effects_of_replaced {g p q m : Text} (hg : effectsRule.unlessPresent = some g)
    (hm : Expr.ReadsItems iframeItems m) (h : g <:+: p ++ m ++ q) (t : Text) :
    g <:+: p ++ t ++ q := by
  obtain ⟨hopen, hslash, hclose, hhead⟩ := guard_effects hg
  obtain ⟨u, rfl, hu⟩ := exists_of_reads_iframe hm
  rw [List.append_assoc, List.cons_append] at h
  rcases Text.infix_of_separator hopen h with h | h
  · rw [List.append_assoc]
    exact h.trans List.infix_append_left
  · rw [List.append_assoc, List.cons_append] at h
    rcases Text.infix_of_separator hslash h with h | h
    · exact absurd (h.subset hclose) hu
    · rcases List.infix_cons_iff.mp h with h | h
      · obtain ⟨v, hv⟩ := h
        cases g with
        | nil => cases hhead
        | cons c g =>
            cases hv
            cases hhead
      · exact h.trans List.infix_append_right

theorem exists_of_reads_tail (h : Expr.ReadsItems effectsTail t) :
    '<' ∉ t ∧ '>' ∉ t ∧ ';' ∈ t := by
  refine ⟨Expr.notMem_of_readsItems (by decide) h, Expr.notMem_of_readsItems (by decide) h, ?_⟩
  obtain ⟨u, v, rfl, -, hv⟩ := Expr.readsItems_append h
  obtain rfl := Expr.readsItems_literal.mp hv
  exact List.mem_append_right _ (by decide)

theorem tail_of_replaced {p q : Text} (ht : Expr.ReadsItems effectsTail t)
    (h : t <:+: p ++ (iframeRule.text ++ q)) : t <:+: p ∨ t <:+: q := by
  obtain ⟨hopen, hclose, hsemicolon⟩ := exists_of_reads_tail ht
  obtain ⟨hhead, hlast, hnone, -⟩ := iframe_text
  obtain ⟨u, hu⟩ := Text.exists_between hhead hlast (by decide)
  rw [hu, List.cons_append, List.append_assoc] at h
  rcases Text.infix_of_separator hopen h with h | h
  · exact .inl h
  · rcases Text.infix_of_separator hclose h with h | h
    · refine absurd ?_ hnone
      rw [hu]
      exact List.mem_cons_of_mem _ (List.mem_append_left _ (h.subset hsemicolon))
    · exact .inr h

theorem head_of_replaced {q r s head rest : Text} (hhead : Expr.ReadsItems effectsHead head)
    (hs : r ++ s = iframeRule.text) (h : head ++ rest = s ++ q) : s = [] := by
  obtain ⟨-, hlast, -, hnone, -⟩ := iframe_text
  obtain ⟨u, rfl, -⟩ := exists_of_readsItems_word hhead
  have hconst : "const".toList <+: s ++ q := ⟨u ++ rest, by rw [← h, List.append_assoc]⟩
  rcases List.prefix_or_prefix_of_prefix hconst (List.prefix_append s q) with hfront | hfront
  · exact absurd (hfront.isInfix.trans ⟨r, [], by rw [List.append_nil, hs]⟩) hnone
  · apply Classical.byContradiction
    intro hne
    have hmem : '>' ∈ s := by
      rw [← hs, List.getLast?_append, List.getLast?_eq_some_getLast hne, Option.some_or] at hlast
      exact Option.some.inj hlast ▸ List.getLast_mem hne
    exact absurd (hfront.subset hmem) (by decide)

theorem find_effects_of_replaced {p q : Text}
    (h : effectsRule.anchors.primary.pattern.find? (p ++ iframeRule.text ++ q) ≠ none) (m : Text) :
    effectsRule.anchors.primary.pattern.find? (p ++ m ++ q) ≠ none := by
  obtain ⟨⟨x, matched, y⟩, hspan⟩ := Option.ne_none_iff_exists'.mp h
  have hwhole := Pattern.whole_of_find? hspan
  have hreads : Expr.ReadsItems effectsItems matched := Pattern.readsItems_of_find? hspan
  obtain ⟨_, _, rfl, rfl, hreads⟩ := hreads
  obtain ⟨head, _, rfl, hhead, hreads⟩ := Expr.readsItems_append hreads
  obtain ⟨u, _, rfl, -, hreads⟩ := hreads
  obtain ⟨tail, z, rfl, htail, -⟩ := Expr.readsItems_append hreads
  have hopen : '<' ∉ head := Expr.notMem_of_readsItems (by decide +kernel) hhead
  simp only [Span.whole, List.nil_append, List.append_assoc] at hwhole
  rcases List.append_eq_append_iff.mp hwhole with ⟨a, rfl, hrest⟩ | ⟨a, rfl, hrest⟩
  · -- The head stands before what takes the place of the frame.
    obtain ⟨hhead', hlast, -⟩ := iframe_text
    obtain ⟨t, ht⟩ := Text.exists_between hhead' hlast (by decide)
    have hfront : head <+: a := by
      refine Text.prefix_of_separator hopen (show head <+: a ++ '<' :: (t ++ ['>'] ++ q) from ?_)
      exact ⟨u ++ (tail ++ (z ++ y)), by rw [hrest, ht, List.cons_append]⟩
    obtain ⟨a, rfl⟩ := hfront
    rw [List.append_assoc] at hrest
    have hrest := List.append_cancel_left hrest
    have htail' : tail <:+: a ++ (iframeRule.text ++ q) :=
      ⟨u, z ++ y, by rw [← hrest, List.append_assoc]⟩
    rcases tail_of_replaced htail htail' with ⟨v, w, rfl⟩ | ⟨v, w, rfl⟩
    · have hfind := find_effects hhead htail x v (w ++ (m ++ q))
      simpa only [List.append_assoc] using hfind
    · have hfind := find_effects hhead htail x (a ++ (m ++ v)) w
      simpa only [List.append_assoc] using hfind
  · rcases List.append_eq_append_iff.mp hrest with ⟨b, rfl, rfl⟩ | ⟨b, htext, hrest⟩
    · have hfind := find_effects hhead htail (p ++ m ++ b) u (z ++ y)
      simpa only [List.append_assoc] using hfind
    · obtain rfl := head_of_replaced hhead htext.symm hrest
      have hfind := find_effects hhead htail (p ++ m) u (z ++ y)
      rw [List.nil_append] at hrest
      rw [← hrest]
      simpa only [List.append_assoc] using hfind

theorem spent_effects_of_replaced {p q m : Text} (hm : Expr.ReadsItems iframeItems m)
    (h : effectsRule.Spent (p ++ m ++ q)) : effectsRule.Spent (p ++ iframeRule.text ++ q) := by
  rcases h with h | h
  · obtain ⟨g, hg, h⟩ := Rule.isGuarded_iff.mp h
    exact .inl (Rule.isGuarded_iff.mpr ⟨g, hg, guard_effects_of_replaced hg hm h _⟩)
  · refine .inr (AnchorPair.locate_eq_none_iff.mpr ⟨?_, ?_⟩)
    · apply Classical.byContradiction
      intro hfind
      exact find_effects_of_replaced hfind m (AnchorPair.locate_eq_none_iff.mp h).1
    · rintro f ⟨⟩

/-- The last two rules have nothing left to do after they have been applied one after the other. -/
theorem spent_of_apply {b' : Text} {outcome outcome' : Outcome}
    (heffects : effectsRule.apply b = .ok (t, outcome))
    (hiframe : iframeRule.apply t = .ok (b', outcome')) :
    effectsRule.Spent b' ∧ iframeRule.Spent b' := by
  have hlast : iframeRule.Spent b' :=
    (rests_iff_spent (mem_rules_iff.mpr (by simp))).mp <|
      Rule.rests_of_apply rfl (writesGuard_of_mem_rules (mem_rules_iff.mpr (by simp))) hiframe
  have heffects : effectsRule.Spent t :=
    (rests_iff_spent (mem_rules_iff.mpr (by simp))).mp <|
      Rule.rests_of_apply rfl (writesGuard_of_mem_rules (mem_rules_iff.mpr (by simp))) heffects
  refine ⟨?_, hlast⟩
  generalize hresult : (b', outcome') = result at hiframe
  cases Rule.apply_eq_ok_iff.mp hiframe with
  | guarded | missing | same =>
      cases hresult
      exact heffects
  | @applied _ found t' hlocate htext hsplice =>
      cases hresult
      obtain rfl := Rule.eq_text_of_textFor rfl htext
      obtain ⟨hanchor, hreads⟩ := reads_of_locate_iframe hlocate
      have hwhole := AnchorPair.whole_of_locate hlocate
      rw [hanchor, splice_iframe]
      rw [← hwhole] at heffects
      exact spent_effects_of_replaced hreads heffects

theorem spent_of_applyRules {run : RuleRun} (h : RuleSet.applyRules rules b = .ok run) :
    effectsRule.Spent run.buffer ∧ iframeRule.Spent run.buffer := by
  obtain ⟨_, _, _, -, hstate, rfl⟩ := RuleSet.applyRules_cons_eq_ok_iff.mp h
  obtain ⟨_, _, _, -, hhelper, rfl⟩ := RuleSet.applyRules_cons_eq_ok_iff.mp hstate
  obtain ⟨_, _, _, -, hhandlers, rfl⟩ := RuleSet.applyRules_cons_eq_ok_iff.mp hhelper
  obtain ⟨_, _, _, heffects, hrest, rfl⟩ := RuleSet.applyRules_cons_eq_ok_iff.mp hhandlers
  obtain ⟨_, _, _, hiframe, hnil, rfl⟩ := RuleSet.applyRules_cons_eq_ok_iff.mp hrest
  cases hnil
  exact spent_of_apply heffects hiframe

/-- After a run of the built-in rules the last two rules have nothing left to do, and a second run
changes nothing exactly where none of the first three rules has anything left to do either. -/
theorem rerun_unchanged_iff (document : Text) :
    ∃ rules first second,
      RuleSet.compile Config.builtin.rules = .ok rules ∧ rules.apply document = .ok first ∧
        rules.apply first.buffer = .ok second ∧
        (∀ r ∈ rules.rules.drop 3, r.Spent first.buffer) ∧
        (second.buffer = first.buffer ∧ second.applied = [] ↔
          ∀ r ∈ rules.rules.take 3, r.Spent first.buffer) := by
  obtain ⟨first, hfirst⟩ := RuleSet.exists_applyRules (fun _ => expand_of_mem_rules) document
  obtain ⟨second, hsecond⟩ := RuleSet.exists_applyRules (fun _ => expand_of_mem_rules) first.buffer
  have hlast : ∀ r ∈ rules.drop 3, r.Spent first.buffer := by
    intro r hr
    have hlast := spent_of_applyRules hfirst
    simp only [rules, List.drop_succ_cons, List.drop_zero, List.mem_cons, List.not_mem_nil,
      or_false] at hr
    rcases hr with rfl | rfl
    · exact hlast.1
    · exact hlast.2
  refine ⟨⟨rules⟩, first, second, compile_rules, hfirst, hsecond, hlast, ?_⟩
  rw [RuleSet.unchanged_iff hsecond]
  constructor
  · intro h r hr
    have hmem := List.mem_of_mem_take hr
    exact (rests_iff_spent hmem).mp (h r hmem)
  · intro h r hr
    apply (rests_iff_spent hr).mpr
    rw [← List.take_append_drop 3 rules, List.mem_append] at hr
    rcases hr with hr | hr
    · exact h r hr
    · exact hlast r hr

end Builtin

end AnchorPatch
