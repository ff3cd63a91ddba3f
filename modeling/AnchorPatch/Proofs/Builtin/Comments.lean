import AnchorPatch.Proofs.Builtin.Component
import AnchorPatch.Proofs.Builtin.Rerun
import AnchorPatch.Proofs.Rule.Run

namespace AnchorPatch.Builtin

open Regex RuleSet

variable {r : Rule} {items es : List Expr} {ws xs ys : List Text} {b b' g m rest t u v : Text}
  {c : Char}

/-- Lower-case letters and spaces only. -/
def isNote (w : Text) : Bool := w.all fun c => c.isLower || c == ' '

def comments (ws : List Text) : Text := ws.flatMap fun w => "// ".toList ++ w ++ ['\n']

def mayComment (c : Char) : Bool := c.isLower || c == '/' || c == ' ' || c == '\n'

theorem mayComment_of_mem (hws : ∀ w ∈ ws, isNote w = true) (hc : c ∈ comments ws) :
    mayComment c = true := by
  obtain ⟨w, hw, hc⟩ := List.mem_flatMap.mp hc
  have hnote := List.all_eq_true.mp (hws w hw)
  rcases List.mem_append.mp hc with hc | hc
  · rcases List.mem_append.mp hc with hc | hc
    · exact List.all_eq_true.mp (show "// ".toList.all mayComment = true by decide +kernel) c hc
    · have hc := hnote c hc
      rw [Bool.or_eq_true] at hc
      rcases hc with hc | hc
      · simp [mayComment, hc]
      · simp [mayComment, hc]
  · obtain rfl := List.mem_singleton.mp hc
    rfl

theorem comments_suffix (hws : ws ≠ []) : ['\n'] <:+ comments ws :=
  suffix_flatMap (fun _ => List.suffix_append _ _) hws

theorem suffix_of_comments (h : comments ws = t ++ u) (hu : u ≠ []) : ['\n'] <:+ u := by
  have hws : ws ≠ [] := by
    rintro rfl
    exact hu (List.append_eq_nil_iff.mp h.symm).2
  exact List.suffix_of_suffix_length_le (h ▸ comments_suffix hws) (List.suffix_append t u)
    (List.length_pos_iff.mpr hu)

theorem guard_not_comment (hr : r ∈ rules) (hg : r.unlessPresent = some g) :
    '\n' ∉ g ∧ g.all mayComment = false := by
  rcases mem_rules_iff.mp hr with rfl | rfl | rfl | rfl | rfl
  all_goals
    obtain rfl := Option.some.inj hg
    rw [String.toList_ofList]
    decide

theorem not_infix_comments (hg : g.all mayComment = false) (hws : ∀ w ∈ ws, isNote w = true) :
    ¬ g <:+: comments ws := by
  intro h
  rw [List.all_eq_true.mpr fun c hc => mayComment_of_mem hws (h.subset hc)] at hg
  cases hg

theorem apart_comments (hg : '\n' ∉ g) (ws : List Text) (t : Text) :
    Text.Apart g (comments ws) t := by
  by_cases hws : ws = []
  · intro p s _ hp _
    rw [hws] at hp
    exact .inl (List.suffix_nil.mp hp)
  · exact Text.endsApart_of_notMem hg (comments_suffix hws) [] t

theorem isGuarded_comments (hr : r ∈ rules) (hb : ['\n'] <:+ b)
    (hxs : ∀ w ∈ xs, isNote w = true) (hys : ∀ w ∈ ys, isNote w = true) :
    r.isGuarded (comments xs ++ (b ++ comments ys)) = r.isGuarded b := by
  obtain ⟨g, hg⟩ := exists_guard hr
  obtain ⟨hline, hforeign⟩ := guard_not_comment hr hg
  have hends : Text.Apart g b (comments ys) := Text.endsApart_of_notMem hline hb [] _
  rw [Bool.eq_iff_iff, Rule.isGuarded_within_iff hg (apart_comments hline xs _) hends]
  simp [not_infix_comments hforeign hxs, not_infix_comments hforeign hys]

/-- Two words with white space between them do not begin in lines of comment, if the second one has
a character that no comment has, and does not begin as the component does. -/
theorem words_not_comment {first second : String} (hfirst : '\n' ∉ first.toList)
    (hsecond : '\n' ∉ second.toList ∧ second.toList.head? ≠ some 'i' ∧
      second.toList.all mayComment = false)
    (hu : ['\n'] <:+ u) (hchars : ∀ c ∈ u, mayComment c = true) (hv : v.head? = some 'i')
    (hreads : Expr.ReadsItems (word first ++ (blanks 1 ++ (word second ++ es))) m) :
    m ++ rest ≠ u ++ v := by
  intro h
  obtain ⟨hline, hhead, hforeign⟩ := hsecond
  obtain ⟨_, rfl, hblank⟩ := exists_of_readsItems_word hreads
  obtain ⟨z, _, rfl, hz, hreads⟩ := Expr.readsItems_append hblank
  obtain ⟨w, rfl, -⟩ := exists_of_readsItems_word hreads
  have hi : 'i' ∉ z := Expr.notMem_of_readsItems (by decide) hz
  simp only [List.append_assoc] at h
  obtain ⟨u', rfl, hu', hrest⟩ := Text.exists_of_suffix hfirst hu h.symm
  obtain ⟨u'', rfl, hrest'⟩ := Text.exists_of_head? hi hv hrest
  by_cases hnil : u'' = []
  · -- The second word would begin where the component begins.
    rw [hnil, List.nil_append] at hrest'
    rcases hfront : second.toList with _ | ⟨d, l⟩
    · rw [hfront] at hforeign
      cases hforeign
    · rw [hrest', hfront] at hv
      rw [hfront] at hhead
      exact hhead hv
  · have hu'' : ['\n'] <:+ u'' := List.suffix_of_suffix_length_le hu' (List.suffix_append z u'')
      (List.length_pos_iff.mpr hnil)
    obtain ⟨_, rfl, -⟩ := Text.exists_of_suffix hline hu'' hrest'
    rw [List.all_eq_true.mpr fun c hc => hchars c (by simp [hc])] at hforeign
    cases hforeign

theorem matchBetween?_comments (hr : r ∈ rules) (hws : ∀ w ∈ ws, isNote w = true)
    (hv : v.head? = some 'i') (htu : comments ws = t ++ u) (hne : u ≠ []) :
    r.anchors.primary.pattern.matchBetween? t (u ++ v) = none := by
  have hu : ['\n'] <:+ u := suffix_of_comments htu hne
  have hchars : ∀ c ∈ u, mayComment c = true := fun c hc =>
    mayComment_of_mem hws (htu ▸ List.mem_append_right t hc)
  rw [Option.eq_none_iff_forall_ne_some]
  intro span hspan
  obtain ⟨-, hrest, -⟩ := Pattern.matchBetween?_eq_some_iff.mp hspan
  rcases mem_rules_iff.mp hr with rfl | rfl | rfl | rfl | rfl
  · have hreads : Expr.ReadsItems stateItems span.matched :=
      Pattern.readsItems_of_matchBetween? hspan
    simp only [stateItems, List.append_assoc] at hreads
    exact words_not_comment (by decide) (by decide) hu hchars hv hreads hrest
  · have hreads : Expr.ReadsItems helperItems span.matched :=
      Pattern.readsItems_of_matchBetween? hspan
    simp only [helperItems, List.cons_append, List.append_assoc] at hreads
    exact words_not_comment (by decide) (by decide) hu hchars hv
      (Expr.readsItems_of_empty_cons hreads) hrest
  · have hreads : Expr.ReadsItems handlersItems span.matched :=
      Pattern.readsItems_of_matchBetween? hspan
    simp only [handlersItems, List.append_assoc] at hreads
    exact words_not_comment (by decide) (by decide) hu hchars hv hreads hrest
  · have hreads : Expr.ReadsItems effectsItems span.matched :=
      Pattern.readsItems_of_matchBetween? hspan
    simp only [effectsItems, effectsHead, List.append_assoc] at hreads
    exact words_not_comment (by decide) (by decide) hu hchars hv
      (Expr.readsItems_of_empty_cons hreads) hrest
  · have hreads : Expr.ReadsItems iframeItems span.matched :=
      Pattern.readsItems_of_matchBetween? hspan
    obtain ⟨w, hw, -⟩ := exists_of_readsItems_word hreads
    rw [hw, List.append_assoc] at hrest
    obtain ⟨_, rfl, -⟩ := Text.exists_of_suffix (by decide) hu hrest.symm
    exact absurd (hchars '<' (by simp)) (by decide)

/-- What a rule makes of the component, it makes of it between lines of comment. -/
theorem step_comments {source : Text} (hr : r ∈ rules)
    (hpattern : r.anchors.primary.pattern = .regex ⟨source, .ofItems items, []⟩)
    (h : Rewrites r items b b') (hxs : ∀ w ∈ xs, isNote w = true)
    (hys : ∀ w ∈ ys, isNote w = true) :
    ∃ start written, r.Step (comments xs ++ (b ++ comments ys))
      (comments xs ++ (b' ++ comments ys), .applied .primary start written) := by
  obtain ⟨hrewrite, hguard, hhead, hsuffix⟩ := h
  refine Rule.step_within (expand_of_mem_rules hr) (writesGuard_of_mem_rules hr) hpattern hrewrite
    ?_ fun t u htu hu => ?_
  · rw [isGuarded_comments hr hsuffix hxs hys, hguard]
  · refine matchBetween?_comments hr hxs ?_ htu hu
    rw [List.head?_append, hhead, Option.some_or]

theorem turns_comments (hxs : ∀ w ∈ xs, isNote w = true) (hys : ∀ w ∈ ys, isNote w = true) :
    ∃ ts, Turns (comments xs ++ (lines component ++ comments ys)) ts
        (comments xs ++ (lines patchedComponent ++ comments ys)) ∧
      ts.map (·.rule) = rules ∧
      ∀ t ∈ ts, ∃ start written, t.outcome = .applied .primary start written := by
  obtain ⟨_, _, hstate⟩ := step_comments (by simp [rules]) rfl rewrites_state hxs hys
  obtain ⟨_, _, hhelper⟩ := step_comments (by simp [rules]) rfl rewrites_helper hxs hys
  obtain ⟨_, _, hhandlers⟩ := step_comments (by simp [rules]) rfl rewrites_handlers hxs hys
  obtain ⟨_, _, heffects⟩ := step_comments (by simp [rules]) rfl rewrites_effects hxs hys
  obtain ⟨_, _, hiframe⟩ := step_comments (by simp [rules]) rfl rewrites_iframe hxs hys
  rw [stage_last] at hiframe
  exact ⟨_, .cons hstate <| .cons hhelper <| .cons hhandlers <| .cons heffects <| .cons hiframe <|
    .nil _, rfl, by simp⟩

theorem rerun_comments (hxs : ∀ w ∈ xs, isNote w = true) (hys : ∀ w ∈ ys, isNote w = true) :
    applyRules rules (comments xs ++ (lines patchedComponent ++ comments ys)) =
      .ok ⟨comments xs ++ (lines patchedComponent ++ comments ys),
        rules.map fun r => ⟨r.id, .alreadyPresent .guardText⟩⟩ := by
  refine applyRules_of_guarded fun r hr => ?_
  have hsuffix : ['\n'] <:+ lines patchedComponent := lines_suffix (by simp [patchedComponent])
  rw [isGuarded_comments hr hsuffix hxs hys]
  exact isGuarded_patched r hr

theorem map_id_rules : rules.map (·.id) = Config.builtin.rules.map (·.id) := rfl

/-- Whatever lines of comment stand before and behind the component, the built-in rules patch it as
if it stood alone, all of them where their first pattern matches, and a second run finds all guard
texts and changes nothing. -/
theorem component_between_comments {header footer : List Text}
    (hheader : ∀ w ∈ header, isNote w = true) (hfooter : ∀ w ∈ footer, isNote w = true) :
    ∃ rules first second,
      RuleSet.compile Config.builtin.rules = .ok rules ∧
        rules.apply (comments header ++ lines component ++ comments footer) = .ok first ∧
        first.buffer = comments header ++ lines patchedComponent ++ comments footer ∧
        first.outcomes.map (·.id) = Config.builtin.rules.map (·.id) ∧
        (∀ o ∈ first.outcomes, ∃ start written, o.outcome = .applied .primary start written) ∧
        rules.apply first.buffer = .ok second ∧ second.buffer = first.buffer ∧
        second.outcomes.map (·.id) = Config.builtin.rules.map (·.id) ∧
        ∀ o ∈ second.outcomes, o.outcome = .alreadyPresent .guardText := by
  obtain ⟨ts, hturns, hrules, happlied⟩ := turns_comments hheader hfooter
  rw [← map_id_rules, List.append_assoc, List.append_assoc]
  refine ⟨⟨rules⟩, ⟨_, ts.map Turn.report⟩, _, compile_rules,
    applyRules_eq_ok_iff.mpr ⟨ts, hturns, hrules, rfl⟩, rfl, ?_, ?_,
    rerun_comments hheader hfooter, rfl, ?_, ?_⟩
  · rw [← hrules, List.map_map, List.map_map]
    rfl
  · intro o ho
    obtain ⟨t, ht, rfl⟩ := List.mem_map.mp ho
    exact happlied t ht
  · rw [List.map_map]
    rfl
  · intro o ho
    obtain ⟨r, -, rfl⟩ := List.mem_map.mp ho
    rfl

theorem component_between_comments_two :
    (∀ w ∈ ["a report".toList], isNote w = true) ∧
      (∀ w ∈ [[], "the end".toList], isNote w = true) ∧
      ∃ rules first second,
        RuleSet.compile Config.builtin.rules = .ok rules ∧
          rules.apply ("// a report\n".toList ++ lines component ++ "// \n// the end\n".toList) =
            .ok first ∧
          first.buffer =
            "// a report\n".toList ++ lines patchedComponent ++ "// \n// the end\n".toList ∧
          (∀ o ∈ first.outcomes, ∃ start written, o.outcome = .applied .primary start written) ∧
          rules.apply first.buffer = .ok second ∧ second.buffer = first.buffer ∧
          ∀ o ∈ second.outcomes, o.outcome = .alreadyPresent .guardText := by
  have hheader : ∀ w ∈ ["a report".toList], isNote w = true := by decide +kernel
  have hfooter : ∀ w ∈ [[], "the end".toList], isNote w = true := by decide +kernel
  have hbefore : comments ["a report".toList] = "// a report\n".toList := by decide +kernel
  have hbehind : comments [[], "the end".toList] = "// \n// the end\n".toList := by
    decide +kernel
  obtain ⟨rules, first, second, hcompile, hfirst, hbuffer, -, happlied, hsecond, hsame, -,
    hpresent⟩ := component_between_comments hheader hfooter
  rw [hbefore, hbehind] at hfirst hbuffer
  exact ⟨hheader, hfooter, rules, first, second, hcompile, hfirst, hbuffer, happlied, hsecond,
    hsame, hpresent⟩

end AnchorPatch.Builtin
