import AnchorPatch.Proofs.Builtin.Rerun
import AnchorPatch.Proofs.Rule.Marker

namespace AnchorPatch

open Regex

variable {b g t : Text} {found : Located}

namespace Builtin

open Text (EndsApart BeginsApart endsApart_of_suffix endsApart_of_notMem beginsApart_of_pair
  beginsApart_of_head?)

theorem suffix_of_readsItems_word {s : String} {es : List Expr}
    (h : Expr.ReadsItems (es ++ word s) t) : s.toList <:+ t := by
  obtain ⟨u, v, rfl, -, hv⟩ := Expr.readsItems_append h
  obtain rfl := Expr.readsItems_literal.mp hv
  exact List.suffix_append u _

theorem helperRule_keeps (hline : '\n' ∉ g) (hnot : ¬ g <:+: helperRule.text) :
    helperRule.Keeps g := by
  refine Rule.keeps_of_spares rfl fun b found hlocate => ?_
  obtain ⟨hanchor, hreads⟩ := AnchorPair.reads_of_locate rfl rfl hlocate
  have hmatched : ['\n'] <:+ found.span.matched := suffix_of_readsItems_word hreads
  have hlast : found.span.matched.getLast? = some '\n' := by
    obtain ⟨u, hu⟩ := hmatched
    simp [← hu]
  refine .after (s := []) (by rw [hanchor]; rfl) ?_ (endsApart_of_notMem hline hmatched)
    (endsApart_of_notMem hline helper_text.1) hnot
  rw [hanchor]
  exact if_pos (.inl hlast)

theorem handlersRule_keeps (hsemicolon : ';' ∉ g.dropLast) (hco : ¬ ['c', 'o'] <:+: g.tail)
    (hc : g.getLast? ≠ some 'c') (has : ¬ ['a', 's'] <:+: g.tail) (ha : g.getLast? ≠ some 'a')
    (hnot : ¬ g <:+: "\n\n  ".toList ++ handlersRule.text) : handlersRule.Keeps g := by
  have hends {a : Text} (ha : [';'] <:+ a) : EndsApart g a :=
    endsApart_of_suffix hsemicolon (by simp) ha
  obtain ⟨-, hfront, hback, -⟩ := handlers_text
  refine Rule.keeps_of_spares rfl fun b found hlocate => ?_
  obtain ⟨hfind, hanchor | ⟨-, hanchor⟩⟩ := AnchorPair.find?_of_locate hlocate
  · -- Both handlers are there, and are replaced.
    rw [hanchor] at hfind
    have hreads : Expr.ReadsItems handlersItems found.span.matched :=
      Pattern.readsItems_of_find? hfind
    obtain ⟨u, hu, hreads⟩ := exists_of_readsItems_word hreads
    have hconst : ['c', 'o'] <+: found.span.matched := by
      rw [hu]
      exact List.IsPrefix.trans (by decide) (List.prefix_append _ u)
    have hclose : [';'] <:+ found.span.matched := by
      rw [hu]
      exact (suffix_of_readsItems_word hreads).trans (List.suffix_append _ u)
    exact .replace (by rw [hanchor]; rfl) (beginsApart_of_pair hco hc hconst) (hends hclose)
      (beginsApart_of_pair has ha hfront) (hends hback)
      fun h => hnot (List.infix_append_of_infix_right h)
  · -- Only the short one is there, and the text goes behind it.
    have hanchor := Option.some.inj hanchor
    rw [← hanchor] at hfind
    have hclose : [';'] <:+ found.span.matched := by
      rw [Text.matched_of_findFrom hfind]
      decide
    exact .after (by rw [← hanchor]) (by rw [← hanchor]; rfl) (hends hclose)
      (hends (hback.trans (List.suffix_append _ _))) hnot

theorem effectsRule_keeps (hsemicolon : ';' ∉ g.dropLast) (hline : '\n' ∉ g)
    (hhead : ∀ e ∈ [spaces, optionalLineEnd], g.head?.all e.avoids = true)
    (hnot : ¬ g <:+: effectsRule.text) : effectsRule.Keeps g := by
  obtain ⟨hfront, hback, -⟩ := effects_text
  refine Rule.keeps_of_spares rfl fun b found hlocate => ?_
  obtain ⟨hanchor, hreads⟩ := AnchorPair.reads_of_locate rfl rfl hlocate
  -- The place ends in a semicolon, with white space `z` behind it.
  obtain ⟨_, _, hmatched, rfl, hreads⟩ := hreads
  obtain ⟨head, _, rfl, -, hreads⟩ := Expr.readsItems_append hreads
  obtain ⟨u, _, rfl, -, hreads⟩ := hreads
  obtain ⟨tail, z, rfl, htail, hz⟩ := Expr.readsItems_append hreads
  obtain ⟨v, rfl⟩ := suffix_of_readsItems_word htail
  have hmatched : EndsApart g found.span.matched := by
    refine endsApart_of_suffix hsemicolon (z := z) ?_ ⟨head ++ (u ++ v), by simp [hmatched]⟩
    intro d hd hg
    rw [hg] at hhead
    exact Expr.notMem_of_readsItems hhead hz hd
  have htext : EndsApart g effectsRule.text := endsApart_of_notMem hline hback
  refine .after (s := []) (by rw [hanchor]; rfl) ?_ hmatched htext hnot
  rw [hanchor]
  exact if_pos (.inr hfront)

theorem iframeRule_keeps (hopen : '<' ∉ g) (hslash : '/' ∉ g) (hclose : g.head? ≠ some '>')
    (hnot : ¬ g <:+: iframeRule.text) : iframeRule.Keeps g := by
  obtain ⟨htext, -, -, -, -, hback, -⟩ := iframe_text
  have hends {a : Text} (ha : ['/', '>'] <:+ a) : EndsApart g a :=
    endsApart_of_suffix (fun hc => hslash (g.dropLast_subset hc)) (by simpa using hclose) ha
  refine Rule.keeps_of_spares rfl fun b found hlocate => ?_
  obtain ⟨hanchor, hreads⟩ := reads_of_locate_iframe hlocate
  obtain ⟨u, hu, -⟩ := exists_of_reads_iframe hreads
  have hmatched : ['/', '>'] <:+ found.span.matched := by
    rw [hu, ← List.cons_append]
    exact List.suffix_append _ _
  exact .replace (by rw [hanchor]; rfl) (beginsApart_of_head? hopen (by rw [hu]; rfl))
    (hends hmatched) (beginsApart_of_head? hopen htext) (hends hback) hnot

theorem helperRule_keeps_guard {r : Rule} (hr : r ∈ rules.take 1)
    (hg : r.unlessPresent = some g) : helperRule.Keeps g := by
  obtain ⟨-, hline, -⟩ := guard_front (List.take_subset_take_left _ (by decide) hr) hg
  exact helperRule_keeps hline (helper_text.2 r hr g hg)

theorem handlersRule_keeps_guard {r : Rule} (hr : r ∈ rules.take 2)
    (hg : r.unlessPresent = some g) : handlersRule.Keeps g := by
  obtain ⟨hsemicolon, -⟩ := guard_front (List.take_subset_take_left _ (by decide) hr) hg
  obtain ⟨hco, hc, has, ha⟩ := guard_ends hr hg
  exact handlersRule_keeps hsemicolon hco hc has ha (handlers_text.2.2.2 r hr g hg)

theorem effectsRule_keeps_guard {r : Rule} (hr : r ∈ rules.take 3)
    (hg : r.unlessPresent = some g) : effectsRule.Keeps g := by
  obtain ⟨hsemicolon, hline, -, -, -, hhead⟩ := guard_front hr hg
  exact effectsRule_keeps hsemicolon hline hhead (effects_text.2.2 r hr g hg)

theorem iframeRule_keeps_guard {r : Rule} (hr : r ∈ rules.take 4)
    (hg : r.unlessPresent = some g) : iframeRule.Keeps g := by
  obtain ⟨-, -, -, -, -, -, hnot⟩ := iframe_text
  obtain hr' | rfl : r ∈ rules.take 3 ∨ r = effectsRule := by simpa [rules, or_assoc] using hr
  · obtain ⟨-, -, hopen, hslash, hclose, -⟩ := guard_front hr' hg
    exact iframeRule_keeps hopen hslash hclose (hnot r hr g hg)
  · obtain ⟨hopen, hslash, -, hhead⟩ := guard_effects hg
    exact iframeRule_keeps hopen hslash (by simp [hhead]) (hnot effectsRule hr g hg)

/-- Each rule leaves the guard texts of the rules before it as they are, or takes them out with the
place that it replaces. -/
theorem rules_keep_guards :
    rules.Pairwise fun r u => ∀ g, r.unlessPresent = some g → u.Keeps g := by
  simp only [rules, List.pairwise_cons, List.mem_cons, List.not_mem_nil, or_false, forall_eq_or_imp,
    forall_eq, List.Pairwise.nil, and_true, false_implies, implies_true]
  refine ⟨⟨?_, ?_, ?_, ?_⟩, ⟨?_, ?_, ?_⟩, ⟨?_, ?_⟩, ?_⟩
  all_goals intro g hg
  · exact helperRule_keeps_guard (by simp [rules]) hg
  · exact handlersRule_keeps_guard (by simp [rules]) hg
  · exact effectsRule_keeps_guard (by simp [rules]) hg
  · exact iframeRule_keeps_guard (by simp [rules]) hg
  · exact handlersRule_keeps_guard (by simp [rules]) hg
  · exact effectsRule_keeps_guard (by simp [rules]) hg
  · exact iframeRule_keeps_guard (by simp [rules]) hg
  · exact effectsRule_keeps_guard (by simp [rules]) hg
  · exact iframeRule_keeps_guard (by simp [rules]) hg
  · exact iframeRule_keeps_guard (by simp [rules]) hg

end Builtin

end AnchorPatch
