import AnchorPatch.Proofs.Edit
import AnchorPatch.Proofs.Regex.First
import AnchorPatch.Regex.Template
import AnchorPatch.Rule.Basic

namespace AnchorPatch

variable {b t u : Text} {n index : Nat}

namespace Span

/-- A place inside the text at another place. -/
def within (outer inner : Span) : Span where
  before := outer.before ++ inner.before
  matched := inner.matched
  after := inner.after ++ outer.after

variable {outer inner : Span}

theorem whole_within (h : inner.whole = outer.matched) :
    (outer.within inner).whole = outer.whole := by
  rw [whole, whole, ← h, whole, within]
  simp only [List.append_assoc]

theorem start_within (outer inner : Span) :
    (outer.within inner).start = outer.start + inner.start := by
  simp only [start, within, Text.byteLength_append]

theorem stop_within (outer inner : Span) :
    (outer.within inner).stop = outer.start + inner.stop := by
  simp only [start, stop, within, Text.byteLength_append, Nat.add_assoc]

end Span

namespace Regex

variable {r : Regex} {m : Match} {H H' : Nat → Text → Prop}

/-- The texts that a group of an expression reads. -/
def Expr.GroupReads (index : Nat) : Expr → Text → Prop
  | .group i body, t => (i = index ∧ body.Reads t) ∨ body.GroupReads index t
  | .seq first second, t => first.GroupReads index t ∨ second.GroupReads index t
  | .alt first second, t => first.GroupReads index t ∨ second.GroupReads index t
  | .iterate _ _ _ body, t => body.GroupReads index t
  | _, _ => False

/-- The groups that are remembered between two places. Each has its place in the text between them,
and `H` holds of its text. -/
def Cursor.Records (H : Nat → Text → Prop) (c d : Cursor) : Prop :=
  ∃ t places, c.Passes t d ∧ d.groups = places ++ c.groups ∧
    ∀ p ∈ places, ∃ inner : Span, inner.whole = t ∧ p.start = c.offset + inner.start ∧
      p.stop = c.offset + inner.stop ∧ H p.index inner.matched

namespace Cursor

variable {c d e : Cursor}

theorem Records.refl (H : Nat → Text → Prop) (c : Cursor) : c.Records H c :=
  ⟨[], [], .refl c, rfl, fun _ hp => absurd hp List.not_mem_nil⟩

theorem Records.mono (hH : ∀ i t, H i t → H' i t) (h : c.Records H d) : c.Records H' d := by
  obtain ⟨t, places, hpass, hgroups, hplaces⟩ := h
  refine ⟨t, places, hpass, hgroups, fun p hp => ?_⟩
  obtain ⟨inner, hinner, hstart, hstop, h⟩ := hplaces p hp
  exact ⟨inner, hinner, hstart, hstop, hH _ _ h⟩

theorem Records.trans (h : c.Records H d) (h' : d.Records H e) : c.Records H e := by
  obtain ⟨t, places, hpass, hgroups, hplaces⟩ := h
  obtain ⟨u, places', hpass', hgroups', hplaces'⟩ := h'
  refine ⟨t ++ u, places' ++ places, hpass.trans hpass', ?_, fun p hp => ?_⟩
  · rw [hgroups', hgroups, List.append_assoc]
  · rcases List.mem_append.mp hp with hp | hp
    · -- what the second way remembers stands behind the text of the first
      obtain ⟨inner, rfl, hstart, hstop, h⟩ := hplaces' p hp
      rw [hpass.offset_eq] at hstart hstop
      refine ⟨Span.within ⟨t, inner.whole, []⟩ inner, ?_, ?_, ?_, h⟩
      · rw [Span.whole_within rfl, Span.whole, List.append_nil]
      · rw [hstart, Span.start_within]
        exact Nat.add_assoc ..
      · rw [hstop, Span.stop_within]
        exact Nat.add_assoc ..
    · obtain ⟨inner, rfl, hstart, hstop, h⟩ := hplaces p hp
      refine ⟨Span.within ⟨[], inner.whole, u⟩ inner, ?_, ?_, ?_, h⟩
      · rw [Span.whole_within rfl, Span.whole, List.nil_append]
      · rw [hstart, Span.start_within]
        exact congrArg (c.offset + ·) (Nat.zero_add inner.start).symm
      · rw [hstop, Span.stop_within]
        exact congrArg (c.offset + ·) (Nat.zero_add inner.stop).symm

theorem records_of_step? {s : CharSet} (h : c.step? s = some d) : c.Records H d := by
  obtain ⟨x, -, hpass⟩ := passes_of_step? h
  have hgroups : d.groups = c.groups := by
    have hnext := next?_of_step? h
    unfold next? at hnext
    split at hnext
    · cases hnext
    · cases hnext
      rfl
  exact ⟨[x], [], hpass, hgroups, fun _ hp => absurd hp List.not_mem_nil⟩

end Cursor

open Cursor (Records)

theorem Ways.records_of_copies {P : Nat → Ways} {s s' : Spot} {w : List Bool}
    (hP : ∀ n s w s', P n s w s' → Records H s.cursor s'.cursor) (h : copies P n s w s') :
    Records H s.cursor s'.cursor := by
  induction n generalizing s w with
  | zero =>
      obtain ⟨-, rfl⟩ := h
      exact .refl H _
  | succ n ih =>
      obtain ⟨u, v, x, rfl, hu, hv⟩ := h
      exact (hP _ _ _ _ hu).trans (ih hv)

theorem Ways.records_of_further {a : Address} {P : Nat → Ways} {greedy : Bool} {rest : Option Nat}
    {s s' : Spot} {w : List Bool} (hP : ∀ n s w s', P n s w s' → Records H s.cursor s'.cursor)
    (h : Further a P greedy rest s w s') : Records H s.cursor s'.cursor := by
  induction h with
  | full => exact .refl H _
  | stop => exact .refl H _
  | copy _ _ hcopy _ ih =>
      have hbody := hP _ _ _ _ hcopy
      exact hbody.trans ih

theorem Expr.records_of_way {e : Expr} {a : Address} {s s' : Spot} {w : List Bool}
    (h : e.Way a s w s') : Records (fun i t => e.GroupReads i t) s.cursor s'.cursor := by
  induction e generalizing a s w s' with
  | empty =>
      obtain ⟨-, rfl⟩ := h
      exact .refl _ _
  | chars set =>
      obtain ⟨-, hstep, -⟩ := h
      exact Cursor.records_of_step? hstep
  | look l =>
      obtain ⟨-, -, rfl⟩ := h
      exact .refl _ _
  | group i body ih =>
      obtain ⟨x, hx, rfl⟩ := h
      have hbody : Records (fun j t => (Expr.group i body).GroupReads j t) s.cursor x.cursor :=
        (ih hx).mono fun _ _ => .inr
      obtain ⟨t, places, hpass, hgroups, hplaces⟩ := hbody
      obtain ⟨u, hu, hpass'⟩ := leads_of_way hx
      obtain rfl := hpass.eq_of_offset hpass' rfl
      refine ⟨u, ⟨i, s.cursor.offset, x.cursor.offset⟩ :: places, hpass, ?_, fun p hp => ?_⟩
      · exact congrArg _ hgroups
      · rcases List.mem_cons.mp hp with rfl | hp
        · refine ⟨⟨[], u, []⟩, ?_, rfl, ?_, .inl ⟨rfl, hu⟩⟩
          · rw [Span.whole, List.nil_append, List.append_nil]
          · rw [Span.stop, hpass.offset_eq, Text.byteLength_nil, Nat.zero_add]
        · exact hplaces p hp
  | seq first second ih ih' =>
      obtain ⟨u, v, x, rfl, hu, hv⟩ := h
      exact ((ih hu).mono fun _ _ => .inl).trans ((ih' hv).mono fun _ _ => .inr)
  | alt first second ih ih' =>
      obtain ⟨-, v, ⟨rfl, hv⟩ | ⟨rfl, hv⟩⟩ := h
      · have hfirst := ih hv
        exact hfirst.mono fun _ _ => .inl
      · have hsecond := ih' hv
        exact hsecond.mono fun _ _ => .inr
  | iterate least most greedy body ih =>
      obtain ⟨u, v, x, rfl, hu, hv⟩ := h
      exact (Ways.records_of_copies (fun _ _ _ _ h => ih h) hu).trans
        (Ways.records_of_further (fun _ _ _ _ h => ih h) hv)

theorem group?_zero (m : Match) : m.group? 0 = some m.span.matched := rfl

namespace IsFirst

variable {start : Nat}

theorem passes (h : r.IsFirst b start m) :
    m.first.Passes m.span.matched m.last ∧ m.span.whole = b ∧ m.last.whole = b := by
  obtain ⟨w, made, hway⟩ := h.preferred.imp fun _ hw => hw.goes
  obtain ⟨x, hpass⟩ := Expr.passes_of_way hway
  obtain ⟨t, u, rfl, hfirst⟩ := h.place
  obtain ⟨hmatched, hwhole⟩ := span_of_passes hpass
  have hlast : m.last.whole = m.first.whole := hpass.whole_eq
  rw [hfirst, Cursor.whole_behind] at hwhole hlast
  exact ⟨hmatched.symm ▸ hpass, hwhole, hlast⟩

theorem slice?_of_mem_groups (h : r.IsFirst b start m) {p : GroupPlace} (hp : p ∈ m.last.groups) :
    ∃ inner : Span, inner.whole = m.span.matched ∧ r.expr.GroupReads p.index inner.matched ∧
      p.start = m.span.start + inner.start ∧ p.stop = m.span.start + inner.stop ∧
        b.slice? p.start p.stop = some inner.matched := by
  obtain ⟨hpass, hwhole, -⟩ := h.passes
  obtain ⟨w, made, hway⟩ := h.preferred.imp fun _ hw => hw.goes
  obtain ⟨x, places, hpass', hgroups, hplaces⟩ := Expr.records_of_way hway
  obtain rfl := hpass.eq_of_offset hpass' rfl
  have hnone : m.first.groups = [] := by
    obtain ⟨t, u, -, hfirst⟩ := h.place
    rw [hfirst]
    rfl
  rw [hnone, List.append_nil] at hgroups
  obtain ⟨inner, hinner, hstart, hstop, hreads⟩ := hplaces p (hgroups ▸ hp)
  rw [← h.start_span] at hstart hstop
  refine ⟨inner, hinner, hreads, hstart, hstop, ?_⟩
  rw [← hwhole, hstart, hstop, ← Span.start_within, ← Span.stop_within, ← Span.whole_within hinner]
  exact Span.slice?_whole _

/-- A group of a match is missing only if it took no part in the match. Otherwise it is the text at
a place inside the match, and one that the group reads. -/
theorem group?_cases (h : r.IsFirst b start m) (hindex : index ≠ 0) :
    (m.group? index = none ∧ ∀ p ∈ m.last.groups, p.index ≠ index) ∨
      ∃ inner : Span, inner.whole = m.span.matched ∧ r.expr.GroupReads index inner.matched ∧
        m.group? index = some inner.matched ∧
          b.slice? (m.span.start + inner.start) (m.span.start + inner.stop) =
            some inner.matched := by
  rw [Match.group?, if_neg hindex]
  cases hplace : m.last.groups.find? (·.index = index) with
  | none =>
      refine .inl ⟨rfl, fun p hp hindex => ?_⟩
      exact List.find?_eq_none.mp hplace p hp (decide_eq_true hindex)
  | some p =>
      obtain ⟨inner, hinner, hreads, hstart, hstop, hslice⟩ :=
        h.slice?_of_mem_groups (List.mem_of_find?_eq_some hplace)
      have hindex : p.index = index := by simpa using List.find?_some hplace
      rw [hindex] at hreads
      refine .inr ⟨inner, hinner, hreads, ?_, hstart ▸ hstop ▸ hslice⟩
      rw [h.passes.2.2]
      exact hslice

end IsFirst

theorem expand_zero (r : Regex) (m : Match) : r.expand m ['$', '0'] = m.span.matched := by
  have hread : readTemplate 3 ['$', '0'] = [.reference (.number 0)] := by decide
  rw [expand, show ['$', '0'].length + 1 = 3 from rfl, hread, List.flatMap_singleton,
    Piece.expand, groupText, group?_zero, Option.getD_some]

end Regex

namespace Anchor

variable {a : Anchor} {r : Regex} {m : Regex.Match} {S : Regex.Searcher} {span : Span}

theorem expand_of_capturesAt {start : Nat} (hpattern : a.pattern = .regex r)
    (h : S.capturesAt r b start = .ok (some m)) (template : Text) :
    a.expand b start template S = .ok (r.expand m template) := by
  simp only [expand, hpattern, h]
  rfl

theorem expand_of_find? (hpattern : a.pattern = .regex r) (hfind : r.find? b = some m)
    (template : Text) : a.expand b m.span.start template = .ok (r.expand m template) := by
  have hfirst := Regex.find?_eq_some_iff.mp hfind
  refine expand_of_capturesAt hpattern ?_ template
  refine (Regex.Searcher.capturesFirst_backtracking r b _ m ?_).mpr hfirst.of_zero
  rw [hfirst.start_span]
  exact hfirst.offset_le

/-- Where a regular expression is found, the second search, from the start of what was found, finds
the same match, if both searches find the first match from where they begin. So the whole match is
the text at the place that was found; every other group belongs to that match, in which it stands at
a place that it reads, or it took no part; and a rule fills in its template from this match. -/
theorem second_search_agrees (hpattern : a.pattern = .regex r) (hfinds : S.FindsFirst r)
    (hcaptures : S.CapturesFirst r) (hfind : a.pattern.find? b S = some span) :
    ∃ m, S.capturesAt r b span.start = .ok (some m) ∧ r.IsFirst b 0 m ∧ m.span = span ∧
      m.group? 0 = some span.matched ∧ b.slice? span.start span.stop = some span.matched ∧
      (∀ index, index ≠ 0 →
        (m.group? index = none ∧ ∀ p ∈ m.last.groups, p.index ≠ index) ∨
          ∃ inner : Span, inner.whole = span.matched ∧ r.expr.GroupReads index inner.matched ∧
            m.group? index = some inner.matched ∧
              b.slice? (span.start + inner.start) (span.start + inner.stop) =
                some inner.matched) ∧
      (∀ template, a.expand b span.start template S = .ok (r.expand m template)) ∧
      a.expand b span.start ['$', '0'] S = .ok span.matched ∧
      ∀ rule : Rule, rule.expand = true → ∀ found : Located, found.anchor = a →
        found.span = span → rule.textFor b found S = .ok (r.expand m rule.text) := by
  rw [hpattern] at hfind
  obtain ⟨m, hm, rfl⟩ := (hfinds b span).mp hfind
  have hstart : m.span.start ≤ b.byteLength := by
    rw [hm.start_span]
    exact hm.offset_le
  have hagain := (hcaptures b _ m hstart).mpr hm.of_zero
  have hexpand := expand_of_capturesAt hpattern hagain
  have hslice := m.span.slice?_whole
  rw [hm.passes.2.1] at hslice
  refine ⟨m, hagain, hm, rfl, rfl, hslice, fun _ => hm.group?_cases, hexpand, ?_, ?_⟩
  · rw [hexpand, Regex.expand_zero]
  · rintro rule hrule found rfl hspan
    rw [Rule.textFor, if_pos hrule, hspan, hexpand]
    rfl

/-- Finds lines that begin with letters `a`, as few of them as possible, and then have a `b` or
end. -/
def lineRegex : Regex where
  source := "(?m)^(a*?)(b|$)".toList
  expr := .ofItems
    [.empty, .look (.lineStart false), .group 1 (.iterate 0 none false (.chars (.single 'a'))),
      .group 2 (.alt (.chars (.single 'b')) (.look (.lineEnd false)))]
  names := []

def lineAnchor : Anchor where
  pattern := .regex lineRegex
  placement := .replace
  separator := none

def lineRule : Rule where
  id := ['r']
  anchors := { primary := lineAnchor }
  text := "[$1|$2]".toList
  expand := true

def lineSpan : Span := ⟨"x\n".toList, "aab".toList, []⟩

theorem second_search_agrees_line :
    AnchorSpec.compile ⟨.regex, "(?m)^(a*?)(b|$)".toList, .replace, none⟩ = .ok lineAnchor ∧
      Regex.Searcher.backtracking.FindsFirst lineRegex ∧
      Regex.Searcher.backtracking.CapturesFirst lineRegex ∧
      lineAnchor.pattern.find? "x\naab".toList = some lineSpan ∧
      ∃ m, lineRegex.findFrom "x\naab".toList 2 = .ok (some m) ∧ m.span = lineSpan ∧
        m.group? 1 = some "aa".toList ∧ m.group? 2 = some "b".toList ∧
        lineAnchor.expand "x\naab".toList 2 ['$', '0'] = .ok "aab".toList ∧
        lineRule.textFor "x\naab".toList ⟨.primary, lineAnchor, lineSpan⟩ =
          .ok "[aa|b]".toList := by
  have hfinds := Regex.Searcher.findsFirst_backtracking lineRegex
  have hcaptures := Regex.Searcher.capturesFirst_backtracking lineRegex
  have hfind : lineAnchor.pattern.find? "x\naab".toList = some lineSpan := by decide +kernel
  have hgroups : ∀ m, lineRegex.find? "x\naab".toList = some m →
      m.group? 1 = some "aa".toList ∧ m.group? 2 = some "b".toList ∧
        lineRegex.expand m "[$1|$2]".toList = "[aa|b]".toList := by
    decide +kernel
  obtain ⟨m, hagain, hm, hspan, -, -, -, -, hzero, htext⟩ :=
    second_search_agrees rfl hfinds hcaptures hfind
  obtain ⟨hone, htwo, hexpand⟩ := hgroups m (Regex.find?_eq_some_iff.mpr hm)
  refine ⟨rfl, hfinds, hcaptures, hfind, m, hagain, hspan, hone, htwo, hzero, ?_⟩
  rw [htext lineRule rfl ⟨.primary, lineAnchor, lineSpan⟩ rfl rfl]
  exact congrArg _ hexpand

end Anchor

end AnchorPatch
