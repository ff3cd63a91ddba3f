import AnchorPatch.Anchor.Pattern
import AnchorPatch.Proofs.Regex.Opening

/-!
Probes of regular expressions.

The probe is read from the front of a pattern without parsing it. Main statement: apart from blanks,
the probe and the plain text at the front of the pattern agree as far as both go, so every match
begins with a probe that does not go beyond that text.
-/

namespace AnchorPatch

namespace Probe

open Text (visible visible_append)
open Regex (Ast ParseState readEscape readFlags hidesBlanks FlagSign settle)
open Opening (stop ofChar)

variable {st st' : ParseState} {ast : Ast} {mode : Mode} {fuel : Nat} {c : Char}
  {s rest out : Text}

theorem scan_plain (out : Text) (c : Char) (s : Text) :
    scan .plain out (c :: s) =
      if c = '\\' then scan .escape out s
      else if c = '(' then scan (if s.head? = some '?' then .flags else .plain) out s
      else if c = ')' || c = '^' then scan .plain out s
      else if isStop c then out
      else scan .plain (c :: out) s :=
  (scan.eq_4 .plain out c s nofun nofun).trans (if_neg (by simp))

theorem scan_blanks (out : Text) (c : Char) (s : Text) :
    scan .blanks out (c :: s) =
      if isCountSign c then scan .blanks out s else scan .plain out (c :: s) := by
  rw [scan_plain, scan.eq_4 .blanks out c s nofun nofun, decide_eq_true rfl, Bool.true_and]

theorem scan_flags {read signs : List FlagSign} (h : readFlags read s = .ok (signs, rest))
    (out : Text) : scan .flags out s = scan .plain out rest.tail := by
  induction s generalizing read with
  | nil => cases h
  | cons c s ih =>
      rw [Regex.readFlags.eq_def] at h
      rw [scan.eq_3]
      dsimp only at h
      split at h
      next hend =>
        rw [if_pos hend]
        split at h
        · cases h
        · cases h
          rfl
      next hend =>
        rw [if_neg hend]
        generalize (if c = '-' then some FlagSign.negation
          else (Regex.Flag.ofChar? c).map FlagSign.flag) = sign at h
        cases sign with
        | none => cases h
        | some sign =>
            dsimp only at h
            split at h
            · cases h
            · exact ih h

theorem suffix_addBlank (out : Text) : out <:+ addBlank out := by
  rw [addBlank]
  split
  · exact List.suffix_rfl
  · exact List.suffix_cons _ _

theorem visible_addBlank (out : Text) :
    visible (addBlank out).reverse = visible out.reverse := by
  rw [addBlank]
  split
  · rfl
  · rw [List.reverse_cons, visible_append]
    exact List.append_nil _

theorem suffix_scan (mode : Mode) (out s : Text) : out <:+ scan mode out s := by
  induction s generalizing mode out with
  | nil => exact List.suffix_rfl
  | cons c s ih =>
      have hcons : out <:+ scan .plain (c :: out) s := (List.suffix_cons c out).trans (ih _ _)
      have hplain : out <:+ scan .plain out (c :: s) := by
        rw [scan_plain]
        repeat' split
        all_goals first
          | exact ih _ _
          | exact List.suffix_rfl
          | exact hcons
      cases mode with
      | plain => exact hplain
      | flags => exact scan.eq_3 out c s ▸ ih _ _
      | blanks =>
          rw [scan_blanks]
          split
          · exact ih _ _
          · exact hplain
      | escape =>
          rw [scan.eq_2]
          split
          · exact (suffix_addBlank out).trans (ih _ _)
          · split
            · exact List.suffix_rfl
            · exact hcons

theorem readEscape_cases {free : Bool} {p : Regex.Primitive} (hc : c.isAlphanum = false)
    (h : readEscape free (c :: s) = .ok (p, rest)) :
    rest = s ∧ (p = .literal c false ∨ c = '<' ∧ p = .assertion .wordStart ∨
      c = '>' ∧ p = .assertion .wordEnd) := by
  rw [Regex.readEscape.eq_def] at h
  dsimp only at h
  split at h
  case h_21 =>
    cases h
    exact ⟨rfl, .inr (.inl ⟨rfl, rfl⟩)⟩
  case h_22 =>
    cases h
    exact ⟨rfl, .inr (.inr ⟨rfl, rfl⟩)⟩
  case h_24 =>
    split at h
    · cases h
    · split at h
      · cases h
        exact ⟨rfl, .inl rfl⟩
      · cases h
  all_goals exact absurd hc (by decide)

/-- The readers of the probe and of the pattern are at the same place, and have read the same. -/
structure InStep (st : ParseState) (mode : Mode) (out : Text) : Prop where
  free : st.free = false
  frames : ∀ f ∈ st.stack, f.free = false
  opening : st.opening = ⟨visible out.reverse, true⟩
  mode : mode = .plain ∨
    mode = .blanks ∧ ∃ item items, st.items = item :: items ∧ item.isBlankRun = true

/-- How far the two readers get, `probe` being all that the one of the probe reads. -/
inductive Turn (out : Text) (st : ParseState) : Text → Prop
  | ended : Turn out st out
  | closed {probe : Text} (h : st.opening = ⟨visible out.reverse, false⟩) : Turn out st probe
  | onwards {mode : Mode} {out' : Text} (h : InStep st mode out') :
      Turn out st (scan mode out' st.rest)

theorem InStep.closed (h : InStep st mode out) (hopening : st'.opening = st.opening * stop)
    (probe : Text) : Turn out st' probe := by
  refine .closed ?_
  rw [hopening, h.opening, Opening.mul_of_isWhole rfl, stop, List.append_nil]

theorem InStep.push (h : InStep st mode out) {item : Ast} {mode' : Mode} {out' : Text}
    (hitem : item.opening.isWhole = true)
    (hout : visible out'.reverse = visible out.reverse ++ item.opening.text)
    (hmode : mode' = .plain ∨ mode' = .blanks ∧ item.isBlankRun = true) (rest : Text) :
    InStep (st.push item rest) mode' out' where
  free := h.free
  frames := h.frames
  opening := by
    rw [ParseState.opening_push, h.opening, Opening.mul_of_isWhole rfl, hitem, hout]
  mode := hmode.imp_right fun ⟨hblanks, hrun⟩ => ⟨hblanks, item, st.items, rfl, hrun⟩

theorem InStep.push_one (h : InStep st mode out) {item : Ast} (hitem : item.opening = 1)
    (rest : Text) : InStep (st.push item rest) .plain out :=
  h.push (by rw [hitem]; rfl) (by rw [hitem]; exact (List.append_nil _).symm) (.inl rfl) rest

theorem InStep.push_char (h : InStep st mode out) {item : Ast} (hitem : item.opening = ofChar c)
    (rest : Text) : InStep (st.push item rest) .plain (c :: out) :=
  h.push (by rw [hitem]; rfl) (by rw [hitem, List.reverse_cons, visible_append]; rfl)
    (.inl rfl) rest

theorem getD_of_not_hidesBlanks {signs : List FlagSign} (h : ¬ hidesBlanks signs = true) :
    (Regex.flagSetting .ignoreBlanks true signs).getD false = false := by
  rw [hidesBlanks, decide_eq_true_eq] at h
  cases hsetting : Regex.flagSetting .ignoreBlanks true signs with
  | none => rfl
  | some on => cases on with
    | false => rfl
    | true => exact absurd hsetting h

theorem InStep.enter (h : InStep st mode out) {kind : Regex.GroupKind} (hkind : kind.opening = 1)
    {free : Bool} (hfree : free = false) (rest : Text) :
    InStep (st.enter kind free rest) .plain out where
  free := hfree
  frames := List.forall_mem_cons.mpr ⟨h.free, h.frames⟩
  opening := by rw [ParseState.opening_enter, hkind, mul_one, h.opening]
  mode := .inl rfl

theorem InStep.enterCapture (h : InStep st mode out) (rest : Text) :
    InStep (st.enterCapture none rest) .plain out where
  free := h.free
  frames := List.forall_mem_cons.mpr ⟨h.free, h.frames⟩
  opening := by
    rw [ParseState.opening_enterCapture, Regex.GroupKind.opening, mul_one, h.opening]
  mode := .inl rfl

theorem InStep.turn_openGroup (h : InStep st mode out) (hopen : st.openGroup s = .ok st') :
    Turn out st' (scan .plain out ('(' :: s)) := by
  have hsettle : settle st.free s = s := if_neg (by simp [h.free])
  rw [scan_plain, if_neg (by decide), if_pos rfl]
  have hflags {s' rest : Text} {signs : List FlagSign} (hs : s = '?' :: s')
      (hread : readFlags [] s' = .ok (signs, rest)) :
      scan (if s.head? = some '?' then .flags else .plain) out s = scan .plain out rest.tail := by
    subst hs
    rw [List.head?_cons, if_pos rfl, scan.eq_3]
    exact scan_flags hread out
  cases Regex.ParseState.opens_of_openGroup hopen with
  | named => exact h.closed (ParseState.opening_enterCapture st (some _) _) _
  | @flags signs s' rest hs hread =>
      rw [hsettle] at hs
      rw [hflags hs hread]
      by_cases hhides : hidesBlanks signs = true
      · have hopening : (st.push (.flags signs) rest).opening = st.opening * stop := by
          rw [ParseState.opening_push, Ast.opening, if_pos hhides]
        refine h.closed ?_ _
        exact hopening
      · have hone : (Ast.flags signs).opening = 1 := if_neg hhides
        have hpush : InStep (st.push (.flags signs) rest) .plain out := h.push_one hone rest
        have hfree : (Regex.flagSetting .ignoreBlanks true signs).getD st.free = false := by
          rw [h.free]
          exact getD_of_not_hidesBlanks hhides
        have hin : InStep { st.push (.flags signs) rest with free := _ } .plain out :=
          ⟨hfree, hpush.frames, hpush.opening, hpush.mode⟩
        exact .onwards hin
  | @plain signs s' rest hs hread =>
      rw [hsettle] at hs
      rw [hflags hs hread]
      by_cases hhides : hidesBlanks signs = true
      · refine h.closed ((ParseState.opening_enter st _ _ _).trans ?_) _
        rw [Regex.GroupKind.opening, if_pos hhides]
      · have hkind : (Regex.GroupKind.plain signs).opening = 1 := if_neg hhides
        refine .onwards (h.enter hkind ?_ rest.tail)
        rw [h.free]
        exact getD_of_not_hidesBlanks hhides
  | capture hs =>
      rw [hsettle] at hs ⊢
      rw [if_neg hs]
      exact .onwards (h.enterCapture s)

theorem InStep.turn_closeGroup (h : InStep st mode out) (hclose : st.closeGroup s = .ok st') :
    Turn out st' (scan .plain out (')' :: s)) := by
  have hopening := ParseState.opening_closeGroup hclose
  rw [Regex.ParseState.closeGroup] at hclose
  split at hclose
  · cases hclose
  next f stack hstack =>
    cases hclose
    obtain ⟨hfree, hframes⟩ := List.forall_mem_cons.mp (hstack ▸ h.frames)
    have hin : InStep _ .plain out := ⟨hfree, hframes, hopening.trans h.opening, .inl rfl⟩
    exact .onwards hin

theorem InStep.turn_escape (h : InStep st mode out) {p : Regex.Primitive}
    (hread : readEscape st.free s = .ok (p, rest)) :
    Turn out (st.pushPrimitive p rest) (scan .plain out ('\\' :: s)) := by
  rw [scan_plain, if_pos rfl]
  cases s with
  | nil => cases hread
  | cons c s =>
      rw [scan.eq_2]
      split
      next hc =>
        subst hc
        cases hread
        have hin : InStep (st.push (.letter .space false) rest) .blanks (addBlank out) :=
          h.push rfl ((visible_addBlank out).trans (List.append_nil _).symm) (.inr ⟨rfl, rfl⟩) rest
        exact .onwards hin
      next =>
        split
        · exact .ended
        next hc =>
          obtain ⟨rfl, rfl | ⟨rfl, rfl⟩ | ⟨rfl, rfl⟩⟩ :=
            readEscape_cases (Bool.not_eq_true _ ▸ hc) hread
          all_goals exact .onwards (h.push_char rfl rest)

theorem InStep.turn_plain (h : InStep st mode out) (hstep : st.step c s = .ok st') :
    Turn out st' (scan .plain out (c :: s)) := by
  unfold ParseState.step at hstep
  split at hstep
  case h_1 => exact h.turn_openGroup hstep
  case h_2 => exact h.turn_closeGroup hstep
  case h_9 =>
    obtain ⟨⟨p, rest⟩, hread, hstep⟩ := Except.bind_eq_ok_iff.mp hstep
    cases hstep
    exact h.turn_escape hread
  case h_11 =>
    cases hstep
    exact .onwards (h.push_one rfl s)
  case h_13 =>
    cases hstep
    have hscan : scan .plain out (c :: s) = scan .plain (c :: out) s := by
      rw [scan_plain]
      simp_all [isStop, isCountSign]
    rw [hscan]
    exact .onwards (h.push_char rfl s)
  all_goals exact .ended

/-- A run of blanks may be counted, and its greed turned round, which both readers pass. -/
theorem InStep.turn_count (h : InStep st .blanks out) {least : Nat} {most : Option Nat}
    (hstep : st.iterateSign least most s = .ok st') : Turn out st' (scan .blanks out s) := by
  obtain ⟨item, items, hitems, hrun⟩ := (h.mode.resolve_left nofun).2
  rw [Regex.ParseState.iterateSign] at hstep
  obtain ⟨item', items', hitems', hst', hopening⟩ := ParseState.opening_iterate hstep
  obtain ⟨rfl, rfl⟩ := List.cons.inj (hitems.symm.trans hitems')
  rw [if_pos hrun] at hopening
  have hrest : scan .blanks out s = scan .blanks out st'.rest := by
    rw [hst']
    dsimp only
    split
    · exact scan_blanks out '?' _
    · rfl
  have hin : InStep st' .blanks out := by
    refine ⟨?_, ?_, hopening.trans h.opening, .inr ⟨rfl, ?_⟩⟩
    · rw [hst']
      exact h.free
    · rw [hst']
      exact h.frames
    · rw [hst']
      exact ⟨_, items, rfl, hrun⟩
  rw [hrest]
  exact .onwards hin

theorem InStep.turn (h : InStep st mode out) (hstep : st.step c s = .ok st') :
    Turn out st' (scan mode out (c :: s)) := by
  obtain rfl | ⟨rfl, -⟩ := h.mode
  · exact h.turn_plain hstep
  · rw [scan_blanks]
    split
    next hcount =>
      simp only [isCountSign, Bool.or_eq_true, decide_eq_true_eq] at hcount
      obtain (rfl | rfl) | rfl := hcount
      all_goals exact h.turn_count hstep
    next => exact h.turn_plain hstep

/-- Two texts agree as far as both go. -/
def Agree (u v : Text) : Prop := u <+: v ∨ v <+: u

theorem visible_prefix_scan (mode : Mode) (out s : Text) :
    visible out.reverse <+: visible (scan mode out s).reverse :=
  (List.reverse_prefix.mpr (suffix_scan mode out s)).filter _

/-- As far as both go, the probe and the opening of the pattern agree. -/
theorem InStep.agree (h : InStep st mode out) (hrun : ParseState.run fuel st = .ok ast) :
    Agree (visible (scan mode out st.rest).reverse) ast.opening.text := by
  induction fuel generalizing st mode out with
  | zero => cases hrun
  | succ fuel ih =>
      have hout : visible out.reverse <+: ast.opening.text := by
        have hprefix := Opening.prefix_of_dvd (ParseState.opening_dvd_run hrun)
        rw [h.opening] at hprefix
        exact hprefix
      have hsettle : settle st.free st.rest = st.rest := if_neg (by simp [h.free])
      rw [Regex.ParseState.run, hsettle] at hrun
      split at hrun
      next hrest =>
        rw [hrest]
        exact .inl hout
      next c s hrest =>
        obtain ⟨st', hstep, hrun⟩ := Except.bind_eq_ok_iff.mp hrun
        have hprobe := visible_prefix_scan mode out (c :: s)
        have hturn := h.turn hstep
        rw [hrest]
        generalize scan mode out (c :: s) = probe at hturn hprobe
        cases hturn with
        | ended => exact .inl hout
        | closed hclosed =>
            -- Nothing that the parser reads from here on changes the opening.
            have heq := Opening.eq_of_dvd (ParseState.opening_dvd_run hrun) (hclosed ▸ rfl)
            rw [heq, hclosed]
            exact .inr hprobe
        | onwards hin => exact ih hin hrun

theorem visible_intercalate (ws : List Text) :
    visible ([' '].intercalate ws) = visible ws.flatten := by
  induction ws with
  | nil => rfl
  | cons w ws ih =>
      cases ws with
      | nil => simp [List.intercalate_singleton]
      | cons w' ws =>
          have hblank : visible w ++ visible [' '] = visible w := List.append_nil _
          rw [List.intercalate_cons_cons, visible_append, visible_append, ih, hblank]
          exact (visible_append w _).symm

theorem visible_words (s : Text) : visible (Text.words s).flatten = visible s := by
  induction s using Text.words.induct <;> simp_all [Text.words, visible]

theorem visible_squeeze (s : Text) : visible (Text.squeeze s) = visible s := by
  rw [Text.squeeze, visible_intercalate, visible_words]

theorem agree_lead {pattern : Text} {r : Regex} (h : Regex.compile pattern = .ok r) :
    Agree (visible (Pattern.regex r).probe) (Regex.lead pattern) := by
  obtain ⟨hsource, ast, g, hparse, -⟩ := Regex.exists_of_compile h
  have hrun : ∃ fuel, ParseState.run fuel { rest := pattern } = .ok ast := by
    rw [Ast.parse, Except.bind_eq_ok_iff] at hparse
    obtain ⟨ast', hrun, hparse⟩ := hparse
    dsimp only at hparse
    split at hparse
    · cases hparse
    · cases hparse
      exact ⟨_, hrun⟩
  obtain ⟨fuel, hrun⟩ := hrun
  have hstart : InStep { rest := pattern } .plain [] := ⟨rfl, nofun, rfl, .inl rfl⟩
  have hlead : Regex.lead pattern <+: ast.opening.text := by
    rw [Regex.lead, hparse]
    exact (ast.lead_within {}).isPrefix
  rw [Pattern.probe, hsource, ofPattern, visible_squeeze]
  rcases hstart.agree hrun with hagree | hagree
  · exact List.prefix_or_prefix_of_prefix hagree hlead
  · exact .inr (hlead.trans hagree)

/-- Every match begins with the plain text at the front of the pattern, and the probe agrees with
that text as far as both go. So every match begins with the probe unless the probe goes on behind
that text, beyond a part which a match may lack. -/
theorem probe_leads_matches {pattern : Text} {r : Regex} (h : Regex.compile pattern = .ok r) :
    Agree (visible (Pattern.regex r).probe) (Regex.lead pattern) ∧
      ∀ m : Regex.Match, m.last ∈ r.expr.ends m.first →
        Regex.lead pattern <+: visible m.span.matched ∧
          ((visible (Pattern.regex r).probe).length ≤ (Regex.lead pattern).length →
            visible (Pattern.regex r).probe <+: visible m.span.matched) := by
  have hagree := agree_lead h
  refine ⟨hagree, fun m hm => ?_⟩
  have hlead := Regex.lead_prefix_of_mem_ends h hm
  refine ⟨hlead, fun hlength => ?_⟩
  rcases hagree with hprobe | hprobe
  · exact hprobe.trans hlead
  · rw [← hprobe.eq_of_length_le hlength]
    exact hlead

/-- A letter `a`, blanks and an opening parenthesis. -/
theorem probe_leads_matches_blanks :
    let r : Regex :=
      { source := ['a', '\\', 's', '*', '\\', '(']
        expr := .ofItems [.chars (.single 'a'), .iterate 0 none true (.chars ⟨Text.blankRanges⟩),
          .chars (.single '(')]
        names := [] }
    Regex.compile r.source = .ok r ∧ visible (Pattern.regex r).probe = ['a', '('] ∧
      ∀ m : Regex.Match, m.last ∈ r.expr.ends m.first → ['a', '('] <+: visible m.span.matched := by
  intro r
  have h : Regex.compile r.source = .ok r := rfl
  have hprobe : visible (Pattern.regex r).probe = ['a', '('] := by decide
  have hlead : Regex.lead r.source = ['a', '('] := by decide
  refine ⟨h, hprobe, fun m hm => ?_⟩
  rw [← hprobe]
  exact ((probe_leads_matches h).2 m hm).2 (Nat.le_of_eq (by rw [hprobe, hlead]))

/-- The probe has the `b` that a match may lack. -/
example : ∃ r m, Regex.compile ['a', 'b', '*'] = .ok r ∧ r.find? ['a'] = some m ∧
    (Pattern.regex r).probe = ['a', 'b'] ∧ m.span.matched = ['a'] :=
  ⟨_, _, rfl, rfl, by decide, by decide⟩

end Probe

end AnchorPatch
