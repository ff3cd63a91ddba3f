import AnchorPatch.Proofs.Rule.Set

namespace AnchorPatch

variable {r : Rule} {rs : List Rule} {b c : Text} {found : Located} {run : RuleRun}

theorem Anchor.exists_expand (a : Anchor) {start : Nat} (hstart : start ≤ b.byteLength)
    (template : Text) : ∃ t, a.expand b start template = .ok t := by
  have hreach : ¬ b.byteLength + 1 < start := by omega
  unfold expand
  cases a.pattern with
  | text s => exact ⟨_, rfl⟩
  | regex r =>
      simp only [Regex.Searcher.backtracking, Regex.findFrom, if_neg hreach]
      rcases (Regex.placeFrom start b.length (.ofText b)).bind r.search? with _ | m
      · exact ⟨_, rfl⟩
      · exact ⟨_, rfl⟩

namespace Rule

theorem exists_textFor (hlocate : r.anchors.locate b = some found) :
    ∃ t, r.textFor b found = .ok t := by
  have hstart := found.span.start_le_byteLength
  rw [AnchorPair.whole_of_locate hlocate] at hstart
  obtain ⟨t, ht⟩ := found.anchor.exists_expand hstart r.text
  unfold textFor
  split
  · exact ⟨t, by rw [ht, Except.mapError_ok]⟩
  · exact ⟨_, rfl⟩

theorem exists_step (r : Rule) (b : Text) : ∃ result, r.Step b result := by
  rcases hguard : r.isGuarded b with _ | _
  · rcases hlocate : r.anchors.locate b with _ | found
    · exact ⟨_, .missing hguard hlocate⟩
    · obtain ⟨t, htext⟩ := exists_textFor hlocate
      by_cases hsplice : found.anchor.splice found.span.matched t = found.span.matched
      · exact ⟨_, .same hguard hlocate htext hsplice⟩
      · exact ⟨_, .applied hguard hlocate htext hsplice⟩
  · exact ⟨_, .guarded hguard⟩

/-- The place that a rule finds is a place of its buffer: its ends are positions of the buffer, the
groups of a template are looked for within it, and any edit of it is accepted. -/
structure SafeAt (r : Rule) (b : Text) (found : Located) : Prop where
  slice : b.slice? found.span.start found.span.stop = some found.span.matched
  text : ∃ t, r.textFor b found = .ok t
  edit : ∀ newText, ∃ result,
    (Edit.replacing found.span.start found.span.stop newText found.span.matched).apply b =
      .ok result

theorem safeAt_of_locate (hlocate : r.anchors.locate b = some found) : r.SafeAt b found := by
  have hwhole := AnchorPair.whole_of_locate hlocate
  refine ⟨?_, exists_textFor hlocate, ?_⟩
  · rw [← hwhole]
    exact found.span.slice?_whole
  · intro newText
    rw [← hwhole, Edit.apply_replacing]
    split
    · exact ⟨_, rfl⟩
    · exact ⟨_, rfl⟩

end Rule

namespace RuleSet

/-- The turn of a rule in a run: the buffer that it is given, and what it makes of it. -/
structure Turn where
  rule : Rule
  given : Text
  left : Text
  outcome : Outcome

/-- What a run reports of a turn. -/
def Turn.report (t : Turn) : RuleOutcome := { id := t.rule.id, outcome := t.outcome }

/-- A run goes from one buffer to another through these turns. -/
inductive Turns : Text → List Turn → Text → Prop
  | nil (b : Text) : Turns b [] b
  | cons {r : Rule} {b b' c : Text} {outcome : Outcome} {ts : List Turn}
      (step : r.Step b (b', outcome)) (rest : Turns b' ts c) : Turns b (⟨r, b, b', outcome⟩ :: ts) c

theorem applyRules_eq_ok_iff :
    applyRules rs b = .ok run ↔
      ∃ ts, Turns b ts run.buffer ∧ ts.map (·.rule) = rs ∧ run.outcomes = ts.map Turn.report := by
  induction rs generalizing b run with
  | nil =>
      obtain ⟨buffer, outcomes⟩ := run
      constructor
      · rintro ⟨⟩
        exact ⟨[], .nil b, rfl, rfl⟩
      · rintro ⟨ts, hturns, hrules, houtcomes⟩
        obtain rfl := List.map_eq_nil_iff.mp hrules
        cases hturns
        simp_all [applyRules]
  | cons r rs ih =>
      rw [applyRules_cons_eq_ok_iff]
      constructor
      · rintro ⟨b', outcome, rest, hr, hrest, rfl⟩
        obtain ⟨ts, hturns, rfl, houtcomes⟩ := ih.mp hrest
        exact ⟨⟨r, b, b', outcome⟩ :: ts, .cons (Rule.apply_eq_ok_iff.mp hr) hturns, rfl,
          by simp [Turn.report, houtcomes]⟩
      · rintro ⟨ts, hturns, hrules, houtcomes⟩
        cases hturns with
        | nil => cases hrules
        | @cons _ _ b' _ outcome ts step rest =>
            simp only [List.map_cons, List.cons.injEq] at hrules houtcomes
            obtain ⟨rfl, hrules⟩ := hrules
            obtain ⟨buffer, outcomes⟩ := run
            obtain rfl : outcomes = _ := houtcomes
            exact ⟨b', outcome, ⟨buffer, ts.map Turn.report⟩, Rule.apply_eq_ok_iff.mpr step,
              ih.mpr ⟨ts, rest, hrules, rfl⟩, rfl⟩

theorem exists_turns (rs : List Rule) (b : Text) :
    ∃ c ts, Turns b ts c ∧ ts.map (·.rule) = rs := by
  induction rs generalizing b with
  | nil => exact ⟨b, [], .nil b, rfl⟩
  | cons r rs ih =>
      obtain ⟨⟨b', outcome⟩, hstep⟩ := r.exists_step b
      obtain ⟨c, ts, hturns, rfl⟩ := ih b'
      exact ⟨c, _, .cons hstep hturns, rfl⟩

theorem exists_run (rs : List Rule) (b : Text) : ∃ run, applyRules rs b = .ok run := by
  obtain ⟨c, ts, hturns, hrules⟩ := exists_turns rs b
  exact ⟨⟨c, ts.map Turn.report⟩, applyRules_eq_ok_iff.mpr ⟨ts, hturns, hrules, rfl⟩⟩

/-- A run cannot fail: it goes through one turn for each rule, in their order, and reports the
outcome of each. Wherever one of the rules finds its place, in whatever buffer, it can use it. -/
theorem run_total (s : RuleSet) (b : Text) :
    ∃ run ts, s.apply b = .ok run ∧ Turns b ts run.buffer ∧ ts.map (·.rule) = s.rules ∧
      run.outcomes = ts.map Turn.report ∧
      ∀ r ∈ s.rules, ∀ c found, r.anchors.locate c = some found → r.SafeAt c found := by
  obtain ⟨run, hrun⟩ := exists_run s.rules b
  obtain ⟨ts, hturns, hrules, houtcomes⟩ := applyRules_eq_ok_iff.mp hrun
  refine ⟨run, ts, hrun, hturns, hrules, houtcomes, ?_⟩
  intro r _ c found hlocate
  exact Rule.safeAt_of_locate hlocate

end RuleSet

/-- A rule has nothing to do to a buffer: its guard text is there, or neither of its anchors
matches, or the place that it finds holds already what it would put there. -/
inductive Rule.Inert (r : Rule) (b : Text) : Prop
  | guarded {g : Text} (hg : r.unlessPresent = some g) (hb : g <:+: b)
  | missing (hprimary : r.anchors.primary.pattern.find? b = none)
      (hfallback : ∀ f, r.anchors.fallback = some f → f.pattern.find? b = none)
  | same {found : Located} {t : Text} (hlocate : r.anchors.locate b = some found)
      (htext : r.textFor b found = .ok t)
      (hsplice : found.anchor.splice found.span.matched t = found.span.matched)

theorem Rule.rests_iff_inert : r.Rests b ↔ r.Inert b := by
  constructor
  · rintro ⟨outcome, h, houtcome⟩
    generalize hresult : (b, outcome) = result at h
    cases apply_eq_ok_iff.mp h with
    | guarded hguard =>
        obtain ⟨g, hg, hb⟩ := isGuarded_iff.mp hguard
        exact .guarded hg hb
    | missing _ hlocate =>
        obtain ⟨hprimary, hfallback⟩ := AnchorPair.locate_eq_none_iff.mp hlocate
        exact .missing hprimary hfallback
    | same _ hlocate htext hsplice => exact .same hlocate htext hsplice
    | applied =>
        cases hresult
        cases houtcome
  · intro h
    cases hguard : r.isGuarded b with
    | true => exact ⟨_, apply_eq_ok_iff.mpr (.guarded hguard), rfl⟩
    | false =>
        cases h with
        | guarded hg hb =>
            rw [isGuarded_iff.mpr ⟨_, hg, hb⟩] at hguard
            cases hguard
        | missing hprimary hfallback =>
            have hlocate := AnchorPair.locate_eq_none_iff.mpr ⟨hprimary, hfallback⟩
            exact ⟨_, apply_eq_ok_iff.mpr (.missing hguard hlocate), rfl⟩
        | same hlocate htext hsplice =>
            exact ⟨_, apply_eq_ok_iff.mpr (.same hguard hlocate htext hsplice), rfl⟩

namespace RuleSet

/-- What each rule reports of a buffer when it is applied to it alone. -/
def outcomesAlone (rs : List Rule) (b : Text) : Except RuleError (List RuleOutcome) :=
  rs.mapM fun r => do
    let (_, outcome) ← r.apply b
    return { id := r.id, outcome }

theorem outcomesAlone_of_rests (hrs : ∀ r ∈ rs, r.Rests b) (h : applyRules rs b = .ok run) :
    outcomesAlone rs b = .ok run.outcomes := by
  induction rs generalizing run with
  | nil =>
      cases h
      rfl
  | cons r rs ih =>
      obtain ⟨b', outcome, rest, hr, hrest, rfl⟩ := applyRules_cons_eq_ok_iff.mp h
      obtain ⟨outcome', hr', -⟩ := hrs r List.mem_cons_self
      rw [hr'] at hr
      cases hr
      have hrest := ih (fun r' hr' => hrs r' (List.mem_cons_of_mem _ hr')) hrest
      unfold outcomesAlone at hrest ⊢
      rw [List.mapM_cons, hr', hrest]
      rfl

end RuleSet

end AnchorPatch
