import AnchorPatch.Proofs.Config.Compile
import AnchorPatch.Proofs.Regex.Groups
import AnchorPatch.Proofs.Regex.Template
import AnchorPatch.Proofs.Rule.Apply

/-!
Templates of valid configurations.

A template is filled in from the match at the place where its rule writes. Main statement: a rule of
a valid configuration whose text is a template has a regular expression, and it fills in its
template wherever that is what has matched. Validation looks for a regular expression among both
anchors, so the other anchor may be a plain text, and there the template is written as it is.
-/

namespace AnchorPatch

variable {b t : Text}

/-- The text is the template, filled in from the match of a regular expression at a place. -/
def Anchor.Fills (a : Anchor) (b : Text) (span : Span) (template t : Text) : Prop :=
  ∃ r m, a.pattern = .regex r ∧ r.find? b = some m ∧ m.span = span ∧ r.Expands m template t

theorem Anchor.fills_of_expand {a : Anchor} {r : Regex} {span : Span} {template : Text}
    (hpattern : a.pattern = .regex r) (hfind : a.pattern.find? b = some span)
    (hexpand : a.expand b span.start template = .ok t) : a.Fills b span template t := by
  rw [hpattern] at hfind
  obtain ⟨m, hm, rfl⟩ := Option.map_eq_some_iff.mp hfind
  rw [expand_of_find? hpattern hm] at hexpand
  exact ⟨r, m, hpattern, hm, rfl, Regex.expands_iff.mpr (Except.ok.inj hexpand).symm⟩

theorem AnchorSpec.pattern_of_compile {a : AnchorSpec} {anchor : Anchor}
    (h : a.compile = .ok anchor) :
    (a.kind = .regex ∧ ∃ r, anchor.pattern = .regex r) ∨
      a.kind = .text ∧ anchor.pattern = .text a.pattern := by
  obtain ⟨p, hp, h⟩ := Except.bind_eq_ok_iff.mp h
  obtain rfl := Except.pure_eq_ok_iff.mp h
  unfold Pattern.compile at hp
  split at hp
  next hkind =>
    cases hp
    exact .inr ⟨hkind, rfl⟩
  next hkind =>
    split at hp
    next r _ =>
      cases hp
      exact .inl ⟨hkind, r, rfl⟩
    next => cases hp

namespace RuleSpec

variable {r : RuleSpec} {rule : Rule}

/-- The anchor of a rule in one of the two slots. -/
def anchorAt? (r : RuleSpec) : Slot → Option AnchorSpec
  | .primary => some r.primary
  | .fallback => r.fallback

theorem text_of_compile (h : r.compile = .ok rule) :
    rule.text = r.text ∧ rule.expand = r.expand := by
  rw [eq_of_compile h]
  exact ⟨rfl, rfl⟩

theorem exists_anchorAt?_of_locate {found : Located} (h : r.compile = .ok rule)
    (hlocate : rule.anchors.locate b = some found) :
    ∃ a, r.anchorAt? found.slot = some a ∧ a.compile = .ok found.anchor := by
  obtain ⟨primary, hprimary, h⟩ := Except.bind_eq_ok_iff.mp h
  obtain ⟨fallback, hfallback, h⟩ := Except.bind_eq_ok_iff.mp h
  rw [← Except.pure_eq_ok_iff.mp h] at hlocate
  cases AnchorPair.locate_eq_some_iff.mp hlocate with
  | primary => exact ⟨r.primary, rfl, Except.mapError_eq_ok_iff.mp hprimary⟩
  | fallback _ hanchor =>
      cases hspec : r.fallback with
      | none =>
          rw [hspec] at hfallback
          cases hfallback
          cases hanchor
      | some a =>
          rw [hspec, Option.mapM_some, map_eq_pure_bind, Except.bind_eq_ok_iff] at hfallback
          obtain ⟨anchor, ha, hfallback⟩ := hfallback
          obtain rfl := Except.pure_eq_ok_iff.mp hfallback
          obtain rfl := Option.some.inj hanchor
          exact ⟨a, hspec, Except.mapError_eq_ok_iff.mp ha⟩

end RuleSpec

/-- The text that a rule with a template writes: the filled-in template where a regular expression
has matched, and the template itself where a plain text has. -/
theorem Rule.fills_of_textFor {rule : Rule} {found : Located} {a : AnchorSpec}
    (hexpand : rule.expand = true) (hlocate : rule.anchors.locate b = some found)
    (htext : rule.textFor b found = .ok t) (ha : a.compile = .ok found.anchor) :
    (found.anchor.Fills b found.span rule.text t ↔ a.kind = .regex) ∧
      (a.kind = .text → t = rule.text) := by
  rw [textFor, if_pos hexpand, Except.mapError_eq_ok_iff] at htext
  rcases AnchorSpec.pattern_of_compile ha with ⟨hkind, r, hpattern⟩ | ⟨hkind, hpattern⟩
  · have hfills := Anchor.fills_of_expand hpattern (AnchorPair.find?_of_locate hlocate).1 htext
    exact ⟨iff_of_true hfills hkind, fun h => absurd (hkind.symm.trans h) (by decide)⟩
  · refine ⟨iff_of_false ?_ (by simp [hkind]), fun _ => ?_⟩
    · rintro ⟨r, m, hregex, -⟩
      rw [hpattern] at hregex
      cases hregex
    · rw [Anchor.expand, hpattern] at htext
      exact (Except.ok.inj htext).symm

namespace Config

variable {c : Config} {spec : RuleSpec}

theorem exists_rule_of_validate (hvalid : c.validate = .ok ()) (hspec : spec ∈ c.rules) :
    ∃ rule, spec.compile = .ok rule := by
  rcases hcompile : spec.compile with e | rule
  · obtain ⟨slot, cause, hstops, -⟩ := RuleSpec.exists_stopsAt hcompile
    rw [validate_of_mem (badPattern_mem_issues hspec hstops)] at hvalid
    cases hvalid
  · exact ⟨rule, rfl⟩

theorem hasRegex_of_validate (hvalid : c.validate = .ok ()) (hspec : spec ∈ c.rules)
    (hexpand : spec.expand = true) : spec.hasRegex = true := by
  refine Classical.byContradiction fun hregex => ?_
  have hissue : .conflict spec.id .expandWithoutRegex ∈ spec.issues := by
    simp [RuleSpec.issues, Issue.when, hexpand, hregex]
  have hmem : .conflict spec.id .expandWithoutRegex ∈ c.issues :=
    List.mem_append_right _ (RuleSpec.mem_allIssues hspec hissue)
  rw [validate_of_mem hmem] at hvalid
  cases hvalid

/-- In a valid configuration, a rule whose text is a template has a regular expression and
compiles. Wherever it writes, it writes at the place that its anchors find: the template, filled in
from the match at that place, exactly if the anchor found there is a regular expression; otherwise
the anchor is a plain text, and the template is written as it is. -/
theorem fills_iff_regex (hvalid : c.validate = .ok ()) (hspec : spec ∈ c.rules)
    (hexpand : spec.expand = true) :
    spec.hasRegex = true ∧ ∃ rule, spec.compile = .ok rule ∧
      ∀ b b' slot start n, rule.apply b = .ok (b', .applied slot start n) →
        ∃ a found t, spec.anchorAt? slot = some a ∧ a.compile = .ok found.anchor ∧
          rule.anchors.Finds b found ∧ found.slot = slot ∧ found.span.start = start ∧
          b' = found.span.before ++ found.anchor.splice found.span.matched t ++
            found.span.after ∧
          (found.anchor.Fills b found.span spec.text t ↔ a.kind = .regex) ∧
          (a.kind = .text → t = spec.text) := by
  obtain ⟨rule, hrule⟩ := exists_rule_of_validate hvalid hspec
  obtain ⟨htext, hrexpand⟩ := RuleSpec.text_of_compile hrule
  refine ⟨hasRegex_of_validate hvalid hspec hexpand, rule, hrule, ?_⟩
  intro b b' slot start n happly
  cases Rule.apply_eq_ok_iff.mp happly with
  | @applied _ found t hlocate ht hsplice =>
      obtain ⟨a, hslot, ha⟩ := RuleSpec.exists_anchorAt?_of_locate hrule hlocate
      have hfills := Rule.fills_of_textFor (hrexpand.trans hexpand) hlocate ht ha
      rw [htext] at hfills
      exact ⟨a, found, t, hslot, ha, AnchorPair.locate_eq_some_iff.mp hlocate, rfl, rfl, rfl,
        hfills⟩

/-- A rule with a template whose second anchor is a plain text. -/
def mixedSpec : RuleSpec where
  id := ['r']
  text := ['[', '$', '1', ']']
  expand := true
  primary := { kind := .regex, pattern := ['(', 'a', ')'], placement := .replace }
  fallback := some { kind := .text, pattern := ['b'], placement := .replace }

def mixedConfig : Config where
  rules := [mixedSpec]

theorem fills_iff_regex_mixed :
    mixedConfig.validate = .ok () ∧ mixedSpec ∈ mixedConfig.rules ∧ mixedSpec.expand = true ∧
      ∃ rule, mixedSpec.compile = .ok rule ∧
        (∃ found t, rule.apply ['a'] = .ok (['[', 'a', ']'], .applied .primary 0 3) ∧
          rule.anchors.Finds ['a'] found ∧
          found.anchor.Fills ['a'] found.span mixedSpec.text t) ∧
        ∃ found, rule.apply ['b'] = .ok (mixedSpec.text, .applied .fallback 0 4) ∧
          rule.anchors.Finds ['b'] found ∧
          ¬ found.anchor.Fills ['b'] found.span mixedSpec.text mixedSpec.text := by
  have hvalid : mixedConfig.validate = .ok () := rfl
  have hspec : mixedSpec ∈ mixedConfig.rules := List.mem_cons_self
  have hfirst : mixedSpec.compile >>= (·.apply ['a']) =
      .ok (['[', 'a', ']'], .applied .primary 0 3) := rfl
  have hsecond : mixedSpec.compile >>= (·.apply ['b']) =
      .ok (mixedSpec.text, .applied .fallback 0 4) := rfl
  obtain ⟨-, rule, hrule, hwrites⟩ := fills_iff_regex hvalid hspec rfl
  rw [hrule] at hfirst hsecond
  refine ⟨hvalid, hspec, rfl, rule, hrule, ?_, ?_⟩
  · obtain ⟨a, found, t, ha, -, hfinds, -, -, -, hfills, -⟩ := hwrites _ _ _ _ _ hfirst
    cases ha
    exact ⟨found, t, hfirst, hfinds, hfills.mpr rfl⟩
  · obtain ⟨a, found, t, ha, -, hfinds, -, -, -, hfills, htext⟩ := hwrites _ _ _ _ _ hsecond
    cases ha
    obtain rfl := htext rfl
    exact ⟨found, hsecond, hfinds, fun h => absurd (hfills.mp h) (by decide)⟩

end Config

end AnchorPatch
