import AnchorPatch.Proofs.Config.Expansion
import Mathlib.Data.List.TakeWhile

namespace AnchorPatch

theorem Text.allBlank_iff {s : Text} : Text.allBlank s = true ↔ Text.trim s = [] := by
  rw [Text.allBlank, List.all_eq_true, Text.trim, Text.trimEnd, List.reverse_eq_nil_iff,
    List.dropWhile_eq_nil_iff]
  simp only [List.mem_reverse]
  constructor
  · intro h c hc
    exact h c ((List.dropWhile_suffix _).subset hc)
  · intro h
    cases hs : Text.trimStart s with
    | nil => exact List.dropWhile_eq_nil_iff.mp hs
    | cons c rest =>
        -- The first character that is left after trimming is not blank.
        have hfirst := List.head?_dropWhile_not Text.isBlank s
        rw [Text.trimStart] at hs
        rw [hs] at hfirst
        have hblank := h c (by rw [Text.trimStart, hs]; exact List.mem_cons_self)
        simp [hblank] at hfirst

/-- Where the checks of an anchor begin among those of its rule. -/
def Slot.check : Slot → Nat
  | .primary => 3
  | .fallback => 5

namespace Issue

/-- The number of the check that finds a fault, among the checks of a rule or among those of the
rest of a configuration. -/
def check : Issue → Nat
  | .missing _ .target => 0
  | .missing _ .backupSuffix => 1
  | .noRules => 2
  | .missing _ .id => 0
  | .duplicateId _ => 0
  | .missing _ .text => 1
  | .missing _ .unlessPresent => 2
  | .missing _ (.pattern slot) => slot.check
  | .badPattern _ slot _ => slot.check
  | .conflict _ (.separatorWithoutAfter slot) => slot.check + 1
  | .conflict _ .expandWithoutRegex => 7

/-- All faults of a kind are listed, each once, in the order of the checks that find them. -/
structure Lists (P : Issue → Prop) (issues : List Issue) : Prop where
  mem_iff : ∀ i, i ∈ issues ↔ P i
  ascending : issues.Pairwise (·.check < ·.check)

/-- The same of faults that are found by the checks from number `m` up to number `n`. -/
structure ListsBetween (m n : Nat) (P : Issue → Prop) (issues : List Issue) : Prop
    extends Lists P issues where
  bounds : ∀ i, P i → m ≤ i.check ∧ i.check < n

variable {P Q : Issue → Prop} {issues issues' : List Issue} {k m n : Nat}

theorem Lists.eq_nil_iff (h : Lists P issues) : issues = [] ↔ ∀ i, ¬ P i := by
  rw [List.eq_nil_iff_forall_not_mem]
  exact forall_congr' fun i => not_congr (h.mem_iff i)

namespace ListsBetween

theorem nil (m n : Nat) : ListsBetween m n (fun _ => False) [] :=
  ⟨⟨by simp, .nil⟩, fun _ h => h.elim⟩

theorem singleton (issue : Issue) :
    ListsBetween issue.check (issue.check + 1) (fun i => i = issue) [issue] := by
  refine ⟨⟨by simp, List.pairwise_singleton _ _⟩, ?_⟩
  rintro i rfl
  exact ⟨Nat.le_refl _, Nat.lt_succ_self _⟩

theorem congr (h : ListsBetween m n P issues) (hPQ : ∀ i, P i ↔ Q i) :
    ListsBetween m n Q issues :=
  ⟨⟨fun i => (h.mem_iff i).trans (hPQ i), h.ascending⟩, fun i hi => h.bounds i ((hPQ i).mpr hi)⟩

theorem when (condition : Bool) (issue : Issue) :
    ListsBetween issue.check (issue.check + 1) (fun i => condition = true ∧ i = issue)
      (Issue.when condition issue) := by
  cases condition with
  | false => exact (nil _ _).congr fun i => by simp
  | true => exact (singleton issue).congr fun i => by simp

theorem append (h : ListsBetween k m P issues) (h' : ListsBetween m n Q issues') (hkm : k ≤ m)
    (hmn : m ≤ n) : ListsBetween k n (fun i => P i ∨ Q i) (issues ++ issues') := by
  refine ⟨⟨fun i => ?_, ?_⟩, ?_⟩
  · rw [List.mem_append, h.mem_iff, h'.mem_iff]
  · refine List.pairwise_append.mpr ⟨h.ascending, h'.ascending, fun i hi j hj => ?_⟩
    have hi := (h.bounds i ((h.mem_iff i).mp hi)).2
    exact Nat.lt_of_lt_of_le hi (h'.bounds j ((h'.mem_iff j).mp hj)).1
  · rintro i (hi | hi)
    · exact ⟨(h.bounds i hi).1, Nat.lt_of_lt_of_le (h.bounds i hi).2 hmn⟩
    · exact ⟨Nat.le_trans hkm (h'.bounds i hi).1, (h'.bounds i hi).2⟩

end ListsBetween

end Issue

open Issue (Lists ListsBetween)

/-- What can be wrong with an anchor. -/
inductive AnchorSpec.Fault (rule : Text) (slot : Slot) (a : AnchorSpec) : Issue → Prop
  | emptyPattern (h : a.pattern = []) : Fault rule slot a (.missing (some rule) (.pattern slot))
  | badPattern {cause : Regex.Error} (hkind : a.kind = .regex)
      (h : Regex.compile a.pattern = .error cause) :
      Fault rule slot a (.badPattern rule slot { pattern := a.pattern, cause })
  | separator (hpattern : a.pattern ≠ []) (hplacement : a.placement = .replace)
      (hseparator : a.separator ≠ none) :
      Fault rule slot a (.conflict rule (.separatorWithoutAfter slot))

theorem Pattern.compile_eq_error_iff {kind : PatternKind} {source : Text} {e : PatternError} :
    compile kind source = .error e ↔
      kind = .regex ∧ Regex.compile source = .error e.cause ∧ e.pattern = source := by
  cases kind with
  | text => simp [compile]
  | regex =>
      unfold compile
      cases Regex.compile source with
      | ok r => simp
      | error cause =>
          obtain ⟨pattern, cause'⟩ := e
          simp [eq_comm, and_comm]

namespace AnchorSpec

variable {rule : Text} {slot : Slot} {a : AnchorSpec} {i : Issue}

theorem fault_iff_of_eq_nil (h : a.pattern = []) :
    a.Fault rule slot i ↔ i = .missing (some rule) (.pattern slot) := by
  constructor
  · intro hfault
    cases hfault with
    | emptyPattern => rfl
    | @badPattern cause hkind hcompile =>
        have herror : Pattern.compile a.kind a.pattern = .error { pattern := a.pattern, cause } :=
          Pattern.compile_eq_error_iff.mpr ⟨hkind, hcompile, rfl⟩
        exact absurd h (Pattern.ne_nil_of_compile herror)
    | separator hpattern => exact absurd h hpattern
  · rintro rfl
    exact .emptyPattern h

theorem fault_iff_of_ne_nil (h : a.pattern ≠ []) :
    a.Fault rule slot i ↔
      (∃ e, Pattern.compile a.kind a.pattern = .error e ∧ i = .badPattern rule slot e) ∨
        (a.separator.isSome && a.placement = .replace) = true ∧
          i = .conflict rule (.separatorWithoutAfter slot) := by
  simp only [Bool.and_eq_true, Option.isSome_iff_ne_none, decide_eq_true_eq]
  constructor
  · intro hfault
    cases hfault with
    | emptyPattern hpattern => exact absurd hpattern h
    | badPattern hkind hcompile =>
        exact .inl ⟨_, Pattern.compile_eq_error_iff.mpr ⟨hkind, hcompile, rfl⟩, rfl⟩
    | separator _ hplacement hseparator => exact .inr ⟨⟨hseparator, hplacement⟩, rfl⟩
  · rintro (⟨⟨pattern, cause⟩, he, rfl⟩ | ⟨⟨hseparator, hplacement⟩, rfl⟩)
    · obtain ⟨hkind, hcompile, rfl⟩ := Pattern.compile_eq_error_iff.mp he
      exact .badPattern hkind hcompile
    · exact .separator h hplacement hseparator

theorem lists_issues (rule : Text) (slot : Slot) (a : AnchorSpec) :
    ListsBetween slot.check (slot.check + 2) (a.Fault rule slot) (a.issues rule slot) := by
  have hlast : slot.check + 1 ≤ slot.check + 2 := Nat.le_succ _
  unfold issues
  split
  next hpattern =>
    have hmissing := ListsBetween.singleton (.missing (some rule) (.pattern slot))
    refine (hmissing.append (.nil _ _) (Nat.le_succ _) hlast).congr fun i => ?_
    rw [fault_iff_of_eq_nil hpattern, or_false]
  next hpattern =>
    have hseparator : ListsBetween (slot.check + 1) (slot.check + 2) _ _ :=
      .when (a.separator.isSome && a.placement = .replace)
        (.conflict rule (.separatorWithoutAfter slot))
    cases hcompile : Pattern.compile a.kind a.pattern with
    | ok p =>
        have hnone := ListsBetween.nil slot.check (slot.check + 1)
        refine (hnone.append hseparator (Nat.le_succ _) hlast).congr fun i => ?_
        rw [fault_iff_of_ne_nil hpattern, hcompile]
        simp
    | error e =>
        have hbad := ListsBetween.singleton (.badPattern rule slot e)
        refine (hbad.append hseparator (Nat.le_succ _) hlast).congr fun i => ?_
        rw [fault_iff_of_ne_nil hpattern, hcompile]
        simp

end AnchorSpec

/-- What can be wrong with a rule by itself. -/
inductive RuleSpec.Fault (r : RuleSpec) : Issue → Prop
  | blankId (h : Text.trim r.id = []) : Fault r (.missing none .id)
  | blankText (h : Text.trim r.text = []) : Fault r (.missing (some r.id) .text)
  | blankGuard {g : Text} (hg : r.unlessPresent = some g) (h : Text.trim g = []) :
      Fault r (.missing (some r.id) .unlessPresent)
  | anchor {slot : Slot} {a : AnchorSpec} {i : Issue} (ha : r.anchorAt? slot = some a)
      (h : a.Fault r.id slot i) : Fault r i
  | expand (hexpand : r.expand = true)
      (hregex : ∀ slot a, r.anchorAt? slot = some a → a.kind ≠ .regex) :
      Fault r (.conflict r.id .expandWithoutRegex)

namespace RuleSpec

variable {r : RuleSpec} {i : Issue}

theorem hasRegex_iff : r.hasRegex = true ↔ ∃ slot a, r.anchorAt? slot = some a ∧ a.kind = .regex := by
  simp only [hasRegex, Bool.or_eq_true, decide_eq_true_eq, Option.any_eq_true]
  constructor
  · rintro (h | ⟨a, ha, h⟩)
    · exact ⟨.primary, r.primary, rfl, h⟩
    · exact ⟨.fallback, a, ha, h⟩
  · rintro ⟨slot, a, ha, h⟩
    cases slot with
    | primary =>
        obtain rfl := Option.some.inj ha
        exact .inl h
    | fallback => exact .inr ⟨a, ha, h⟩

/-- The issues of a rule that stands alone. -/
def ownIssues (r : RuleSpec) : List Issue := r.idIssues [] ++ r.issues

theorem idIssues_nil (r : RuleSpec) :
    r.idIssues [] = Issue.when (Text.allBlank r.id) (.missing none .id) := by
  simp [idIssues, Issue.when]

theorem lists_fallback (r : RuleSpec) :
    ListsBetween 5 7 (fun i => ∃ a, r.fallback = some a ∧ a.Fault r.id .fallback i)
      ((r.fallback.map (AnchorSpec.issues r.id .fallback)).getD []) := by
  cases r.fallback with
  | none => exact (ListsBetween.nil 5 7).congr fun i => by simp
  | some a => exact (a.lists_issues r.id .fallback).congr fun i => by simp

theorem fault_iff :
    r.Fault i ↔
      Text.allBlank r.id = true ∧ i = .missing none .id ∨
      ((((Text.allBlank r.text = true ∧ i = .missing (some r.id) .text ∨
        r.unlessPresent.any Text.allBlank = true ∧ i = .missing (some r.id) .unlessPresent) ∨
        r.primary.Fault r.id .primary i) ∨
        ∃ a, r.fallback = some a ∧ a.Fault r.id .fallback i) ∨
        (r.expand && !r.hasRegex) = true ∧ i = .conflict r.id .expandWithoutRegex) := by
  have hexpand : (r.expand && !r.hasRegex) = true ↔
      r.expand = true ∧ ∀ slot a, r.anchorAt? slot = some a → a.kind ≠ .regex := by
    rw [Bool.and_eq_true, Bool.not_eq_true', ← Bool.not_eq_true, hasRegex_iff]
    simp only [not_exists, not_and, ne_eq]
  simp only [Text.allBlank_iff, Option.any_eq_true, hexpand]
  constructor
  · intro h
    cases h with
    | blankId h => exact .inl ⟨h, rfl⟩
    | blankText h => exact .inr (.inl (.inl (.inl (.inl ⟨h, rfl⟩))))
    | blankGuard hg h => exact .inr (.inl (.inl (.inl (.inr ⟨⟨_, hg, h⟩, rfl⟩))))
    | @anchor slot a _ ha h =>
        cases slot with
        | primary =>
            obtain rfl := Option.some.inj ha
            exact .inr (.inl (.inl (.inr h)))
        | fallback => exact .inr (.inl (.inr ⟨a, ha, h⟩))
    | expand h hregex => exact .inr (.inr ⟨⟨h, hregex⟩, rfl⟩)
  · rintro (⟨h, rfl⟩ | (((⟨h, rfl⟩ | ⟨⟨g, hg, h⟩, rfl⟩) | h) | ⟨a, ha, h⟩) | ⟨⟨h, hregex⟩, rfl⟩)
    · exact .blankId h
    · exact .blankText h
    · exact .blankGuard hg h
    · exact .anchor (show r.anchorAt? .primary = some r.primary from rfl) h
    · exact .anchor (show r.anchorAt? .fallback = some a from ha) h
    · exact .expand h hregex

/-- The faults of a rule that stands alone are reported properly. -/
theorem lists_ownIssues (r : RuleSpec) : ListsBetween 0 8 r.Fault r.ownIssues := by
  have hid : ListsBetween 0 1 _ _ := .when (Text.allBlank r.id) (.missing none .id)
  have htext : ListsBetween 1 2 _ _ := .when (Text.allBlank r.text) (.missing (some r.id) .text)
  have hguard : ListsBetween 2 3 _ _ :=
    .when (r.unlessPresent.any Text.allBlank) (.missing (some r.id) .unlessPresent)
  have hprimary : ListsBetween 3 5 _ _ := r.primary.lists_issues r.id .primary
  have hexpand : ListsBetween 7 8 _ _ :=
    .when (r.expand && !r.hasRegex) (.conflict r.id .expandWithoutRegex)
  have hissues : ListsBetween 1 8 _ r.issues :=
    (((htext.append hguard (by decide) (by decide)).append hprimary (by decide) (by decide)).append
      r.lists_fallback (by decide) (by decide)).append hexpand (by decide) (by decide)
  rw [ownIssues, idIssues_nil]
  exact (hid.append hissues (by decide) (by decide)).congr fun i => fault_iff.symm

end RuleSpec

/-- What can be wrong with a configuration apart from its rules. -/
inductive Config.Fault (c : Config) : Issue → Prop
  | blankTarget (h : Text.trim c.info.target = []) : Fault c (.missing none .target)
  | blankSuffix (h : Text.trim c.info.backupSuffix = []) : Fault c (.missing none .backupSuffix)
  | noRules (h : c.rules = []) : Fault c .noRules

namespace Config

variable {c : Config} {i : Issue}

/-- The issues that stand in front of those of the rules. -/
def ownIssues (c : Config) : List Issue :=
  Issue.when (Text.allBlank c.info.target) (.missing none .target)
  ++ Issue.when (Text.allBlank c.info.backupSuffix) (.missing none .backupSuffix)
  ++ Issue.when c.rules.isEmpty .noRules

theorem issues_eq (c : Config) : c.issues = c.ownIssues ++ RuleSpec.allIssues [] c.rules := rfl

theorem lists_ownIssues (c : Config) : ListsBetween 0 3 c.Fault c.ownIssues := by
  have htarget : ListsBetween 0 1 _ _ := .when (Text.allBlank c.info.target) (.missing none .target)
  have hsuffix : ListsBetween 1 2 _ _ :=
    .when (Text.allBlank c.info.backupSuffix) (.missing none .backupSuffix)
  have hrules : ListsBetween 2 3 _ _ := .when c.rules.isEmpty .noRules
  refine ((htarget.append hsuffix (by decide) (by decide)).append hrules (by decide)
    (by decide)).congr fun i => ?_
  rw [Text.allBlank_iff, Text.allBlank_iff, List.isEmpty_iff]
  constructor
  · rintro ((⟨h, rfl⟩ | ⟨h, rfl⟩) | ⟨h, rfl⟩)
    · exact .blankTarget h
    · exact .blankSuffix h
    · exact .noRules h
  · intro h
    cases h with
    | blankTarget h => exact .inl (.inl ⟨h, rfl⟩)
    | blankSuffix h => exact .inl (.inr ⟨h, rfl⟩)
    | noRules h => exact .inr ⟨h, rfl⟩

end Config

end AnchorPatch
