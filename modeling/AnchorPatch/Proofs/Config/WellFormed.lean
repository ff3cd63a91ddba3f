import AnchorPatch.Proofs.Config.Faults
import Mathlib.Data.Finset.Card
import Mathlib.Data.Finset.Lattice.Lemmas

namespace AnchorPatch

open Regex (Cache)
open Issue (Lists)

/-- An anchor that validation accepts. -/
structure AnchorSpec.WellFormed (a : AnchorSpec) : Prop where
  pattern_ne_nil : a.pattern ≠ []
  compiles : a.kind = .regex → ∃ r, Regex.compile a.pattern = .ok r
  separator_eq_none : a.placement = .replace → a.separator = none

/-- A rule that validation accepts on its own. -/
structure RuleSpec.WellFormed (r : RuleSpec) : Prop where
  id_not_blank : Text.trim r.id ≠ []
  text_not_blank : Text.trim r.text ≠ []
  guard_not_blank : ∀ g, r.unlessPresent = some g → Text.trim g ≠ []
  anchor : ∀ slot a, r.anchorAt? slot = some a → a.WellFormed
  exists_regex : r.expand = true → ∃ slot a, r.anchorAt? slot = some a ∧ a.kind = .regex

/-- A configuration that validation accepts. -/
structure Config.WellFormed (c : Config) : Prop where
  target_not_blank : Text.trim c.info.target ≠ []
  backupSuffix_not_blank : Text.trim c.info.backupSuffix ≠ []
  rules_ne_nil : c.rules ≠ []
  rule : ∀ r ∈ c.rules, r.WellFormed
  ids_nodup : (c.rules.map (·.id)).Nodup

theorem AnchorSpec.wellFormed_iff {a : AnchorSpec} (rule : Text) (slot : Slot) :
    a.WellFormed ↔ ∀ i, ¬ a.Fault rule slot i := by
  constructor
  · intro h i hi
    cases hi with
    | emptyPattern hpattern => exact h.pattern_ne_nil hpattern
    | badPattern hkind herror =>
        obtain ⟨r, hr⟩ := h.compiles hkind
        rw [hr] at herror
        cases herror
    | separator _ hplacement hseparator => exact hseparator (h.separator_eq_none hplacement)
  · intro h
    have hpattern : a.pattern ≠ [] := fun hpattern => h _ (.emptyPattern hpattern)
    refine ⟨hpattern, fun hkind => ?_, fun hplacement => ?_⟩
    · cases hcompile : Regex.compile a.pattern with
      | ok r => exact ⟨r, rfl⟩
      | error cause => exact absurd (.badPattern hkind hcompile) (h _)
    · by_contra hseparator
      exact h _ (.separator hpattern hplacement hseparator)

/-- The issue is that an id has been used before. -/
def Issue.isDuplicateId : Issue → Bool
  | .duplicateId _ => true
  | _ => false

theorem Issue.Lists.countP_isDuplicateId {P : Issue → Prop} {issues : List Issue}
    (h : Lists P issues) (hP : ∀ i, P i → i.isDuplicateId = false) :
    issues.countP Issue.isDuplicateId = 0 := by
  refine List.countP_eq_zero.mpr fun i hi => ?_
  simp [hP i ((h.mem_iff i).mp hi)]

namespace RuleSpec

variable {r : RuleSpec} {rs before : List RuleSpec} {own : RuleSpec → List Issue}
  {issues : List Issue}

theorem wellFormed_iff : r.WellFormed ↔ ∀ i, ¬ r.Fault i := by
  constructor
  · intro h i hi
    cases hi with
    | blankId hid => exact h.id_not_blank hid
    | blankText htext => exact h.text_not_blank htext
    | blankGuard hg hblank => exact h.guard_not_blank _ hg hblank
    | anchor ha hfault => exact (AnchorSpec.wellFormed_iff _ _).mp (h.anchor _ _ ha) _ hfault
    | expand hexpand hregex =>
        obtain ⟨slot, a, ha, hkind⟩ := h.exists_regex hexpand
        exact hregex slot a ha hkind
  · intro h
    constructor
    · exact fun hid => h _ (.blankId hid)
    · exact fun htext => h _ (.blankText htext)
    · exact fun g hg hblank => h _ (.blankGuard hg hblank)
    · exact fun slot a ha => (AnchorSpec.wellFormed_iff r.id slot).mpr
        fun i hi => h i (.anchor ha hi)
    · intro hexpand
      by_contra hregex
      refine h _ (.expand hexpand fun slot a ha hkind => ?_)
      exact hregex ⟨slot, a, ha, hkind⟩

/-- The id of a rule is not blank, and a rule before it has it. -/
def Repeats (before : List RuleSpec) (r : RuleSpec) : Prop :=
  Text.trim r.id ≠ [] ∧ ∃ q ∈ before, q.id = r.id

/-- The issues of rules behind others: rule by rule its own issues, after the one that its id has
been used. -/
inductive Reports (own : RuleSpec → List Issue) : List RuleSpec → List RuleSpec → List Issue → Prop
  | nil (before : List RuleSpec) : Reports own before [] []
  | fresh {before : List RuleSpec} {r : RuleSpec} {rs : List RuleSpec} {issues : List Issue}
      (h : ¬ r.Repeats before) (rest : Reports own (before ++ [r]) rs issues) :
      Reports own before (r :: rs) (own r ++ issues)
  | repeated {before : List RuleSpec} {r : RuleSpec} {rs : List RuleSpec} {issues : List Issue}
      (h : r.Repeats before) (rest : Reports own (before ++ [r]) rs issues) :
      Reports own before (r :: rs) (.duplicateId r.id :: own r ++ issues)

theorem idIssues_of_repeats {seen : List Text} (h : Text.trim r.id ≠ []) (hseen : r.id ∈ seen) :
    r.idIssues seen = .duplicateId r.id :: r.idIssues [] := by
  have hblank : ¬ Text.allBlank r.id = true := fun hblank => h (Text.allBlank_iff.mp hblank)
  simp [idIssues, hblank, Issue.when, hseen]

theorem idIssues_of_fresh {seen : List Text} (h : Text.trim r.id ≠ [] → r.id ∉ seen) :
    r.idIssues seen = r.idIssues [] := by
  by_cases hblank : Text.allBlank r.id = true
  · simp [idIssues, hblank]
  · have hseen := h fun hid => hblank (Text.allBlank_iff.mpr hid)
    simp [idIssues, hblank, Issue.when, hseen]

theorem reports_allIssues {seen : List Text} (hseen : ∀ id, id ∈ seen ↔ ∃ q ∈ before, q.id = id)
    (rs : List RuleSpec) : Reports ownIssues before rs (allIssues seen rs) := by
  induction rs generalizing seen before with
  | nil => exact .nil before
  | cons r rs ih =>
      have hrest : Reports ownIssues (before ++ [r]) rs (allIssues (r.id :: seen) rs) := by
        refine ih fun id => ?_
        simp [hseen, or_and_right, exists_or, or_comm, eq_comm]
      by_cases h : r.Repeats before
      · rw [allIssues, idIssues_of_repeats h.1 ((hseen r.id).mpr h.2), List.cons_append]
        exact .repeated h hrest
      · rw [allIssues, idIssues_of_fresh fun hid hmem => h ⟨hid, (hseen r.id).mp hmem⟩]
        exact .fresh h hrest

namespace Reports

theorem eq_nil_iff (hown : ∀ r, Lists r.Fault (own r)) (h : Reports own before rs issues) :
    issues = [] ↔ (∀ r ∈ rs, r.WellFormed) ∧ (rs.map (·.id)).Nodup ∧
      ∀ r ∈ rs, ∀ q ∈ before, q.id ≠ r.id := by
  induction h with
  | nil before => simp
  | @fresh before r rs issues h rest ih =>
      rw [List.append_eq_nil_iff, (hown r).eq_nil_iff, ← wellFormed_iff, ih]
      constructor
      · rintro ⟨hr, hrs, hnodup, hids⟩
        refine ⟨List.forall_mem_cons.mpr ⟨hr, hrs⟩, List.nodup_cons.mpr ⟨?_, hnodup⟩,
          List.forall_mem_cons.mpr ⟨?_, ?_⟩⟩
        · intro hmem
          obtain ⟨r', hr', hid⟩ := List.mem_map.mp hmem
          exact hids r' hr' r (by simp) hid.symm
        · exact fun q hq hid => h ⟨hr.id_not_blank, q, hq, hid⟩
        · exact fun r' hr' q hq => hids r' hr' q (List.mem_append_left _ hq)
      · rintro ⟨hwell, hnodup, hids⟩
        obtain ⟨hr, hrs⟩ := List.forall_mem_cons.mp hwell
        obtain ⟨hmem, hnodup⟩ := List.nodup_cons.mp hnodup
        refine ⟨hr, hrs, hnodup, fun r' hr' q hq => ?_⟩
        rcases List.mem_append.mp hq with hq | hq
        · exact hids r' (List.mem_cons_of_mem _ hr') q hq
        · obtain rfl := List.mem_singleton.mp hq
          exact fun hid => hmem (List.mem_map.mpr ⟨r', hr', hid.symm⟩)
  | @repeated before r rs issues h rest ih =>
      obtain ⟨-, q, hq, hid⟩ := h
      refine iff_of_false (List.cons_ne_nil _ _) ?_
      rintro ⟨-, -, hids⟩
      exact hids r List.mem_cons_self q hq hid

end Reports

/-- The ids of rules that are not blank. -/
def namedIds (rs : List RuleSpec) : List Text := (rs.map (·.id)).filter (Text.trim · ≠ [])

theorem namedIds_append (rs rs' : List RuleSpec) :
    namedIds (rs ++ rs') = namedIds rs ++ namedIds rs' := by
  simp [namedIds]

theorem length_namedIds_cons (r : RuleSpec) (rs : List RuleSpec) :
    (namedIds (r :: rs)).length = (namedIds [r]).length + (namedIds rs).length := by
  rw [← List.singleton_append, namedIds_append, List.length_append]

theorem repeats_iff (h : Text.trim r.id ≠ []) :
    r.Repeats before ↔ r.id ∈ (namedIds before).toFinset := by
  simp [Repeats, namedIds, h]

theorem namedIds_singleton (h : Text.trim r.id ≠ []) : namedIds [r] = [r.id] := by
  simp [namedIds, h]

theorem toFinset_namedIds_concat (h : Text.trim r.id ≠ []) :
    (namedIds (before ++ [r])).toFinset = insert r.id (namedIds before).toFinset := by
  rw [namedIds_append, namedIds_singleton h, List.toFinset_append, List.toFinset_cons,
    List.toFinset_nil, Finset.union_comm, Finset.insert_union, Finset.empty_union]

theorem card_namedIds_of_fresh (h : ¬ r.Repeats before) :
    (namedIds (before ++ [r])).toFinset.card =
      (namedIds before).toFinset.card + (namedIds [r]).length := by
  by_cases hid : Text.trim r.id = []
  · simp [namedIds, hid]
  · rw [repeats_iff hid] at h
    rw [toFinset_namedIds_concat hid, Finset.card_insert_of_notMem h, namedIds_singleton hid,
      List.length_singleton]

theorem card_namedIds_of_repeats (h : r.Repeats before) :
    (namedIds (before ++ [r])).toFinset.card = (namedIds before).toFinset.card := by
  rw [toFinset_namedIds_concat h.1, Finset.card_insert_of_mem ((repeats_iff h.1).mp h)]

theorem Fault.not_isDuplicateId {i : Issue} (h : r.Fault i) : i.isDuplicateId = false := by
  cases h with
  | anchor ha h => cases h <;> rfl
  | _ => rfl

theorem Reports.countP_isDuplicateId (hown : ∀ r, Lists r.Fault (own r))
    (h : Reports own before rs issues) :
    issues.countP Issue.isDuplicateId + (namedIds (before ++ rs)).toFinset.card =
      (namedIds rs).length + (namedIds before).toFinset.card := by
  have hnone (r : RuleSpec) : (own r).countP Issue.isDuplicateId = 0 :=
    (hown r).countP_isDuplicateId fun i => Fault.not_isDuplicateId
  induction h with
  | nil before => simp [namedIds]
  | @fresh before r rs issues h rest ih =>
      rw [List.append_assoc, List.singleton_append, card_namedIds_of_fresh h] at ih
      rw [List.countP_append, hnone, length_namedIds_cons]
      omega
  | @repeated before r rs issues h rest ih =>
      rw [List.append_assoc, List.singleton_append, card_namedIds_of_repeats h] at ih
      rw [List.cons_append, List.countP_cons_of_pos (by rfl), List.countP_append, hnone,
        length_namedIds_cons, namedIds_singleton h.1, List.length_singleton]
      omega

end RuleSpec

namespace Config

variable {c : Config}

theorem Fault.not_isDuplicateId {i : Issue} (h : c.Fault i) : i.isDuplicateId = false := by
  cases h <;> rfl

theorem reports_issues (c : Config) :
    RuleSpec.Reports RuleSpec.ownIssues [] c.rules (RuleSpec.allIssues [] c.rules) :=
  RuleSpec.reports_allIssues (by simp) c.rules

theorem issues_eq_nil_iff : c.issues = [] ↔ c.WellFormed := by
  have hrules := (reports_issues c).eq_nil_iff fun r => r.lists_ownIssues.toLists
  rw [issues_eq, List.append_eq_nil_iff, c.lists_ownIssues.eq_nil_iff, hrules]
  constructor
  · rintro ⟨hfault, hrules, hids, -⟩
    exact ⟨fun h => hfault _ (.blankTarget h), fun h => hfault _ (.blankSuffix h),
      fun h => hfault _ (.noRules h), hrules, hids⟩
  · intro h
    refine ⟨fun i hi => ?_, h.rule, h.ids_nodup, by simp⟩
    cases hi with
    | blankTarget hblank => exact h.target_not_blank hblank
    | blankSuffix hblank => exact h.backupSuffix_not_blank hblank
    | noRules hnil => exact h.rules_ne_nil hnil

theorem validate_eq_ok_iff : c.validate = .ok () ↔ c.WellFormed := by
  rw [← issues_eq_nil_iff, validate]
  split
  next h => simp [h]
  next h => simpa using h

/-- What a validation reports. -/
def reported : Except (List Issue) Unit → List Issue
  | .ok _ => []
  | .error issues => issues

theorem reported_validate (c : Config) : reported c.validate = c.issues := by
  rw [validate]
  split
  next h => exact h.symm
  next => rfl

theorem countP_isDuplicateId_issues (c : Config) :
    c.issues.countP Issue.isDuplicateId + (RuleSpec.namedIds c.rules).toFinset.card =
      (RuleSpec.namedIds c.rules).length := by
  have hfront : c.ownIssues.countP Issue.isDuplicateId = 0 :=
    c.lists_ownIssues.countP_isDuplicateId fun i => Fault.not_isDuplicateId
  have hrules := (reports_issues c).countP_isDuplicateId fun r => r.lists_ownIssues.toLists
  rw [List.nil_append] at hrules
  rw [issues_eq, List.countP_append, hfront, Nat.zero_add, hrules]
  rfl

theorem issues_of_rules_eq_singleton {r : RuleSpec} (h : c.rules = [r]) :
    c.issues = c.ownIssues ++ r.ownIssues := by
  rw [issues_eq, h]
  simp [RuleSpec.allIssues, RuleSpec.ownIssues]

/-- Whatever has been compiled before, exactly the well-formed configurations are accepted. Of any
other one all faults are reported in the order of the checks: first those apart from the rules, then
rule by rule those that are reported of the rule if it is alone, after the one that its id has been
used before; and such reports of ids are as many as there are named rules beyond the different
names. -/
theorem validate_reports (c : Config) {k : Cache} (hk : k.Reachable) :
    ((c.validateCached.run k).1 = .ok () ↔ c.WellFormed) ∧
      ∀ issues, (c.validateCached.run k).1 = .error issues →
        issues ≠ [] ∧
        issues.countP Issue.isDuplicateId + (RuleSpec.namedIds c.rules).toFinset.card =
          (RuleSpec.namedIds c.rules).length ∧
        ∃ (own : RuleSpec → List Issue) (front rest : List Issue),
          (∀ r, Lists r.Fault (own r)) ∧ Lists c.Fault front ∧
          RuleSpec.Reports own [] c.rules rest ∧ issues = front ++ rest ∧
          ∀ (alone : Config) (r : RuleSpec) (k' : Cache), alone.rules = [r] → k'.Reachable →
            ∃ front', Lists alone.Fault front' ∧
              reported (alone.validateCached.run k').1 = front' ++ own r := by
  rw [(gives_validateCached c).fst hk.sound]
  refine ⟨validate_eq_ok_iff, fun issues herror => ?_⟩
  have hissues : c.issues = issues := by rw [← reported_validate, herror, reported]
  subst hissues
  have hne : c.issues ≠ [] := by
    intro hnil
    rw [validate_eq_ok_iff.mpr (issues_eq_nil_iff.mp hnil)] at herror
    cases herror
  refine ⟨hne, countP_isDuplicateId_issues c, RuleSpec.ownIssues, c.ownIssues, _,
    fun r => r.lists_ownIssues.toLists, c.lists_ownIssues.toLists, reports_issues c, issues_eq c, ?_⟩
  intro alone r k' hrules hk'
  refine ⟨alone.ownIssues, alone.lists_ownIssues.toLists, ?_⟩
  rw [(gives_validateCached alone).fst hk'.sound, reported_validate,
    issues_of_rules_eq_singleton hrules]

/-- A blank suffix and three rules: the second has the id of the first, the third a blank one. -/
def faultyConfig : Config where
  info := { backupSuffix := [' '] }
  rules :=
    [{ id := ['a'], text := ['B'], primary := { kind := .text, pattern := ['A'] } },
     { id := ['a'], text := [], primary := { kind := .regex, pattern := ['('] },
       fallback := some { kind := .text, pattern := [] } },
     { id := [], text := ['B'], expand := true,
       primary := { kind := .text, pattern := ['A'], placement := .replace, separator := some [] } }]

def faultyIssues : List Issue :=
  [.missing none .backupSuffix,
   .duplicateId ['a'], .missing (some ['a']) .text,
   .badPattern ['a'] .primary ⟨['('], .unclosedGroup⟩, .missing (some ['a']) (.pattern .fallback),
   .missing none .id, .conflict [] (.separatorWithoutAfter .primary),
   .conflict [] .expandWithoutRegex]

theorem validate_reports_faulty :
    Cache.Reachable .empty ∧ (faultyConfig.validateCached.run .empty).1 = .error faultyIssues ∧
      ¬ faultyConfig.WellFormed ∧
      faultyIssues.countP Issue.isDuplicateId +
        (RuleSpec.namedIds faultyConfig.rules).toFinset.card =
          (RuleSpec.namedIds faultyConfig.rules).length := by
  have hempty : Cache.Reachable .empty := .empty
  have herror : (faultyConfig.validateCached.run .empty).1 = .error faultyIssues := rfl
  obtain ⟨haccepts, hreports⟩ := validate_reports faultyConfig hempty
  refine ⟨hempty, herror, fun hwell => ?_, (hreports faultyIssues herror).2.1⟩
  rw [haccepts.mpr hwell] at herror
  cases herror

end Config

end AnchorPatch
