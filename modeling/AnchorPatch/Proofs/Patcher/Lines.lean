import AnchorPatch.Proofs.Config.WellFormed
import AnchorPatch.Proofs.Patcher.Commit
import AnchorPatch.Proofs.Rule.Run

namespace AnchorPatch

open Regex (Cache)
open RuleSet (Turn Turns)

variable {p : Patcher} {specs : List RuleSpec} {ts : List Turn}

theorem RuleSpec.description_of_compile {r : RuleSpec} {rule : Rule} (h : r.compile = .ok rule) :
    rule.description = r.description := by
  rw [eq_of_compile h]

theorem RuleSet.map_compile_eq {s : RuleSet} (h : compile specs = .ok s) :
    specs.map RuleSpec.compile = s.rules.map .ok := by
  obtain ⟨rules, hrules, h⟩ := Except.bind_eq_ok_iff.mp h
  obtain rfl := Except.pure_eq_ok_iff.mp h
  exact (Except.map_eq_of_mapM_eq_ok (fun r rule h => h.symm) hrules).symm

theorem Patcher.compile_of_ofConfig {c : Config} {d : Disk} {root : Path}
    (h : ofConfig d c root = .ok p) : RuleSet.compile c.rules = .ok p.rules := by
  obtain ⟨rules, hrules, h⟩ := Except.bind_eq_ok_iff.mp h
  obtain ⟨guard, -, h⟩ := Except.bind_eq_ok_iff.mp h
  rw [← Except.pure_eq_ok_iff.mp h]
  exact Except.mapError_eq_ok_iff.mp hrules

theorem RuleSet.find?_id_of_nodup {rs : List Rule} {r : Rule} (h : (rs.map (·.id)).Nodup)
    (hr : r ∈ rs) : rs.find? (·.id = r.id) = some r := by
  induction rs with
  | nil => cases hr
  | cons q rs ih =>
      obtain ⟨hq, h⟩ := List.nodup_cons.mp h
      rcases List.mem_cons.mp hr with rfl | hr
      · exact List.find?_cons_of_pos (by simp)
      · have hne : q.id ≠ r.id := fun hid => hq (List.mem_map.mpr ⟨r, hr, hid.symm⟩)
        rw [List.find?_cons_of_neg (by simpa using hne)]
        exact ih h hr

/-- A line: a sign, the id of a rule, what the rule did and its description, if it has one. -/
def RuleSpec.line (r : RuleSpec) (sign : String) (outcome : Outcome) : String :=
  sign ++ " " ++ String.ofList r.id ++ ": " ++ outcome.message ++
    match r.description with
    | some description => " (" ++ String.ofList description ++ ")"
    | none => ""

theorem RuleSpec.line_of_none {r : RuleSpec} (h : r.description = none) (sign : String)
    (outcome : Outcome) :
    r.line sign outcome = sign ++ " " ++ String.ofList r.id ++ ": " ++ outcome.message := by
  rw [line, h, String.append_empty]

theorem RuleSpec.line_of_some {r : RuleSpec} {description : Text}
    (h : r.description = some description) (sign : String) (outcome : Outcome) :
    r.line sign outcome = sign ++ " " ++ String.ofList r.id ++ ": " ++ outcome.message ++ " (" ++
      String.ofList description ++ ")" := by
  rw [line, h]
  simp only [String.append_assoc]

/-- The lines for rules and their outcomes, in the order of the rules: one for each rule that was
applied or had nothing left to do, and none for a rule that found nothing. -/
inductive OutcomeLines : List RuleSpec → List Outcome → List String → Prop
  | nil : OutcomeLines [] [] []
  | applied {r : RuleSpec} {rs : List RuleSpec} {via : Slot} {start written : Nat}
      {outcomes : List Outcome} {lines : List String} (rest : OutcomeLines rs outcomes lines) :
      OutcomeLines (r :: rs) (.applied via start written :: outcomes)
        (r.line "✓" (.applied via start written) :: lines)
  | alreadyPresent {r : RuleSpec} {rs : List RuleSpec} {how : Presence} {outcomes : List Outcome}
      {lines : List String} (rest : OutcomeLines rs outcomes lines) :
      OutcomeLines (r :: rs) (.alreadyPresent how :: outcomes)
        (r.line "⊙" (.alreadyPresent how) :: lines)
  | notFound {r : RuleSpec} {rs : List RuleSpec} {hit : Option NearMiss} {outcomes : List Outcome}
      {lines : List String} (rest : OutcomeLines rs outcomes lines) :
      OutcomeLines (r :: rs) (.notFound hit :: outcomes) lines

namespace Patcher

theorem outcomeLine?_eq {r : RuleSpec} {rule : Rule} (hrule : r.compile = .ok rule)
    (hfind : p.rules.rules.find? (·.id = rule.id) = some rule) (outcome : Outcome) :
    p.outcomeLine? { id := rule.id, outcome } =
      (outcomeSign? outcome).map fun sign => r.line sign outcome := by
  unfold outcomeLine?
  rw [hfind, Option.bind_some, RuleSpec.description_of_compile hrule, RuleSpec.id_of_compile hrule]
  cases outcomeSign? outcome with
  | none => rfl
  | some sign =>
      rw [Option.map_some]
      cases hdescription : r.description with
      | none =>
          rw [RuleSpec.line_of_none hdescription]
          rfl
      | some description =>
          rw [RuleSpec.line_of_some hdescription]
          rfl

theorem lines_of_turns (hspecs : specs.map RuleSpec.compile = ts.map fun t => .ok t.rule)
    (hfind : ∀ t ∈ ts, p.rules.rules.find? (·.id = t.rule.id) = some t.rule) :
    OutcomeLines specs (ts.map (·.outcome)) ((ts.map Turn.report).filterMap p.outcomeLine?) := by
  -- The turns become fewer, but each line is still looked up among all rules of the patcher.
  induction ts generalizing specs with
  | nil =>
      obtain rfl := List.map_eq_nil_iff.mp hspecs
      exact .nil
  | cons t ts ih =>
      obtain ⟨r, rs, rfl, hrule, hrs⟩ := List.map_eq_cons_iff.mp hspecs
      obtain ⟨ht, hfind⟩ := List.forall_mem_cons.mp hfind
      have hrest := ih hrs hfind
      have hline := outcomeLine?_eq hrule ht t.outcome
      rw [List.map_cons, List.map_cons, List.filterMap_cons, Turn.report, hline]
      cases t.outcome with
      | applied via start written => exact .applied hrest
      | alreadyPresent how => exact .alreadyPresent hrest
      | notFound hit => exact .notFound hrest

end Patcher

namespace RuleOutcome

variable {test : Outcome → Bool} {outcomes : List RuleOutcome} {o : RuleOutcome}

theorem idsWhere_cons (test : Outcome → Bool) (o : RuleOutcome) (outcomes : List RuleOutcome) :
    idsWhere test (o :: outcomes) =
      if test o.outcome then o.id :: idsWhere test outcomes else idsWhere test outcomes := by
  unfold idsWhere
  rw [List.filter_cons]
  split
  · rfl
  · rfl

theorem perm_idsWhere (outcomes : List RuleOutcome) :
    (idsWhere Outcome.isApplied outcomes ++ idsWhere Outcome.isAlreadyPresent outcomes ++
      idsWhere Outcome.isNotFound outcomes).Perm (outcomes.map (·.id)) := by
  induction outcomes with
  | nil => exact .nil
  | cons o outcomes ih =>
      obtain ⟨id, outcome⟩ := o
      have hcons := ih.cons id
      simp only [idsWhere_cons]
      cases outcome with
      | applied via start written => exact hcons
      | alreadyPresent how =>
          rw [List.append_assoc] at hcons ⊢
          exact List.perm_middle.trans hcons
      | notFound hit => exact List.perm_middle.trans hcons

theorem mem_idsWhere_iff (h : (outcomes.map (·.id)).Nodup) (ho : o ∈ outcomes) :
    o.id ∈ idsWhere test outcomes ↔ test o.outcome = true := by
  simp only [idsWhere, List.mem_map, List.mem_filter]
  constructor
  · rintro ⟨o', ⟨ho', htest⟩, hid⟩
    rwa [List.inj_on_of_nodup_map h ho' ho hid] at htest
  · exact fun htest => ⟨o, ⟨ho, htest⟩, rfl⟩

end RuleOutcome

/-- The lists of ids of a run sort these ids, each of which is used once: no two lists share an id,
together they hold all of them, and an id is where its outcome belongs. -/
structure RuleRun.Sorts (run : RuleRun) (ids : List Text) : Prop where
  nodup : ids.Nodup
  perm : (run.applied ++ run.alreadyPresent ++ run.notFound).Perm ids
  applied_disjoint : run.applied.Disjoint run.alreadyPresent
  alreadyPresent_disjoint : run.alreadyPresent.Disjoint run.notFound
  notFound_disjoint : run.notFound.Disjoint run.applied
  mem_applied_iff : ∀ o ∈ run.outcomes, o.id ∈ run.applied ↔ o.outcome.isApplied = true
  mem_alreadyPresent_iff : ∀ o ∈ run.outcomes,
    o.id ∈ run.alreadyPresent ↔ o.outcome.isAlreadyPresent = true
  mem_notFound_iff : ∀ o ∈ run.outcomes, o.id ∈ run.notFound ↔ o.outcome.isNotFound = true

theorem RuleRun.sorts_of_nodup {run : RuleRun} (h : (run.outcomes.map (·.id)).Nodup) :
    run.Sorts (run.outcomes.map (·.id)) := by
  have hperm := RuleOutcome.perm_idsWhere run.outcomes
  obtain ⟨hfront, -, hnotFound⟩ := List.nodup_append'.mp (hperm.nodup_iff.mpr h)
  obtain ⟨-, -, happlied⟩ := List.nodup_append'.mp hfront
  obtain ⟨happlied', halreadyPresent⟩ := List.disjoint_append_left.mp hnotFound
  exact ⟨h, hperm, happlied, halreadyPresent, happlied'.symm,
    fun o => RuleOutcome.mem_idsWhere_iff h, fun o => RuleOutcome.mem_idsWhere_iff h,
    fun o => RuleOutcome.mem_idsWhere_iff h⟩

namespace Patcher

/-- Let a configuration be found valid, whatever has been compiled before, and let a patcher for it
have made a plan. The plan goes through one turn of each rule, in their order; the lines for the
plan are those of the rules of the configuration and of what each of them did in its turn; and the
lists of ids of the plan sort the ids of these rules. -/
theorem outcomeLines_describe {c : Config} {k : Cache} (hk : k.Reachable)
    (hvalid : (c.validateCached.run k).1 = .ok ()) {d d' : Disk} {root : Path} {plan : Plan}
    (hp : ofConfig d c root = .ok p) (hplan : p.plan d' = .ok plan) :
    ∃ ts, Turns plan.unpatched ts plan.patched ∧
      c.rules.map RuleSpec.compile = ts.map (fun t => .ok t.rule) ∧
      plan.outcomes = ts.map Turn.report ∧
      OutcomeLines c.rules (ts.map (·.outcome)) (p.outcomeLines plan) ∧
      plan.run.Sorts (c.rules.map (·.id)) := by
  rw [(Config.gives_validateCached c).fst hk.sound, Config.validate_eq_ok_iff] at hvalid
  have hcompile := compile_of_ofConfig hp
  obtain ⟨-, -, -, hrun⟩ := plan_eq_ok_iff.mp hplan
  obtain ⟨ts, hturns, hrules, houtcomes⟩ := RuleSet.applyRules_eq_ok_iff.mp hrun
  have hids : p.rules.rules.map (·.id) = c.rules.map (·.id) := RuleSet.ids_of_compile hcompile
  have hnodup : (p.rules.rules.map (·.id)).Nodup := hids ▸ hvalid.ids_nodup
  have hspecs : c.rules.map RuleSpec.compile = ts.map (fun t => .ok t.rule) := by
    rw [RuleSet.map_compile_eq hcompile, ← hrules, List.map_map]
    rfl
  have hfind : ∀ t ∈ ts, p.rules.rules.find? (·.id = t.rule.id) = some t.rule :=
    fun t ht => RuleSet.find?_id_of_nodup hnodup (hrules ▸ List.mem_map_of_mem ht)
  have hreported : plan.run.outcomes.map (·.id) = c.rules.map (·.id) := by
    rw [houtcomes, ← hids, ← hrules, List.map_map, List.map_map]
    rfl
  refine ⟨ts, hturns, hspecs, houtcomes, ?_, ?_⟩
  · have hlines := lines_of_turns hspecs hfind
    rwa [← houtcomes] at hlines
  · rw [← hreported]
    exact RuleRun.sorts_of_nodup (hreported ▸ hvalid.ids_nodup)

/-- A rule that is applied, one that finds its guard text and one that finds nothing. -/
def threeConfig : Config where
  info := { target := ['t'] }
  rules :=
    [{ id := ['a'], description := some "Puts B behind A".toList, text := ['B'],
       primary := { kind := .text, pattern := ['A'] } },
     { id := ['b'], text := ['C'], primary := { kind := .text, pattern := ['A'] },
       unlessPresent := some ['B'] },
     { id := ['c'], text := ['D'], primary := { kind := .text, pattern := ['X'] } }]

def threePatcher : Patcher where
  target := ['t']
  rules := ⟨[
    { id := ['a'], description := some "Puts B behind A".toList, text := ['B'],
      anchors := ⟨⟨.text ['A'], .after, none⟩, none⟩ },
    { id := ['b'], text := ['C'], anchors := ⟨⟨.text ['A'], .after, none⟩, none⟩,
      unlessPresent := some ['B'] },
    { id := ['c'], text := ['D'], anchors := ⟨⟨.text ['X'], .after, none⟩, none⟩ }]⟩
  gate := ⟨".bak".toList⟩
  guard := some { root := ["w".toList], forbidden := Guard.defaultForbidden }

def threePlan : Plan where
  document := ⟨['t'], ['A']⟩
  run := ⟨['A', '\n', 'B'],
    [⟨['a'], .applied .primary 0 3⟩, ⟨['b'], .alreadyPresent .guardText⟩, ⟨['c'], .notFound none⟩]⟩

theorem outcomeLines_describe_three :
    Cache.Reachable .empty ∧ (threeConfig.validateCached.run .empty).1 = .ok () ∧
      ofConfig letterDisk threeConfig ['.'] = .ok threePatcher ∧
      threePatcher.plan letterDisk = .ok threePlan ∧
      threePatcher.outcomeLines threePlan =
        ["✓ a: applied via primary anchor at byte 0 (Puts B behind A)",
          "⊙ b: skipped, already present"] ∧
      (∃ outcomes,
        OutcomeLines threeConfig.rules outcomes (threePatcher.outcomeLines threePlan)) ∧
      threePlan.run.Sorts [['a'], ['b'], ['c']] := by
  have hvalid : (threeConfig.validateCached.run .empty).1 = .ok () := rfl
  have hp : ofConfig letterDisk threeConfig ['.'] = .ok threePatcher := rfl
  have hplan : threePatcher.plan letterDisk = .ok threePlan := rfl
  obtain ⟨ts, -, -, -, hlines, hsorts⟩ := outcomeLines_describe .empty hvalid hp hplan
  exact ⟨.empty, hvalid, hp, hplan, by decide, ⟨_, hlines⟩, hsorts⟩

end Patcher

end AnchorPatch
