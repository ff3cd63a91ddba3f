import AnchorPatch.CommandLine.Run
import AnchorPatch.Proofs.Builtin.Patterns
import AnchorPatch.Proofs.Patcher.Commit

namespace AnchorPatch

open Gate (modeFor)

variable {p : Patcher} {plan : Plan} {report : Report} {d d' : Disk} {target backup : Path}

/-- How a status text goes on behind the words that say whether anything has been written. -/
def namedPaths (target backup : Path) : String :=
  String.ofList target ++ " (backup at " ++ String.ofList backup ++ ")"

theorem append_namedPaths (t : String) (target backup : Path) :
    t ++ String.ofList target ++ " (backup at " ++ String.ofList backup ++ ")" =
      t ++ namedPaths target backup := by
  simp only [namedPaths, String.append_assoc]

theorem Report.status_of_noChanges (h : report.commit = .noChanges target) :
    report.status = noChangesMessage := by
  simp only [status, h]

theorem Report.status_of_committed (h : report.commit = .committed target backup) :
    report.status = "Updated " ++ namedPaths target backup := by
  simp only [status, h]
  exact append_namedPaths "Updated " target backup

theorem Patcher.dryRunStatus_of_unchanged (h : plan.isChanged = false) :
    p.dryRunStatus plan = noChangesMessage := by
  simp [dryRunStatus, h]

theorem Patcher.dryRunStatus_of_changed (h : plan.isChanged = true) :
    p.dryRunStatus plan =
      "Would update " ++ namedPaths plan.document.path (p.gate.backupPath plan.document.path) := by
  simp only [dryRunStatus, h, if_true]
  exact append_namedPaths "Would update " plan.document.path (p.gate.backupPath plan.document.path)

theorem append_ne_noChangesMessage {t : String} {c : Char} (ht : t.toList.head? = some c)
    (hc : c ≠ 'N') (s : String) : t ++ s ≠ noChangesMessage := by
  intro h
  have hhead := congrArg (fun s => s.toList.head?) h
  simp only [String.toList_append, List.head?_append, ht, Option.some_or] at hhead
  exact hc (Option.some.inj hhead)

namespace Patcher

/-- The texts of a plan stand at the entries that two paths named, and nothing else has changed. If
both paths named one entry, it holds the new text. -/
def Rewrites (plan : Plan) (d d' : Disk) (target backup : Path) : Prop :=
  ∃ folder name folder' name', d.EntryAt target folder name ∧ d.EntryAt backup folder' name' ∧
    d'.get? (folder ++ [name]) = some (.file (.text plan.patched) (modeFor d plan.document)) ∧
    (folder' ++ [name'] ≠ folder ++ [name] → d'.get? (folder' ++ [name']) =
      some (.file (.text plan.unpatched) (modeFor d plan.document))) ∧
    ∀ l, l ≠ folder ++ [name] → l ≠ folder' ++ [name'] → d'.get? l = d.get? l

theorem rewrites_of_lands {folder' folder : Location} {name' name : Text}
    (h : p.gate.Lands plan.document plan.patched d d' folder' name' folder name) :
    Rewrites plan d d' plan.document.path (p.gate.backupPath plan.document.path) :=
  ⟨folder, name, folder', name', h.entryAt_target, h.backup.entryAt, h.get?_target, h.get?_backup,
    h.get?_other⟩

/-- What a dry run says of a plan is what the commit of the plan reports and does. -/
structure Foretells (p : Patcher) (plan : Plan) (d : Disk) (report : Report) (d' : Disk) :
    Prop where
  isChanged_eq : report.isChanged = plan.isChanged
  outcomes_eq : report.outcomes = plan.outcomes
  noChanges_iff : p.dryRunStatus plan = noChangesMessage ↔ report.status = noChangesMessage
  of_noChanges : report.status = noChangesMessage →
    report.commit = .noChanges p.target ∧ d' = d
  of_changes : report.status ≠ noChangesMessage → ∃ backup,
    report.commit = .committed p.target backup ∧
      p.dryRunStatus plan = "Would update " ++ namedPaths p.target backup ∧
      report.status = "Updated " ++ namedPaths p.target backup ∧
      Rewrites plan d d' p.target backup

theorem foretells_of_commit (hpath : plan.document.path = p.target)
    (h : (p.commit plan d).1 = .ok report) :
    p.Foretells plan d report (p.commit plan d).2 := by
  obtain ⟨houtcomes, ⟨heq, hcommit, hdisk⟩ | ⟨hne, -, hcommit, _, _, _, _, hlands⟩⟩ :=
    commit_cases h
  · have hchanged : plan.isChanged = false := Gate.hasChanges_eq_false_iff.mpr heq
    have hdry := p.dryRunStatus_of_unchanged hchanged
    have hstatus := Report.status_of_noChanges hcommit
    refine ⟨?_, houtcomes, iff_of_true hdry hstatus, fun _ => ⟨hpath ▸ hcommit, hdisk⟩,
      fun hne => absurd hstatus hne⟩
    rw [Report.isChanged, hcommit, hchanged]
    rfl
  · have hchanged : plan.isChanged = true := Gate.hasChanges_iff.mpr hne
    have hdry := p.dryRunStatus_of_changed hchanged
    have hstatus := Report.status_of_committed hcommit
    have hrewrites := rewrites_of_lands hlands
    rw [hpath] at hdry hstatus hcommit hrewrites
    have hdry' : p.dryRunStatus plan ≠ noChangesMessage :=
      hdry ▸ append_ne_noChangesMessage rfl (by decide) _
    have hstatus' : report.status ≠ noChangesMessage :=
      hstatus ▸ append_ne_noChangesMessage rfl (by decide) _
    refine ⟨?_, houtcomes, iff_of_false hdry' hstatus', fun heq => absurd heq hstatus', fun _ =>
      ⟨_, hcommit, hdry, hstatus, hrewrites⟩⟩
    rw [Report.isChanged, hcommit, hchanged]
    rfl

end Patcher

namespace CommandLine

variable {r r' : Request} {s : Surroundings}

theorem Effect.disk_ofResult {α : Type} {d : Disk} {x : Except PatchError α} {f : α → Effect}
    (hf : ∀ a, (f a).disk = d) : (Effect.ofResult d x f).disk = d := by
  cases x with
  | error e => rfl
  | ok a => exact hf a

theorem Effect.exists_of_code_ofResult {α : Type} {d : Disk} {x : Except PatchError α}
    {f : α → Effect} (h : (Effect.ofResult d x f).code = 0) : ∃ a, x = .ok a ∧ (f a).code = 0 := by
  cases x with
  | error e => cases h
  | ok a => exact ⟨a, rfl, h⟩

theorem disk_patch_of_dryRun (h : r.dryRun = true) : (patch r s).disk = s.disk := by
  unfold patch
  refine Effect.disk_ofResult fun p => Effect.disk_ofResult fun plan => ?_
  rw [if_pos h]
  rfl

theorem exists_plan_of_code (h : (patch r s).code = 0) :
    ∃ p plan, Patcher.builtin s.disk ['.'] = .ok p ∧ p.plan s.disk = .ok plan := by
  unfold patch at h
  obtain ⟨p, hp, h⟩ := Effect.exists_of_code_ofResult h
  obtain ⟨plan, hplan, -⟩ := Effect.exists_of_code_ofResult h
  exact ⟨p, plan, hp, hplan⟩

theorem patch_of_plan (r : Request) (hp : Patcher.builtin s.disk ['.'] = .ok p)
    (hplan : p.plan s.disk = .ok plan) :
    ∃ filter notices, patch r s = Effect.after (changes p plan r s.colours) notices
      (if r.dryRun then
        { output := statusLine .cyan s.colours (p.dryRunStatus plan), disk := s.disk }
      else commit p plan filter s) := by
  unfold patch
  rw [hp, Effect.ofResult, hplan, Effect.ofResult]
  exact ⟨_, _, rfl⟩

theorem commit_of_code {filter : Log.Filter} (h : (commit p plan filter s).code = 0) :
    ∃ report style, p.commit plan s.disk = (.ok report, (commit p plan filter s).disk) ∧
      (commit p plan filter s).output = statusLine style s.colours report.status := by
  unfold commit at h ⊢
  generalize hend : p.commit plan s.disk = result at h ⊢
  obtain ⟨e | report, disk⟩ := result
  · cases h
  · exact ⟨report, _, rfl, rfl⟩

theorem code_commit_of_unchanged (h : plan.patched = plan.unpatched) (filter : Log.Filter) :
    (commit p plan filter s).code = 0 := by
  unfold commit
  rw [Patcher.commit_of_unchanged h]
  rfl

/-- A dry run `r` and a run `r'` from the same disk print the same changes, and then the status of
one plan and of its commit. -/
def ShowsSamePlan (r r' : Request) (s : Surroundings) : Prop :=
  ∃ p plan report shown style, Patcher.builtin s.disk ['.'] = .ok p ∧ p.plan s.disk = .ok plan ∧
    p.Foretells plan s.disk report (patch r' s).disk ∧
    (patch r s).output = shown ++ statusLine .cyan s.colours (p.dryRunStatus plan) ∧
    (patch r' s).output = shown ++ statusLine style s.colours report.status

theorem showsSamePlan (hdry : r.dryRun = true) (hreal : r'.dryRun = false)
    (hdiff : r'.diff = r.diff) (hcode : (patch r' s).code = 0) : ShowsSamePlan r r' s := by
  obtain ⟨p, plan, hp, hplan⟩ := exists_plan_of_code hcode
  obtain ⟨_, _, hpatch⟩ := patch_of_plan r hp hplan
  obtain ⟨filter, _, hpatch'⟩ := patch_of_plan r' hp hplan
  rw [if_pos hdry] at hpatch
  rw [if_neg (by simp [hreal])] at hpatch'
  rw [hpatch'] at hcode
  obtain ⟨report, style, hcommit, houtput⟩ := commit_of_code hcode
  have hforetells := Patcher.foretells_of_commit (Patcher.plan_eq_ok_iff.mp hplan).1
    (congrArg Prod.fst hcommit)
  rw [hcommit] at hforetells
  have hchanges : changes p plan r' s.colours = changes p plan r s.colours := by
    simp only [changes, hdiff]
  refine ⟨p, plan, report, changes p plan r s.colours, style, hp, hplan, ?_, ?_, ?_⟩
  · rw [hpatch']
    exact hforetells
  · rw [hpatch]
    rfl
  · rw [hpatch', ← houtput, ← hchanges]
    rfl

end CommandLine

/-- A dry run foretells what a commit of the same plan reports and does, on whatever disk that
commit happens; and a dry run of the program leaves the disk as it is and foretells a run of the
program on the same disk. -/
theorem Patcher.dryRun_foretells (p : Patcher) (before d : Disk) (plan : Plan) (report : Report)
    (hplan : p.plan before = .ok plan) (hcommit : (p.commit plan d).1 = .ok report) :
    p.Foretells plan d report (p.commit plan d).2 ∧
      ∀ (r : CommandLine.Request) (s : CommandLine.Surroundings), r.dryRun = true →
        (CommandLine.patch r s).disk = s.disk ∧
          ∀ r' : CommandLine.Request, r'.dryRun = false → r'.diff = r.diff →
            (CommandLine.patch r' s).code = 0 → CommandLine.ShowsSamePlan r r' s := by
  refine ⟨foretells_of_commit (plan_eq_ok_iff.mp hplan).1 hcommit, fun r s hdry => ⟨?_, ?_⟩⟩
  · exact CommandLine.disk_patch_of_dryRun hdry
  · intro r' hreal hdiff hcode
    exact CommandLine.showsSamePlan hdry hreal hdiff hcode

/-- A workspace with an empty document for the built-in rules. -/
def reportDisk : Disk where
  entries :=
    [(["w".toList], .directory 0o755), (["w".toList, "frontend".toList], .directory 0o755),
      (["w".toList, "frontend".toList, "src".toList], .directory 0o755),
      (["w".toList, "frontend".toList, "src".toList, "components".toList], .directory 0o755),
      (["w".toList, "frontend".toList, "src".toList, "components".toList, "reports".toList],
        .directory 0o755),
      (["w".toList, "frontend".toList, "src".toList, "components".toList, "reports".toList,
        "ClientMonthlyReport.jsx".toList], .file (.text []) 0o644)]
  current := ["w".toList]

def reportPatcher : Patcher where
  target := "frontend/src/components/reports/ClientMonthlyReport.jsx".toList
  rules := ⟨Builtin.rules⟩
  gate := ⟨".bak".toList⟩
  guard := some { root := ["w".toList], forbidden := Guard.defaultForbidden }

theorem builtin_reportDisk : Patcher.builtin reportDisk ['.'] = .ok reportPatcher := by
  unfold Patcher.builtin Patcher.ofConfig
  rw [Builtin.compile_rules]
  rfl

theorem code_patch_reportDisk : (CommandLine.patch {} { disk := reportDisk }).code = 0 := by
  have hidle : (reportPatcher.plan reportDisk).toOption.map Plan.isChanged = some false := by
    decide +kernel
  obtain ⟨plan, hplan, hchanged⟩ := Option.map_eq_some_iff.mp hidle
  obtain ⟨filter, _, hpatch⟩ := CommandLine.patch_of_plan {} builtin_reportDisk
    (s := { disk := reportDisk }) (Except.toOption_eq_some_iff.mp hplan)
  rw [hpatch]
  exact CommandLine.code_commit_of_unchanged (Gate.hasChanges_eq_false_iff.mp hchanged) filter

/-- The plan for a document in the current directory, and its commit; and a dry run of the program
with a run from the same disk. -/
theorem Patcher.dryRun_foretells_letter :
    (letterPatcher ['t']).plan letterDisk = .ok (letterPlan ['t']) ∧
      (letterPatcher ['t']).dryRunStatus (letterPlan ['t']) =
        "Would update t (backup at t.bak)" ∧
      (∃ report, ((letterPatcher ['t']).commit (letterPlan ['t']) letterDisk).1 = .ok report ∧
        report.status = "Updated t (backup at t.bak)" ∧
        (letterPatcher ['t']).Foretells (letterPlan ['t']) letterDisk report
          ((letterPatcher ['t']).commit (letterPlan ['t']) letterDisk).2) ∧
      (CommandLine.patch { flags := [.dryRun] } { disk := reportDisk }).disk = reportDisk ∧
      CommandLine.ShowsSamePlan { flags := [.dryRun] } {} { disk := reportDisk } := by
  have hplan : (letterPatcher ['t']).plan letterDisk = .ok (letterPlan ['t']) := rfl
  have hcommit : ((letterPatcher ['t']).commit (letterPlan ['t']) letterDisk).1 =
      .ok ⟨(letterPlan ['t']).outcomes, .committed ['t'] "t.bak".toList⟩ := rfl
  obtain ⟨hforetells, hprogram⟩ :=
    dryRun_foretells (letterPatcher ['t']) letterDisk letterDisk _ _ hplan hcommit
  obtain ⟨hdisk, hshows⟩ := hprogram { flags := [.dryRun] } { disk := reportDisk } rfl
  exact ⟨hplan, by decide, ⟨_, hcommit, by decide, hforetells⟩, hdisk,
    hshows {} rfl rfl code_patch_reportDisk⟩

end AnchorPatch
