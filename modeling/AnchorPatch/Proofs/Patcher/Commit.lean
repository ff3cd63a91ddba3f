import AnchorPatch.Patcher
import AnchorPatch.Proofs.Except
import AnchorPatch.Proofs.Gate

namespace AnchorPatch.Patcher

open Gate (modeFor saved)

variable {p : Patcher} {plan : Plan} {d : Disk}

theorem checkGuard_eq_ok_iff {path : Path} :
    p.checkGuard d path = .ok () ↔ ∀ g, p.guard = some g → ∃ l, g.validate d path = .ok l := by
  unfold checkGuard
  cases p.guard with
  | none => simp
  | some g => simp [Except.bind_eq_ok_iff, Except.mapError_eq_ok_iff, pure, Except.pure]

theorem eq_guard_of_checkGuard {path : Path} {e : PatchError} (h : p.checkGuard d path = .error e) :
    ∃ cause, e = .guard cause := by
  unfold checkGuard at h
  split at h
  · cases h
  · rcases Except.bind_eq_error_iff.mp h with hvalidate | ⟨l, -, hpure⟩
    · obtain ⟨cause, -, rfl⟩ := Except.mapError_eq_error_iff.mp hvalidate
      exact ⟨cause, rfl⟩
    · cases hpure

theorem read_eq_ok_iff {path : Path} {doc : Document} :
    Document.read d path = .ok doc ↔ doc.path = path ∧ d.readText path = .ok doc.content := by
  obtain ⟨path', content⟩ := doc
  simp only [Document.read, Except.bind_eq_ok_iff, Except.pure_eq_ok_iff, Document.mk.injEq]
  constructor
  · rintro ⟨s, hs, rfl, rfl⟩
    exact ⟨rfl, hs⟩
  · rintro ⟨rfl, hs⟩
    exact ⟨content, hs, rfl, rfl⟩

theorem plan_eq_ok_iff :
    p.plan d = .ok plan ↔
      plan.document.path = p.target ∧ d.readText p.target = .ok plan.unpatched ∧
        p.checkGuard d p.target = .ok () ∧ p.rules.apply plan.unpatched = .ok plan.run := by
  obtain ⟨doc, run⟩ := plan
  simp only [Patcher.plan, Except.bind_eq_ok_iff, Except.mapError_eq_ok_iff, read_eq_ok_iff,
    Except.pure_eq_ok_iff, Plan.mk.injEq, Plan.unpatched]
  constructor
  · rintro ⟨doc', ⟨hpath, hread⟩, _, hguard, run', hrun, rfl, rfl⟩
    exact ⟨hpath, hread, hguard, hrun⟩
  · rintro ⟨hpath, hread, hguard, hrun⟩
    exact ⟨doc, ⟨hpath, hread⟩, (), hguard, run, hrun, rfl, rfl⟩

/-- The places that a commit writes, none if the guard refuses its path. -/
def writes (p : Patcher) (plan : Plan) (d : Disk) : List Location :=
  match p.checkGuard d plan.document.path with
  | .error _ => []
  | .ok _ => p.gate.writes plan.document plan.patched d

theorem writes_of_guard (h : p.checkGuard d plan.document.path = .ok ()) :
    p.writes plan d = p.gate.writes plan.document plan.patched d := by
  unfold writes
  rw [h]

/-- The ways in which a commit can end, with the entries that it has written. -/
inductive Step (p : Patcher) (plan : Plan) (d : Disk) :
    List Location → Except PatchError Report × Disk → Prop
  | refused (h : plan.patched ≠ plan.unpatched) (cause : GuardError) :
      Step p plan d [] (.error (.guard cause), d)
  | failed (h : plan.patched ≠ plan.unpatched) {ls : List Location} {cause : CommitError}
      {d' : Disk} (hguard : p.checkGuard d plan.document.path = .ok ())
      (hgate : p.gate.Step plan.document plan.patched d ls (.error cause, d')) :
      Step p plan d ls (.error (.commit cause), d')
  | passed {ls : List Location} {commit : CommitOutcome} {d' : Disk}
      (hguard : plan.patched ≠ plan.unpatched → p.checkGuard d plan.document.path = .ok ())
      (hgate : p.gate.Step plan.document plan.patched d ls (.ok commit, d')) :
      Step p plan d ls (.ok { outcomes := plan.outcomes, commit }, d')

theorem step_commit (p : Patcher) (plan : Plan) (d : Disk) :
    p.Step plan d (p.writes plan d) (p.commit plan d) := by
  have hgate := p.gate.step_commit plan.document plan.patched d
  unfold commit
  cases hchanged : plan.isChanged with
  | false =>
      have heq : plan.patched = plan.unpatched := Gate.hasChanges_eq_false_iff.mp hchanged
      have hnone : p.gate.writes plan.document plan.patched d = [] := by
        unfold Gate.writes
        rw [if_neg (by simpa [Plan.isChanged] using hchanged)]
      have hwrites : p.writes plan d = [] := by
        unfold writes
        split
        · rfl
        · exact hnone
      have hend : p.gate.commit plan.document plan.patched d =
          (.ok (.noChanges plan.document.path), d) := by
        unfold Gate.commit
        rw [if_neg (by simpa [Plan.isChanged] using hchanged)]
      simp only [Bool.false_eq_true, if_false]
      rw [hwrites, hend]
      exact .passed (fun hne => absurd heq hne) (.unchanged heq)
  | true =>
      have hne : plan.patched ≠ plan.unpatched := Gate.hasChanges_iff.mp hchanged
      simp only [if_true]
      unfold writes
      cases hguard : p.checkGuard d plan.document.path with
      | error e =>
          obtain ⟨cause, rfl⟩ := eq_guard_of_checkGuard hguard
          exact .refused hne cause
      | ok _ =>
          obtain ⟨result, d', hend⟩ :
              ∃ result d', p.gate.commit plan.document plan.patched d = (result, d') := ⟨_, _, rfl⟩
          rw [hend] at hgate
          simp only [hend]
          cases result with
          | error cause => exact .failed hne hguard hgate
          | ok commit => exact .passed (fun _ => hguard) hgate

theorem commit_of_unchanged (h : plan.patched = plan.unpatched) (d : Disk) :
    p.commit plan d =
      (.ok { outcomes := plan.outcomes, commit := .noChanges plan.document.path }, d) := by
  have hchanged : plan.isChanged = false := Gate.hasChanges_eq_false_iff.mpr h
  have hgate : Gate.hasChanges plan.document plan.patched = false := hchanged
  simp [commit, Gate.commit, hchanged, hgate]

theorem commit_cases {report : Report} (h : (p.commit plan d).1 = .ok report) :
    report.outcomes = plan.outcomes ∧
      (plan.patched = plan.unpatched ∧ report.commit = .noChanges plan.document.path ∧
          (p.commit plan d).2 = d ∨
        plan.patched ≠ plan.unpatched ∧ p.checkGuard d plan.document.path = .ok () ∧
          report.commit =
            .committed plan.document.path (p.gate.backupPath plan.document.path) ∧
          ∃ folder' name' folder name, p.gate.Lands plan.document plan.patched d
            (p.commit plan d).2 folder' name' folder name) := by
  have hstep := p.step_commit plan d
  generalize p.commit plan d = result at hstep h ⊢
  generalize p.writes plan d = ls at hstep
  cases hstep with
  | refused => cases h
  | failed => cases h
  | passed hguard hgate =>
      cases h
      cases hgate with
      | unchanged heq => exact ⟨rfl, .inl ⟨heq, rfl, rfl⟩⟩
      | committed hne hbackup htarget =>
          exact ⟨rfl, .inr ⟨hne, hguard hne, rfl, _, _, _, _, hbackup, htarget, rfl⟩⟩

theorem Step.eq_diskAfter {ls : List Location} {result : Except PatchError Report} {d' : Disk}
    (h : p.Step plan d ls (result, d')) :
    d' = Gate.diskAfter plan.document plan.patched d ls := by
  cases h with
  | refused => rfl
  | failed _ _ hgate => exact hgate.eq_diskAfter
  | passed _ hgate => exact hgate.eq_diskAfter

theorem disk_commit (p : Patcher) (plan : Plan) (d : Disk) :
    (p.commit plan d).2 = Gate.diskAfter plan.document plan.patched d (p.writes plan d) := by
  have h : p.Step plan d (p.writes plan d) ((p.commit plan d).1, (p.commit plan d).2) :=
    p.step_commit plan d
  exact h.eq_diskAfter

/-- Both files are written, and their paths lead to them unless the path of the document runs
through the entry that was replaced. -/
structure Commits (g : Gate) (plan : Plan) (d d' : Disk) (folder : Location) (name : Text) :
    Prop where
  replaces : g.Replaces plan.document plan.patched d d' folder name
  reads : d'.EntryAt plan.document.path folder name →
    d'.readText plan.document.path = .ok plan.patched ∧
      d'.mode? plan.document.path = some (modeFor d plan.document) ∧
      d'.readText (g.backupPath plan.document.path) = .ok plan.unpatched ∧
      d'.mode? (g.backupPath plan.document.path) = some (modeFor d plan.document)

/-- What is promised of a commit: one field for each of its results. -/
structure AllOrNothing (g : Gate) (plan : Plan) (d : Disk)
    (result : Except PatchError Report) (d' : Disk) : Prop where
  noChanges_iff : (∃ report target, result = .ok report ∧ report.commit = .noChanges target) ↔
    plan.patched = plan.unpatched
  of_noChanges : ∀ report target, result = .ok report → report.commit = .noChanges target →
    target = plan.document.path ∧ d' = d
  of_committed : ∀ report target backup, result = .ok report →
    report.commit = .committed target backup →
    target = plan.document.path ∧ backup = g.backupPath plan.document.path ∧
      ∃ folder name, Commits g plan d d' folder name
  of_write_error : ∀ path cause, result = .error (.commit (.write path cause)) →
    path = plan.document.path ∧ ∃ folder name, g.Saves plan.document d d' folder name
  of_other_error : ∀ e, result = .error e → (∀ path cause, e ≠ .commit (.write path cause)) →
    d' = d

theorem allOrNothing_of_step {result : Except PatchError Report} {d' : Disk}
    (hsuffix : p.gate.backupSuffix ≠ []) (hslash : '/' ∉ p.gate.backupSuffix)
    {ls : List Location} (h : p.Step plan d ls (result, d')) :
    AllOrNothing p.gate plan d result d' := by
  cases h with
  | refused hne cause =>
      refine ⟨⟨?_, fun he => absurd he hne⟩, ?_, ?_, ?_, fun e _ _ => rfl⟩
      · rintro ⟨report, target, h, -⟩
        cases h
      · intro report target h
        cases h
      · intro report target backup h
        cases h
      · intro path cause h
        cases h
  | failed hne _ hgate =>
      refine ⟨⟨?_, fun he => absurd he hne⟩, ?_, ?_, ?_, ?_⟩
      · rintro ⟨report, target, h, -⟩
        cases h
      · intro report target h
        cases h
      · intro report target backup h
        cases h
      · intro path cause h
        cases h
        cases hgate with
        | unwritten _ _ hbackup => exact ⟨rfl, _, _, Gate.saves_saved hbackup⟩
      · intro e h hwrite
        cases h
        cases hgate with
        | unsaved => rfl
        | unwritten _ cause => exact absurd rfl (hwrite _ cause)
  | passed _ hgate =>
      cases hgate with
      | unchanged heq =>
          refine ⟨⟨fun _ => heq, fun _ => ⟨_, _, rfl, rfl⟩⟩, ?_, ?_, ?_, fun e h => ?_⟩
          · intro report target h hcommit
            cases h
            cases hcommit
            exact ⟨rfl, rfl⟩
          · intro report target backup h hcommit
            cases h
            cases hcommit
          · intro path cause h
            cases h
          · cases h
      | committed hne hbackup htarget =>
          refine ⟨⟨?_, fun he => absurd he hne⟩, ?_, ?_, ?_, fun e h => ?_⟩
          · rintro ⟨report, target, h, hcommit⟩
            cases h
            cases hcommit
          · intro report target h hcommit
            cases h
            cases hcommit
          · intro report target backup h hcommit
            cases h
            cases hcommit
            have hreplaces : p.gate.Replaces plan.document plan.patched d _ _ _ :=
              Gate.Lands.replaces hsuffix hslash ⟨hbackup, htarget, rfl⟩
            refine ⟨rfl, rfl, _, _, hreplaces, fun hat => ?_⟩
            obtain ⟨⟨htext, hmode⟩, hbackupText, hbackupMode⟩ := hreplaces.readText hslash hat
            exact ⟨htext, hmode, hbackupText, hbackupMode⟩
          · intro path cause h
            cases h
          · cases h

theorem entryAt_of_read {d' : Disk} {folder : Location} {name : Text} {content : Content}
    (hread : d.read plan.document.path = .ok content)
    (h : p.gate.Replaces plan.document plan.patched d d' folder name) :
    d'.EntryAt plan.document.path folder name := by
  obtain ⟨l, mode, hl, hfile⟩ := Disk.read_eq_ok_iff.mp hread
  apply h.entryAt_target
  exact h.target.entryAt.not_isDirectoryLink hl (Disk.not_isDirectory_of_file hfile)

theorem entryAt_of_replaces {d' : Disk} {folder : Location} {name : Text} {s : Text}
    (hread : d.readText plan.document.path = .ok s)
    (h : p.gate.Replaces plan.document plan.patched d d' folder name) :
    d'.EntryAt plan.document.path folder name :=
  entryAt_of_read (Disk.readText_eq_ok_iff_read.mp hread) h

theorem modeFor_of_readText {doc : Document} {s : Text} (hread : d.readText doc.path = .ok s) :
    d.mode? doc.path = some (modeFor d doc) := by
  obtain ⟨l, mode, hl, hfile⟩ := Disk.readText_eq_ok_iff.mp hread
  have hfind : d.find doc.path = .ok (.file (.text s) mode) :=
    Disk.find_eq_ok_iff.mpr ⟨l, hl, hfile⟩
  simp [modeFor, Disk.mode?, hfind]

/-- A commit of any plan is all or nothing, and so is a run, after which both paths lead to their
texts. -/
theorem all_or_nothing (p : Patcher) (d : Disk) (hsuffix : p.gate.backupSuffix ≠ [])
    (hslash : '/' ∉ p.gate.backupSuffix) :
    (∀ plan, AllOrNothing p.gate plan d (p.commit plan d).1 (p.commit plan d).2) ∧
      (∀ e, p.plan d = .error e → p.run d = (.error e, d)) ∧
      ∀ plan, p.plan d = .ok plan →
        plan.document.path = p.target ∧ d.readText p.target = .ok plan.unpatched ∧
          AllOrNothing p.gate plan d (p.run d).1 (p.run d).2 ∧
          ∀ report target backup, (p.run d).1 = .ok report →
            report.commit = .committed target backup →
            (p.run d).2.readText target = .ok plan.patched ∧
              (p.run d).2.mode? target = d.mode? target ∧
              (p.run d).2.readText backup = .ok plan.unpatched ∧
              (p.run d).2.mode? backup = d.mode? target := by
  have hcommit (plan : Plan) : AllOrNothing p.gate plan d (p.commit plan d).1 (p.commit plan d).2 :=
    allOrNothing_of_step hsuffix hslash (p.step_commit plan d)
  refine ⟨hcommit, ?_, ?_⟩
  · intro e he
    unfold run
    rw [he]
  · intro plan hplan
    have hrun : p.run d = p.commit plan d := by
      unfold run
      rw [hplan]
    obtain ⟨hpath, hread, -, -⟩ := plan_eq_ok_iff.mp hplan
    rw [hrun]
    refine ⟨hpath, hread, hcommit plan, ?_⟩
    intro report target backup hreport hcommitted
    obtain ⟨rfl, rfl, folder, name, hfiles⟩ :=
      (hcommit plan).of_committed report target backup hreport hcommitted
    rw [← hpath] at hread
    obtain ⟨htext, hmode, hbackupText, hbackupMode⟩ :=
      hfiles.reads (entryAt_of_replaces hread hfiles.replaces)
    rw [modeFor_of_readText hread]
    exact ⟨htext, hmode, hbackupText, hbackupMode⟩

/-- A patcher that writes `B` over the first `A` of a document. -/
def letterPatcher (target : Path) : Patcher where
  target := target
  rules := ⟨[{ id := ['r'], anchors := ⟨⟨.text ['A'], .replace, none⟩, none⟩, text := ['B'] }]⟩
  gate := ⟨".bak".toList⟩

def letterPlan (target : Path) : Plan where
  document := ⟨target, ['A']⟩
  run := ⟨['B'], [⟨['r'], .applied .primary 0 1⟩]⟩

def letterDisk : Disk where
  entries := [(["w".toList], .directory 0o755), (["w".toList, ['t']], .file (.text ['A']) 0o640)]
  current := ["w".toList]

theorem all_or_nothing_letter :
    (letterPatcher ['t']).gate.backupSuffix ≠ [] ∧ '/' ∉ (letterPatcher ['t']).gate.backupSuffix ∧
      ((letterPatcher ['t']).run letterDisk).2.readText ['t'] = .ok ['B'] ∧
      ((letterPatcher ['t']).run letterDisk).2.mode? ['t'] = some 0o640 ∧
      ((letterPatcher ['t']).run letterDisk).2.readText "t.bak".toList = .ok ['A'] ∧
      ((letterPatcher ['t']).run letterDisk).2.mode? "t.bak".toList = some 0o640 := by
  have hsuffix : (letterPatcher ['t']).gate.backupSuffix ≠ [] := by decide
  have hslash : '/' ∉ (letterPatcher ['t']).gate.backupSuffix := by decide
  obtain ⟨-, -, hrun⟩ := all_or_nothing (letterPatcher ['t']) letterDisk hsuffix hslash
  obtain ⟨-, -, -, hreads⟩ := hrun (letterPlan ['t']) rfl
  exact ⟨hsuffix, hslash,
    hreads ⟨_, .committed ['t'] "t.bak".toList⟩ ['t'] "t.bak".toList rfl rfl⟩

/-- A directory with a link `x`, and another directory in which `x` is a file. -/
def linkDisk (target : Path) : Disk where
  entries :=
    [(["w".toList], .directory 0o755), (["w".toList, ['d']], .directory 0o755),
      (["w".toList, ['x']], .link target), (["w".toList, ['o']], .directory 0o755),
      (["w".toList, ['o'], ['d']], .directory 0o755),
      (["w".toList, ['o'], ['x']], .file (.text ['A']) 0o644)]
  current := ["w".toList]

/-- A link that is replaced between the plan and the commit can make a path run through the entry
that the commit replaces: nothing is read from either path when the commit has succeeded. -/
theorem not_forall_committed_reads :
    ¬ ∀ (p : Patcher) (plan : Plan) (before d : Disk) (report : Report) (target backup : Path),
      p.gate.backupSuffix ≠ [] → '/' ∉ p.gate.backupSuffix → p.plan before = .ok plan →
      (p.commit plan d).1 = .ok report → report.commit = .committed target backup →
      (p.commit plan d).2.readText target = .ok plan.patched ∧
        (p.commit plan d).2.readText backup = .ok plan.unpatched := by
  intro h
  have hreads := h (letterPatcher "x/../x".toList) (letterPlan "x/../x".toList)
    (linkDisk "o/d".toList) (linkDisk ['d'])
    ⟨_, .committed "x/../x".toList "x/../x.bak".toList⟩ _ _ (by decide) (by decide) rfl rfl rfl
  have hlost : Except.error DiskError.notADirectory = Except.ok ['B'] := hreads.1
  cases hlost

end AnchorPatch.Patcher
