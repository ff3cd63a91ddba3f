import AnchorPatch.Proofs.Guard
import AnchorPatch.Proofs.Patcher.Commit

/-!
Which writes are inside the workspace of a guard.

The guard judges the place that the target leads to. The files are written at the entries that the
target and the path of the backup name, so the judgement says little about a target whose entry is
a link, about a relative target outside the current directory and about the name of the backup.
Main statement: the exact condition for all writes of a commit to be inside the workspace.
-/

namespace AnchorPatch

open Disk (IsTree)

namespace Gate

variable {g : Gate} {doc : Document} {patched : Text} {d d' : Disk} {ls : List Location}
  {result : Except CommitError CommitOutcome}

namespace Step

theorem get?_of_notMem (h : g.Step doc patched d ls (result, d')) {l : Location} (hl : l ∉ ls) :
    d'.get? l = d.get? l := by
  cases h with
  | unchanged => rfl
  | unsaved => rfl
  | unwritten =>
      rw [List.mem_singleton] at hl
      exact Disk.get?_put_of_ne d _ hl
  | committed =>
      rw [List.mem_cons, List.mem_singleton, not_or] at hl
      rw [written, Disk.get?_put_of_ne _ _ hl.2, saved, Disk.get?_put_of_ne _ _ hl.1]

theorem get?_of_mem (h : g.Step doc patched d ls (result, d')) {l : Location} (hl : l ∈ ls) :
    ∃ s, d'.get? l = some (.file (.text s) (modeFor d doc)) := by
  cases h with
  | unchanged => cases hl
  | unsaved => cases hl
  | unwritten =>
      rw [List.mem_singleton] at hl
      subst hl
      exact ⟨_, Disk.get?_put_self d _ _ (by simp)⟩
  | @committed _ folder _ name _ =>
      by_cases htarget : l = folder ++ [name]
      · subst htarget
        exact ⟨patched, Disk.get?_put_self _ _ _ (by simp)⟩
      · rw [List.mem_cons, List.mem_singleton, or_iff_left htarget] at hl
        rw [written, Disk.get?_put_of_ne _ _ htarget, hl]
        exact ⟨doc.content, Disk.get?_put_self d _ _ (by simp)⟩

theorem entries (h : g.Step doc patched d ls (result, d')) :
    ls = [] ∨ ∃ folder' name', d.EntryAt (g.backupPath doc.path) folder' name' ∧
      (ls = [folder' ++ [name']] ∨ ∃ folder name, d.EntryAt doc.path folder name ∧
        ls = [folder' ++ [name'], folder ++ [name]]) := by
  cases h with
  | unchanged => exact .inl rfl
  | unsaved => exact .inl rfl
  | unwritten _ _ hbackup => exact .inr ⟨_, _, hbackup.entryAt, .inl rfl⟩
  | committed _ hbackup htarget =>
      exact .inr ⟨_, _, hbackup.entryAt, .inr ⟨_, _, htarget.entryAt.of_put (by simp), rfl⟩⟩

end Step

end Gate

namespace Patcher

open Gate (modeFor)

variable {p : Patcher} {g : Guard} {plan : Plan} {d d' : Disk} {ls : List Location}
  {result : Except PatchError Report}

theorem Step.gate (h : p.Step plan d ls (result, d')) (hls : ls ≠ []) :
    p.checkGuard d plan.document.path = .ok () ∧
      ∃ result', p.gate.Step plan.document plan.patched d ls (result', d') := by
  cases h with
  | refused => exact absurd rfl hls
  | failed _ hguard hgate => exact ⟨hguard, _, hgate⟩
  | passed hguard hgate =>
      cases hgate with
      | unchanged => exact absurd rfl hls
      | committed hne hbackup htarget => exact ⟨hguard hne, _, .committed hne hbackup htarget⟩

theorem forall_holds_iff (h : p.Step plan d ls (result, d')) :
    (∀ l ∈ ls, g.Holds l) ↔
      ls = [] ∨ g.Admits d (p.gate.backupPath plan.document.path) ∧
        (ls.length = 2 → g.Admits d plan.document.path) := by
  by_cases hls : ls = []
  · simp [hls]
  obtain ⟨-, result', hgate⟩ := h.gate hls
  rcases hgate.entries with hnil | ⟨folder', name', hbackup, rfl | ⟨folder, name, htarget, rfl⟩⟩
  · exact absurd hnil hls
  · simp [Guard.admits_iff hbackup]
  · simp [Guard.admits_iff hbackup, Guard.admits_iff htarget]

theorem admits_backupPath_iff {folder : Location} {name : Text} (hslash : '/' ∉ p.gate.backupSuffix)
    (hat : d.EntryAt plan.document.path folder name) :
    g.Admits d (p.gate.backupPath plan.document.path) ↔
      g.root <+: folder ∧ (∀ s ∈ folder.drop g.root.length, s ∉ g.forbidden) ∧
        name ++ p.gate.backupSuffix ∉ g.forbidden := by
  rw [Guard.admits_iff (Gate.entryAt_backupPath hat hslash), Guard.holds_append_singleton_iff]

theorem forall_holds_iff_folder (h : p.Step plan d ls (result, d')) {folder : Location}
    {name : Text} (hslash : '/' ∉ p.gate.backupSuffix)
    (hat : d.EntryAt plan.document.path folder name) :
    (∀ l ∈ ls, g.Holds l) ↔
      ls = [] ∨ g.root <+: folder ∧ (∀ s ∈ folder.drop g.root.length, s ∉ g.forbidden) ∧
        name ++ p.gate.backupSuffix ∉ g.forbidden ∧ (ls.length = 2 → name ∉ g.forbidden) := by
  rw [forall_holds_iff h, admits_backupPath_iff hslash hat, Guard.admits_iff hat,
    Guard.holds_append_singleton_iff]
  constructor
  · rintro (hnil | ⟨⟨hroot, hfolder, hbackup⟩, htarget⟩)
    · exact .inl hnil
    · exact .inr ⟨hroot, hfolder, hbackup, fun hls => (htarget hls).2.2⟩
  · rintro (hnil | ⟨hroot, hfolder, hbackup, htarget⟩)
    · exact .inl hnil
    · exact .inr ⟨⟨hroot, hfolder, hbackup⟩, fun hls => ⟨hroot, hfolder, htarget hls⟩⟩

theorem forall_holds_iff_place (h : p.Step plan d ls (result, d')) {folder : Location} {name : Text}
    (hslash : '/' ∉ p.gate.backupSuffix) (hat : d.EntryAt plan.document.path folder name)
    (hplace : g.validate d plan.document.path = .ok (folder ++ [name])) :
    (∀ l ∈ ls, g.Holds l) ↔
      ls = [] ∨ folder ++ [name] ≠ g.root ∧ name ++ p.gate.backupSuffix ∉ g.forbidden := by
  have hcheck := (Guard.validate_eq_ok_iff.mp hplace).2
  rw [forall_holds_iff_folder h hslash hat]
  refine or_congr_right ⟨?_, ?_⟩
  · rintro ⟨hroot, -, hbackup, -⟩
    refine ⟨fun he => ?_, hbackup⟩
    have hle := hroot.length_le
    rw [← he, List.length_append, List.length_singleton] at hle
    omega
  · rintro ⟨hne, hbackup⟩
    obtain ⟨hroot, hfolder, hname⟩ :=
      Guard.holds_append_singleton_iff.mp (Guard.holds_iff_check.mpr ⟨hne, hcheck⟩)
    exact ⟨hroot, hfolder, hbackup, fun _ => hname⟩

/-- What a commit writes, and when it is inside the workspace. -/
structure Confinement (p : Patcher) (g : Guard) (plan : Plan) (d d' : Disk) : Prop where
  get?_of_notMem : ∀ l ∉ p.writes plan d, d'.get? l = d.get? l
  get?_of_mem : ∀ l ∈ p.writes plan d,
    ∃ s, d'.get? l = some (.file (.text s) (modeFor d plan.document))
  validate : p.writes plan d ≠ [] → ∃ place, g.validate d plan.document.path = .ok place
  forall_holds_iff : (∀ l ∈ p.writes plan d, g.Holds l) ↔
    p.writes plan d = [] ∨ g.Admits d (p.gate.backupPath plan.document.path) ∧
      ((p.writes plan d).length = 2 → g.Admits d plan.document.path)
  forall_holds_iff_folder : ∀ folder name, '/' ∉ p.gate.backupSuffix →
    d.EntryAt plan.document.path folder name →
    ((∀ l ∈ p.writes plan d, g.Holds l) ↔
      p.writes plan d = [] ∨
        g.root <+: folder ∧ (∀ s ∈ folder.drop g.root.length, s ∉ g.forbidden) ∧
          name ++ p.gate.backupSuffix ∉ g.forbidden ∧
          ((p.writes plan d).length = 2 → name ∉ g.forbidden))
  /-- Where the place that the guard has judged is the entry, only the name of the backup is left
  to judge. -/
  forall_holds_iff_place : ∀ folder name, '/' ∉ p.gate.backupSuffix →
    d.EntryAt plan.document.path folder name →
    g.validate d plan.document.path = .ok (folder ++ [name]) →
    ((∀ l ∈ p.writes plan d, g.Holds l) ↔
      p.writes plan d = [] ∨
        folder ++ [name] ≠ g.root ∧ name ++ p.gate.backupSuffix ∉ g.forbidden)
  place_eq : ∀ folder name place, d.EntryAt plan.document.path folder name →
    g.validate d plan.document.path = .ok place →
    (Path.isAbsolute plan.document.path = true ∨ d.IsTree ∧ g.root = d.current) →
    (∀ target, d.get? (folder ++ [name]) ≠ some (.link target)) → place = folder ++ [name]

/-- The exact condition for the writes of a commit to be inside the workspace, and the same for a
run. -/
theorem confinement (p : Patcher) (g : Guard) (hguard : p.guard = some g) (d : Disk) :
    (∀ plan, p.Confinement g plan d (p.commit plan d).2) ∧
      ∀ l, (p.run d).2.get? l ≠ d.get? l →
        ∃ plan, p.plan d = .ok plan ∧ p.run d = p.commit plan d ∧ l ∈ p.writes plan d := by
  have hcommit (plan : Plan) : p.Confinement g plan d (p.commit plan d).2 := by
    have hstep : p.Step plan d (p.writes plan d) ((p.commit plan d).1, (p.commit plan d).2) :=
      p.step_commit plan d
    refine ⟨?_, ?_, ?_, forall_holds_iff hstep, fun folder name => forall_holds_iff_folder hstep,
      fun folder name => forall_holds_iff_place hstep, ?_⟩
    · intro l hl
      by_cases hls : p.writes plan d = []
      · rw [p.disk_commit, hls]
        rfl
      · obtain ⟨-, result, hgate⟩ := hstep.gate hls
        exact hgate.get?_of_notMem hl
    · intro l hl
      obtain ⟨-, result, hgate⟩ := hstep.gate (List.ne_nil_of_mem hl)
      exact hgate.get?_of_mem hl
    · intro hls
      exact checkGuard_eq_ok_iff.mp (hstep.gate hls).1 g hguard
    · intro folder name place hat hplace hbase hlink
      obtain ⟨front, hends⟩ := hat.endsIn
      have hl := (Guard.validate_eq_ok_iff.mp hplace).1
      exact Guard.place_eq_entry hat ((Guard.canonicalize_absolute hbase hends.ne_nil).mp hl) hlink
  refine ⟨hcommit, ?_⟩
  intro l hl
  unfold run at hl ⊢
  cases hplan : p.plan d with
  | error e =>
      rw [hplan] at hl
      exact absurd rfl hl
  | ok plan =>
      rw [hplan] at hl
      refine ⟨plan, rfl, rfl, ?_⟩
      by_contra hnot
      exact hl ((hcommit plan).get?_of_notMem l hnot)

/-- A workspace `r`, and beside it a link to a file in the workspace. -/
def outsideDisk : Disk where
  entries :=
    [([['r']], .directory 0o755), ([['r'], ['f']], .file (.text ['A']) 0o644),
      ([['o']], .link "/r/f".toList)]
  current := [['r']]

def workspaceGuard : Guard := { root := [['r']], forbidden := Guard.defaultForbidden }

def guardedPatcher (target : Path) : Patcher :=
  { letterPatcher target with guard := some workspaceGuard }

/-- A link outside the workspace is replaced, since the guard has judged the file inside that it
leads to. -/
theorem confinement_outside_link :
    (guardedPatcher "/o".toList).guard = some workspaceGuard ∧
      (guardedPatcher "/o".toList).plan outsideDisk = .ok (letterPlan "/o".toList) ∧
      ((guardedPatcher "/o".toList).run outsideDisk).2.get? [['o']] =
        some (.file (.text ['B']) 0o644) ∧
      ¬ ∀ l ∈ (guardedPatcher "/o".toList).writes (letterPlan "/o".toList) outsideDisk,
        workspaceGuard.Holds l := by
  have hguard : (guardedPatcher "/o".toList).guard = some workspaceGuard := rfl
  refine ⟨hguard, rfl, rfl, ?_⟩
  have hat : outsideDisk.EntryAt "/o".toList [] ['o'] :=
    ⟨⟨[[]], rfl, by decide, by decide, by decide⟩, rfl⟩
  have h := (confinement (guardedPatcher "/o".toList) workspaceGuard hguard outsideDisk).1
    (letterPlan "/o".toList)
  rw [h.forall_holds_iff_folder [] ['o'] (by decide) hat]
  have hwrites : (guardedPatcher "/o".toList).writes (letterPlan "/o".toList) outsideDisk =
      [["o.bak".toList], [['o']]] := rfl
  rw [hwrites]
  decide

end Patcher

end AnchorPatch
