import AnchorPatch.Proofs.Guard
import AnchorPatch.Proofs.Patcher.Commit

namespace AnchorPatch.Patcher

open Gate (modeFor)

variable {p : Patcher} {plan : Plan} {d d' : Disk} {place folder folder' : Location}
  {name name' : Text}

def LinkAt (d : Disk) (l : Location) : Prop := ∃ target, d.get? l = some (.link target)

theorem place_eq_entry_iff {content : Content} {mode : Nat} (hat : d.EntryAt p.target folder name)
    (hplace : d.canonicalize p.target = .ok place)
    (hfile : d.get? place = some (.file content mode)) :
    place = folder ++ [name] ↔ ¬ LinkAt d (folder ++ [name]) := by
  constructor
  · rintro rfl ⟨target, hlink⟩
    rw [hfile] at hlink
    cases hlink
  · intro hlink
    exact Guard.place_eq_entry hat hplace fun target htarget => hlink ⟨target, htarget⟩

theorem exists_place_of_plan (hplan : p.plan d = .ok plan) :
    ∃ place, d.canonicalize p.target = .ok place ∧
      d.get? place = some (.file (.text plan.unpatched) (modeFor d plan.document)) := by
  obtain ⟨hpath, hread, -, -⟩ := plan_eq_ok_iff.mp hplan
  obtain ⟨place, mode, hplace, hfile⟩ := Disk.readText_eq_ok_iff.mp hread
  have hfind : d.find plan.document.path = .ok (.file (.text plan.unpatched) mode) :=
    Disk.find_eq_ok_iff.mpr ⟨place, hpath ▸ hplace, hfile⟩
  have hmode : modeFor d plan.document = mode := by simp [modeFor, Disk.mode?, hfind]
  exact ⟨place, hplace, hmode ▸ hfile⟩

/-- A file with the old text keeps it, unless it is at the entry of the document. It may be at the
entry of the backup, where the same text is written. -/
theorem get?_of_ne_entry (h : p.gate.Lands plan.document plan.patched d d' folder' name' folder name)
    (hfile : d.get? place = some (.file (.text plan.unpatched) (modeFor d plan.document)))
    (hne : place ≠ folder ++ [name]) :
    d'.get? place = some (.file (.text plan.unpatched) (modeFor d plan.document)) := by
  by_cases hbackup : place = folder' ++ [name']
  · subst hbackup
    exact h.get?_backup hne
  · rw [h.get?_other place hne hbackup]
    exact hfile

/-- What a run that commits has done to the place from which the target was read. -/
structure Updates (p : Patcher) (plan : Plan) (d d' : Disk) (place folder : Location)
    (name : Text) : Prop where
  canonicalize_eq : d.canonicalize p.target = .ok place
  get?_place : d.get? place = some (.file (.text plan.unpatched) (modeFor d plan.document))
  validate : ∀ g, p.guard = some g → ∃ judged, g.validate d p.target = .ok judged ∧
    (Path.isAbsolute p.target = true ∨ d.IsTree ∧ g.root = d.current → judged = place)
  entryAt : d.EntryAt p.target folder name
  canonicalize_after : d'.canonicalize p.target = .ok (folder ++ [name])
  get?_entry : d'.get? (folder ++ [name]) =
    some (.file (.text plan.patched) (modeFor d plan.document))
  holds_iff : (∃ mode, d'.get? place = some (.file (.text plan.patched) mode)) ↔
    ¬ LinkAt d (folder ++ [name])
  leads_iff : d'.canonicalize p.target = .ok place ↔ ¬ LinkAt d (folder ++ [name])
  of_linkAt : LinkAt d (folder ++ [name]) → place ≠ folder ++ [name] ∧
    d'.get? place = some (.file (.text plan.unpatched) (modeFor d plan.document))

theorem judged_of_plan (hplan : p.plan d = .ok plan) (hplace : d.canonicalize p.target = .ok place)
    (hat : d.EntryAt p.target folder name) {g : Guard} (hg : p.guard = some g) :
    ∃ judged, g.validate d p.target = .ok judged ∧
      (Path.isAbsolute p.target = true ∨ d.IsTree ∧ g.root = d.current → judged = place) := by
  obtain ⟨-, -, hguard, -⟩ := plan_eq_ok_iff.mp hplan
  obtain ⟨judged, hjudged⟩ := checkGuard_eq_ok_iff.mp hguard g hg
  obtain ⟨front, hends⟩ := hat.endsIn
  refine ⟨judged, hjudged, fun hbase => ?_⟩
  have hleads := (Guard.canonicalize_absolute hbase hends.ne_nil).mp
    (Guard.validate_eq_ok_iff.mp hjudged).1
  exact Except.ok.inj (hleads.symm.trans hplace)

theorem updates_of_lands (hplan : p.plan d = .ok plan) (hne : plan.patched ≠ plan.unpatched)
    (h : p.gate.Lands plan.document plan.patched d d' folder' name' folder name) :
    ∃ place, p.Updates plan d d' place folder name := by
  obtain ⟨place, hplace, hfile⟩ := exists_place_of_plan hplan
  have hpath := (plan_eq_ok_iff.mp hplan).1
  have hat := hpath ▸ h.entryAt_target
  have hafter := hpath ▸ (h.canonicalize_eq (hpath ▸ hplace) (Disk.not_isDirectory_of_file hfile)).2
  have hentry := place_eq_entry_iff hat hplace hfile
  refine ⟨place, hplace, hfile, fun g => judged_of_plan hplan hplace hat, hat, hafter,
    h.get?_target, ?_, ?_, fun hlink => ?_⟩
  · rw [← hentry]
    constructor
    · rintro ⟨mode, hpatched⟩
      -- Anywhere else the old text would still be there, and it differs from the new one.
      refine Classical.byContradiction fun hother => ?_
      rw [get?_of_ne_entry h hfile hother] at hpatched
      simp only [Option.some.injEq, Entry.file.injEq, Content.text.injEq] at hpatched
      exact hne hpatched.1.symm
    · rintro rfl
      exact ⟨_, h.get?_target⟩
  · rw [← hentry, hafter, Except.ok.injEq, eq_comm]
  · have hother : place ≠ folder ++ [name] := fun he => hentry.mp he hlink
    exact ⟨hother, get?_of_ne_entry h hfile hother⟩

/-- A run that commits updates the file that was read, and the target leads to it as before,
exactly if the entry of the target was no link. -/
theorem run_updates_place_iff (p : Patcher) (d : Disk) (report : Report) (target backup : Path)
    (hrun : (p.run d).1 = .ok report) (hcommitted : report.commit = .committed target backup) :
    ∃ plan place folder name, p.plan d = .ok plan ∧
      p.Updates plan d (p.run d).2 place folder name := by
  unfold run at hrun ⊢
  cases hplan : p.plan d with
  | error e =>
      rw [hplan] at hrun
      cases hrun
  | ok plan =>
      rw [hplan] at hrun
      obtain ⟨-, ⟨-, hnone, -⟩ | ⟨hne, -, -, _, _, folder, name, hlands⟩⟩ := commit_cases hrun
      · rw [hcommitted] at hnone
        cases hnone
      · obtain ⟨place, hupdates⟩ := updates_of_lands hplan hne hlands
        exact ⟨plan, place, folder, name, rfl, hupdates⟩

/-- A link is replaced by a file, and the file that it led to is left as it was. -/
theorem run_updates_place_iff_link :
    ((letterPatcher ['x']).run (linkDisk "o/x".toList)).1 =
        .ok ⟨(letterPlan ['x']).outcomes, .committed ['x'] "x.bak".toList⟩ ∧
      ((letterPatcher ['x']).run (linkDisk "o/x".toList)).2.get? ["w".toList, ['o'], ['x']] =
        some (.file (.text ['A']) 0o644) ∧
      ((letterPatcher ['x']).run (linkDisk "o/x".toList)).2.get? ["w".toList, ['x']] =
        some (.file (.text ['B']) 0o644) ∧
      ∃ plan place folder name, (letterPatcher ['x']).plan (linkDisk "o/x".toList) = .ok plan ∧
        (letterPatcher ['x']).Updates plan (linkDisk "o/x".toList)
          ((letterPatcher ['x']).run (linkDisk "o/x".toList)).2 place folder name :=
  ⟨rfl, rfl, rfl, run_updates_place_iff (letterPatcher ['x']) (linkDisk "o/x".toList) _ ['x']
    "x.bak".toList rfl rfl⟩

end AnchorPatch.Patcher
