import Mathlib.Data.List.Induction
import AnchorPatch.Proofs.Patcher.Commit

namespace AnchorPatch.Patcher

variable {p : Patcher} {plan : Plan} {d : Disk}

/-- A step at a desk: a plan is made, a plan is committed, or others leave another disk. -/
inductive Act
  | plan
  | commit (plan : Plan)
  | others (d : Disk)

/-- A disk and the plans that have been made, the latest first. -/
structure Desk where
  disk : Disk
  plans : List Plan := []

/-- A plan that has been made may be committed as often as one likes. -/
def act (p : Patcher) (s : Desk) : Act → Desk
  | .plan =>
      match p.plan s.disk with
      | .error _ => s
      | .ok plan => { s with plans := plan :: s.plans }
  | .commit plan => if plan ∈ s.plans then { s with disk := (p.commit plan s.disk).2 } else s
  | .others d => { s with disk := d }

/-- What has become of a disk and of the plans after some acts. -/
def after (p : Patcher) (start : Disk) (acts : List Act) : Desk :=
  acts.foldl p.act { disk := start }

theorem after_concat (start : Disk) (acts : List Act) (a : Act) :
    p.after start (acts ++ [a]) = p.act (p.after start acts) a := by
  simp only [after, List.foldl_append, List.foldl_cons, List.foldl_nil]

theorem mem_plans_act_iff {s : Desk} {a : Act} :
    plan ∈ (p.act s a).plans ↔ plan ∈ s.plans ∨ a = .plan ∧ p.plan s.disk = .ok plan := by
  cases a with
  | plan =>
      cases hplan : p.plan s.disk with
      | error e => simp [act, hplan]
      | ok made => simp [act, hplan, or_comm, eq_comm]
  | commit other =>
      rw [act]
      split <;> simp
  | others d => simp [act]

theorem mem_plans_after_iff {start : Disk} {acts : List Act} :
    plan ∈ (p.after start acts).plans ↔ ∃ before since, acts = before ++ .plan :: since ∧
      p.plan (p.after start before).disk = .ok plan := by
  induction acts using List.reverseRecOn with
  | nil => simp [after]
  | append_singleton acts a ih =>
      rw [after_concat, mem_plans_act_iff, ih]
      constructor
      · rintro (⟨before, since, rfl, hplan⟩ | ⟨rfl, hplan⟩)
        · exact ⟨before, since ++ [a], by simp, hplan⟩
        · exact ⟨acts, [], rfl, hplan⟩
      · rintro ⟨before, since, hacts, hplan⟩
        -- The last step has made the plan exactly if nothing has happened since.
        rcases since.eq_nil_or_concat with rfl | ⟨since, last, rfl⟩
        · obtain ⟨rfl, hlast⟩ := List.append_inj' hacts rfl
          cases hlast
          exact .inr ⟨rfl, hplan⟩
        · rw [List.concat_eq_append, ← List.cons_append, ← List.append_assoc] at hacts
          obtain ⟨rfl, -⟩ := List.append_inj' hacts rfl
          exact .inl ⟨before, since, rfl, hplan⟩

/-- What a commit on the disk `d` keeps, if its plan was made on the disk `made`. -/
structure KeepsPlanned (p : Patcher) (plan : Plan) (made d d' : Disk) : Prop where
  read_made : made.read p.target = .ok (.text plan.unpatched)
  files : ∃ folder name, p.gate.Replaces plan.document plan.patched d d' folder name
  reads : ∀ content, d.read p.target = .ok content →
    d'.read p.target = .ok (.text plan.patched) ∧
      d'.read (p.gate.backupPath p.target) = .ok (.text plan.unpatched)
  /-- What was overwritten is kept exactly if it is what the plan was made for. -/
  keeps_iff : ∀ content, d.read p.target = .ok content →
    (d'.read (p.gate.backupPath p.target) = .ok content ↔ made.read p.target = .ok content)

theorem read_of_replaces {d' : Disk} {folder : Location} {name : Text} {content : Content}
    (hslash : '/' ∉ p.gate.backupSuffix)
    (h : p.gate.Replaces plan.document plan.patched d d' folder name)
    (hread : d.read plan.document.path = .ok content) :
    d'.read plan.document.path = .ok (.text plan.patched) ∧
      d'.read (p.gate.backupPath plan.document.path) = .ok (.text plan.unpatched) := by
  obtain ⟨⟨htext, -⟩, hbackup, -⟩ := h.readText hslash (entryAt_of_read hread h)
  exact ⟨Disk.readText_eq_ok_iff_read.mp htext, Disk.readText_eq_ok_iff_read.mp hbackup⟩

theorem keepsPlanned_of_replaces {made d' : Disk} {folder : Location} {name : Text}
    (hslash : '/' ∉ p.gate.backupSuffix) (hplan : p.plan made = .ok plan)
    (h : p.gate.Replaces plan.document plan.patched d d' folder name) :
    p.KeepsPlanned plan made d d' := by
  obtain ⟨hpath, hmade, -, -⟩ := plan_eq_ok_iff.mp hplan
  rw [Disk.readText_eq_ok_iff_read] at hmade
  have hreads (content : Content) (hread : d.read p.target = .ok content) :=
    read_of_replaces hslash h (hpath ▸ hread)
  rw [hpath] at hreads
  refine ⟨hmade, ⟨folder, name, h⟩, hreads, fun content hread => ?_⟩
  rw [(hreads content hread).2, hmade]

/-- Whenever a plan is committed, the backup then holds what the target held when that plan was
made. -/
theorem backup_holds_planned (p : Patcher) (hsuffix : p.gate.backupSuffix ≠ [])
    (hslash : '/' ∉ p.gate.backupSuffix) (start : Disk) (acts : List Act) (plan : Plan)
    (report : Report) (target backup : Path) (hmem : plan ∈ (p.after start acts).plans)
    (hcommit : (p.commit plan (p.after start acts).disk).1 = .ok report)
    (hcommitted : report.commit = .committed target backup) :
    target = p.target ∧ backup = p.gate.backupPath p.target ∧
      ∃ before since, acts = before ++ .plan :: since ∧
        p.plan (p.after start before).disk = .ok plan ∧
        p.KeepsPlanned plan (p.after start before).disk (p.after start acts).disk
          (p.after start (acts ++ [.commit plan])).disk := by
  obtain ⟨before, since, hacts, hplan⟩ := mem_plans_after_iff.mp hmem
  have hpath := (plan_eq_ok_iff.mp hplan).1
  have hdisk : (p.after start (acts ++ [.commit plan])).disk =
      (p.commit plan (p.after start acts).disk).2 := by
    rw [after_concat, act, if_pos hmem]
  obtain ⟨-, ⟨-, hnone, -⟩ | ⟨-, -, hboth, _, _, folder, name, hlands⟩⟩ := commit_cases hcommit
  · rw [hcommitted] at hnone
    cases hnone
  · rw [hcommitted, hpath] at hboth
    cases hboth
    rw [hdisk]
    exact ⟨rfl, rfl, before, since, hacts, hplan,
      keepsPlanned_of_replaces hslash hplan (hlands.replaces hsuffix hslash)⟩

/-- The disk of a document after someone else has written `C` over it. -/
def overwrittenDisk : Disk :=
  letterDisk.put ["w".toList, ['t']] (.file (.text ['C']) 0o640)

theorem letterPlan_mem_plans : letterPlan ['t'] ∈
    ((letterPatcher ['t']).after letterDisk [.plan, .others overwrittenDisk]).plans :=
  mem_plans_after_iff.mpr ⟨[], [.others overwrittenDisk], rfl, rfl⟩

theorem backup_holds_planned_letter :
    (letterPatcher ['t']).gate.backupSuffix ≠ [] ∧ '/' ∉ (letterPatcher ['t']).gate.backupSuffix ∧
      letterPlan ['t'] ∈
        ((letterPatcher ['t']).after letterDisk [.plan, .others overwrittenDisk]).plans ∧
      ((letterPatcher ['t']).after letterDisk
        [.plan, .others overwrittenDisk, .commit (letterPlan ['t'])]).disk.read "t.bak".toList =
          .ok (.text ['A']) := by
  have hsuffix : (letterPatcher ['t']).gate.backupSuffix ≠ [] := by decide
  have hslash : '/' ∉ (letterPatcher ['t']).gate.backupSuffix := by decide
  refine ⟨hsuffix, hslash, letterPlan_mem_plans, ?_⟩
  obtain ⟨-, -, _, _, -, -, hkeeps⟩ := backup_holds_planned (letterPatcher ['t']) hsuffix hslash
    letterDisk [.plan, .others overwrittenDisk] (letterPlan ['t'])
    ⟨(letterPlan ['t']).outcomes, .committed ['t'] "t.bak".toList⟩ ['t'] "t.bak".toList
    letterPlan_mem_plans rfl rfl
  exact (hkeeps.reads (.text ['C']) rfl).2

/-- What others write between the plan and its commit is overwritten and is in no backup. -/
theorem not_forall_backup_holds_overwritten :
    ¬ ∀ (p : Patcher) (start : Disk) (acts : List Act) (plan : Plan) (report : Report)
      (target backup : Path) (content : Content),
      p.gate.backupSuffix ≠ [] → '/' ∉ p.gate.backupSuffix →
      plan ∈ (p.after start acts).plans →
      (p.commit plan (p.after start acts).disk).1 = .ok report →
      report.commit = .committed target backup →
      (p.after start acts).disk.read target = .ok content →
      (p.after start (acts ++ [.commit plan])).disk.read backup = .ok content := by
  intro h
  have hread := h (letterPatcher ['t']) letterDisk [.plan, .others overwrittenDisk]
    (letterPlan ['t']) ⟨(letterPlan ['t']).outcomes, .committed ['t'] "t.bak".toList⟩ ['t']
    "t.bak".toList (.text ['C']) (by decide) (by decide) letterPlan_mem_plans rfl rfl rfl
  have hlost : Except.ok (.text ['A']) = (Except.ok (.text ['C']) : Except DiskError Content) :=
    hread
  simp at hlost

end AnchorPatch.Patcher
