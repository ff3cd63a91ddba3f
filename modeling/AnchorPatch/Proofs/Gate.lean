import AnchorPatch.Gate
import AnchorPatch.Proofs.Disk.Entry

namespace AnchorPatch.Gate

open Disk (privateMode)

variable {g : Gate} {doc : Document} {patched : Text} {d : Disk}

theorem hasChanges_iff : hasChanges doc patched = true ↔ patched ≠ doc.content :=
  decide_eq_true_iff.trans ne_comm

theorem hasChanges_eq_false_iff : hasChanges doc patched = false ↔ patched = doc.content := by
  rw [← Bool.not_eq_true, hasChanges_iff, Classical.not_not]

/-- The mode of the files that are written over a document. -/
def modeFor (d : Disk) (doc : Document) : Nat := (d.mode? doc.path).getD privateMode

/-- The disk with the text of a document saved at an entry. -/
def saved (doc : Document) (d : Disk) (l : Location) : Disk :=
  d.put l (.file (.text doc.content) (modeFor d doc))

def written (doc : Document) (patched : Text) (d : Disk) (backup target : Location) : Disk :=
  (saved doc d backup).put target (.file (.text patched) (modeFor d doc))

/-- The entries that a commit creates or replaces, in this order. -/
def writes (g : Gate) (doc : Document) (patched : Text) (d : Disk) : List Location :=
  if hasChanges doc patched then
    match d.renameLocation (g.backupPath doc.path) with
    | .error _ => []
    | .ok backup =>
        match (saved doc d backup).renameLocation doc.path with
        | .error _ => [backup]
        | .ok target => [backup, target]
  else []

/-- The ways in which a commit can end, with the entries that it has written. -/
inductive Step (g : Gate) (doc : Document) (patched : Text) (d : Disk) :
    List Location → Except CommitError CommitOutcome × Disk → Prop
  | unchanged (h : patched = doc.content) : Step g doc patched d [] (.ok (.noChanges doc.path), d)
  | unsaved (h : patched ≠ doc.content) (cause : DiskError) :
      Step g doc patched d [] (.error (.backup (g.backupPath doc.path) cause), d)
  | unwritten (h : patched ≠ doc.content) (cause : DiskError) {folder : Location} {name : Text}
      (hbackup : d.Free (g.backupPath doc.path) folder name) :
      Step g doc patched d [folder ++ [name]]
        (.error (.write doc.path cause), saved doc d (folder ++ [name]))
  | committed (h : patched ≠ doc.content) {folder folder' : Location} {name name' : Text}
      (hbackup : d.Free (g.backupPath doc.path) folder' name')
      (htarget : (saved doc d (folder' ++ [name'])).Free doc.path folder name) :
      Step g doc patched d [folder' ++ [name'], folder ++ [name]]
        (.ok (.committed doc.path (g.backupPath doc.path)),
          written doc patched d (folder' ++ [name']) (folder ++ [name]))

theorem step_commit (g : Gate) (doc : Document) (patched : Text) (d : Disk) :
    g.Step doc patched d (g.writes doc patched d) (g.commit doc patched d) := by
  unfold commit writes
  cases hchanged : hasChanges doc patched with
  | false => exact .unchanged (hasChanges_eq_false_iff.mp hchanged)
  | true =>
      have h : patched ≠ doc.content := hasChanges_iff.mp hchanged
      simp only [if_true]
      cases hsave : d.replaceFile (g.backupPath doc.path) doc.content (d.mode? doc.path) with
      | error cause =>
          obtain ⟨cause', hbackup⟩ := Disk.renameLocation_of_replaceFile_error hsave
          rw [hbackup]
          exact .unsaved h cause
      | ok d₁ =>
          obtain ⟨folder', name', hbackup, rfl⟩ := Disk.replaceFile_eq_ok_iff.mp hsave
          rw [Disk.renameLocation_eq_ok_iff.mpr ⟨folder', name', hbackup, rfl⟩]
          rw [← modeFor, ← saved]
          dsimp only
          cases hwrite : (saved doc d (folder' ++ [name'])).replaceFile doc.path patched
              (d.mode? doc.path) with
          | error cause =>
              obtain ⟨cause', htarget⟩ := Disk.renameLocation_of_replaceFile_error hwrite
              rw [htarget]
              exact .unwritten h cause hbackup
          | ok d₂ =>
              obtain ⟨folder, name, htarget, rfl⟩ := Disk.replaceFile_eq_ok_iff.mp hwrite
              rw [Disk.renameLocation_eq_ok_iff.mpr ⟨folder, name, htarget, rfl⟩]
              exact .committed h hbackup htarget

theorem writes_cases (g : Gate) (doc : Document) (patched : Text) (d : Disk) :
    g.writes doc patched d = [] ∨
      patched ≠ doc.content ∧ ∃ b, d.renameLocation (g.backupPath doc.path) = .ok b ∧
        ((∀ t, (saved doc d b).renameLocation doc.path ≠ .ok t) ∧
            g.writes doc patched d = [b] ∨
          ∃ t, (saved doc d b).renameLocation doc.path = .ok t ∧
            g.writes doc patched d = [b, t]) := by
  unfold writes
  split
  next hchanged =>
    cases hb : d.renameLocation (g.backupPath doc.path) with
    | error cause => exact .inl rfl
    | ok b =>
        refine .inr ⟨hasChanges_iff.mp hchanged, b, rfl, ?_⟩
        simp only
        cases ht : (saved doc d b).renameLocation doc.path with
        | error cause => exact .inl ⟨fun t h => (by cases h), rfl⟩
        | ok t => exact .inr ⟨t, rfl, rfl⟩
  · exact .inl rfl

/-- The disk that a commit leaves, by the entries that it has written. -/
def diskAfter (doc : Document) (patched : Text) (d : Disk) : List Location → Disk
  | [] => d
  | [backup] => saved doc d backup
  | backup :: target :: _ => written doc patched d backup target

theorem Step.eq_diskAfter {ls : List Location} {result : Except CommitError CommitOutcome}
    {d' : Disk} (h : g.Step doc patched d ls (result, d')) : d' = diskAfter doc patched d ls := by
  cases h <;> rfl

theorem diskAfter_congr {doc' : Document} (hcontent : doc.content = doc'.content)
    (hmode : modeFor d doc = modeFor d doc') (ls : List Location) :
    diskAfter doc patched d ls = diskAfter doc' patched d ls := by
  rcases ls with _ | ⟨backup, _ | ⟨target, ls⟩⟩
  · rfl
  · simp only [diskAfter, saved, hcontent, hmode]
  · simp only [diskAfter, written, saved, hcontent, hmode]

theorem renameLocation_congr {p q : Path} {d : Disk}
    (h : ∀ l, d.renameLocation p = .ok l ↔ d.renameLocation q = .ok l) {α : Type} (x : α)
    (f : Location → α) :
    (match d.renameLocation p with
      | .error _ => x
      | .ok l => f l) =
    match d.renameLocation q with
      | .error _ => x
      | .ok l => f l := by
  cases hp : d.renameLocation p with
  | ok l => rw [(h l).mp hp]
  | error cause =>
      cases hq : d.renameLocation q with
      | ok l =>
          rw [(h l).mpr hq] at hp
          cases hp
      | error cause' => rfl

theorem writes_congr {doc' : Document} (hcontent : doc.content = doc'.content)
    (hmode : modeFor d doc = modeFor d doc')
    (hbackup : ∀ l, d.renameLocation (g.backupPath doc.path) = .ok l ↔
      d.renameLocation (g.backupPath doc'.path) = .ok l)
    (htarget : ∀ b, d.renameLocation (g.backupPath doc.path) = .ok b → ∀ l,
      (saved doc d b).renameLocation doc.path = .ok l ↔
        (saved doc d b).renameLocation doc'.path = .ok l) :
    g.writes doc patched d = g.writes doc' patched d := by
  unfold writes hasChanges
  rw [hcontent]
  split
  · cases hb : d.renameLocation (g.backupPath doc.path) with
    | error cause =>
        cases hb' : d.renameLocation (g.backupPath doc'.path) with
        | error cause' => rfl
        | ok b =>
            rw [(hbackup b).mpr hb'] at hb
            cases hb
    | ok b =>
        rw [(hbackup b).mp hb]
        have hsaved : saved doc' d b = saved doc d b := by
          simp only [saved, hcontent, hmode]
        simp only [hsaved]
        exact renameLocation_congr (htarget b hb) _ _
  · rfl

variable {folder : Location} {name : Text}

theorem backupPath_eq {p : Path} {front : List Text} (h : p.EndsIn front name) :
    g.backupPath p = p.withFileName (name ++ g.backupSuffix) := by
  rw [backupPath, h.fileName?_eq]
  rfl

theorem entryAt_backupPath {p : Path} (h : d.EntryAt p folder name)
    (hslash : '/' ∉ g.backupSuffix) :
    d.EntryAt (g.backupPath p) folder (name ++ g.backupSuffix) := by
  obtain ⟨front, hends⟩ := h.endsIn
  rw [backupPath_eq hends]
  refine h.withFileName (hends.isName.append _) ?_
  simp [hends.slash_notMem, hslash]

theorem append_backupSuffix_ne (hsuffix : g.backupSuffix ≠ []) (folder : Location) (name : Text) :
    folder ++ [name ++ g.backupSuffix] ≠ folder ++ [name] := by
  intro h
  have hname : name ++ g.backupSuffix = name := by simpa using h
  exact hsuffix (List.append_right_eq_self.mp hname)

/-- The old text of a document stands in the backup, and nothing else has changed. -/
structure Saves (g : Gate) (doc : Document) (d d' : Disk) (folder : Location) (name : Text) :
    Prop where
  backup : d.Free (g.backupPath doc.path) folder name
  get?_backup : d'.get? (folder ++ [name]) = some (.file (.text doc.content) (modeFor d doc))
  get?_other : ∀ l, l ≠ folder ++ [name] → d'.get? l = d.get? l
  current_eq : d'.current = d.current

theorem saves_saved (hbackup : d.Free (g.backupPath doc.path) folder name) :
    g.Saves doc d (saved doc d (folder ++ [name])) folder name := by
  refine ⟨hbackup, ?_, ?_, rfl⟩
  · exact Disk.get?_put_self _ _ _ (by simp)
  · intro l hl
    exact Disk.get?_put_of_ne _ _ hl

/-- Both files have been written, each at the entry that its path named when it was written. -/
structure Lands (g : Gate) (doc : Document) (patched : Text) (d d' : Disk) (folder' : Location)
    (name' : Text) (folder : Location) (name : Text) : Prop where
  backup : d.Free (g.backupPath doc.path) folder' name'
  target : (saved doc d (folder' ++ [name'])).Free doc.path folder name
  disk_eq : d' = written doc patched d (folder' ++ [name']) (folder ++ [name])

namespace Lands

variable {d' : Disk} {folder' : Location} {name' : Text}

/-- The path of the document named its entry already before the backup was saved. -/
theorem entryAt_target (h : g.Lands doc patched d d' folder' name' folder name) :
    d.EntryAt doc.path folder name := h.target.entryAt.of_put (by simp)

theorem not_isDirectory (h : g.Lands doc patched d d' folder' name' folder name)
    (hne : folder ++ [name] ≠ folder' ++ [name']) : ¬ d.IsDirectory (folder ++ [name]) := by
  intro hdir
  exact h.target.not_isDirectory ((Disk.isDirectory_put_file_iff (by simp)).mpr ⟨hne, hdir⟩)

theorem get?_target (h : g.Lands doc patched d d' folder' name' folder name) :
    d'.get? (folder ++ [name]) = some (.file (.text patched) (modeFor d doc)) := by
  rw [h.disk_eq]
  exact Disk.get?_put_self _ _ _ (by simp)

theorem get?_backup (h : g.Lands doc patched d d' folder' name' folder name)
    (hne : folder' ++ [name'] ≠ folder ++ [name]) :
    d'.get? (folder' ++ [name']) = some (.file (.text doc.content) (modeFor d doc)) := by
  rw [h.disk_eq, written, Disk.get?_put_of_ne _ _ hne]
  exact Disk.get?_put_self _ _ _ (by simp)

theorem get?_other (h : g.Lands doc patched d d' folder' name' folder name) (l : Location)
    (htarget : l ≠ folder ++ [name]) (hbackup : l ≠ folder' ++ [name']) :
    d'.get? l = d.get? l := by
  rw [h.disk_eq, written, Disk.get?_put_of_ne _ _ htarget, saved, Disk.get?_put_of_ne _ _ hbackup]

theorem current_eq (h : g.Lands doc patched d d' folder' name' folder name) :
    d'.current = d.current := by
  rw [h.disk_eq]
  rfl

theorem entryAt_after (h : g.Lands doc patched d d' folder' name' folder name)
    (hlink : ¬ d.IsDirectoryLink (folder ++ [name])) : d'.EntryAt doc.path folder name := by
  rw [h.disk_eq]
  exact h.target.entryAt.put h.target.not_isDirectory fun hafter => hlink (hafter.of_put (by simp))

theorem canonicalize_eq (h : g.Lands doc patched d d' folder' name' folder name) {l : Location}
    (hl : d.canonicalize doc.path = .ok l) (hfile : ¬ d.IsDirectory l) :
    d'.EntryAt doc.path folder name ∧ d'.canonicalize doc.path = .ok (folder ++ [name]) := by
  have hat := h.entryAt_after (h.entryAt_target.not_isDirectoryLink hl hfile)
  exact ⟨hat, hat.canonicalize_eq h.target.length_le h.get?_target (by simp)⟩

end Lands

/-- The old text of a document stands in the backup and the new one in the document. Both are
entries of the directory in which the path of the document named its entry before, and nothing
else has changed. -/
structure Replaces (g : Gate) (doc : Document) (patched : Text) (d d' : Disk) (folder : Location)
    (name : Text) : Prop where
  target : d.Free doc.path folder name
  backup : d.Free (g.backupPath doc.path) folder (name ++ g.backupSuffix)
  get?_target : d'.get? (folder ++ [name]) = some (.file (.text patched) (modeFor d doc))
  get?_backup : d'.get? (folder ++ [name ++ g.backupSuffix]) =
    some (.file (.text doc.content) (modeFor d doc))
  get?_other : ∀ l, l ≠ folder ++ [name] → l ≠ folder ++ [name ++ g.backupSuffix] →
    d'.get? l = d.get? l
  current_eq : d'.current = d.current
  /-- The path of the document names the same entry as before, unless it runs through that very
  entry. -/
  entryAt_target : ¬ d.IsDirectoryLink (folder ++ [name]) → d'.EntryAt doc.path folder name

/-- Both files are beside each other, also where the document was looked for after the backup was
saved. -/
theorem Lands.beside {d' : Disk} {folder' : Location} {name' : Text} (hslash : '/' ∉ g.backupSuffix)
    (h : g.Lands doc patched d d' folder' name' folder name) :
    folder' = folder ∧ name' = name ++ g.backupSuffix :=
  h.backup.entryAt.unique (entryAt_backupPath h.entryAt_target hslash)

theorem Lands.replaces {d' : Disk} {folder' : Location} {name' : Text} (hsuffix : g.backupSuffix ≠ [])
    (hslash : '/' ∉ g.backupSuffix) (h : g.Lands doc patched d d' folder' name' folder name) :
    g.Replaces doc patched d d' folder name := by
  obtain ⟨rfl, rfl⟩ := h.beside hslash
  have hne := append_backupSuffix_ne hsuffix folder' name
  exact ⟨⟨h.entryAt_target, h.target.length_le, h.not_isDirectory hne.symm⟩, h.backup,
    h.get?_target, h.get?_backup hne, h.get?_other, h.current_eq, h.entryAt_after⟩

namespace Replaces

variable {d' : Disk}

theorem readText (h : g.Replaces doc patched d d' folder name) (hslash : '/' ∉ g.backupSuffix)
    (hat : d'.EntryAt doc.path folder name) :
    (d'.readText doc.path = .ok patched ∧ d'.mode? doc.path = some (modeFor d doc)) ∧
      d'.readText (g.backupPath doc.path) = .ok doc.content ∧
      d'.mode? (g.backupPath doc.path) = some (modeFor d doc) :=
  ⟨hat.read_file h.target.length_le h.get?_target,
    (entryAt_backupPath hat hslash).read_file h.backup.length_le h.get?_backup⟩

end Replaces

end AnchorPatch.Gate
