import AnchorPatch.Proofs.Patcher.Commit

namespace AnchorPatch.Gate

variable {g : Gate} {doc : Document} {patched : Text} {d d' : Disk} {folder folder' : Location}
  {name name' : Text}

theorem entryAt_of_backupPath {p : Path} {front : List Text} (hends : p.EndsIn front name)
    (hslash : '/' ∉ g.backupSuffix) (h : d.EntryAt (g.backupPath p) folder name') :
    d.EntryAt p folder name := by
  have hnone : '/' ∉ name ++ g.backupSuffix := by simp [hends.slash_notMem, hslash]
  rw [backupPath_eq hends] at h
  obtain ⟨rest, hrest, -, hfolder, k, hk, hway⟩ :=
    (Disk.entryAt_withFileName_iff hends (Path.isAbsolute_of_slash_notMem hnone)).mp h
  rw [Path.pieces_eq_singleton hnone] at hrest
  obtain ⟨rfl, -⟩ := List.append_eq_singleton_iff.mp hrest.symm |>.resolve_right (by simp)
  rw [List.append_nil] at hway
  exact ⟨⟨front, hends⟩, (Disk.directoryAt_parentPath_iff hends).mpr ⟨hfolder, k, hk, hway⟩⟩

theorem Lands.entryAt_before (h : g.Lands doc patched d d' folder' name' folder name) {p : Path}
    {l : Location} {s : Text} (hat : d'.EntryAt p l s) : d.EntryAt p l s := by
  rw [h.disk_eq] at hat
  exact (hat.of_put (by simp)).of_put (by simp)

theorem replaceFile_self {p : Path} {content : Text} {mode : Nat} (hat : d.EntryAt p folder name)
    (hlength : name.byteLength ≤ Disk.maxNameLength)
    (hfile : d.get? (folder ++ [name]) = some (.file (.text content) mode)) :
    d.replaceFile p content (some mode) = .ok d := by
  refine Disk.replaceFile_eq_ok_iff.mpr
    ⟨folder, name, ⟨hat, hlength, Disk.not_isDirectory_of_file hfile⟩, ?_⟩
  exact (Disk.put_of_get? (by simp) hfile).symm

namespace Replaces

theorem commit_again (h : g.Replaces doc patched d d' folder name) (hslash : '/' ∉ g.backupSuffix)
    (hne : patched ≠ doc.content) (hat : d'.EntryAt doc.path folder name) :
    g.commit doc patched d' = (.ok (.committed doc.path (g.backupPath doc.path)), d') := by
  obtain ⟨⟨-, hmode⟩, -⟩ := h.readText hslash hat
  have hbackup := replaceFile_self (entryAt_backupPath hat hslash) h.backup.length_le h.get?_backup
  have htarget := replaceFile_self hat h.target.length_le h.get?_target
  simp only [commit, hasChanges_iff.mpr hne, if_true, hmode, hbackup, htarget]

end Replaces

/-- Where the path of the document names no entry any more, a second commit cannot save the text
of the document, and changes nothing. -/
theorem Lands.commit_refused (h : g.Lands doc patched d d' folder' name' folder name)
    (hslash : '/' ∉ g.backupSuffix) (hne : patched ≠ doc.content)
    (hat : ¬ d'.EntryAt doc.path folder name) :
    ∃ cause, g.commit doc patched d' = (.error (.backup (g.backupPath doc.path) cause), d') := by
  obtain ⟨front, hends⟩ := h.entryAt_target.endsIn
  cases hsave : d'.replaceFile (g.backupPath doc.path) doc.content (d'.mode? doc.path) with
  | error cause =>
      refine ⟨cause, ?_⟩
      simp only [commit, hasChanges_iff.mpr hne, if_true, hsave]
  | ok saved =>
      obtain ⟨l, s, hfree, -⟩ := Disk.replaceFile_eq_ok_iff.mp hsave
      have hafter := entryAt_of_backupPath hends hslash hfree.entryAt
      obtain ⟨rfl, -⟩ := h.entryAt_target.unique (h.entryAt_before hafter)
      exact absurd hafter hat

/-- What a commit that has written both files leaves to a second one. -/
structure Repeats (g : Gate) (doc : Document) (patched : Text) (d d' : Disk) (folder : Location)
    (name : Text) : Prop where
  replaces : g.Replaces doc patched d d' folder name
  again_iff : g.commit doc patched d' =
      (.ok (.committed doc.path (g.backupPath doc.path)), d') ↔ d'.EntryAt doc.path folder name
  refused : ¬ d'.EntryAt doc.path folder name → d.IsDirectoryLink (folder ++ [name]) ∧
    ∃ cause, g.commit doc patched d' = (.error (.backup (g.backupPath doc.path) cause), d')
  reads : d'.EntryAt doc.path folder name →
    d'.readText doc.path = .ok patched ∧ d'.readText (g.backupPath doc.path) = .ok doc.content

theorem Lands.repeats (h : g.Lands doc patched d d' folder' name' folder name)
    (hsuffix : g.backupSuffix ≠ []) (hslash : '/' ∉ g.backupSuffix)
    (hne : patched ≠ doc.content) : g.Repeats doc patched d d' folder name := by
  have hreplaces := h.replaces hsuffix hslash
  refine ⟨hreplaces, ⟨fun hagain => ?_, hreplaces.commit_again hslash hne⟩, fun hat => ⟨?_, ?_⟩,
    fun hat => ?_⟩
  · refine Classical.byContradiction fun hat => ?_
    obtain ⟨cause, hrefused⟩ := h.commit_refused hslash hne hat
    rw [hrefused] at hagain
    cases hagain
  · refine Classical.byContradiction fun hlink => ?_
    exact hat (hreplaces.entryAt_target hlink)
  · exact h.commit_refused hslash hne hat
  · obtain ⟨⟨htext, -⟩, hbackup, -⟩ := hreplaces.readText hslash hat
    exact ⟨htext, hbackup⟩

/-- A second commit of the same texts succeeds with the same outcome, and leaves the whole disk as
it is, exactly if the path of the document still names the entry that was replaced; otherwise it is
refused and leaves the disk as it is, too. -/
theorem commit_twice_iff (g : Gate) (hsuffix : g.backupSuffix ≠ []) (hslash : '/' ∉ g.backupSuffix)
    (doc : Document) (patched : Text) (d d' : Disk) (outcome : CommitOutcome)
    (h : g.commit doc patched d = (.ok outcome, d')) :
    patched = doc.content ∧ outcome = .noChanges doc.path ∧ d' = d ∧
        g.commit doc patched d' = (.ok outcome, d') ∨
      patched ≠ doc.content ∧ outcome = .committed doc.path (g.backupPath doc.path) ∧
        ∃ folder name, g.Repeats doc patched d d' folder name := by
  have hstep := g.step_commit doc patched d
  rw [h] at hstep
  generalize g.writes doc patched d = ls at hstep
  cases hstep with
  | unchanged heq => exact .inl ⟨heq, rfl, rfl, h⟩
  | committed hne hbackup htarget =>
      have hlands : g.Lands doc patched d _ _ _ _ _ := ⟨hbackup, htarget, rfl⟩
      exact .inr ⟨hne, rfl, _, _, hlands.repeats hsuffix hslash hne⟩

def suffixGate : Gate := ⟨".bak".toList⟩

/-- A link is turned into a file by the first commit, and the second one finds the file. -/
theorem commit_twice_iff_link :
    suffixGate.backupSuffix ≠ [] ∧ '/' ∉ suffixGate.backupSuffix ∧
      ∃ d', suffixGate.commit ⟨['x'], ['A']⟩ ['B'] (Patcher.linkDisk "o/x".toList) =
          (.ok (.committed ['x'] "x.bak".toList), d') ∧
        suffixGate.commit ⟨['x'], ['A']⟩ ['B'] d' =
          (.ok (.committed ['x'] "x.bak".toList), d') ∧
        d'.readText ['x'] = .ok ['B'] ∧ d'.readText "x.bak".toList = .ok ['A'] := by
  have hsuffix : suffixGate.backupSuffix ≠ [] := by decide
  have hslash : '/' ∉ suffixGate.backupSuffix := by decide
  have hfirst : suffixGate.commit ⟨['x'], ['A']⟩ ['B'] (Patcher.linkDisk "o/x".toList) =
      (.ok (.committed ['x'] "x.bak".toList),
        (suffixGate.commit ⟨['x'], ['A']⟩ ['B'] (Patcher.linkDisk "o/x".toList)).2) := rfl
  refine ⟨hsuffix, hslash, _, hfirst, ?_⟩
  obtain ⟨hsame, -⟩ | ⟨-, -, folder, name, hrepeats⟩ :=
    commit_twice_iff suffixGate hsuffix hslash _ _ _ _ _ hfirst
  · cases hsame
  · have hends : Path.EndsIn ['x'] [] ['x'] := ⟨rfl, by decide, by decide, by decide⟩
    have hbefore : (Patcher.linkDisk "o/x".toList).EntryAt ['x'] ["w".toList] ['x'] :=
      ⟨⟨[], hends⟩, rfl⟩
    obtain ⟨rfl, rfl⟩ := hrepeats.replaces.target.entryAt.unique hbefore
    have hafter := hrepeats.again_iff.mpr ⟨⟨[], hends⟩, rfl⟩
    exact ⟨hafter, hrepeats.reads (hrepeats.again_iff.mp hafter)⟩

/-- A path that runs through the link that it names leads nowhere any more when the first commit
has turned the link into a file. -/
theorem not_forall_commit_twice :
    ¬ ∀ (g : Gate) (doc : Document) (patched : Text) (d d' : Disk) (outcome : CommitOutcome),
      g.backupSuffix ≠ [] → '/' ∉ g.backupSuffix → g.commit doc patched d = (.ok outcome, d') →
      g.commit doc patched d' = (.ok outcome, d') := by
  intro h
  have hagain := h suffixGate ⟨"x/../x".toList, ['A']⟩ ['B'] (Patcher.linkDisk ['d']) _ _
    (by decide) (by decide) rfl
  have hresult := congrArg Prod.fst hagain
  cases hresult

end AnchorPatch.Gate
