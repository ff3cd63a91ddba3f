import AnchorPatch.Disk.Replace
import AnchorPatch.Proofs.Disk.Way

namespace AnchorPatch.Disk

variable {d : Disk} {p q : Path} {front : List Text} {name : Text} {folder l : Location}

theorem find_eq_ok_iff {e : Entry} :
    d.find p = .ok e ↔ ∃ l, d.canonicalize p = .ok l ∧ d.get? l = some e := by
  unfold find
  cases d.canonicalize p with
  | error cause => simp [bind, Except.bind]
  | ok l => cases h : d.get? l <;> simp [bind, Except.bind, pure, Except.pure, throw, throwThe,
      MonadExceptOf.throw, h]

theorem read_eq_ok_iff {content : Content} :
    d.read p = .ok content ↔
      ∃ l mode, d.canonicalize p = .ok l ∧ d.get? l = some (.file content mode) := by
  have hread : d.read p = .ok content ↔ ∃ mode, d.find p = .ok (.file content mode) := by
    unfold read
    cases d.find p with
    | error cause => simp [bind, Except.bind]
    | ok e => cases e <;> simp [bind, Except.bind, pure, Except.pure, throw, throwThe,
        MonadExceptOf.throw]
  rw [hread]
  simp only [find_eq_ok_iff]
  exact exists_comm

theorem readText_eq_ok_iff_read {s : Text} : d.readText p = .ok s ↔ d.read p = .ok (.text s) := by
  unfold readText
  cases d.read p with
  | error cause => simp [bind, Except.bind]
  | ok content => cases content <;> simp [bind, Except.bind, pure, Except.pure, throw, throwThe,
      MonadExceptOf.throw]

theorem readText_eq_ok_iff {s : Text} :
    d.readText p = .ok s ↔
      ∃ l mode, d.canonicalize p = .ok l ∧ d.get? l = some (.file (.text s) mode) := by
  rw [readText_eq_ok_iff_read, read_eq_ok_iff]

theorem directoryAt_eq_ok_iff :
    d.directoryAt p = .ok l ↔ d.canonicalize p = .ok l ∧ d.IsDirectory l := by
  unfold directoryAt
  cases d.canonicalize p with
  | error cause => simp [bind, Except.bind]
  | ok m =>
      simp only [bind, Except.bind, pure, Except.pure]
      split
      next mode hm =>
        simp only [Except.ok.injEq]
        exact ⟨fun h => ⟨h, h ▸ ⟨mode, hm⟩⟩, fun h => h.1⟩
      next hm =>
        simp only [throw, throwThe, MonadExceptOf.throw, reduceCtorEq, Except.ok.injEq, false_iff,
          not_and]
        rintro rfl ⟨mode, hmode⟩
        exact hm mode hmode

theorem directoryAt_parentPath_iff (h : p.EndsIn front name) :
    d.directoryAt (parentPath p) = .ok folder ↔
      d.IsDirectory folder ∧ ∃ k ≤ maxLinks, d.Way k (start d.current p).1 front folder := by
  rw [directoryAt_eq_ok_iff, and_comm]
  refine and_congr_right fun hfolder => ?_
  have hfront : ∀ k l, d.Way k l (Path.dropIdle front.reverse).reverse folder ↔
      d.Way k l front folder := fun k l => by
    rw [Way.dropIdle_iff hfolder, List.reverse_reverse]
  rw [canonicalize_eq_ok_iff, parentPath, h.parent?_eq]
  cases hps : Path.dropIdle front.reverse with
  | nil =>
      rw [hps] at hfront
      cases habs : p.isAbsolute with
      | false =>
          simp only [Path.ofBackwards, start, habs]
          refine and_iff_right_of_imp (fun _ => by simp) |>.trans ?_
          refine exists_congr fun k => and_congr_right fun _ => ?_
          exact (Way.append_idle_iff [] (.inr rfl) hfolder).trans (hfront k _)
      | true =>
          simp only [Path.ofBackwards, start, habs]
          refine and_iff_right_of_imp (fun _ => by simp) |>.trans ?_
          refine exists_congr fun k => and_congr_right fun _ => ?_
          exact (Way.append_idle_iff [[]] (.inl rfl) hfolder).trans
            ((Way.append_idle_iff [] (.inl rfl) hfolder).trans (hfront k _))
  | cons s ps =>
      rw [hps] at hfront
      obtain ⟨hpieces, habs⟩ := h.pieces_ofBackwards hps
      obtain ⟨hne, -⟩ := Path.ends_of_pieces hpieces (Path.head_ne_nil_of_dropIdle hps)
      generalize Path.ofBackwards p.isAbsolute (s :: ps) = body at hpieces habs hne ⊢
      obtain ⟨c, rest, rfl⟩ := List.exists_cons_of_ne_nil hne
      simp only [start, habs, hpieces]
      refine and_iff_right_of_imp (fun _ => by simp) |>.trans ?_
      exact exists_congr fun k => and_congr_right fun _ => hfront k _

/-- A path names an entry of a directory. There may be nothing at it. -/
structure EntryAt (d : Disk) (p : Path) (folder : Location) (name : Text) : Prop where
  endsIn : ∃ front, p.EndsIn front name
  directoryAt_eq : d.directoryAt (parentPath p) = .ok folder

namespace EntryAt

theorem unique {folder' : Location} {name' : Text} (h : d.EntryAt p folder name)
    (h' : d.EntryAt p folder' name') : folder = folder' ∧ name = name' := by
  obtain ⟨front, hends⟩ := h.endsIn
  obtain ⟨front', hends'⟩ := h'.endsIn
  exact ⟨Except.ok.inj (h.directoryAt_eq.symm.trans h'.directoryAt_eq), (hends.unique hends').2⟩

theorem withFileName (h : d.EntryAt p folder name) {other : Text} (hother : Path.IsName other)
    (hslash : '/' ∉ other) : d.EntryAt (p.withFileName other) folder other := by
  obtain ⟨front, hends⟩ := h.endsIn
  obtain ⟨front', hends', habs, hfront⟩ := hends.withFileName hother hslash
  refine ⟨⟨front', hends'⟩, ?_⟩
  rw [parentPath, hends.parent?_congr hends' habs hfront, ← parentPath]
  exact h.directoryAt_eq

theorem exists_way (h : d.EntryAt p folder name) (hl : d.canonicalize p = .ok l) :
    ∃ k, d.Way k folder [name] l := by
  obtain ⟨front, hends⟩ := h.endsIn
  obtain ⟨-, i, -, hfront⟩ := (directoryAt_parentPath_iff hends).mp h.directoryAt_eq
  obtain ⟨-, k, -, hway⟩ := canonicalize_eq_ok_iff.mp hl
  rw [hends.pieces_eq] at hway
  obtain ⟨i', j, x, -, hfront', hname⟩ := hway.split
  obtain ⟨rfl, rfl⟩ := hfront.unique hfront'
  exact ⟨j, hname⟩

theorem canonicalize_eq (h : d.EntryAt p folder name) (hlength : name.byteLength ≤ maxNameLength)
    {e : Entry} (he : d.get? (folder ++ [name]) = some e) (hlink : ∀ target, e ≠ .link target) :
    d.canonicalize p = .ok (folder ++ [name]) := by
  obtain ⟨front, hends⟩ := h.endsIn
  obtain ⟨hfolder, k, hk, hfront⟩ := (directoryAt_parentPath_iff hends).mp h.directoryAt_eq
  refine canonicalize_eq_ok_iff.mpr ⟨hends.ne_nil, k, hk, ?_⟩
  rw [hends.pieces_eq]
  exact hfront.append (.enter hfolder hends.isName hlength he hlink (.done _))

theorem read_file (h : d.EntryAt p folder name) (hlength : name.byteLength ≤ maxNameLength)
    {s : Text} {mode : Nat} (hfile : d.get? (folder ++ [name]) = some (.file (.text s) mode)) :
    d.readText p = .ok s ∧ d.mode? p = some mode := by
  have hl := h.canonicalize_eq hlength hfile (by simp)
  have hfind : d.find p = .ok (.file (.text s) mode) := find_eq_ok_iff.mpr ⟨_, hl, hfile⟩
  exact ⟨readText_eq_ok_iff.mpr ⟨_, mode, hl, hfile⟩, by simp [mode?, hfind]⟩

theorem not_isDirectoryLink (h : d.EntryAt p folder name) (hl : d.canonicalize p = .ok l)
    (hfile : ¬ d.IsDirectory l) : ¬ d.IsDirectoryLink (folder ++ [name]) := by
  rintro ⟨folder', name', k, m, he, -, hway, hm⟩
  obtain ⟨rfl, hname⟩ := List.append_inj' he rfl
  cases hname
  obtain ⟨k', hway'⟩ := h.exists_way hl
  exact hfile ((hway.unique hway').2 ▸ hm)

section Put

variable {x : Location} {content : Content} {mode : Nat}

theorem of_put (hx : x ≠ []) (h : (d.put x (.file content mode)).EntryAt p folder name) :
    d.EntryAt p folder name := by
  obtain ⟨front, hends⟩ := h.endsIn
  obtain ⟨hfolder, k, hk, hway⟩ := (directoryAt_parentPath_iff hends).mp h.directoryAt_eq
  refine ⟨⟨front, hends⟩, (directoryAt_parentPath_iff hends).mpr ⟨?_, k, hk, ?_⟩⟩
  · exact ((isDirectory_put_file_iff hx).mp hfolder).2
  · exact hway.of_put hx hfolder

theorem put (h : d.EntryAt p folder name) (hx : ¬ d.IsDirectory x)
    (hlink : ¬ d.IsDirectoryLink x) : (d.put x (.file content mode)).EntryAt p folder name := by
  have hroot : x ≠ [] := by
    rintro rfl
    exact hx d.isDirectory_root
  obtain ⟨front, hends⟩ := h.endsIn
  obtain ⟨hfolder, k, hk, hway⟩ := (directoryAt_parentPath_iff hends).mp h.directoryAt_eq
  refine ⟨⟨front, hends⟩, (directoryAt_parentPath_iff hends).mpr ⟨?_, k, hk, ?_⟩⟩
  · exact (isDirectory_put_file_iff hroot).mpr ⟨fun he => hx (he ▸ hfolder), hfolder⟩
  · exact hway.put hx hlink hfolder

end Put

end EntryAt

theorem entryAt_withFileName_iff (h : p.EndsIn front name) {other name' : Text}
    (hrel : Path.isAbsolute other = false) :
    d.EntryAt (p.withFileName other) folder name' ↔
      ∃ rest, Path.pieces other = rest ++ [name'] ∧ Path.IsName name' ∧ d.IsDirectory folder ∧
        ∃ k ≤ maxLinks, d.Way k (start d.current p).1 (front ++ rest) folder := by
  obtain ⟨front', hpieces, habs, hfront⟩ := h.pieces_withFileName hrel
  have hstart : (start d.current (p.withFileName other)).1 = (start d.current p).1 := by
    simp only [start, habs]
  have hways {rest : List Text} (hfolder : d.IsDirectory folder) (k : Nat) (l : Location) :
      d.Way k l (front' ++ rest) folder ↔ d.Way k l (front ++ rest) folder :=
    Way.congr_dropIdle hfront rest hfolder
  constructor
  · intro hat
    obtain ⟨f, hf⟩ := hat.endsIn
    obtain ⟨hfolder, k, hk, hway⟩ := (directoryAt_parentPath_iff hf).mp hat.directoryAt_eq
    obtain ⟨rest, last, hrest⟩ : ∃ rest last, Path.pieces other = rest ++ [last] :=
      ⟨_, _, (List.dropLast_concat_getLast (Path.pieces_ne_nil other)).symm⟩
    have hboth := hf.pieces_eq
    rw [hpieces, hrest, ← List.append_assoc] at hboth
    obtain ⟨rfl, hlast⟩ := List.append_inj' hboth rfl
    rw [List.singleton_inj] at hlast
    subst hlast
    refine ⟨rest, hrest, hf.isName, hfolder, k, hk, ?_⟩
    rw [← hways hfolder, ← hstart]
    exact hway
  · rintro ⟨rest, hrest, hname, hfolder, k, hk, hway⟩
    have hf : (p.withFileName other).EndsIn (front' ++ rest) name' :=
      ⟨by rw [hpieces, hrest, List.append_assoc], hname⟩
    refine ⟨⟨_, hf⟩, (directoryAt_parentPath_iff hf).mpr ⟨hfolder, k, hk, ?_⟩⟩
    rw [hways hfolder, hstart]
    exact hway

theorem splitLast_of_endsIn (h : p.EndsIn front name) : splitLast p = (front, name, false) := by
  have hname : name ≠ [] := h.isName.1
  simp [splitLast, h.pieces_eq, hname]

theorem pieces_of_splitLast (h : splitLast p = (front, name, false)) (hname : name ≠ []) :
    p.pieces = front ++ [name] := by
  obtain ⟨back, hback⟩ : ∃ back, p.pieces.reverse = back := ⟨_, rfl⟩
  rw [← List.reverse_reverse p.pieces, hback]
  rw [splitLast, hback] at h
  rcases back with _ | ⟨t, back⟩
  · simp only [List.dropWhile_nil, Prod.mk.injEq] at h
    exact absurd h.2.1.symm hname
  · by_cases ht : t = []
    · simp only [ht, List.head?_cons] at h
      split at h
      · simp only [Prod.mk.injEq] at h
        exact absurd h.2.1.symm hname
      · simp at h
    · rw [List.dropWhile_cons_of_neg (by simpa using ht)] at h
      simp only [Prod.mk.injEq] at h
      rw [← h.1, ← h.2.1, List.reverse_cons]

theorem renameLocation_of_splitLast {slash : Bool} (hp : p ≠ [])
    (hsplit : splitLast p = (front, name, slash)) :
    d.renameLocation p = .ok l ↔ ∃ folder,
      d.walk true maxLinks (start d.current p).1 front = .ok folder ∧ d.IsDirectory folder ∧
        Path.IsName name ∧ name.byteLength ≤ maxNameLength ∧ slash = false ∧
        ¬ d.IsDirectory (folder ++ [name]) ∧ l = folder ++ [name] := by
  unfold renameLocation
  rw [if_neg hp, hsplit]
  change (d.walk true maxLinks (start d.current p).1 front >>= _) = _ ↔ _
  cases d.walk true maxLinks (start d.current p).1 front with
  | error cause => simp [bind, Except.bind]
  | ok folder =>
      simp only [bind, Except.bind, pure, Except.pure, Except.ok.injEq, exists_eq_left']
      split
      next mode hmode =>
        have hfolder : d.IsDirectory folder := ⟨mode, hmode⟩
        by_cases hname : Path.IsName name
        · rw [if_neg (by simp [hname.1, hname.2.1, hname.2.2])]
          by_cases hlength : name.byteLength ≤ maxNameLength
          · rw [if_neg (Nat.not_lt_of_le hlength)]
            cases slash with
            | true => simp [throw, throwThe, MonadExceptOf.throw]
            | false =>
                simp only [Bool.false_eq_true, if_false]
                split
                next mode hmode =>
                  have hentry : d.IsDirectory (folder ++ [name]) := ⟨mode, hmode⟩
                  simp [throw, throwThe, MonadExceptOf.throw, hentry]
                next hnot =>
                  have hentry : ¬ d.IsDirectory (folder ++ [name]) := by
                    rintro ⟨mode, hmode⟩
                    exact hnot mode hmode
                  simp [hfolder, hname, hlength, hentry, eq_comm]
          · rw [if_pos (Nat.lt_of_not_le hlength)]
            simp [throw, throwThe, MonadExceptOf.throw, hlength]
        · have hcond : (name = [] || name = ['.'] || name = ['.', '.']) = true := by
            simpa [Path.IsName, or_assoc, Classical.or_iff_not_imp_left] using hname
          rw [if_pos hcond]
          simp [throw, throwThe, MonadExceptOf.throw, hname]
      next hnot =>
        have hfolder : ¬ d.IsDirectory folder := by
          rintro ⟨mode, hmode⟩
          exact hnot mode hmode
        simp [throw, throwThe, MonadExceptOf.throw, hfolder]

/-- A path names an entry at which a file may be put. -/
structure Free (d : Disk) (p : Path) (folder : Location) (name : Text) : Prop where
  entryAt : d.EntryAt p folder name
  length_le : name.byteLength ≤ maxNameLength
  not_isDirectory : ¬ d.IsDirectory (folder ++ [name])

theorem renameLocation_eq_ok_iff :
    d.renameLocation p = .ok l ↔ ∃ folder name, d.Free p folder name ∧ l = folder ++ [name] := by
  constructor
  · intro h
    have hp : p ≠ [] := by
      rintro rfl
      cases h
    obtain ⟨front, name, slash, hsplit⟩ : ∃ front name slash, splitLast p = (front, name, slash) :=
      ⟨_, _, _, rfl⟩
    obtain ⟨folder, hwalk, hfolder, hname, hlength, rfl, hentry, hl⟩ :=
      (renameLocation_of_splitLast hp hsplit).mp h
    have hends : p.EndsIn front name := ⟨pieces_of_splitLast hsplit hname.1, hname⟩
    refine ⟨folder, name, ⟨⟨⟨front, hends⟩, ?_⟩, hlength, hentry⟩, hl⟩
    exact (directoryAt_parentPath_iff hends).mpr ⟨hfolder, walk_eq_ok_iff.mp hwalk⟩
  · rintro ⟨folder, name, ⟨hat, hlength, hentry⟩, hl⟩
    obtain ⟨front, hends⟩ := hat.endsIn
    obtain ⟨hfolder, hway⟩ := (directoryAt_parentPath_iff hends).mp hat.directoryAt_eq
    exact (renameLocation_of_splitLast hends.ne_nil (splitLast_of_endsIn hends)).mpr
      ⟨folder, walk_eq_ok_iff.mpr hway, hfolder, hends.isName, hlength, rfl, hentry, hl⟩

/-- A file is replaced at the entry that its path names, and nowhere else. -/
theorem replaceFile_eq_ok_iff {content : Text} {mode : Option Nat} {d' : Disk} :
    d.replaceFile p content mode = .ok d' ↔
      ∃ folder name, d.Free p folder name ∧
        d' = d.put (folder ++ [name]) (.file (.text content) (mode.getD privateMode)) := by
  unfold replaceFile
  constructor
  · intro h
    cases hdir : d.directoryAt (parentPath p) with
    | error cause => simp [hdir, bind, Except.bind] at h
    | ok m =>
        cases hl : d.renameLocation p with
        | error cause => simp [hdir, hl, bind, Except.bind] at h
        | ok l =>
            obtain ⟨folder, name, hfree, rfl⟩ := renameLocation_eq_ok_iff.mp hl
            refine ⟨folder, name, hfree, ?_⟩
            simpa [hdir, hl, bind, Except.bind, pure, Except.pure, eq_comm] using h
  · rintro ⟨folder, name, hfree, rfl⟩
    have hl := renameLocation_eq_ok_iff.mpr ⟨folder, name, hfree, rfl⟩
    simp [hfree.entryAt.directoryAt_eq, hl, bind, Except.bind, pure, Except.pure]

theorem renameLocation_of_replaceFile_error {content : Text} {mode : Option Nat} {cause : DiskError}
    (h : d.replaceFile p content mode = .error cause) :
    ∃ cause', d.renameLocation p = .error cause' := by
  cases hl : d.renameLocation p with
  | error cause' => exact ⟨cause', rfl⟩
  | ok l =>
      obtain ⟨folder, name, hfree, rfl⟩ := renameLocation_eq_ok_iff.mp hl
      have hput := (@replaceFile_eq_ok_iff d p content mode _).mpr ⟨folder, name, hfree, rfl⟩
      rw [h] at hput
      cases hput

end AnchorPatch.Disk
