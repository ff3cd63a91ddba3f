import AnchorPatch.Proofs.Disk.Tree

/-!
Paths below a directory.

A path lies below a directory if its front leads there and the rest is another path. Main
statements: such paths lead to the same places and name the same entries, whatever their fronts
are, provided that the fronts cross equally many links; and a front that crosses no link is not
changed by the files that are put on the disk.
-/

namespace AnchorPatch.Disk

open AnchorPatch.Path (IsName IsIdle)

variable {d : Disk} {n k i : Nat} {l m folder : Location} {p q r t : Path} {name : Text}

/-- The front of `p` leads to a directory across `n` links, and the rest of `p` is `t`. -/
def Below (d : Disk) (n : Nat) (l : Location) (t p : Path) : Prop :=
  d.IsDirectory l ∧ ∃ front, p.pieces = front ++ t.pieces ∧ d.Way n (start d.current p).1 front l

theorem below_join (hl : d.IsDirectory l) (hr : r ≠ []) (ht : t.isAbsolute = false)
    (hway : d.Way n (start d.current r).1 r.pieces l) : d.Below n l t (r.join t) := by
  obtain ⟨front, hpieces, habs, hfront⟩ := Path.pieces_join hr ht
  refine ⟨hl, front, hpieces, ?_⟩
  have hstart : (start d.current (r.join t)).1 = (start d.current r).1 := by
    simp only [start, habs]
  rw [hstart]
  rcases hfront with hfront | hfront
  · rw [← hfront]
    exact hway
  · rw [hfront] at hway
    exact (Way.append_idle_iff front (.inl rfl) hl).mp hway

theorem below_self (hl : d.IsDirectory d.current) (ht : t.isAbsolute = false) :
    d.Below 0 d.current t t := by
  refine ⟨hl, [], rfl, ?_⟩
  simp only [start, ht]
  exact .done _

theorem IsTree.below_toPath_join (h : d.IsTree) (hl : d.IsDirectory l) (ht : t.isAbsolute = false) :
    d.Below 0 l t (l.toPath.join t) := by
  refine below_join hl l.toPath_ne_nil ht ?_
  rw [start, if_pos l.isAbsolute_toPath]
  exact h.way_toPath hl.isPlace

namespace Below

theorem exists_front (h : d.Below n l t p) :
    ∃ front, p.pieces = front ++ t.pieces ∧
      ∀ k qs m, d.Way k (start d.current p).1 (front ++ qs) m ↔
        ∃ j, k = n + j ∧ d.Way j l qs m := by
  obtain ⟨-, front, hpieces, hfront⟩ := h
  refine ⟨front, hpieces, fun k qs m => ⟨?_, ?_⟩⟩
  · intro hway
    obtain ⟨i, j, x, rfl, hi, hj⟩ := hway.split
    obtain ⟨rfl, rfl⟩ := hfront.unique hi
    exact ⟨j, rfl, hj⟩
  · rintro ⟨j, rfl, hj⟩
    exact hfront.append hj

theorem canonicalize_eq_ok_iff (h : d.Below n l t p) (hp : p ≠ []) :
    d.canonicalize p = .ok m ↔ ∃ j, n + j ≤ maxLinks ∧ d.Way j l t.pieces m := by
  obtain ⟨front, hpieces, hway⟩ := h.exists_front
  rw [Disk.canonicalize_eq_ok_iff, and_iff_right hp, hpieces]
  constructor
  · rintro ⟨k, hk, hm⟩
    obtain ⟨j, rfl, hj⟩ := (hway k _ m).mp hm
    exact ⟨j, hk, hj⟩
  · rintro ⟨j, hj, hm⟩
    exact ⟨n + j, hj, (hway _ _ m).mpr ⟨j, rfl, hm⟩⟩

theorem canonicalize_eq_ok_iff_of_not_isDirectory (h : d.Below n l t p) (hm : ¬ d.IsDirectory m) :
    d.canonicalize p = .ok m ↔ ∃ j, n + j ≤ maxLinks ∧ d.Way j l t.pieces m := by
  by_cases hp : p = []
  · obtain ⟨front, hpieces, -⟩ := h.exists_front
    subst hp
    obtain ⟨s, ps, hcons⟩ := List.exists_cons_of_ne_nil (Path.pieces_ne_nil t)
    have hempty : t.pieces = [[]] := by
      rw [hcons, Path.pieces_nil] at hpieces
      cases front with
      | nil => rw [hcons, hpieces, List.nil_append]
      | cons => simp at hpieces
    refine ⟨fun h => (by cases h), ?_⟩
    rintro ⟨j, -, hway⟩
    rw [hempty] at hway
    obtain ⟨-, rfl⟩ := hway.unique (.idle h.1 (.inl rfl) (.done l))
    exact absurd h.1 hm
  · exact h.canonicalize_eq_ok_iff hp

theorem endsIn (h : d.Below n l t p) {front : List Text} (ht : t.EndsIn front name) :
    ∃ front', p.EndsIn front' name ∧
      ∀ k qs m, d.Way k (start d.current p).1 (front' ++ qs) m ↔
        ∃ j, k = n + j ∧ d.Way j l (front ++ qs) m := by
  obtain ⟨front', hpieces, hway⟩ := h.exists_front
  refine ⟨front' ++ front, ⟨?_, ht.isName⟩, ?_⟩
  · rw [hpieces, ht.pieces_eq, List.append_assoc]
  · intro k qs m
    rw [List.append_assoc]
    exact hway k (front ++ qs) m

theorem entryAt_iff (h : d.Below n l t p) {front : List Text} (ht : t.EndsIn front name)
    {name' : Text} :
    d.EntryAt p folder name' ↔
      name' = name ∧ d.IsDirectory folder ∧ ∃ j, n + j ≤ maxLinks ∧ d.Way j l front folder := by
  obtain ⟨front', hends, hway⟩ := h.endsIn ht
  have hway' (k : Nat) : d.Way k (start d.current p).1 front' folder ↔
      ∃ j, k = n + j ∧ d.Way j l front folder := by
    simpa using hway k [] folder
  constructor
  · intro hat
    obtain ⟨f, hf⟩ := hat.endsIn
    obtain ⟨rfl, rfl⟩ := hends.unique hf
    obtain ⟨hfolder, k, hk, hk'⟩ := (directoryAt_parentPath_iff hends).mp hat.directoryAt_eq
    obtain ⟨j, rfl, hj⟩ := (hway' k).mp hk'
    exact ⟨rfl, hfolder, j, hk, hj⟩
  · rintro ⟨rfl, hfolder, j, hj, hj'⟩
    refine ⟨⟨front', hends⟩, (directoryAt_parentPath_iff hends).mpr ⟨hfolder, n + j, hj, ?_⟩⟩
    exact (hway' _).mpr ⟨j, rfl, hj'⟩

theorem entryAt_withFileName_iff (h : d.Below n l t p) {front : List Text}
    (ht : t.EndsIn front name) {other name' : Text} (hrel : Path.isAbsolute other = false) :
    d.EntryAt (p.withFileName other) folder name' ↔
      ∃ rest, Path.pieces other = rest ++ [name'] ∧ IsName name' ∧ d.IsDirectory folder ∧
        ∃ j, n + j ≤ maxLinks ∧ d.Way j l (front ++ rest) folder := by
  obtain ⟨front', hends, hway⟩ := h.endsIn ht
  rw [Disk.entryAt_withFileName_iff hends hrel]
  refine exists_congr fun rest => and_congr_right fun _ => and_congr_right fun _ =>
    and_congr_right fun _ => ?_
  constructor
  · rintro ⟨k, hk, hk'⟩
    obtain ⟨j, rfl, hj⟩ := (hway k rest folder).mp hk'
    exact ⟨j, hk, hj⟩
  · rintro ⟨j, hj, hj'⟩
    exact ⟨n + j, hj, (hway _ rest folder).mpr ⟨j, rfl, hj'⟩⟩

/-- Two paths below a directory name one entry, though each only if its front crosses few enough
links. -/
theorem entryAt_unique {n' : Nat} {folder' : Location} {name₁ name₂ : Text}
    (hp : d.Below n l t p) (hq : d.Below n' l t q) {front : List Text} (ht : t.EndsIn front name)
    (h₁ : d.EntryAt p folder name₁) (h₂ : d.EntryAt q folder' name₂) :
    folder = folder' ∧ name₁ = name₂ := by
  obtain ⟨rfl, -, j, -, hj⟩ := (hp.entryAt_iff ht).mp h₁
  obtain ⟨rfl, -, j', -, hj'⟩ := (hq.entryAt_iff ht).mp h₂
  exact ⟨(hj.unique hj').2, rfl⟩

theorem entryAt_withFileName_unique {n' : Nat} {folder' : Location} {name₁ name₂ : Text}
    (hp : d.Below n l t p) (hq : d.Below n' l t q) {front : List Text} (ht : t.EndsIn front name)
    {other : Text} (hrel : Path.isAbsolute other = false)
    (h₁ : d.EntryAt (p.withFileName other) folder name₁)
    (h₂ : d.EntryAt (q.withFileName other) folder' name₂) :
    folder = folder' ∧ name₁ = name₂ := by
  obtain ⟨rest, hrest, -, -, j, -, hj⟩ := (hp.entryAt_withFileName_iff ht hrel).mp h₁
  obtain ⟨rest', hrest', -, -, j', -, hj'⟩ := (hq.entryAt_withFileName_iff ht hrel).mp h₂
  obtain ⟨rfl, hname⟩ := List.append_inj' (hrest.symm.trans hrest') rfl
  rw [List.singleton_inj] at hname
  exact ⟨(hj.unique hj').2, hname⟩

theorem canonicalize_unique {n' : Nat} {m' : Location} (hp : d.Below n l t p)
    (hq : d.Below n' l t q) (h₁ : d.canonicalize p = .ok m) (h₂ : d.canonicalize q = .ok m') :
    m = m' := by
  obtain ⟨j, -, hj⟩ := (hp.canonicalize_eq_ok_iff (Disk.canonicalize_eq_ok_iff.mp h₁).1).mp h₁
  obtain ⟨j', -, hj'⟩ := (hq.canonicalize_eq_ok_iff (Disk.canonicalize_eq_ok_iff.mp h₂).1).mp h₂
  exact (hj.unique hj').2

theorem exists_endsIn_of_readText (h : d.Below n l t p) (htree : d.IsTree) {s : Text}
    (hread : d.readText p = .ok s) : ∃ front name, t.EndsIn front name := by
  obtain ⟨place, mode, hplace, hfile⟩ := readText_eq_ok_iff.mp hread
  obtain ⟨j, -, hj⟩ :=
    (h.canonicalize_eq_ok_iff (Disk.canonicalize_eq_ok_iff.mp hplace).1).mp hplace
  exact htree.exists_endsIn hj (not_isDirectory_of_file hfile)

theorem renameLocation_congr (hp : d.Below n l t p) (hq : d.Below n l t q) {front : List Text}
    (ht : t.EndsIn front name) :
    d.renameLocation p = .ok m ↔ d.renameLocation q = .ok m := by
  have haux {p q : Path} (hp : d.Below n l t p) (hq : d.Below n l t q)
      (h : d.renameLocation p = .ok m) : d.renameLocation q = .ok m := by
    obtain ⟨folder, name', hfree, rfl⟩ := renameLocation_eq_ok_iff.mp h
    refine renameLocation_eq_ok_iff.mpr ⟨folder, name', ⟨?_, hfree.length_le, ?_⟩, rfl⟩
    · exact (hq.entryAt_iff ht).mpr ((hp.entryAt_iff ht).mp hfree.entryAt)
    · exact hfree.not_isDirectory
  exact ⟨haux hp hq, haux hq hp⟩

theorem renameLocation_withFileName_congr (hp : d.Below n l t p) (hq : d.Below n l t q)
    {front : List Text} (ht : t.EndsIn front name) {other : Text}
    (hrel : Path.isAbsolute other = false) :
    d.renameLocation (p.withFileName other) = .ok m ↔
      d.renameLocation (q.withFileName other) = .ok m := by
  have haux {p q : Path} (hp : d.Below n l t p) (hq : d.Below n l t q)
      (h : d.renameLocation (p.withFileName other) = .ok m) :
      d.renameLocation (q.withFileName other) = .ok m := by
    obtain ⟨folder, name', hfree, rfl⟩ := renameLocation_eq_ok_iff.mp h
    refine renameLocation_eq_ok_iff.mpr ⟨folder, name', ⟨?_, hfree.length_le, ?_⟩, rfl⟩
    · exact (hq.entryAt_withFileName_iff ht hrel).mpr
        ((hp.entryAt_withFileName_iff ht hrel).mp hfree.entryAt)
    · exact hfree.not_isDirectory
  exact ⟨haux hp hq, haux hq hp⟩

end Below

theorem Way.put_of_no_links {x : Location} {content : Content} {mode : Nat} {ps : List Text}
    (hx : ¬ d.IsDirectory x) (h : d.Way 0 l ps m) (hm : d.IsDirectory m) :
    (d.put x (.file content mode)).Way 0 l ps m := by
  have hroot : x ≠ [] := by
    rintro rfl
    exact hx d.isDirectory_root
  have hdir {l : Location} (hl : d.IsDirectory l) :
      (d.put x (.file content mode)).IsDirectory l :=
    (isDirectory_put_file_iff hroot).mpr ⟨fun he => hx (he ▸ hl), hl⟩
  generalize hn : 0 = n at h
  induction h with
  | done l => exact .done l
  | idle hl hs rest ih => exact .idle (hdir hl) hs (ih hm hn)
  | up hl rest ih => exact .up (hdir hl) (ih hm hn)
  | enter hl hs hlength he hlink rest ih =>
      have hne := ((isDirectory_put_file_iff hroot).mp (hdir (rest.isDirectory hm))).1
      rw [← get?_put_of_ne d (.file content mode) hne] at he
      exact .enter (hdir hl) hs hlength he hlink (ih hm hn)
  | link => cases hn

theorem Below.put {x : Location} {content : Content} {mode : Nat} (hx : ¬ d.IsDirectory x)
    (h : d.Below 0 l t p) : (d.put x (.file content mode)).Below 0 l t p := by
  have hroot : x ≠ [] := by
    rintro rfl
    exact hx d.isDirectory_root
  obtain ⟨hl, front, hpieces, hway⟩ := h
  refine ⟨(isDirectory_put_file_iff hroot).mpr ⟨fun he => hx (he ▸ hl), hl⟩, front, hpieces, ?_⟩
  exact hway.put_of_no_links hx hl

end AnchorPatch.Disk
