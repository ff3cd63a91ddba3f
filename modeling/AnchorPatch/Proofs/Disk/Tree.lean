import AnchorPatch.Proofs.Disk.Entry
import Mathlib.Data.List.Induction

namespace AnchorPatch

open AnchorPatch.Path (IsName)

namespace Location

theorem toPath_of_ne_nil {l : Location} (hl : l ≠ []) : l.toPath = l.flatMap ('/' :: ·) := by
  cases l with
  | nil => exact absurd rfl hl
  | cons s l => rfl

theorem toPath_ne_nil (l : Location) : l.toPath ≠ [] := by
  cases l with
  | nil => simp [toPath]
  | cons s l => simp [toPath]

theorem pieces_flatMap {l : Location} (hl : l ≠ []) (hslash : ∀ s ∈ l, '/' ∉ s) :
    Path.pieces (l.flatMap ('/' :: ·)) = [] :: l := by
  induction l with
  | nil => exact absurd rfl hl
  | cons s l ih =>
      have hs : Path.pieces s = [s] := Path.pieces_eq_singleton (hslash s (by simp))
      by_cases hnil : l = []
      · subst hnil
        simp [hs]
      · have hrest := ih hnil fun t ht => hslash t (List.mem_cons_of_mem _ ht)
        obtain ⟨t, l', rfl⟩ := List.exists_cons_of_ne_nil hnil
        have hcons : (t :: l').flatMap ('/' :: ·) = '/' :: (t ++ l'.flatMap ('/' :: ·)) := rfl
        rw [hcons, Path.pieces_slash, List.cons.injEq] at hrest
        rw [List.flatMap_cons, hcons, List.cons_append, Path.pieces_slash,
          Path.pieces_append_slash, hs, hrest.2]
        rfl

theorem isAbsolute_toPath (l : Location) : Path.isAbsolute l.toPath = true := by
  cases l with
  | nil => rfl
  | cons s l => simp [toPath, Path.isAbsolute]

end Location

namespace Disk

variable {d : Disk} {k : Nat} {l m : Location} {p : Path} {ps : List Text} {e : Entry}

/-- There is something at a location, and it is no link. -/
def IsPlace (d : Disk) (l : Location) : Prop :=
  ∃ e, d.get? l = some e ∧ ∀ target, e ≠ .link target

theorem IsDirectory.isPlace (h : d.IsDirectory l) : d.IsPlace l := by
  obtain ⟨mode, hmode⟩ := h
  exact ⟨_, hmode, by simp⟩

theorem IsDirectory.isPlace_start (h : d.IsDirectory l) (p : Path) : d.IsPlace (start l p).1 := by
  unfold start
  split
  · exact d.isDirectory_root.isPlace
  · exact h.isPlace

/-- All that exists lies in a directory and has a proper name, and relative paths start from a
directory. -/
structure IsTree (d : Disk) : Prop where
  isDirectory_of_get? : ∀ l s e, d.get? (l ++ [s]) = some e → d.IsDirectory l
  isName_of_get? : ∀ l s e, d.get? (l ++ [s]) = some e →
    IsName s ∧ '/' ∉ s ∧ s.byteLength ≤ maxNameLength
  isDirectory_current : d.IsDirectory d.current

theorem isTree_of_entries
    (hentries : ∀ x ∈ d.entries, d.IsDirectory x.1.dropLast ∧
      ∀ s ∈ x.1, IsName s ∧ '/' ∉ s ∧ s.byteLength ≤ maxNameLength)
    (hcurrent : d.IsDirectory d.current) : d.IsTree := by
  have hmem {l : Location} {s : Text} {e : Entry} (h : d.get? (l ++ [s]) = some e) :
      (l ++ [s], e) ∈ d.entries := by
    rw [get?, if_neg (by simp)] at h
    obtain ⟨before, after, heq, -⟩ := List.lookup_eq_some_iff.mp h
    simp [heq]
  refine ⟨fun l s e h => ?_, fun l s e h => ?_, hcurrent⟩
  · have hfolder := (hentries _ (hmem h)).1
    rwa [List.dropLast_concat] at hfolder
  · exact (hentries _ (hmem h)).2 s (by simp)

namespace IsTree

theorem isDirectory_dropLast (h : d.IsTree) (hl : d.IsDirectory l) : d.IsDirectory l.dropLast := by
  rcases List.eq_nil_or_concat l with rfl | ⟨l', s, rfl⟩
  · exact hl
  · obtain ⟨mode, hmode⟩ := hl
    rw [List.concat_eq_append] at hmode ⊢
    rw [List.dropLast_concat]
    exact h.isDirectory_of_get? l' s _ hmode

theorem slash_notMem (h : d.IsTree) (he : d.get? l = some e) : ∀ s ∈ l, '/' ∉ s := by
  induction l using List.reverseRecOn generalizing e with
  | nil =>
      intro s hs
      cases hs
  | append_singleton l t ih =>
      intro s hs
      obtain ⟨mode, hmode⟩ := h.isDirectory_of_get? l t e he
      rcases List.mem_append.mp hs with hs | hs
      · exact ih hmode s hs
      · rw [List.mem_singleton.mp hs]
        exact (h.isName_of_get? l t e he).2.1

theorem way_self (h : d.IsTree) (hl : d.IsPlace l) : d.Way 0 [] l l := by
  induction l using List.reverseRecOn with
  | nil => exact .done []
  | append_singleton l s ih =>
      obtain ⟨e, he, hlink⟩ := hl
      have hfolder := h.isDirectory_of_get? l s e he
      obtain ⟨hs, -, hlength⟩ := h.isName_of_get? l s e he
      exact (ih hfolder.isPlace).append (.enter hfolder hs hlength he hlink (.done (l ++ [s])))

theorem way_toPath (h : d.IsTree) (hl : d.IsPlace l) : d.Way 0 [] (Path.pieces l.toPath) l := by
  have hroot := d.isDirectory_root
  have hslash : ∀ s ∈ l, '/' ∉ s := by
    obtain ⟨e, he, -⟩ := hl
    exact h.slash_notMem he
  by_cases hnil : l = []
  · subst hnil
    exact .idle hroot (.inl rfl) (.idle hroot (.inl rfl) (.done []))
  · rw [Location.toPath_of_ne_nil hnil, Location.pieces_flatMap hnil hslash]
    exact .idle hroot (.inl rfl) (h.way_self hl)

theorem isPlace_of_way (h : d.IsTree) (hway : d.Way k l ps m) (hl : d.IsPlace l) :
    d.IsPlace m := by
  induction hway with
  | done => exact hl
  | idle _ _ _ ih => exact ih hl
  | up hfolder _ ih => exact ih (h.isDirectory_dropLast hfolder).isPlace
  | enter _ _ _ he hlink _ ih => exact ih ⟨_, he, hlink⟩
  | @link _ l _ _ _ target hfolder _ _ _ _ _ ih =>
      apply ih
      exact hfolder.isPlace_start target

theorem isPlace_of_canonicalize (h : d.IsTree) (hp : d.canonicalize p = .ok m) : d.IsPlace m := by
  obtain ⟨-, k, -, hway⟩ := canonicalize_eq_ok_iff.mp hp
  exact h.isPlace_of_way hway (h.isDirectory_current.isPlace_start p)

theorem canonicalize_toPath (h : d.IsTree) (hl : d.IsPlace l) : d.canonicalize l.toPath = .ok l := by
  refine canonicalize_eq_ok_iff.mpr ⟨l.toPath_ne_nil, 0, Nat.zero_le _, ?_⟩
  rw [start, if_pos l.isAbsolute_toPath]
  exact h.way_toPath hl

theorem exists_endsIn (h : d.IsTree) (hway : d.Way k l p.pieces m) (hm : ¬ d.IsDirectory m) :
    ∃ front name, p.EndsIn front name := by
  obtain ⟨front, name, hpieces⟩ : ∃ front name, p.pieces = front ++ [name] :=
    ⟨_, _, (List.dropLast_concat_getLast (Path.pieces_ne_nil p)).symm⟩
  rw [hpieces] at hway
  obtain ⟨i, j, x, -, -, hlast⟩ := hway.split
  refine ⟨front, name, hpieces, ?_⟩
  cases hlast with
  | idle hx hs rest =>
      cases rest
      exact absurd hx hm
  | up hx rest =>
      cases rest
      exact absurd (h.isDirectory_dropLast hx) hm
  | enter hx hs => exact hs
  | link hx hs => exact hs

theorem exists_free_of_readText (h : d.IsTree) {s : Text} (hread : d.readText p = .ok s) :
    ∃ folder name, d.Free p folder name ∧
      ∀ s' mode, d.get? (folder ++ [name]) = some (.file (.text s') mode) → s' = s := by
  obtain ⟨l, mode, hl, hfile⟩ := readText_eq_ok_iff.mp hread
  have hnot := not_isDirectory_of_file hfile
  obtain ⟨-, k, hk, hway⟩ := canonicalize_eq_ok_iff.mp hl
  obtain ⟨front, name, hends⟩ := h.exists_endsIn hway hnot
  rw [hends.pieces_eq] at hway
  obtain ⟨i, j, folder, rfl, hfront, hlast⟩ := hway.split
  have hat (hfolder : d.IsDirectory folder) : d.EntryAt p folder name :=
    ⟨⟨front, hends⟩, (directoryAt_parentPath_iff hends).mpr
      ⟨hfolder, i, Nat.le_trans (Nat.le_add_right i j) hk, hfront⟩⟩
  cases hlast with
  | idle _ hs => exact absurd hs hends.isName.not_isIdle
  | up => exact absurd rfl hends.isName.2.2
  | enter hfolder _ hlength _ _ rest =>
      cases rest
      refine ⟨folder, name, ⟨hat hfolder, hlength, hnot⟩, fun s' mode' he => ?_⟩
      rw [hfile] at he
      cases he
      rfl
  | link hfolder _ hlength he =>
      refine ⟨folder, name, ⟨hat hfolder, hlength, ?_⟩, fun s' mode' he' => ?_⟩
      · rintro ⟨mode', hdir⟩
        rw [he] at hdir
        cases hdir
      · rw [he] at he'
        cases he'

end IsTree

end Disk

end AnchorPatch
