import AnchorPatch.Disk.Walk
import AnchorPatch.Proofs.Path.Names

namespace AnchorPatch.Disk

open AnchorPatch.Path (IsIdle IsName)

def IsDirectory (d : Disk) (l : Location) : Prop := ∃ mode, d.get? l = some (.directory mode)

instance (d : Disk) (l : Location) : Decidable (d.IsDirectory l) :=
  match h : d.get? l with
  | some (.directory mode) => isTrue ⟨mode, h⟩
  | some (.file ..) => isFalse fun ⟨_, h'⟩ => by simp_all
  | some (.link _) => isFalse fun ⟨_, h'⟩ => by simp_all
  | none => isFalse fun ⟨_, h'⟩ => by simp_all

theorem isDirectory_root (d : Disk) : d.IsDirectory [] := ⟨directoryMode, rfl⟩

theorem not_isDirectory_of_file {d : Disk} {l : Location} {content : Content} {mode : Nat}
    (h : d.get? l = some (.file content mode)) : ¬ d.IsDirectory l := by
  rintro ⟨mode', hdir⟩
  rw [h] at hdir
  cases hdir

/-- Pieces lead from a location to another one across `n` links. -/
inductive Way (d : Disk) : Nat → Location → List Text → Location → Prop
  | done (l : Location) : Way d 0 l [] l
  | idle {n : Nat} {l m : Location} {s : Text} {ps : List Text} (hl : d.IsDirectory l)
      (hs : IsIdle s) (rest : Way d n l ps m) : Way d n l (s :: ps) m
  | up {n : Nat} {l m : Location} {ps : List Text} (hl : d.IsDirectory l)
      (rest : Way d n l.dropLast ps m) : Way d n l (['.', '.'] :: ps) m
  | enter {n : Nat} {l m : Location} {s : Text} {ps : List Text} {e : Entry}
      (hl : d.IsDirectory l) (hs : IsName s) (hlength : s.byteLength ≤ maxNameLength)
      (he : d.get? (l ++ [s]) = some e) (hlink : ∀ target, e ≠ .link target)
      (rest : Way d n (l ++ [s]) ps m) : Way d n l (s :: ps) m
  | link {n : Nat} {l m : Location} {s : Text} {ps : List Text} {target : Path}
      (hl : d.IsDirectory l) (hs : IsName s) (hlength : s.byteLength ≤ maxNameLength)
      (he : d.get? (l ++ [s]) = some (.link target)) (htarget : target ≠ [])
      (rest : Way d n (start l target).1 ((start l target).2 ++ ps) m) :
      Way d (n + 1) l (s :: ps) m

/-- Where a walk goes on behind a link when `n` links may still be followed. -/
def relay (d : Disk) : Nat → Location × List Text → Except DiskError Location
  | 0, _ => .error .tooManyLinks
  | n + 1, (l, ps) => d.walk true n l ps

theorem walk_eq (d : Disk) (n : Nat) (l : Location) (ps : List Text) :
    d.walk true n l ps = d.walkPieces true (d.relay n) l ps := by
  cases n <;> rfl

theorem walkPieces_cons (d : Disk) (onLink : Location × List Text → Except DiskError Location)
    {l : Location} {s : Text} {ps : List Text} (hl : d.IsDirectory l) :
    d.walkPieces true onLink l (s :: ps) =
      if s = [] || s = ['.'] then d.walkPieces true onLink l ps
      else if s = ['.', '.'] then d.walkPieces true onLink l.dropLast ps
      else if maxNameLength < s.byteLength then .error .nameTooLong
      else
        match d.get? (l ++ [s]) with
        | none => .error .notFound
        | some (.link target) =>
            if target = [] then .error .notFound
            else onLink ((start l target).1, (start l target).2 ++ ps)
        | some _ => d.walkPieces true onLink (l ++ [s]) ps := by
  obtain ⟨mode, hl⟩ := hl
  rw [walkPieces, hl]
  simp only [Bool.not_true, Bool.and_false, Bool.false_eq_true]
  rfl

theorem isDirectory_of_walkPieces {d : Disk}
    {onLink : Location × List Text → Except DiskError Location} {l m : Location} {s : Text}
    {ps : List Text} (h : d.walkPieces true onLink l (s :: ps) = .ok m) : d.IsDirectory l := by
  unfold walkPieces at h
  split at h
  · exact ⟨_, ‹_›⟩
  · cases h
  · cases h

theorem exists_way_of_walkPieces {d : Disk} {bound : Nat}
    {onLink : Location × List Text → Except DiskError Location}
    (hlink : ∀ l ps m, onLink (l, ps) = .ok m → ∃ k < bound, d.Way k l ps m)
    {l m : Location} {ps : List Text} (h : d.walkPieces true onLink l ps = .ok m) :
    ∃ k ≤ bound, d.Way k l ps m := by
  induction ps generalizing l with
  | nil =>
      cases h
      exact ⟨0, Nat.zero_le _, .done _⟩
  | cons s ps ih =>
      have hl := isDirectory_of_walkPieces h
      rw [walkPieces_cons d onLink hl] at h
      split at h
      next hs =>
        obtain ⟨k, hk, hway⟩ := ih h
        exact ⟨k, hk, .idle hl (by simpa [IsIdle] using hs) hway⟩
      next hidle =>
        split at h
        next hs =>
          obtain ⟨k, hk, hway⟩ := ih h
          exact ⟨k, hk, hs ▸ .up hl hway⟩
        next hup =>
          have hs : IsName s := by
            simp only [Bool.or_eq_true, decide_eq_true_eq, not_or] at hidle
            exact ⟨hidle.1, hidle.2, hup⟩
          split at h
          · cases h
          next hlength =>
            split at h
            · cases h
            next target he =>
              split at h
              · cases h
              next htarget =>
                obtain ⟨k, hk, hway⟩ := hlink _ _ _ h
                exact ⟨k + 1, hk, .link hl hs (Nat.le_of_not_lt hlength) he htarget hway⟩
            next e hlink' he =>
              obtain ⟨k, hk, hway⟩ := ih h
              exact ⟨k, hk, .enter hl hs (Nat.le_of_not_lt hlength) he
                (fun target ht => hlink' target ht) hway⟩

theorem exists_way_of_walk {d : Disk} {n : Nat} {l m : Location} {ps : List Text}
    (h : d.walk true n l ps = .ok m) : ∃ k ≤ n, d.Way k l ps m := by
  induction n generalizing l ps m with
  | zero =>
      rw [walk_eq] at h
      exact exists_way_of_walkPieces (fun _ _ _ h => by cases h) h
  | succ n ih =>
      rw [walk_eq] at h
      refine exists_way_of_walkPieces (fun l ps m h => ?_) h
      obtain ⟨k, hk, hway⟩ := ih h
      exact ⟨k, Nat.lt_succ_of_le hk, hway⟩

theorem Way.walk_eq_ok {d : Disk} {k : Nat} {l m : Location} {ps : List Text}
    (h : d.Way k l ps m) {n : Nat} (hn : k ≤ n) : d.walk true n l ps = .ok m := by
  induction h generalizing n with
  | done l => rw [walk_eq, walkPieces]
  | idle hl hs rest ih =>
      rw [walk_eq, walkPieces_cons d _ hl, if_pos (by simpa [IsIdle] using hs), ← walk_eq]
      exact ih hn
  | up hl rest ih =>
      rw [walk_eq, walkPieces_cons d _ hl, if_neg (by decide), if_pos rfl, ← walk_eq]
      exact ih hn
  | enter hl hs hlength he hlink rest ih =>
      rw [walk_eq, walkPieces_cons d _ hl, if_neg (by simp [hs.1, hs.2.1]), if_neg hs.2.2,
        if_neg (Nat.not_lt_of_le hlength), he]
      split
      · simp_all
      next target ht => exact absurd (Option.some.inj ht) (hlink target)
      · rw [← walk_eq]
        exact ih hn
  | link hl hs hlength he htarget rest ih =>
      rw [walk_eq, walkPieces_cons d _ hl, if_neg (by simp [hs.1, hs.2.1]), if_neg hs.2.2,
        if_neg (Nat.not_lt_of_le hlength), he]
      obtain ⟨n, rfl⟩ := Nat.exists_eq_add_of_le' (Nat.lt_of_lt_of_le (Nat.succ_pos _) hn)
      simp only [if_neg htarget]
      exact ih (Nat.le_of_succ_le_succ hn)

theorem walk_eq_ok_iff {d : Disk} {n : Nat} {l m : Location} {ps : List Text} :
    d.walk true n l ps = .ok m ↔ ∃ k ≤ n, d.Way k l ps m :=
  ⟨exists_way_of_walk, fun ⟨_, hk, hway⟩ => hway.walk_eq_ok hk⟩

theorem canonicalize_eq_ok_iff {d : Disk} {p : Path} {m : Location} :
    d.canonicalize p = .ok m ↔
      p ≠ [] ∧ ∃ k ≤ maxLinks, d.Way k (start d.current p).1 p.pieces m := by
  unfold canonicalize locate
  by_cases hp : p = []
  · simp [hp]
  · rw [if_neg hp]
    exact walk_eq_ok_iff.trans (by simp [hp, start])

namespace Way

variable {d : Disk} {i j k : Nat} {l m x : Location} {ps qs : List Text}

theorem unique {k' : Nat} {m' : Location} (h : d.Way k l ps m) (h' : d.Way k' l ps m') :
    k = k' ∧ m = m' := by
  induction h generalizing k' with
  | done l =>
      cases h'
      exact ⟨rfl, rfl⟩
  | idle hl hs rest ih =>
      cases h' with
      | idle _ _ rest' => exact ih rest'
      | up _ rest' => simp [IsIdle] at hs
      | enter _ hs' => exact absurd hs hs'.not_isIdle
      | link _ hs' => exact absurd hs hs'.not_isIdle
  | up hl rest ih =>
      cases h' with
      | idle _ hs' => simp [IsIdle] at hs'
      | up _ rest' => exact ih rest'
      | enter _ hs' => exact absurd rfl hs'.2.2
      | link _ hs' => exact absurd rfl hs'.2.2
  | enter hl hs hlength he hlink rest ih =>
      cases h' with
      | idle _ hs' => exact absurd hs' hs.not_isIdle
      | up => exact absurd rfl hs.2.2
      | enter _ _ _ _ _ rest' => exact ih rest'
      | link _ _ _ he' => exact absurd (Option.some.inj (he.symm.trans he')) (hlink _)
  | link hl hs hlength he htarget rest ih =>
      cases h' with
      | idle _ hs' => exact absurd hs' hs.not_isIdle
      | up => exact absurd rfl hs.2.2
      | enter _ _ _ he' hlink => exact absurd (Option.some.inj (he'.symm.trans he)) (hlink _)
      | link _ _ _ he' _ rest' =>
          cases Option.some.inj (he.symm.trans he')
          exact ⟨congrArg (· + 1) (ih rest').1, (ih rest').2⟩

theorem append (h : d.Way i l ps x) (h' : d.Way j x qs m) : d.Way (i + j) l (ps ++ qs) m := by
  induction h with
  | done l => simpa using h'
  | idle hl hs rest ih => exact .idle hl hs (ih h')
  | up hl rest ih => exact .up hl (ih h')
  | enter hl hs hlength he hlink rest ih => exact .enter hl hs hlength he hlink (ih h')
  | @link n l m s ps target hl hs hlength he htarget rest ih =>
      rw [Nat.succ_add]
      refine .link hl hs hlength he htarget ?_
      simpa using ih h'

theorem split (h : d.Way k l (ps ++ qs) m) :
    ∃ i j x, i + j = k ∧ d.Way i l ps x ∧ d.Way j x qs m := by
  generalize hps : ps ++ qs = rs at h
  induction h generalizing ps with
  | done l =>
      obtain ⟨rfl, rfl⟩ := List.append_eq_nil_iff.mp hps
      exact ⟨0, 0, l, rfl, .done l, .done l⟩
  | @idle n l m s rs hl hs rest ih =>
      rcases List.append_eq_cons_iff.mp hps with ⟨rfl, rfl⟩ | ⟨ps', rfl, rfl⟩
      · exact ⟨0, n, l, Nat.zero_add n, .done l, .idle hl hs rest⟩
      · obtain ⟨i, j, x, hij, hi, hj⟩ := ih rfl
        exact ⟨i, j, x, hij, .idle hl hs hi, hj⟩
  | @up n l m rs hl rest ih =>
      rcases List.append_eq_cons_iff.mp hps with ⟨rfl, rfl⟩ | ⟨ps', rfl, rfl⟩
      · exact ⟨0, n, l, Nat.zero_add n, .done l, .up hl rest⟩
      · obtain ⟨i, j, x, hij, hi, hj⟩ := ih rfl
        exact ⟨i, j, x, hij, .up hl hi, hj⟩
  | @enter n l m s rs e hl hs hlength he hlink rest ih =>
      rcases List.append_eq_cons_iff.mp hps with ⟨rfl, rfl⟩ | ⟨ps', rfl, rfl⟩
      · exact ⟨0, n, l, Nat.zero_add n, .done l, .enter hl hs hlength he hlink rest⟩
      · obtain ⟨i, j, x, hij, hi, hj⟩ := ih rfl
        exact ⟨i, j, x, hij, .enter hl hs hlength he hlink hi, hj⟩
  | @link n l m s rs target hl hs hlength he htarget rest ih =>
      rcases List.append_eq_cons_iff.mp hps with ⟨rfl, rfl⟩ | ⟨ps', rfl, rfl⟩
      · exact ⟨0, n + 1, l, Nat.zero_add _, .done l, .link hl hs hlength he htarget rest⟩
      · obtain ⟨i, j, x, hij, hi, hj⟩ := ih (List.append_assoc ..)
        exact ⟨i + 1, j, x, by omega, .link hl hs hlength he htarget hi, hj⟩

theorem isDirectory (h : d.Way k l ps m) (hm : d.IsDirectory m) : d.IsDirectory l := by
  cases h with
  | done => exact hm
  | idle hl => exact hl
  | up hl => exact hl
  | enter hl => exact hl
  | link hl => exact hl

/-- Idle pieces at the end ask for a directory and mean nothing else. -/
theorem append_idle_iff (ps : List Text) {s : Text} (hs : IsIdle s) (hm : d.IsDirectory m) :
    d.Way k l (ps ++ [s]) m ↔ d.Way k l ps m := by
  constructor
  · intro h
    obtain ⟨i, j, x, rfl, hi, hj⟩ := h.split
    obtain ⟨rfl, rfl⟩ := hj.unique (.idle (hj.isDirectory hm) hs (.done x))
    exact hi
  · intro h
    exact h.append (.idle hm hs (.done m))

theorem eq_of_idle (h : d.Way k l ps m) (hps : ∀ s ∈ ps, IsIdle s) : k = 0 ∧ m = l := by
  induction h with
  | done l => exact ⟨rfl, rfl⟩
  | idle hl hs rest ih => exact ih fun s hs => hps s (List.mem_cons_of_mem _ hs)
  | up => exact absurd (hps _ List.mem_cons_self) (by simp [IsIdle])
  | enter _ hs => exact absurd (hps _ List.mem_cons_self) hs.not_isIdle
  | link _ hs => exact absurd (hps _ List.mem_cons_self) hs.not_isIdle

theorem dropIdle_iff (hm : d.IsDirectory m) :
    d.Way k l (Path.dropIdle ps).reverse m ↔ d.Way k l ps.reverse m := by
  fun_induction Path.dropIdle ps with
  | case1 => exact Iff.rfl
  | case2 => exact (append_idle_iff [] (.inl rfl) hm).symm
  | case3 => exact Iff.rfl
  | case4 s rest hne hs ih =>
      rw [ih, List.reverse_cons]
      exact (append_idle_iff _ (by simpa [IsIdle] using hs) hm).symm
  | case5 => exact Iff.rfl

theorem congr_dropIdle (hps : Path.dropIdle ps.reverse = Path.dropIdle qs.reverse)
    (rs : List Text) (hm : d.IsDirectory m) :
    d.Way k l (ps ++ rs) m ↔ d.Way k l (qs ++ rs) m := by
  have haux {ps qs : List Text} (hps : Path.dropIdle ps.reverse = Path.dropIdle qs.reverse)
      (h : d.Way k l (ps ++ rs) m) : d.Way k l (qs ++ rs) m := by
    obtain ⟨i, j, x, rfl, hi, hj⟩ := h.split
    have hx := hj.isDirectory hm
    refine append ?_ hj
    rw [← List.reverse_reverse qs, ← dropIdle_iff hx, ← hps, dropIdle_iff hx,
      List.reverse_reverse]
    exact hi
  exact ⟨haux hps, haux hps.symm⟩

end Way

def IsDirectoryLink (d : Disk) (x : Location) : Prop :=
  ∃ l s k m, x = l ++ [s] ∧ (∃ target, d.get? x = some (.link target)) ∧ d.Way k l [s] m ∧
    d.IsDirectory m

theorem isDirectory_put_file_iff {d : Disk} {x : Location} (hx : x ≠ []) {content : Content}
    {mode : Nat} {l : Location} :
    (d.put x (.file content mode)).IsDirectory l ↔ l ≠ x ∧ d.IsDirectory l := by
  by_cases hl : l = x
  · subst hl
    simp [IsDirectory, get?_put_self d l _ hx]
  · simp [IsDirectory, get?_put_of_ne d _ hl, hl]

section Put

variable {d : Disk} {k : Nat} {l m x : Location} {ps : List Text} {content : Content} {mode : Nat}

namespace Way

theorem of_put (hx : x ≠ []) (h : (d.put x (.file content mode)).Way k l ps m)
    (hm : (d.put x (.file content mode)).IsDirectory m) : d.Way k l ps m := by
  induction h with
  | done l => exact .done l
  | idle hl hs rest ih => exact .idle ((isDirectory_put_file_iff hx).mp hl).2 hs (ih hm)
  | up hl rest ih => exact .up ((isDirectory_put_file_iff hx).mp hl).2 (ih hm)
  | enter hl hs hlength he hlink rest ih =>
      have hne := ((isDirectory_put_file_iff hx).mp (rest.isDirectory hm)).1
      rw [get?_put_of_ne d _ hne] at he
      exact .enter ((isDirectory_put_file_iff hx).mp hl).2 hs hlength he hlink (ih hm)
  | @link n l m s ps target hl hs hlength he htarget rest ih =>
      have hne : l ++ [s] ≠ x := by
        rintro rfl
        rw [get?_put_self d _ _ hx] at he
        cases he
      rw [get?_put_of_ne d _ hne] at he
      exact .link ((isDirectory_put_file_iff hx).mp hl).2 hs hlength he htarget (ih hm)

/-- A way to a directory is still there when a file has been put on the disk, unless the file took
the place of a directory or of a link to one. -/
theorem put (hx : ¬ d.IsDirectory x) (hlink : ¬ d.IsDirectoryLink x) (h : d.Way k l ps m)
    (hm : d.IsDirectory m) : (d.put x (.file content mode)).Way k l ps m := by
  have hroot : x ≠ [] := by
    rintro rfl
    exact hx d.isDirectory_root
  have hdir {l : Location} (hl : d.IsDirectory l) :
      (d.put x (.file content mode)).IsDirectory l :=
    (isDirectory_put_file_iff hroot).mpr ⟨fun he => hx (he ▸ hl), hl⟩
  induction h with
  | done l => exact .done l
  | idle hl hs rest ih => exact .idle (hdir hl) hs (ih hm)
  | up hl rest ih => exact .up (hdir hl) (ih hm)
  | enter hl hs hlength he hnot rest ih =>
      have hne := ((isDirectory_put_file_iff hroot).mp (hdir (rest.isDirectory hm))).1
      rw [← get?_put_of_ne d (.file content mode) hne] at he
      exact .enter (hdir hl) hs hlength he hnot (ih hm)
  | @link n l m s ps target hl hs hlength he htarget rest ih =>
      have hne : l ++ [s] ≠ x := by
        intro hxs
        -- The rest of the way shows that the link itself leads to a directory.
        obtain ⟨i, j, z, -, hi, hj⟩ := rest.split
        refine hlink ⟨l, s, i + 1, z, hxs.symm, ⟨target, hxs ▸ he⟩, ?_, hj.isDirectory hm⟩
        exact .link hl hs hlength he htarget (by simpa using hi)
      rw [← get?_put_of_ne d (.file content mode) hne] at he
      exact .link (hdir hl) hs hlength he htarget (ih hm)

end Way

theorem IsDirectoryLink.of_put {y : Location} (hx : x ≠ [])
    (h : (d.put x (.file content mode)).IsDirectoryLink y) : d.IsDirectoryLink y := by
  obtain ⟨l, s, k, m, rfl, ⟨target, htarget⟩, hway, hm⟩ := h
  have hne : l ++ [s] ≠ x := by
    rintro rfl
    rw [get?_put_self d _ _ hx] at htarget
    cases htarget
  rw [get?_put_of_ne d _ hne] at htarget
  exact ⟨l, s, k, m, rfl, ⟨target, htarget⟩, hway.of_put hx hm,
    ((isDirectory_put_file_iff hx).mp hm).2⟩

end Put

end AnchorPatch.Disk
