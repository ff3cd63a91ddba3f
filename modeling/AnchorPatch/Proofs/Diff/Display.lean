import AnchorPatch.Diff.Display
import AnchorPatch.Proofs.Diff.Hunk

namespace AnchorPatch.Diff

variable {s l rest old new : Text} {x : Char} {c : Change} {changes : List Change}

def IsLineEnd (x : Char) : Prop := x = '\n' ∨ x = '\r'

theorem isLineEnd_iff : IsLineEnd x ↔ (decide (x = '\n') || decide (x = '\r')) = true := by
  simp [IsLineEnd]

theorem lines_plain (hx : ¬ IsLineEnd x) (s : Text) :
    lines (x :: s) =
      match lines s with
      | [] => [[x]]
      | l :: ls => (x :: l) :: ls :=
  (lines.eq_3 _ _ fun _ h _ => hx (.inr h)).trans (if_neg (mt isLineEnd_iff.mpr hx))

/-- A text is the first line of what it begins. -/
def Closes (l rest : Text) : Prop := lines (l ++ rest) = l :: lines rest

theorem closes_newline (rest : Text) : Closes ['\n'] rest := rfl

theorem closes_return (h : rest.head? ≠ some '\n') : Closes ['\r'] rest := by
  have hnext (s : List Char) (_ : '\r' = '\r') (hrest : rest = '\n' :: s) : False :=
    h (congrArg List.head? hrest)
  rw [Closes, List.singleton_append, lines.eq_3 _ _ hnext]
  rfl

theorem Closes.cons (hx : ¬ IsLineEnd x) (h : Closes l rest) : Closes (x :: l) rest := by
  rw [Closes, List.cons_append, lines_plain hx, h]

theorem closes_of_plain (hl : ∀ x ∈ l, ¬ IsLineEnd x) (rest : Text) :
    Closes (l ++ ['\n']) rest := by
  induction l with
  | nil => exact closes_newline rest
  | cons x l ih =>
      obtain ⟨hx, hl⟩ := List.forall_mem_cons.mp hl
      exact (ih hl).cons hx

theorem isTerminated_cons (hx : ¬ IsLineEnd x) (l : Text) :
    isTerminated (x :: l) = isTerminated l := by
  cases l with
  | nil => simpa [isTerminated, IsLineEnd] using hx
  | cons y l => rw [isTerminated, isTerminated, List.getLast?_cons_cons]

/-- A line with its line end. -/
def IsWhole (l : Text) : Prop :=
  isTerminated l = true ∧ ∀ rest : Text, rest.head? ≠ some '\n' → Closes l rest

/-- A line without line end. -/
def IsOpen (l : Text) : Prop := isTerminated l = false ∧ ∀ x ∈ l, ¬ IsLineEnd x

theorem IsWhole.cons (hx : ¬ IsLineEnd x) (h : IsWhole l) : IsWhole (x :: l) :=
  ⟨(isTerminated_cons hx l).trans h.1, fun rest hrest => (h.2 rest hrest).cons hx⟩

theorem IsOpen.cons (hx : ¬ IsLineEnd x) (h : IsOpen l) : IsOpen (x :: l) :=
  ⟨(isTerminated_cons hx l).trans h.1, List.forall_mem_cons.mpr ⟨hx, h.2⟩⟩

theorem isWhole_lineEnd (hx : IsLineEnd x) : IsWhole [x] := by
  rcases hx with rfl | rfl
  · exact ⟨rfl, fun rest _ => closes_newline rest⟩
  · exact ⟨rfl, fun rest => closes_return⟩

theorem isWhole_or_isOpen (h : l ∈ lines s) : IsWhole l ∨ IsOpen l := by
  induction s using lines.induct generalizing l with
  | case1 => cases h
  | case2 s ih =>
      rw [lines] at h
      rcases List.mem_cons.mp h with rfl | h
      · exact .inl ⟨rfl, fun rest _ => rfl⟩
      · exact ih h
  | case3 x s hnext hx ih =>
      rw [lines.eq_3 _ _ hnext, if_pos hx] at h
      rcases List.mem_cons.mp h with rfl | h
      · exact .inl (isWhole_lineEnd (isLineEnd_iff.mpr hx))
      · exact ih h
  | case4 x s hnext hx hlines ih =>
      rw [lines.eq_3 _ _ hnext, if_neg hx, hlines] at h
      have hx : ¬ IsLineEnd x := mt isLineEnd_iff.mp hx
      obtain rfl := List.mem_singleton.mp h
      exact .inr (IsOpen.cons hx ⟨rfl, fun _ h => absurd h List.not_mem_nil⟩)
  | case5 x s hnext hx l' ls hlines ih =>
      rw [lines.eq_3 _ _ hnext, if_neg hx, hlines] at h
      rw [hlines] at ih
      have hx : ¬ IsLineEnd x := mt isLineEnd_iff.mp hx
      rcases List.mem_cons.mp h with rfl | h
      · exact (ih List.mem_cons_self).imp (IsWhole.cons hx) (IsOpen.cons hx)
      · exact ih (List.mem_cons_of_mem _ h)

theorem mem_dropLast_cons {l' : Text} {ls : List Text} (h : l ∈ (l' :: ls).dropLast) :
    l = l' ∨ l ∈ ls.dropLast := by
  cases ls with
  | nil => cases h
  | cons a ls =>
      rw [List.dropLast_cons_cons] at h
      exact List.mem_cons.mp h

theorem isTerminated_of_mem_dropLast (h : l ∈ (lines s).dropLast) : isTerminated l = true := by
  induction s using lines.induct generalizing l with
  | case1 => cases h
  | case2 s ih =>
      rw [lines] at h
      rcases mem_dropLast_cons h with rfl | h
      · rfl
      · exact ih h
  | case3 x s hnext hx ih =>
      rw [lines.eq_3 _ _ hnext, if_pos hx] at h
      rcases mem_dropLast_cons h with rfl | h
      · exact (isWhole_lineEnd (isLineEnd_iff.mpr hx)).1
      · exact ih h
  | case4 x s hnext hx hlines ih =>
      rw [lines.eq_3 _ _ hnext, if_neg hx, hlines] at h
      cases h
  | case5 x s hnext hx l' ls hlines ih =>
      rw [lines.eq_3 _ _ hnext, if_neg hx, hlines] at h
      rw [hlines] at ih
      have hx : ¬ IsLineEnd x := mt isLineEnd_iff.mp hx
      cases ls with
      | nil => cases h
      | cons a ls =>
          rw [List.dropLast_cons_cons] at h ih
          rcases List.mem_cons.mp h with rfl | h
          · exact (isTerminated_cons hx l').trans (ih List.mem_cons_self)
          · exact ih (List.mem_cons_of_mem _ h)

theorem getLast?_of_not_isTerminated (h : l ∈ lines s) (hl : isTerminated l = false) :
    (lines s).getLast? = some l := by
  have hne := List.ne_nil_of_mem h
  rw [← List.dropLast_concat_getLast hne, List.mem_append, List.mem_singleton] at h
  rcases h with h | rfl
  · rw [isTerminated_of_mem_dropLast h] at hl
    cases hl
  · exact List.getLast?_eq_some_getLast hne

namespace Change

/-- The line of a change with its sign, and with a line end in any case. -/
def signed (c : Change) : Text :=
  c.mark.sign :: c.line ++ if isTerminated c.line then [] else ['\n']

/-- What stands behind the line of a change. -/
def blank (c : Change) : Text := if isTerminated c.line then [] else ['\n']

theorem display_eq (c : Change) (colours : Bool) :
    c.display colours = c.mark.style.paint colours c.signed ++ c.blank := by
  unfold display signed blank
  split
  · rw [List.append_nil, List.append_nil]
  · rfl

/-- The lines in which a change is shown: its own and, if that does not end, an empty one. -/
def shown (c : Change) : List Text :=
  c.signed :: if isTerminated c.line then [] else [['\n']]

theorem length_shown (c : Change) : c.shown.length = if isTerminated c.line then 1 else 2 := by
  unfold shown
  split
  · rfl
  · rfl

end Change

def Hunk.body (h : Hunk) : Text := h.changes.flatMap (·.display false)

theorem not_isLineEnd_sign (mark : Mark) : ¬ IsLineEnd mark.sign := by
  rintro (h | h)
  · cases mark <;> cases h
  · cases mark <;> cases h

theorem head?_display (changes : List Change) :
    (changes.flatMap (·.display false)).head? ≠ some '\n' := by
  cases changes with
  | nil => nofun
  | cons c changes =>
      intro h
      rw [List.flatMap_cons, Change.display_eq, Style.paint_false, Change.signed] at h
      exact not_isLineEnd_sign c.mark (.inl (Option.some.inj h))

theorem lines_display (h : ∀ c ∈ changes, IsWhole c.line ∨ IsOpen c.line) :
    lines (changes.flatMap (·.display false)) = changes.flatMap Change.shown := by
  induction changes with
  | nil => rfl
  | cons c changes ih =>
      obtain ⟨hc, hchanges⟩ := List.forall_mem_cons.mp h
      have hrest := ih hchanges
      have hsign := not_isLineEnd_sign c.mark
      rw [List.flatMap_cons, List.flatMap_cons, Change.display_eq, Style.paint_false,
        Change.shown, Change.signed, Change.blank]
      rcases hc with hwhole | hopen
      · -- a sign is next, so a `\r` at the end of the line is a whole line end
        have hline := (hwhole.cons hsign).2 _ (head?_display changes)
        rw [Closes, hrest] at hline
        rw [if_pos hwhole.1, if_pos hwhole.1, List.append_nil, List.append_nil]
        exact hline
      · -- of the two line ends behind the line the second makes the empty line
        have hshown := closes_of_plain (hopen.cons hsign).2
          ('\n' :: changes.flatMap (·.display false))
        have hblank := closes_newline (changes.flatMap (·.display false))
        rw [Closes, List.singleton_append, hrest] at hblank
        rw [Closes, hblank] at hshown
        rw [if_neg (by simp [hopen.1]), if_neg (by simp [hopen.1]), List.append_assoc]
        exact hshown

theorem length_flatMap_shown_iff (changes : List Change) :
    changes.length ≤ (changes.flatMap Change.shown).length ∧
      ((changes.flatMap Change.shown).length = changes.length ↔
        ∀ c ∈ changes, isTerminated c.line = true) := by
  induction changes with
  | nil => simp
  | cons c changes ih =>
      rw [List.flatMap_cons, List.length_append, Change.length_shown, List.length_cons,
        List.forall_mem_cons]
      obtain ⟨hle, hiff⟩ := ih
      cases hc : isTerminated c.line with
      | true =>
          rw [if_pos rfl, ← hiff]
          refine ⟨by omega, fun h => ⟨rfl, by omega⟩, fun h => ?_⟩
          rw [h.2, Nat.add_comm]
      | false =>
          rw [if_neg (by decide)]
          exact ⟨by omega, iff_of_false (by omega) fun h => nomatch h.1⟩

theorem mem_runLines {texts : Array Text} {start count : Nat} {mark : Mark}
    (h : c ∈ runLines texts start count mark) : c.line ∈ texts.toList := by
  obtain ⟨line, hline, rfl⟩ := List.mem_map.mp h
  exact List.mem_of_mem_drop (List.mem_of_mem_take hline)

theorem mem_changes {src : Source} {op : Op} (h : c ∈ op.changes src) :
    c.line ∈ src.old.toList ∨ c.line ∈ src.new.toList := by
  unfold Op.changes at h
  split at h
  next => exact .inl (mem_runLines h)
  next => exact (List.mem_append.mp h).imp mem_runLines mem_runLines

theorem changes_of_ofOps? {src : Source} {ops : List Op} {h : Hunk}
    (hops : Hunk.ofOps? src ops = some h) : h.changes = ops.flatMap (Op.changes src) := by
  obtain ⟨first, -, hops⟩ := Option.bind_eq_some_iff.mp hops
  obtain ⟨last, -, hops⟩ := Option.bind_eq_some_iff.mp hops
  cases hops
  rfl

theorem mem_lines_of_mem_changes {h : Hunk} (hh : h ∈ hunksBetween old new) (hc : c ∈ h.changes) :
    c.line ∈ lines old ∨ c.line ∈ lines new := by
  obtain ⟨ops, -, hops⟩ := List.mem_filterMap.mp hh
  rw [changes_of_ofOps? hops] at hc
  obtain ⟨op, -, hc⟩ := List.mem_flatMap.mp hc
  exact mem_changes hc

/-- What is shown of a change are the headlines and the hunks, each with its header and its body.

In a body each change has a line of its own, and the body has no other lines if and only if all
these lines end; a line that does not end, the last one of either text, has an empty line behind
it. The hunks replay the change: the lines outside of them stay, and they put their new lines in
the place of their old ones. A header names the places of its hunk, except perhaps the beginning or
the end of lines of which none stands there. If the steps of the script say truly where they
stand, all headers name their places, and replaying the hunks by them gives the new text. -/
theorem display_faithful (path : Path) (old new : Text) :
    (∀ colours, display path old new colours =
        headlines path colours ++ (hunksBetween old new).flatMap fun h =>
          Style.cyan.paint colours h.header.toList ++ '\n' :: h.changes.flatMap fun c =>
            c.mark.style.paint colours c.signed ++ c.blank) ∧
      (∀ h ∈ hunksBetween old new,
        lines h.body = h.changes.flatMap Change.shown ∧
          ((lines h.body).length = h.changes.length ↔
            ∀ c ∈ h.changes, isTerminated c.line = true) ∧
          ∀ c ∈ h.changes, isTerminated c.line = false →
            (lines old).getLast? = some c.line ∨ (lines new).getLast? = some c.line) ∧
      Replays false 0 0 (lines old) (lines new) (hunksBetween old new) ∧
      (IsExact old new →
        Replays true 0 0 (lines old) (lines new) (hunksBetween old new) ∧
          (replay 0 (hunksBetween old new) (lines old)).flatten = new) := by
  refine ⟨fun colours => ?_, fun h hh => ?_, replays_hunksBetween old new, fun hexact => ?_⟩
  · simp only [display, Hunk.display, Change.display_eq]
  · have hmem (c : Change) (hc : c ∈ h.changes) := mem_lines_of_mem_changes hh hc
    have hlines : lines h.body = h.changes.flatMap Change.shown :=
      lines_display fun c hc => (hmem c hc).elim isWhole_or_isOpen isWhole_or_isOpen
    refine ⟨hlines, hlines ▸ (length_flatMap_shown_iff h.changes).2, fun c hc hopen => ?_⟩
    exact (hmem c hc).imp (getLast?_of_not_isTerminated · hopen)
      (getLast?_of_not_isTerminated · hopen)
  · have hreplays := replays_of_script hexact
    refine ⟨hreplays, ?_⟩
    rw [hreplays.replay_eq, flatten_lines]

def threeLines : Text := "a\nb\nc\n".toList

/-- Two of the lines stay, one goes and one comes, which has no line end. -/
def openLines : Text := "a\nc\nd".toList

theorem display_faithful_openLines :
    IsExact threeLines openLines ∧
      display ['f'] threeLines openLines false =
        "--- f (original)\n+++ f (patched)\n@@ -1,3 +1,3 @@\n a\n-b\n c\n+d\n\n".toList ∧
      (∀ h ∈ hunksBetween threeLines openLines,
        lines h.body = [" a\n", "-b\n", " c\n", "+d\n", "\n"].map String.toList) ∧
      Replays true 0 0 (lines threeLines) (lines openLines) (hunksBetween threeLines openLines) ∧
      (replay 0 (hunksBetween threeLines openLines) (lines threeLines)).flatten = openLines := by
  have hsteps : stepsBetween threeLines openLines =
      [.equal 0 0 1, .delete 1 1 1, .equal 2 1 1, .insert 3 2 1] := by decide +kernel
  have hexact : IsExact threeLines openLines := by
    rw [IsExact, hsteps]
    refine .cons (.equal (by decide) fun p hp => ?_) (.cons (.delete (by decide) fun _ => rfl)
      (.cons (.equal (by decide) fun p hp => ?_) (.cons (.insert (by decide) fun _ => rfl) .nil)))
    · obtain rfl : p = 0 := by omega
      exact ⟨_, rfl, rfl⟩
    · obtain rfl : p = 0 := by omega
      exact ⟨_, rfl, rfl⟩
  have hshown : ∀ h ∈ hunksBetween threeLines openLines, h.changes.flatMap Change.shown =
      [" a\n", "-b\n", " c\n", "+d\n", "\n"].map String.toList := by decide +kernel
  obtain ⟨-, hbody, -, hreplays⟩ := display_faithful ['f'] threeLines openLines
  exact ⟨hexact, by decide +kernel, fun h hh => (hbody h hh).1.trans (hshown h hh), hreplays hexact⟩

end AnchorPatch.Diff
