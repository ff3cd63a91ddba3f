import AnchorPatch.Diff.Hunk
import AnchorPatch.Proofs.Diff.Tidy

namespace AnchorPatch.Diff

variable {src : Source} {strict : Bool} {i j n m x y c : Nat} {op : Op}
  {ops group : List Op} {groups : List (List Op)}

/-- Parts of a script, none of them empty, with kept lines before, between and behind them. -/
inductive Parts (strict : Bool) (src : Source) : Nat → Nat → List (List Op) → Nat → Nat → Prop
  | nil {i j c : Nat} (h : Same src i j c) : Parts strict src i j [] (i + c) (j + c)
  | cons {i j c x y n m : Nat} {group : List Op} {groups : List (List Op)} (h : Same src i j c)
      (hgroup : Script (Op.Stands strict src) (i + c) (j + c) group x y) (hne : group ≠ [])
      (hgroups : Parts strict src x y groups n m) : Parts strict src i j (group :: groups) n m

theorem Parts.skip (h : Same src i j c) (hgroups : Parts strict src (i + c) (j + c) groups n m) :
    Parts strict src i j groups n m := by
  cases hgroups with
  | nil h' =>
      rw [Nat.add_assoc, Nat.add_assoc]
      exact .nil (h.append h')
  | cons h' hgroup hne hgroups =>
      rw [Nat.add_assoc, Nat.add_assoc] at hgroup
      exact .cons (h.append h') hgroup hne hgroups

theorem Op.Stands.eq_equal (h : op.Stands strict src i j) (hkind : op.kind = .equal) :
    ∃ a, op = .equal i j a ∧ 0 < a ∧ Same src i j a := by
  cases h with
  | equal ha hsame => exact ⟨_, rfl, ha, hsame⟩
  | delete => cases hkind
  | insert => cases hkind
  | replace => cases hkind

theorem exists_cut {a : Nat} (ha : 0 < a) : ∃ k r, a = k + r ∧ 0 < r ∧ a - radius = k := by
  refine ⟨a - radius, a - (a - radius), ?_, ?_, rfl⟩
  · omega
  · rw [radius]
    omega

theorem stands_cutFront (strict : Bool) {k r : Nat} (hr : 0 < r) (h : Same src i j (k + r)) :
    ((Op.equal i j (k + r)).moveDown k).shrink k = .equal (i + k) (j + k) r ∧
      Op.Stands strict src (i + k) (j + k) (.equal (i + k) (j + k) r) := by
  have hdrop := h.drop (Nat.le_add_right k r)
  rw [Nat.add_sub_cancel_left] at hdrop
  refine ⟨?_, .equal hr hdrop⟩
  rw [Op.shrink_moveDown_equal, Nat.add_sub_cancel_left]

theorem stands_cutBack (strict : Bool) {k r : Nat} (hr : 0 < r) (h : Same src i j (k + r)) :
    (Op.equal i j (k + r)).shrink k = .equal i j r ∧
      Op.Stands strict src i j (.equal i j r) := by
  refine ⟨?_, .equal hr (h.take (Nat.le_add_left r k))⟩
  rw [Nat.add_comm, Op.shrink_equal]

theorem Parts.le (h : Parts strict src i j groups n m) : i ≤ n ∧ j ≤ m := by
  induction h with
  | nil => exact ⟨Nat.le_add_right _ _, Nat.le_add_right _ _⟩
  | cons _ hgroup _ _ ih =>
      have hle := hgroup.le
      omega

theorem exists_trimFirst (h : Script (Op.Stands strict src) i j ops n m) :
    ∃ c, Same src i j c ∧ Script (Op.Stands strict src) (i + c) (j + c) (trimFirst ops) n m := by
  cases h with
  | nil => exact ⟨0, same_zero _ _ _, .nil⟩
  | cons hop hops =>
      rw [trimFirst]
      split
      next hkind =>
        obtain ⟨a, rfl, ha, hsame⟩ := hop.eq_equal hkind
        obtain ⟨k, r, rfl, hr, hk⟩ := exists_cut ha
        obtain ⟨hcut, hstands⟩ := stands_cutFront strict hr hsame
        have hcount : (Op.equal i j (k + r)).oldCount - radius = k := hk
        simp only [hcount, hcut]
        refine ⟨k, hsame.take (Nat.le_add_right k r), .cons hstands ?_⟩
        simp only [Op.equal, Nat.add_assoc]
        exact hops
      next => exact ⟨0, same_zero _ _ _, .cons hop hops⟩

theorem exists_trimLast (h : Script (Op.Stands strict src) i j ops n m) :
    ∃ x y c, Script (Op.Stands strict src) i j (trimLast ops) x y ∧ Same src x y c ∧ n = x + c ∧
      m = y + c := by
  induction h with
  | @nil i j => exact ⟨i, j, 0, .nil, same_zero _ _ _, rfl, rfl⟩
  | @cons i j n m op ops hop hops ih =>
      cases hops with
      | cons hop' hops' =>
          obtain ⟨x, y, c, hscript, hsame, rfl, rfl⟩ := ih
          exact ⟨x, y, c, .cons hop hscript, hsame, rfl, rfl⟩
      | nil =>
          rw [trimLast]
          split
          next hkind =>
            obtain ⟨a, rfl, ha, hsame⟩ := hop.eq_equal hkind
            obtain ⟨k, r, rfl, hr, hk⟩ := exists_cut ha
            obtain ⟨hcut, hstands⟩ := stands_cutBack strict hr hsame
            have hcount : (Op.equal i j (k + r)).oldCount - radius = k := hk
            have hdrop := hsame.drop (Nat.le_add_left r k)
            rw [Nat.add_sub_cancel] at hdrop
            rw [hcount, hcut]
            refine ⟨_, _, k, script_singleton hstands, hdrop, ?_, ?_⟩
            · simp only [Op.equal]
              omega
            · simp only [Op.equal]
              omega
          next => exact ⟨_, _, 0, script_singleton hop, same_zero _ _ _, rfl, rfl⟩

theorem parts_split (hgroup : Script (Op.Stands strict src) i j group.reverse x y)
    (hops : Script (Op.Stands strict src) x y ops n m) (hrest : Same src n m c) :
    Parts strict src i j (split group ops) (n + c) (m + c) := by
  induction hops generalizing group i j with
  | nil =>
      rw [split]
      split
      next hkept =>
        -- a last part of nothing but kept lines makes no hunk
        cases group with
        | nil =>
            cases hgroup
            exact .nil hrest
        | cons op group =>
            simp only [List.isEmpty_cons, Bool.false_or, Bool.and_eq_true, decide_eq_true_eq,
              List.length_cons, Nat.add_eq_right, List.length_eq_zero_iff, List.all_cons] at hkept
            obtain ⟨rfl, hkind, -⟩ := hkept
            cases hgroup with
            | cons hop hnil =>
                cases hnil
                obtain ⟨a, rfl, -, hsame⟩ := hop.eq_equal hkind
                exact .skip hsame (.nil hrest)
      next hkept =>
        have hne : group.reverse ≠ [] := by
          rw [ne_eq, List.reverse_eq_nil_iff]
          rintro rfl
          exact hkept rfl
        exact .cons (same_zero _ _ _) hgroup hne (.nil hrest)
  | @cons x y n m op ops hop hops ih =>
      rw [split]
      split
      next hlong =>
        rw [Bool.and_eq_true, decide_eq_true_eq, decide_eq_true_eq] at hlong
        obtain ⟨a, rfl, ha, hsame⟩ := hop.eq_equal hlong.1
        obtain ⟨k, r, rfl, hr, hk⟩ := exists_cut ha
        have hcount : (Op.equal x y (k + r)).oldCount - radius = k := hk
        obtain ⟨hback, hstands⟩ := stands_cutBack strict hr hsame
        obtain ⟨hfront, hstands'⟩ := stands_cutFront strict hr hsame
        simp only [hcount, hback, hfront]
        -- the kept step is long enough for `r` lines at either end, with `k - r` between them
        have hrk : r ≤ k := by
          have hlong := hlong.2
          simp only [Op.equal, radius] at hlong hk
          omega
        have hgroup' : Script (Op.Stands strict src) i j (.equal x y r :: group).reverse (x + r)
            (y + r) := by
          rw [List.reverse_cons]
          exact hgroup.append (script_singleton hstands)
        have hgap : Same src (x + r) (y + r) (k - r) :=
          (hsame.take (Nat.le_add_right k r)).drop hrk
        have hnext : Script (Op.Stands strict src) (x + k) (y + k) [.equal (x + k) (y + k) r]
            (x + (k + r)) (y + (k + r)) := by
          rw [← Nat.add_assoc, ← Nat.add_assoc]
          exact script_singleton hstands'
        refine .cons (same_zero _ _ _) hgroup' (by simp) (.skip hgap ?_)
        rw [Nat.add_assoc, Nat.add_assoc, Nat.add_sub_cancel' hrk]
        exact ih hnext hrest
      next =>
        refine ih ?_ hrest
        rw [List.reverse_cons]
        exact hgroup.append (script_singleton hop)

theorem parts_hunks (h : Script (Op.Stands strict src) i j ops n m) :
    Parts strict src i j (hunks ops) n m := by
  obtain ⟨c, hfirst, h⟩ := exists_trimFirst h
  obtain ⟨x, y, c', hsteps, hlast, rfl, rfl⟩ := exists_trimLast h
  exact .skip hfirst (parts_split .nil hsteps hlast)

/-- The old lines among changes: those that are kept and those that are deleted. -/
def oldLines (changes : List Change) : List Text :=
  (changes.filter (·.mark ≠ .inserted)).map (·.line)

/-- The new lines among changes: those that are kept and those that are inserted. -/
def newLines (changes : List Change) : List Text :=
  (changes.filter (·.mark ≠ .deleted)).map (·.line)

theorem oldLines_append (changes changes' : List Change) :
    oldLines (changes ++ changes') = oldLines changes ++ oldLines changes' := by
  simp only [oldLines, List.filter_append, List.map_append]

theorem newLines_append (changes changes' : List Change) :
    newLines (changes ++ changes') = newLines changes ++ newLines changes' := by
  simp only [newLines, List.filter_append, List.map_append]

theorem lines_of_marked (test : Mark → Bool) (mark : Mark) (texts : List Text) :
    ((texts.map fun line => (⟨mark, line⟩ : Change)).filter fun c => test c.mark).map (·.line) =
      if test mark then texts else [] := by
  induction texts with
  | nil => simp
  | cons text texts ih =>
      rw [List.map_cons, List.filter_cons]
      cases h : test mark with
      | true => simpa [h] using ih
      | false => simp [h]

theorem oldLines_runLines (lines : Array Text) (start count : Nat) (mark : Mark) :
    oldLines (runLines lines start count mark) =
      if mark ≠ .inserted then (lines.toList.drop start).take count else [] := by
  have h := lines_of_marked (fun mark => mark ≠ .inserted) mark
    ((lines.toList.drop start).take count)
  simp only [decide_eq_true_eq] at h
  exact h

theorem newLines_runLines (lines : Array Text) (start count : Nat) (mark : Mark) :
    newLines (runLines lines start count mark) =
      if mark ≠ .deleted then (lines.toList.drop start).take count else [] := by
  have h := lines_of_marked (fun mark => mark ≠ .deleted) mark
    ((lines.toList.drop start).take count)
  simp only [decide_eq_true_eq] at h
  exact h

theorem Same.take_eq (h : Same src i j n) :
    (src.old.toList.drop i).take n = (src.new.toList.drop j).take n := by
  refine List.ext_getElem? fun p => ?_
  rw [List.getElem?_take, List.getElem?_take]
  split
  next hp =>
    obtain ⟨line, hold, hnew⟩ := h p hp
    rw [List.getElem?_drop, List.getElem?_drop, Array.getElem?_toList, Array.getElem?_toList, hold,
      hnew]
  next => rfl

theorem Op.Stands.lines (h : op.Stands strict src i j) :
    oldLines (op.changes src) = (src.old.toList.drop i).take op.oldCount ∧
      newLines (op.changes src) = (src.new.toList.drop j).take op.newCount := by
  cases h with
  | @equal a ha hsame =>
      have hchanges : (Op.equal i j a).changes src = runLines src.old i a .kept := rfl
      rw [hchanges, oldLines_runLines, newLines_runLines]
      exact ⟨rfl, hsame.take_eq⟩
  | @delete a j' ha hj =>
      have hchanges : (Op.delete i a j').changes src =
          runLines src.old i a .deleted ++ runLines src.new j' 0 .inserted := rfl
      rw [hchanges, oldLines_append, newLines_append]
      simp only [oldLines_runLines, newLines_runLines]
      exact ⟨List.append_nil _, rfl⟩
  | @insert a i' ha hi =>
      have hchanges : (Op.insert i' j a).changes src =
          runLines src.old i' 0 .deleted ++ runLines src.new j a .inserted := rfl
      rw [hchanges, oldLines_append, newLines_append]
      simp only [oldLines_runLines, newLines_runLines]
      exact ⟨rfl, rfl⟩
  | @replace a b ha hb =>
      have hchanges : (⟨.replace, i, a, j, b⟩ : Op).changes src =
          runLines src.old i a .deleted ++ runLines src.new j b .inserted := rfl
      rw [hchanges, oldLines_append, newLines_append]
      simp only [oldLines_runLines, newLines_runLines]
      exact ⟨List.append_nil _, rfl⟩

theorem Script.lines (h : Script (Op.Stands strict src) i j ops n m) (hn : n ≤ src.old.size)
    (hm : m ≤ src.new.size) :
    (src.old.toList.drop i = oldLines (ops.flatMap (Op.changes src)) ++ src.old.toList.drop n ∧
        i + (oldLines (ops.flatMap (Op.changes src))).length = n) ∧
      src.new.toList.drop j = newLines (ops.flatMap (Op.changes src)) ++ src.new.toList.drop m ∧
        j + (newLines (ops.flatMap (Op.changes src))).length = m := by
  induction h with
  | nil => exact ⟨⟨rfl, rfl⟩, rfl, rfl⟩
  | cons hop hops ih =>
      obtain ⟨⟨hold, holdlen⟩, hnew, hnewlen⟩ := ih hn hm
      obtain ⟨hopold, hopnew⟩ := hop.lines
      obtain ⟨hi, hj⟩ := hops.le
      -- the step takes its lines off the front, and the others are those of the steps behind it
      rw [List.flatMap_cons, oldLines_append, newLines_append, hopold, hopnew, List.append_assoc,
        List.append_assoc, ← hold, ← hnew, ← List.drop_drop, ← List.drop_drop,
        List.take_append_drop, List.take_append_drop, List.length_append, List.length_append,
        List.length_take_of_le, List.length_take_of_le, ← Nat.add_assoc, ← Nat.add_assoc]
      · exact ⟨⟨rfl, holdlen⟩, rfl, hnewlen⟩
      · rw [List.length_drop, Array.length_toList]
        omega
      · rw [List.length_drop, Array.length_toList]
        omega

def FirstIs (mark : Mark) (changes : List Change) : Prop :=
  ∃ c, changes.head? = some c ∧ c.mark = mark

def LastIs (mark : Mark) (changes : List Change) : Prop :=
  ∃ c, changes.getLast? = some c ∧ c.mark = mark

/-- The header names the places of the hunk, which begins at the old line `i` and at the new line
`j`. If not `strict`, it may be wrong about the beginning or the end of those lines of which none
stands there. -/
structure Hunk.Named (strict : Bool) (i j : Nat) (h : Hunk) : Prop where
  oldStart : h.oldStart = i ∨ strict = false ∧ FirstIs .inserted h.changes
  newStart : h.newStart = j ∨ strict = false ∧ FirstIs .deleted h.changes
  oldStop : h.oldStop = i + (oldLines h.changes).length ∨
    strict = false ∧ LastIs .inserted h.changes
  newStop : h.newStop = j + (newLines h.changes).length ∨
    strict = false ∧ LastIs .deleted h.changes

/-- There are changes, and all of them came about in one way. -/
def AllAre (mark : Mark) (changes : List Change) : Prop :=
  changes ≠ [] ∧ ∀ c ∈ changes, c.mark = mark

theorem AllAre.first {mark : Mark} {changes : List Change} (h : AllAre mark changes)
    (rest : List Change) : FirstIs mark (changes ++ rest) := by
  obtain ⟨c, changes, rfl⟩ := List.exists_cons_of_ne_nil h.1
  exact ⟨c, rfl, h.2 c List.mem_cons_self⟩

theorem AllAre.last {mark : Mark} {changes : List Change} (h : AllAre mark changes)
    (front : List Change) : LastIs mark (front ++ changes) := by
  have hlast := List.getLast?_eq_some_getLast h.1
  refine ⟨_, ?_, h.2 _ (List.mem_of_getLast? hlast)⟩
  rw [List.getLast?_append, hlast, Option.some_or]

theorem allAre_runLines {lines : Array Text} {start count : Nat} (hpos : 0 < count)
    (hle : start + count ≤ lines.size) (mark : Mark) :
    AllAre mark (runLines lines start count mark) := by
  refine ⟨fun hnil => ?_, fun c hc => ?_⟩
  · have hlength := congrArg List.length hnil
    rw [runLines, List.length_map, List.length_take, List.length_drop, Array.length_toList,
      List.length_nil] at hlength
    omega
  · obtain ⟨line, -, rfl⟩ := List.mem_map.mp hc
    rfl

theorem Op.Stands.oldStart (h : op.Stands strict src i j)
    (hle : j + op.newCount ≤ src.new.size) :
    op.oldStart = i ∨ strict = false ∧ AllAre .inserted (op.changes src) := by
  cases h with
  | equal | delete | replace => exact .inl rfl
  | insert ha hi =>
      cases strict with
      | true => exact .inl (hi rfl)
      | false => exact .inr ⟨rfl, allAre_runLines ha hle _⟩

theorem Op.Stands.newStart (h : op.Stands strict src i j)
    (hle : i + op.oldCount ≤ src.old.size) :
    op.newStart = j ∨ strict = false ∧ AllAre .deleted (op.changes src) := by
  cases h with
  | equal | insert | replace => exact .inl rfl
  | @delete a j' ha hj =>
      cases strict with
      | true => exact .inl (hj rfl)
      | false =>
          have hchanges : (Op.delete i a j').changes src = runLines src.old i a .deleted :=
            List.append_nil _
          exact .inr ⟨rfl, hchanges ▸ allAre_runLines ha hle _⟩

theorem names_first {first : Op} {rest : List Op}
    (h : Script (Op.Stands strict src) i j (first :: rest) n m) (hn : n ≤ src.old.size)
    (hm : m ≤ src.new.size) :
    let changes := (first :: rest).flatMap (Op.changes src)
    (first.oldStart = i ∨ strict = false ∧ FirstIs .inserted changes) ∧
      (first.newStart = j ∨ strict = false ∧ FirstIs .deleted changes) := by
  cases h with
  | cons hfirst hrest =>
      obtain ⟨hi, hj⟩ := hrest.le
      constructor
      · exact (hfirst.oldStart (by omega)).imp_right (And.imp_right fun h => h.first _)
      · exact (hfirst.newStart (by omega)).imp_right (And.imp_right fun h => h.first _)

theorem names_last {last : Op} {front : List Op}
    (h : Script (Op.Stands strict src) i j (front ++ [last]) n m) (hn : n ≤ src.old.size)
    (hm : m ≤ src.new.size) :
    let changes := (front ++ [last]).flatMap (Op.changes src)
    (last.oldStop = n ∨ strict = false ∧ LastIs .inserted changes) ∧
      (last.newStop = m ∨ strict = false ∧ LastIs .deleted changes) := by
  obtain ⟨x, y, -, h⟩ := script_append_iff.mp h
  have hchanges : (front ++ [last]).flatMap (Op.changes src) =
      front.flatMap (Op.changes src) ++ last.changes src := by
    rw [List.flatMap_append, List.flatMap_singleton]
  rw [hchanges]
  cases h with
  | cons hlast hnil =>
      cases hnil
      constructor
      · refine (hlast.oldStart hm).imp (fun h => ?_) (And.imp_right fun h => h.last _)
        rw [Op.oldStop, h]
      · refine (hlast.newStart hn).imp (fun h => ?_) (And.imp_right fun h => h.last _)
        rw [Op.newStop, h]

theorem exists_hunk (hgroup : Script (Op.Stands strict src) i j group n m) (hne : group ≠ [])
    (hn : n ≤ src.old.size) (hm : m ≤ src.new.size) :
    ∃ h, Hunk.ofOps? src group = some h ∧ h.changes = group.flatMap (Op.changes src) ∧
      h.Named strict i j := by
  obtain ⟨⟨-, hold⟩, -, hnew⟩ := hgroup.lines hn hm
  have hlast? := List.getLast?_eq_some_getLast hne
  obtain ⟨front, hfront⟩ := List.getLast?_eq_some_iff.mp hlast?
  generalize group.getLast hne = last at hlast? hfront
  obtain ⟨holdStop, hnewStop⟩ := names_last (hfront ▸ hgroup) hn hm
  rw [← hfront] at holdStop hnewStop
  obtain ⟨first, rest, rfl⟩ := List.exists_cons_of_ne_nil hne
  obtain ⟨holdStart, hnewStart⟩ := names_first hgroup hn hm
  refine ⟨⟨first.oldStart, last.oldStop, first.newStart, last.newStop,
    (first :: rest).flatMap (Op.changes src)⟩, ?_, rfl, ⟨holdStart, hnewStart, ?_, ?_⟩⟩
  · rw [Hunk.ofOps?, hlast?]
    rfl
  · rwa [hold]
  · rwa [hnew]

/-- The hunks change the lines `a`, the first of which is line `i`, to the lines `b`, the first of
which is line `j`. The lines before, between and behind the hunks stay. -/
inductive Replays (strict : Bool) : Nat → Nat → List Text → List Text → List Hunk → Prop
  | nil {i j : Nat} {a : List Text} : Replays strict i j a a []
  | cons {i j : Nat} {kept a b : List Text} {h : Hunk} {hs : List Hunk}
      (hnamed : h.Named strict (i + kept.length) (j + kept.length))
      (hrest : Replays strict (i + kept.length + (oldLines h.changes).length)
        (j + kept.length + (newLines h.changes).length) a b hs) :
      Replays strict i j (kept ++ oldLines h.changes ++ a) (kept ++ newLines h.changes ++ b)
        (h :: hs)

theorem replays_of_parts (h : Parts strict src i j groups n m) (hn : n = src.old.size)
    (hm : m = src.new.size) :
    Replays strict i j (src.old.toList.drop i) (src.new.toList.drop j)
      (groups.filterMap (Hunk.ofOps? src)) := by
  induction h with
  | @nil i j c h =>
      have hold : (src.old.toList.drop i).take c = src.old.toList.drop i := by
        rw [List.take_of_length_le]
        rw [List.length_drop, Array.length_toList]
        omega
      have hnew : (src.new.toList.drop j).take c = src.new.toList.drop j := by
        rw [List.take_of_length_le]
        rw [List.length_drop, Array.length_toList]
        omega
      rw [← hold, ← hnew, h.take_eq]
      exact .nil
  | @cons i j c x y n m group groups h hgroup hne hgroups ih =>
      obtain ⟨hx, hy⟩ := hgroups.le
      obtain ⟨hunk, hofOps, hchanges, hnamed⟩ := exists_hunk hgroup hne (hn ▸ hx) (hm ▸ hy)
      obtain ⟨⟨hold, hx'⟩, hnew, hy'⟩ := hgroup.lines (hn ▸ hx) (hm ▸ hy)
      rw [← hchanges] at hold hnew hx' hy'
      have hlength : ((src.old.toList.drop i).take c).length = c := by
        have hle := hgroup.le.1
        rw [List.length_take_of_le]
        rw [List.length_drop, Array.length_toList]
        omega
      have hrest := ih hn hm
      rw [List.filterMap_cons_some hofOps, ← List.take_append_drop c (src.old.toList.drop i),
        ← List.take_append_drop c (src.new.toList.drop j), List.drop_drop, List.drop_drop, hold,
        hnew, ← h.take_eq, ← List.append_assoc, ← List.append_assoc]
      refine .cons ?_ ?_
      · rwa [hlength]
      · rwa [hlength, hx', hy']

/-- Replays hunks on lines, the first of which is line `i`, at the places that their headers
name. -/
def replay (i : Nat) : List Hunk → List Text → List Text
  | [], a => a
  | h :: hs, a =>
      a.take (h.oldStart - i) ++ newLines h.changes ++ replay h.oldStop hs (a.drop (h.oldStop - i))

theorem Replays.replay_eq {a b : List Text} {hs : List Hunk} (h : Replays true i j a b hs) :
    replay i hs a = b := by
  induction h with
  | nil => rfl
  | @cons i j kept a b hunk hs hnamed _ ih =>
      have hstart := hnamed.oldStart.resolve_right fun h => nomatch h.1
      have hstop := hnamed.oldStop.resolve_right fun h => nomatch h.1
      have htake : (kept ++ oldLines hunk.changes ++ a).take kept.length = kept := by
        rw [List.append_assoc, List.take_left]
      have hdrop : (kept ++ oldLines hunk.changes ++ a).drop
          (kept.length + (oldLines hunk.changes).length) = a := by
        rw [← List.length_append, List.drop_left]
      rw [replay, hstart, hstop, Nat.add_sub_cancel_left, Nat.add_assoc, Nat.add_sub_cancel_left,
        htake, hdrop, ← Nat.add_assoc, ih]

def Source.between (old new : Text) : Source where
  old := (lines old).toArray
  new := (lines new).toArray

/-- The steps whose changes are shown. -/
def stepsBetween (old new : Text) : List Op :=
  let src := Source.between old new
  tidy src (shortScript src.old src.new)

/-- Every step says truly where it stands in the old and in the new lines. -/
def IsExact (old new : Text) : Prop :=
  let src := Source.between old new
  Script (Op.Stands true src) 0 0 (stepsBetween old new) src.old.size src.new.size

theorem replays_of_script {old new : Text}
    (h : Script (Op.Stands strict (.between old new)) 0 0 (stepsBetween old new)
      (lines old).toArray.size (lines new).toArray.size) :
    Replays strict 0 0 (lines old) (lines new) (hunksBetween old new) :=
  replays_of_parts (parts_hunks h) rfl rfl

theorem replays_hunksBetween (old new : Text) :
    Replays false 0 0 (lines old) (lines new) (hunksBetween old new) :=
  replays_of_script (script_tidy _)

end AnchorPatch.Diff
