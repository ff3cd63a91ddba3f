import AnchorPatch.Diff.Tidy
import AnchorPatch.Proofs.Diff.Meeting

namespace AnchorPatch.Diff

variable {src : Source} {i j n m x y : Nat} {op : Op} {ops ops' : List Op}
  {P Q : Nat → Nat → Op → Prop}

/-- The `n` old lines from `i` on are the `n` new lines from `j` on. -/
def Same (src : Source) (i j n : Nat) : Prop :=
  ∀ p < n, ∃ line, src.old[i + p]? = some line ∧ src.new[j + p]? = some line

theorem same_zero (src : Source) (i j : Nat) : Same src i j 0 :=
  fun _ hp => absurd hp (Nat.not_lt_zero _)

theorem Same.append (h : Same src i j n) (h' : Same src (i + n) (j + n) m) :
    Same src i j (n + m) := by
  intro p hp
  by_cases hpn : p < n
  · exact h p hpn
  · obtain ⟨q, rfl⟩ := Nat.exists_eq_add_of_le (Nat.not_lt.mp hpn)
    rw [← Nat.add_assoc, ← Nat.add_assoc]
    exact h' q (by omega)

theorem Same.take (h : Same src i j n) (hm : m ≤ n) : Same src i j m :=
  fun p hp => h p (Nat.lt_of_lt_of_le hp hm)

theorem Same.drop (h : Same src i j n) (hm : m ≤ n) : Same src (i + m) (j + m) (n - m) := by
  intro p hp
  rw [Nat.add_assoc, Nat.add_assoc]
  exact h (m + p) (by omega)

theorem same_commonFrom (src : Source) (n i j : Nat) :
    Same src i j (commonFrom src.old src.new n i j) := by
  induction n generalizing i j with
  | zero => exact same_zero _ _ _
  | succ n ih =>
      unfold commonFrom
      split
      next a b ha hb =>
        split
        next hab =>
          subst hab
          have hfirst : Same src i j 1 := by
            intro p hp
            obtain rfl : p = 0 := by omega
            exact ⟨a, ha, hb⟩
          rw [Nat.add_comm]
          exact hfirst.append (ih _ _)
        next => exact same_zero _ _ _
      next => exact same_zero _ _ _

theorem same_commonBefore (src : Source) (n i j : Nat) :
    commonBefore src.old src.new n i j ≤ i ∧ commonBefore src.old src.new n i j ≤ j ∧
      Same src (i - commonBefore src.old src.new n i j) (j - commonBefore src.old src.new n i j)
        (commonBefore src.old src.new n i j) := by
  have hnone (i j : Nat) : 0 ≤ i ∧ 0 ≤ j ∧ Same src (i - 0) (j - 0) 0 :=
    ⟨Nat.zero_le _, Nat.zero_le _, same_zero _ _ _⟩
  induction n generalizing i j with
  | zero => exact hnone i j
  | succ n ih =>
      unfold commonBefore
      split
      next n' i j hn =>
        obtain rfl := Nat.succ.inj hn
        split
        next a b ha hb =>
          split
          next hab =>
            subst hab
            obtain ⟨hi, hj, hsame⟩ := ih i j
            have hlast : Same src i j 1 := by
              intro p hp
              obtain rfl : p = 0 := by omega
              exact ⟨a, ha, hb⟩
            refine ⟨Nat.succ_le_succ hi, Nat.succ_le_succ hj, ?_⟩
            rw [Nat.succ_eq_add_one, Nat.succ_eq_add_one, Nat.add_sub_add_right,
              Nat.add_sub_add_right]
            -- the step back is about the last line, and `ih` about those before it
            refine hsame.append ?_
            rwa [Nat.sub_add_cancel hi, Nat.sub_add_cancel hj]
          next => exact hnone ..
        next => exact hnone ..
      next => exact hnone ..

theorem same_commonFront (src : Source) (i j n m : Nat) :
    Same src i j (Run.commonFront ⟨src.old, i, n⟩ ⟨src.new, j, m⟩) :=
  same_commonFrom src _ i j

theorem same_commonBack (src : Source) (i j n m : Nat) :
    Same src (n - Run.commonBack ⟨src.old, i, n⟩ ⟨src.new, j, m⟩)
      (m - Run.commonBack ⟨src.old, i, n⟩ ⟨src.new, j, m⟩)
      (Run.commonBack ⟨src.old, i, n⟩ ⟨src.new, j, m⟩) :=
  (same_commonBefore src _ n m).2.2

/-- Steps one behind another, each of which is as `P` asks at the place that it starts from. -/
inductive Script (P : Nat → Nat → Op → Prop) : Nat → Nat → List Op → Nat → Nat → Prop
  | nil {i j : Nat} : Script P i j [] i j
  | cons {i j n m : Nat} {op : Op} {ops : List Op} (hop : P i j op)
      (hops : Script P (i + op.oldCount) (j + op.newCount) ops n m) : Script P i j (op :: ops) n m

theorem script_singleton (h : P i j op) :
    Script P i j [op] (i + op.oldCount) (j + op.newCount) := .cons h .nil

theorem Script.le (h : Script P i j ops n m) : i ≤ n ∧ j ≤ m := by
  induction h with
  | nil => exact ⟨Nat.le_refl _, Nat.le_refl _⟩
  | cons _ _ ih => exact ⟨Nat.le_of_add_right_le ih.1, Nat.le_of_add_right_le ih.2⟩

theorem script_append_iff :
    Script P i j (ops ++ ops') n m ↔ ∃ x y, Script P i j ops x y ∧ Script P x y ops' n m := by
  constructor
  · intro h
    induction ops generalizing i j with
    | nil => exact ⟨i, j, .nil, h⟩
    | cons op ops ih =>
        cases h with
        | cons hop hops =>
            obtain ⟨x, y, hfirst, hrest⟩ := ih hops
            exact ⟨x, y, .cons hop hfirst, hrest⟩
  · rintro ⟨x, y, hfirst, hrest⟩
    induction hfirst with
    | nil => exact hrest
    | cons hop _ ih => exact .cons hop (ih hrest)

theorem Script.append (h : Script P i j ops x y) (h' : Script P x y ops' n m) :
    Script P i j (ops ++ ops') n m :=
  script_append_iff.mpr ⟨x, y, h, h'⟩

/-- A step that keeps, deletes or inserts some lines and says truly where these lines are. Where a
deletion happens in the new lines, and an insertion in the old ones, is not said. -/
inductive Op.Plain (src : Source) (i j : Nat) : Op → Prop
  | equal {n : Nat} (hn : 0 < n) (h : Same src i j n) : Plain src i j (.equal i j n)
  | delete {n j' : Nat} (hn : 0 < n) : Plain src i j (.delete i n j')
  | insert {n i' : Nat} (hn : 0 < n) : Plain src i j (.insert i' j n)

theorem script_keep (h : Same src i j n) :
    Script (Op.Plain src) i j (keep i j n) (i + n) (j + n) := by
  unfold keep
  split
  next hn =>
    subst hn
    exact .nil
  next hn => exact script_singleton (.equal (Nat.pos_of_ne_zero hn) h)

theorem script_exchange (hi : i ≤ n) (hj : j ≤ m) :
    Script (Op.Plain src) i j (exchange ⟨src.old, i, n⟩ ⟨src.new, j, m⟩) n m := by
  have hdelete : Script (Op.Plain src) i j
      (if n - i = 0 then [] else [.delete i (n - i) j]) n j := by
    split
    next hn =>
      obtain rfl : i = n := by omega
      exact .nil
    next hn =>
      have hstep : Op.Plain src i j (.delete i (n - i) j) := .delete (Nat.pos_of_ne_zero hn)
      have hscript := script_singleton hstep
      rwa [Op.delete, Nat.add_sub_cancel' hi] at hscript
  have hinsert : Script (Op.Plain src) n j
      (if m - j = 0 then [] else [.insert i j (m - j)]) n m := by
    split
    next hm =>
      obtain rfl : j = m := by omega
      exact .nil
    next hm =>
      have hstep : Op.Plain src n j (.insert i j (m - j)) := .insert (Nat.pos_of_ne_zero hm)
      have hscript := script_singleton hstep
      rwa [Op.insert, Nat.add_sub_cancel' hj] at hscript
  exact hdelete.append hinsert

/-- The steps between two runs lead over both of them. -/
def LeadsOver (src : Source) (steps : Run → Run → List Op) : Prop :=
  ∀ i j n m, i ≤ n → j ≤ m →
    Script (Op.Plain src) i j (steps ⟨src.old, i, n⟩ ⟨src.new, j, m⟩) n m

theorem leadsOver_between {recurse : Run → Run → List Op} (h : LeadsOver src recurse) :
    LeadsOver src (scriptBetween recurse) := by
  intro i j n m hi hj
  unfold scriptBetween
  split
  next => exact script_exchange hi hj
  next =>
    split
    next x y hmeet =>
      -- both halves are runs, because the ways meet inside
      obtain ⟨hx, hy⟩ := meeting_le hmeet
      simp only [Run.length] at hx hy
      exact (h i j (i + x) (j + y) (by omega) (by omega)).append
        (h (i + x) (j + y) n m (by omega) (by omega))
    next => exact script_exchange hi hj

theorem leadsOver_runs (fuel : Nat) : LeadsOver src (scriptOfRuns fuel) := by
  induction fuel with
  | zero => exact fun i j n m hi hj => script_exchange hi hj
  | succ fuel ih =>
      intro i j n m hi hj
      have hfront := same_commonFront src i j n m
      obtain ⟨hi', hj'⟩ := Run.commonFront_le ⟨src.old, i, n⟩ ⟨src.new, j, m⟩
      unfold scriptOfRuns
      generalize Run.commonFront ⟨src.old, i, n⟩ ⟨src.new, j, m⟩ = x at hfront hi' hj' ⊢
      have hback := same_commonBack src (i + x) (j + x) n m
      obtain ⟨hn, hm⟩ := Run.commonBack_le ⟨src.old, i + x, n⟩ ⟨src.new, j + x, m⟩
      simp only [Run.dropFront]
      generalize Run.commonBack ⟨src.old, i + x, n⟩ ⟨src.new, j + x, m⟩ = y at hback hn hm ⊢
      simp only [Run.length] at hi' hj' hn hm
      have hlast := script_keep hback
      rw [Nat.sub_add_cancel (by omega), Nat.sub_add_cancel (by omega)] at hlast
      have hbetween := leadsOver_between ih (i + x) (j + x) (n - y) (m - y) (by omega) (by omega)
      exact ((script_keep hfront).append hbetween).append hlast

theorem script_shortScript (src : Source) :
    Script (Op.Plain src) 0 0 (shortScript src.old src.new) src.old.size src.new.size :=
  leadsOver_runs _ _ _ _ _ (Nat.zero_le _) (Nat.zero_le _)

end AnchorPatch.Diff
