import AnchorPatch.Proofs.Diff.Script

namespace AnchorPatch.Diff

variable {src : Source} {i j n m x y c : Nat} {op prev this next : Op}
  {ops before after : List Op} {fuel : Nat} {f : Focus}

theorem Op.kind_equal (i j n : Nat) : (Op.equal i j n).kind = .equal := rfl

theorem Op.kind_insert_ne (i j n : Nat) : (Op.insert i j n).kind ≠ .equal := nofun

theorem Op.grow_moveUp_equal (i j n c : Nat) :
    ((Op.equal (i + c) (j + c) n).moveUp c).grow c = .equal i j (n + c) := by
  simp only [moveUp, grow, equal, Nat.add_sub_cancel]

theorem Op.shrink_equal (i j n c : Nat) : (Op.equal i j (n + c)).shrink c = .equal i j n := by
  simp only [shrink, equal, Nat.add_sub_cancel]

theorem Op.shrink_moveDown_equal (i j n c : Nat) :
    ((Op.equal i j n).moveDown c).shrink c = .equal (i + c) (j + c) (n - c) := rfl

theorem Op.moveUp_insert (i j n c : Nat) :
    (Op.insert i (j + c) n).moveUp c = .insert (i - c) j n := by
  simp only [moveUp, insert, Nat.add_sub_cancel]

theorem script_consUnlessEmpty (h : Same src i j c)
    (hops : Script (Op.Plain src) (i + c) (j + c) ops n m) :
    Script (Op.Plain src) i j (consUnlessEmpty (.equal i j c) ops) n m := by
  cases c with
  | zero => exact hops
  | succ c => exact .cons (.equal (Nat.succ_pos c) h) hops

theorem script_reverse_cons (h : Script (Op.Plain src) x y before.reverse i j)
    (hop : op.Plain src i j) :
    Script (Op.Plain src) x y (op :: before).reverse (i + op.oldCount) (j + op.newCount) := by
  rw [List.reverse_cons]
  exact h.append (script_singleton hop)

theorem script_reverse_consUnlessEmpty (h : Script (Op.Plain src) x y before.reverse i j)
    (hsame : Same src i j c) :
    Script (Op.Plain src) x y (consUnlessEmpty (.equal i j c) before).reverse (i + c) (j + c) := by
  cases c with
  | zero => exact h
  | succ c => exact script_reverse_cons h (.equal (Nat.succ_pos c) hsame)

theorem exists_of_script_reverse_cons (h : Script (Op.Plain src) x y (op :: before).reverse n m) :
    ∃ i j, Script (Op.Plain src) x y before.reverse i j ∧ op.Plain src i j ∧
      n = i + op.oldCount ∧ m = j + op.newCount := by
  rw [List.reverse_cons] at h
  obtain ⟨i, j, hbefore, hlast⟩ := script_append_iff.mp h
  cases hlast with
  | cons hop hnil =>
      cases hnil
      exact ⟨i, j, hbefore, hop, rfl, rfl⟩

theorem script_keepBehind (hc : 0 < c) (h : Same src i j c)
    (hafter : Script (Op.Plain src) (i + c) (j + c) after n m) (hold : prev.oldStop = i + c)
    (hnew : this.newStop = j + c) :
    Script (Op.Plain src) i j (keepBehind prev this c after) n m := by
  have hkept : Op.Plain src i j (.equal (prev.oldStop - c) (this.newStop - c) c) := by
    rw [hold, hnew, Nat.add_sub_cancel, Nat.add_sub_cancel]
    exact .equal hc h
  cases hafter with
  | nil => exact script_singleton hkept
  | cons hnext hrest =>
      cases hnext with
      | @equal n hn hsame =>
          rw [keepBehind, if_pos (Op.kind_equal ..), Op.grow_moveUp_equal, Nat.add_comm]
          refine .cons (.equal (Nat.add_pos_left hc n) (h.append hsame)) ?_
          simp only [Op.equal, ← Nat.add_assoc]
          exact hrest
      | delete hn => exact .cons hkept (.cons (.delete hn) hrest)
      | insert hn => exact .cons hkept (.cons (.insert hn) hrest)

theorem script_keepAhead (hc : 0 < c) (h : Same src i j c)
    (hbefore : Script (Op.Plain src) x y before.reverse i j) (hold : next.oldStart = i)
    (hnew : this.newStart = j) :
    Script (Op.Plain src) x y (keepAhead this next c before).reverse (i + c) (j + c) := by
  have hkept : Op.Plain src i j (.equal next.oldStart this.newStart c) := by
    rw [hold, hnew]
    exact .equal hc h
  cases before with
  | nil => exact script_reverse_cons hbefore hkept
  | cons prev rest =>
      obtain ⟨i', j', hrest, hprev, rfl, rfl⟩ := exists_of_script_reverse_cons hbefore
      cases hprev with
      | @equal n hn hsame =>
          have hgrown : Op.Plain src i' j' (.equal i' j' (n + c)) :=
            .equal (Nat.add_pos_left hn c) (hsame.append h)
          have hscript := script_reverse_cons hrest hgrown
          simp only [Op.equal, ← Nat.add_assoc] at hscript
          exact hscript
      | delete hn => exact script_reverse_cons hbefore hkept
      | insert hn => exact script_reverse_cons hbefore hkept

/-- The steps around a focus lead over `n` old and `m` new lines, and the step in the middle is
none that keeps lines. -/
inductive Focus.Leads (src : Source) (n m : Nat) : Focus → Prop
  | mk {before after : List Op} {this : Op} {i j : Nat} (hkind : this.kind ≠ .equal)
      (hbefore : Script (Op.Plain src) 0 0 before.reverse i j) (hthis : this.Plain src i j)
      (hafter : Script (Op.Plain src) (i + this.oldCount) (j + this.newCount) after n m) :
      Leads src n m ⟨before, this, after⟩

theorem Op.Plain.eq_equal (h : op.Plain src i j) (hkind : op.kind = .equal) :
    ∃ a, op = .equal i j a ∧ Same src i j a := by
  cases h with
  | equal _ hsame => exact ⟨_, rfl, hsame⟩
  | delete => cases hkind
  | insert => cases hkind

theorem Op.Plain.eq_insert (h : op.Plain src i j) (hkind : op.kind = .insert) :
    ∃ i' b, op = .insert i' j b ∧ 0 < b := by
  cases h with
  | equal => cases hkind
  | delete => cases hkind
  | insert hn => exact ⟨_, _, rfl, hn⟩

theorem Op.Plain.not_isEmpty (h : op.Plain src i j) : ¬ op.isEmpty = true := by
  cases h with
  | equal hn => simp [isEmpty, Op.equal, Nat.ne_of_gt hn]
  | delete hn => simp [isEmpty, Op.delete, Nat.ne_of_gt hn]
  | insert hn => simp [isEmpty, Op.insert, Nat.ne_of_gt hn]

theorem exists_swap (hprev : prev.Plain src i j)
    (hthis : this.Plain src (i + prev.oldCount) (j + prev.newCount)) (hkept : prev.kind ≠ .equal)
    (hkind : this.kind ≠ .equal) (hne : prev.kind ≠ this.kind) :
    this.Plain src i j ∧ prev.Plain src (i + this.oldCount) (j + this.newCount) := by
  cases hprev with
  | equal => exact absurd rfl hkept
  | delete hn =>
      cases hthis with
      | equal => exact absurd rfl hkind
      | delete => exact absurd rfl hne
      | insert hm => exact ⟨.insert hm, .delete hn⟩
  | insert hn =>
      cases hthis with
      | equal => exact absurd rfl hkind
      | delete hm => exact ⟨.delete hm, .insert hn⟩
      | insert => exact absurd rfl hne

theorem plain_grow (hprev : prev.Plain src i j)
    (hthis : this.Plain src (i + prev.oldCount) (j + prev.newCount)) (hkind : this.kind ≠ .equal)
    (heq : prev.kind = this.kind) :
    let joined := prev.grow (this.oldCount + this.newCount)
    joined.Plain src i j ∧ joined.kind = prev.kind ∧
      joined.oldCount = prev.oldCount + this.oldCount ∧
      joined.newCount = prev.newCount + this.newCount := by
  cases hprev with
  | equal => exact absurd heq.symm hkind
  | @delete a j' ha =>
      cases hthis with
      | equal => cases heq
      | insert => cases heq
      | @delete b j'' hb =>
          have hjoined : Op.Plain src i j (.delete i (a + b) j') := .delete (Nat.add_pos_left ha b)
          exact ⟨hjoined, rfl, rfl, rfl⟩
  | @insert a i' ha =>
      cases hthis with
      | equal => cases heq
      | delete => cases heq
      | @insert b i'' hb =>
          have hjoined : Op.Plain src i j (.insert i' j (a + b)) := .insert (Nat.add_pos_left ha b)
          refine ⟨?_, rfl, rfl, ?_⟩
          · simpa only [Op.grow, Op.insert, Nat.zero_add] using hjoined
          · simp only [Op.grow, Op.insert, Nat.zero_add]

theorem same_oldRun_commonBack {a b i' k : Nat}
    (hc : c = (src.oldRun (.equal i j a)).commonBack (src.newRun (.insert i' k b))) :
    c ≤ a ∧ Same src (i + a - c) (k + b - c) c := by
  have hle := (Run.commonBack_le ⟨src.old, i, i + a⟩ ⟨src.new, k, k + b⟩).1
  rw [Run.length, Nat.add_sub_cancel_left] at hle
  exact hc ▸ ⟨hle, same_commonBack src i k (i + a) (k + b)⟩

theorem same_oldRun_commonFront {a b i' k : Nat}
    (hc : c = (src.oldRun (.equal i j a)).commonFront (src.newRun (.insert i' k b))) :
    c ≤ a ∧ Same src i k c := by
  have hle := (Run.commonFront_le ⟨src.old, i, i + a⟩ ⟨src.new, k, k + b⟩).1
  rw [Run.length, Nat.add_sub_cancel_left] at hle
  exact hc ▸ ⟨hle, same_commonFront src i k (i + a) (k + b)⟩

/-- An insertion moves up over kept lines that it ends with. -/
theorem leads_slideUp (h : Focus.Leads src n m ⟨prev :: before, this, after⟩)
    (hkept : prev.kind = .equal) (hkind : this.kind = .insert)
    (hc : c = (src.oldRun prev).commonBack (src.newRun this)) (hpos : 0 < c) :
    Focus.Leads src n m
      ⟨consUnlessEmpty (prev.shrink c) before, this.moveUp c, keepBehind prev this c after⟩ := by
  obtain ⟨-, hbefore', hthis, hafter⟩ := h
  obtain ⟨i, j, hbefore, hprev, rfl, rfl⟩ := exists_of_script_reverse_cons hbefore'
  clear hbefore'
  obtain ⟨a, rfl, hsame⟩ := hprev.eq_equal hkept
  obtain ⟨i', b, rfl, hb⟩ := hthis.eq_insert hkind
  obtain ⟨hle, hback⟩ := same_oldRun_commonBack hc
  clear hc
  obtain ⟨a, rfl⟩ := Nat.exists_eq_add_of_le' hle
  simp only [Op.equal] at hafter hback
  rw [show i + (a + c) - c = i + a by omega, show j + (a + c) + b - c = j + a + b by omega] at hback
  have hrest : Script (Op.Plain src) (i + a + c) (j + a + b + c) after n m := by
    rw [show i + a + c = i + (a + c) by omega, show j + a + b + c = j + (a + c) + b by omega]
    exact hafter
  have hmoved : (Op.insert i' (j + (a + c)) b).moveUp c = .insert (i' - c) (j + a) b := by
    rw [← Nat.add_assoc, Op.moveUp_insert]
  have hstop : (Op.insert i' (j + (a + c)) b).newStop = j + a + b + c := by
    simp only [Op.newStop, Op.insert]
    omega
  have hfront := script_reverse_consUnlessEmpty hbefore (hsame.take (Nat.le_add_right a c))
  rw [Op.shrink_equal]
  refine .mk (Op.kind_insert_ne i' j b) hfront (hmoved ▸ .insert hb) (hmoved ▸ ?_)
  exact script_keepBehind hpos hback hrest (Nat.add_assoc ..).symm hstop

theorem leads_slideDown (h : Focus.Leads src n m ⟨before, this, next :: after⟩)
    (hkept : next.kind = .equal) (hkind : this.kind = .insert)
    (hc : c = (src.oldRun next).commonFront (src.newRun this)) (hpos : 0 < c) :
    Focus.Leads src n m
      ⟨keepAhead this next c before, this.moveDown c,
        consUnlessEmpty ((next.moveDown c).shrink c) after⟩ := by
  obtain ⟨-, hbefore, hthis, hafter⟩ := h
  rename_i i j
  obtain ⟨i', b, rfl, hb⟩ := hthis.eq_insert hkind
  cases hafter with
  | cons hnext hafter =>
      obtain ⟨a, rfl, hsame⟩ := hnext.eq_equal hkept
      obtain ⟨hle, hfront⟩ := same_oldRun_commonFront hc
      clear hc
      obtain ⟨a, rfl⟩ := Nat.exists_eq_add_of_le hle
      have hrest : Script (Op.Plain src) (i + c + a) (j + c + b + a) after n m := by
        rw [Nat.add_assoc i, show j + c + b + a = j + b + (c + a) by omega]
        exact hafter
      have hkeep : Same src (i + c) (j + c + b) a := by
        have hdrop := hsame.drop (Nat.le_add_right c a)
        rw [Nat.add_sub_cancel_left] at hdrop
        rw [Nat.add_right_comm j]
        exact hdrop
      have hmoved : ((Op.equal i (j + b) (c + a)).moveDown c).shrink c =
          .equal (i + c) (j + c + b) a := by
        rw [Op.shrink_moveDown_equal, Nat.add_sub_cancel_left, Nat.add_right_comm]
      refine .mk (Op.kind_insert_ne i' j b) (script_keepAhead hpos hfront hbefore rfl rfl)
        (.insert hb) ?_
      exact hmoved ▸ script_consUnlessEmpty hkeep hrest

theorem leads_moveUp (fuel : Nat) (h : f.Leads src n m) : (moveUp src fuel f).Leads src n m := by
  induction fuel generalizing f with
  | zero => exact h
  | succ fuel ih =>
      have h' := h
      obtain ⟨hkind, hbefore, hthis, hafter⟩ := h'
      rename_i before after this x y
      cases before with
      | nil => exact h
      | cons prev before =>
          obtain ⟨i, j, hfront, hprev, rfl, rfl⟩ := exists_of_script_reverse_cons hbefore
          simp only [moveUp]
          split
          next hkept =>
            -- no step of a script is empty, so kept lines are passed or stop the move
            rw [if_neg hprev.not_isEmpty]
            split
            next hinsert =>
              split
              next hpos => exact ih (leads_slideUp h hkept hinsert rfl hpos)
              next => exact h
            next => exact h
          next hkept =>
            split
            next heq =>
              obtain ⟨hjoined, hjkind, hold, hnew⟩ := plain_grow hprev hthis hkind heq
              refine ih (.mk ?_ hfront hjoined ?_)
              · rwa [hjkind, heq]
              · rwa [hold, hnew, ← Nat.add_assoc, ← Nat.add_assoc]
            next hne =>
              obtain ⟨hthis', hprev'⟩ := exists_swap hprev hthis hkept hkind hne
              refine ih (.mk hkind hfront hthis' (.cons hprev' ?_))
              rwa [Nat.add_right_comm i, Nat.add_right_comm j]

theorem leads_moveDown (fuel : Nat) (h : f.Leads src n m) :
    (moveDown src fuel f).Leads src n m := by
  induction fuel generalizing f with
  | zero => exact h
  | succ fuel ih =>
      have h' := h
      obtain ⟨hkind, hbefore, hthis, hafter⟩ := h'
      rename_i before after this i j
      cases hafter with
      | nil => exact h
      | @cons _ _ _ _ next after hnext hafter =>
          simp only [moveDown]
          split
          next hkept =>
            rw [if_neg hnext.not_isEmpty]
            split
            next hinsert =>
              split
              next hpos => exact ih (leads_slideDown h hkept hinsert rfl hpos)
              next => exact h
            next => exact h
          next hkept =>
            split
            next heq =>
              obtain ⟨hjoined, hjkind, hold, hnew⟩ := plain_grow hthis hnext hkept heq.symm
              refine ih (.mk ?_ hbefore hjoined ?_)
              · rwa [hjkind]
              · rwa [hold, hnew, ← Nat.add_assoc, ← Nat.add_assoc]
            next hne =>
              obtain ⟨hnext', hthis'⟩ := exists_swap hthis hnext hkind hkept (Ne.symm hne)
              refine ih (.mk hkind (script_reverse_cons hbefore hnext') hthis' ?_)
              rwa [Nat.add_right_comm i, Nat.add_right_comm j]

theorem script_tidyKind {kind : Kind} {limit : Nat} (hkind : kind ≠ .equal)
    (hbefore : Script (Op.Plain src) 0 0 before.reverse i j)
    (hafter : Script (Op.Plain src) i j after n m) :
    Script (Op.Plain src) 0 0 (tidyKind src kind limit fuel before after) n m := by
  induction fuel generalizing before after i j with
  | zero => exact hbefore.append hafter
  | succ fuel ih =>
      cases hafter with
      | nil => exact hbefore
      | @cons _ _ _ _ op after hop hafter =>
          simp only [tidyKind]
          split
          next heq =>
            have hstart : Focus.Leads src n m ⟨before, op, after⟩ :=
              .mk (heq ▸ hkind) hbefore hop hafter
            have hmoved := leads_moveDown limit (leads_moveUp limit hstart)
            generalize moveDown src limit (moveUp src limit ⟨before, op, after⟩) = f at hmoved ⊢
            obtain ⟨-, hbefore, hthis, hafter⟩ := hmoved
            exact ih (script_reverse_cons hbefore hthis) hafter
          next => exact ih (script_reverse_cons hbefore hop) hafter

/-- A step that says truly where the lines are that it keeps, deletes or inserts. If `strict`, it
also says truly where in the other lines this happens. -/
inductive Op.Stands (strict : Bool) (src : Source) (i j : Nat) : Op → Prop
  | equal {n : Nat} (hn : 0 < n) (h : Same src i j n) : Stands strict src i j (.equal i j n)
  | delete {n j' : Nat} (hn : 0 < n) (hj : strict = true → j' = j) :
      Stands strict src i j (.delete i n j')
  | insert {n i' : Nat} (hn : 0 < n) (hi : strict = true → i' = i) :
      Stands strict src i j (.insert i' j n)
  | replace {n m : Nat} (hn : 0 < n) (hm : 0 < m) : Stands strict src i j ⟨.replace, i, n, j, m⟩

theorem Op.Plain.stands (h : op.Plain src i j) : op.Stands false src i j := by
  cases h with
  | equal hn hsame => exact .equal hn hsame
  | delete hn => exact .delete hn nofun
  | insert hn => exact .insert hn nofun

theorem script_joinSteps (h : Script (Op.Plain src) i j ops n m) :
    Script (Op.Stands false src) i j (joinSteps ops) n m := by
  induction h with
  | nil => exact .nil
  | @cons _ _ _ _ op ops hop _ ih =>
      unfold joinSteps
      -- `op` can only join the first of the steps that the others have become
      generalize joinSteps ops = joined at ih ⊢
      cases ih with
      | nil => exact script_singleton hop.stands
      | cons hnext hrest =>
          cases hop with
          | equal hn hsame =>
              cases hnext with
              | equal hm hsame' =>
                  refine .cons (.equal (Nat.add_pos_left hn _) (hsame.append hsame')) ?_
                  simp only [Op.equal, ← Nat.add_assoc]
                  exact hrest
              | delete hm hj => exact .cons (.equal hn hsame) (.cons (.delete hm hj) hrest)
              | insert hm hi => exact .cons (.equal hn hsame) (.cons (.insert hm hi) hrest)
              | replace hm hm' => exact .cons (.equal hn hsame) (.cons (.replace hm hm') hrest)
          | delete hn =>
              cases hnext with
              | equal hm hsame => exact .cons (.delete hn nofun) (.cons (.equal hm hsame) hrest)
              | delete hm hj =>
                  refine .cons (.delete (Nat.add_pos_left hn _) nofun) ?_
                  simp only [Op.delete, ← Nat.add_assoc]
                  exact hrest
              | insert hm hi => exact .cons (.replace hn hm) hrest
              | replace hm hm' =>
                  refine .cons (.replace (Nat.add_pos_left hn _) hm') ?_
                  simp only [← Nat.add_assoc]
                  exact hrest
          | insert hn =>
              cases hnext with
              | equal hm hsame => exact .cons (.insert hn nofun) (.cons (.equal hm hsame) hrest)
              | delete hm hj => exact .cons (.replace hm hn) hrest
              | insert hm hi =>
                  refine .cons (.insert (Nat.add_pos_left hn _) nofun) ?_
                  simp only [Op.insert, ← Nat.add_assoc]
                  exact hrest
              | replace hm hm' =>
                  refine .cons (.replace hm (Nat.add_pos_left hn _)) ?_
                  simp only [← Nat.add_assoc]
                  exact hrest

/-- A tidy script leads from the beginning of the old and of the new lines to their ends. -/
theorem script_tidy (src : Source) :
    Script (Op.Stands false src) 0 0 (tidy src (shortScript src.old src.new)) src.old.size
      src.new.size := by
  refine script_joinSteps (script_tidyKind nofun .nil ?_)
  exact script_tidyKind nofun .nil (script_shortScript src)

end AnchorPatch.Diff
