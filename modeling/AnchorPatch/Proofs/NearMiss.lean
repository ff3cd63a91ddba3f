import AnchorPatch.NearMiss
import AnchorPatch.Proofs.Text.Distance
import AnchorPatch.Proofs.Text.Occurs
import Mathlib.Algebra.Order.Field.Rat
import Mathlib.Data.List.Infix
import Mathlib.Tactic.FieldSimp
import Mathlib.Tactic.Linarith
import Mathlib.Tactic.NormNum

namespace AnchorPatch

open Text

variable {s l probe : Text} {before after seen ls : List Text} {x y : Similarity}
  {best : Option NearMiss} {m m' : NearMiss}

theorem Text.trim_infix (s : Text) : trim s <:+: s := by
  have hend : trimEnd (trimStart s) <+: trimStart s := by
    rw [trimEnd, ← List.reverse_suffix, List.reverse_reverse]
    exact List.dropWhile_suffix isBlank
  exact hend.isInfix.trans (List.dropWhile_suffix isBlank).isInfix

theorem Text.exists_of_mem_lines (h : lines s = before ++ l :: after) :
    ∃ u v, s = u ++ l ++ v ∧ u.count '\n' = before.length ∧ '\n' ∉ l ∧ (before = [] → u = []) := by
  induction s using lines.induct generalizing before l with
  | case1 => cases before <;> cases h
  | case2 s ih =>
      rw [lines] at h
      cases before with
      | nil =>
          cases h
          exact ⟨[], '\r' :: '\n' :: s, rfl, rfl, List.not_mem_nil, fun _ => rfl⟩
      | cons b before =>
          obtain ⟨u, v, rfl, hcount, hl, -⟩ := ih (List.cons.inj h).2
          exact ⟨'\r' :: '\n' :: u, v, rfl, by simp [hcount], hl, nofun⟩
  | case3 s ih =>
      rw [lines] at h
      cases before with
      | nil =>
          cases h
          exact ⟨[], '\n' :: s, rfl, rfl, List.not_mem_nil, fun _ => rfl⟩
      | cons b before =>
          obtain ⟨u, v, rfl, hcount, hl, -⟩ := ih (List.cons.inj h).2
          exact ⟨'\n' :: u, v, rfl, by simp [hcount], hl, nofun⟩
  | case4 c s hreturn hc hls ih =>
      rw [lines.eq_4 c s hreturn hc, hls] at h
      cases before with
      | nil =>
          cases h
          exact ⟨[], s, rfl, rfl, by simpa using Ne.symm hc, fun _ => rfl⟩
      | cons b before => simp at h
  | case5 c s hreturn hc k ks hls ih =>
      rw [lines.eq_4 c s hreturn hc, hls] at h
      cases before with
      | nil =>
          cases h
          obtain ⟨u, v, rfl, -, hk, hu⟩ := @ih k [] hls
          cases hu rfl
          exact ⟨[], v, rfl, rfl, by simpa [hk] using Ne.symm hc, fun _ => rfl⟩
      | cons b before =>
          obtain ⟨u, v, rfl, hcount, hl, -⟩ :=
            @ih l (k :: before) (hls.trans (congrArg (k :: ·) (List.cons.inj h).2))
          exact ⟨c :: u, v, rfl, (List.count_cons_of_ne hc).trans hcount, hl, nofun⟩

namespace Similarity

/-- The share of the longer text that stays as it is. -/
def rate (x : Similarity) : ℚ := 1 - x.distance / x.longest

theorem better_iff (hx : 0 < x.longest) (hy : 0 < y.longest) :
    x.better y = true ↔ y.rate < x.rate := by
  have hx' : (0 : ℚ) < x.longest := by exact_mod_cast hx
  have hy' : (0 : ℚ) < y.longest := by exact_mod_cast hy
  rw [better, decide_eq_true_eq, rate, rate, sub_lt_sub_iff_left, div_lt_div_iff₀ hx' hy']
  exact_mod_cast Iff.rfl

theorem passesFloor_iff (hx : 0 < x.longest) : x.passesFloor = true ↔ 3 / 5 ≤ x.rate := by
  have hx' : (0 : ℚ) < x.longest := by exact_mod_cast hx
  have hshare : (3 / 5 ≤ x.rate) ↔ (x.distance : ℚ) / x.longest ≤ 2 / 5 := by
    rw [rate]
    constructor <;> intro h <;> linarith
  rw [hshare, passesFloor, decide_eq_true_eq, div_le_div_iff₀ hx' (by norm_num), mul_comm]
  exact_mod_cast Iff.rfl

end Similarity

/-- How close a line comes to a probe: one if it contains the probe, and otherwise the share of the
longer of the two that no edit touches. -/
def closeness (probe line : Text) : ℚ :=
  if probe <:+: line then 1
  else 1 - (distance line probe : ℚ) / (max line.length probe.length : ℕ)

namespace NearMiss

theorem longest_score_pos (hl : l ≠ []) : 0 < (score probe l).longest := by
  rw [score]
  split
  · exact Nat.one_pos
  · exact lt_max_of_lt_left (List.length_pos_iff.mpr hl)

theorem rate_score (probe line : Text) : (score probe line).rate = closeness probe line := by
  rw [score, closeness]
  by_cases h : probe <:+: line
  · rw [if_pos (occurs_iff.mpr h), if_pos h]
    simp [Similarity.rate, Similarity.perfect]
  · rw [if_neg (mt occurs_iff.mp h), if_neg h]
    rfl

theorem closeness_bounds (probe line : Text) :
    0 ≤ closeness probe line ∧ closeness probe line ≤ 1 := by
  rw [closeness]
  split
  · exact ⟨zero_le_one, le_rfl⟩
  · have hle : (distance line probe : ℚ) ≤ (max line.length probe.length : ℕ) := by
      exact_mod_cast distance_le_max line probe
    exact ⟨sub_nonneg.mpr (div_le_one_of_le₀ hle (Nat.cast_nonneg _)),
      sub_le_self 1 (div_nonneg (Nat.cast_nonneg _) (Nat.cast_nonneg _))⟩

theorem closeness_eq_one_iff (hl : l ≠ []) : closeness probe l = 1 ↔ probe <:+: l := by
  rw [closeness]
  split
  next h => simp [h]
  next h =>
    have hlongest : max l.length probe.length ≠ 0 :=
      (lt_max_of_lt_left (List.length_pos_iff.mpr hl)).ne'
    -- A text at distance zero from the probe is the probe, and so contains it.
    have hdistance : distance l probe ≠ 0 := fun h0 =>
      h (distance_eq_zero_iff.mp h0 ▸ List.infix_rfl)
    have hshare : (distance l probe : ℚ) / (max l.length probe.length : ℕ) ≠ 0 :=
      div_ne_zero (Nat.cast_ne_zero.mpr hdistance) (Nat.cast_ne_zero.mpr hlongest)
    exact iff_of_false (fun h1 => hshare (by linarith)) h

/-- A line that is neither blank nor too far from the probe. -/
def IsCandidate (probe l : Text) : Prop := trim l ≠ [] ∧ 3 / 5 ≤ closeness probe (trim l)

/-- Among the lines `before ++ l :: after`, `l` is the first one of those that come closest to the
probe, and it comes close enough. Blank lines do not count. -/
structure IsNearest (probe : Text) (before : List Text) (l : Text) (after : List Text) : Prop where
  candidate : IsCandidate probe l
  farther_before :
    ∀ k ∈ before, trim k ≠ [] → closeness probe (trim k) < closeness probe (trim l)
  not_closer_after :
    ∀ k ∈ after, trim k ≠ [] → closeness probe (trim k) ≤ closeness probe (trim l)

/-- What is reported of the line behind the lines `before`. -/
def report (probe : Text) (before : List Text) (l : Text) : NearMiss :=
  ⟨before.length + 1, trim l, score probe (trim l)⟩

/-- What the search holds when it has passed the lines `seen`. -/
def IsBest (probe : Text) (seen : List Text) : Option NearMiss → Prop
  | none => ∀ l ∈ seen, ¬ IsCandidate probe l
  | some m => ∃ before l after,
      seen = before ++ l :: after ∧ IsNearest probe before l after ∧ m = report probe before l

/-- What the search holds behind one more line. -/
def visit (probe : Text) (seen : List Text) (l : Text) (best : Option NearMiss) :
    Option NearMiss :=
  if trim l = [] || !(score probe (trim l)).passesFloor then best
  else
    match best with
    | none => some (report probe seen l)
    | some b =>
        if (score probe (trim l)).better b.similarity then some (report probe seen l) else some b

theorem search_cons (probe : Text) (seen : List Text) (l : Text) (ls : List Text)
    (best : Option NearMiss) :
    search probe (seen.length + 1) (l :: ls) best =
      search probe ((seen ++ [l]).length + 1) ls (visit probe seen l best) := by
  rw [search.eq_def, visit.eq_def, List.length_append, List.length_singleton]
  dsimp only
  split
  · rfl
  · cases best with
    | none => rfl
    | some b =>
        dsimp only
        split <;> rfl

theorem isCandidate_iff :
    IsCandidate probe l ↔ ¬ (trim l = [] || !(score probe (trim l)).passesFloor) = true := by
  rw [Bool.or_eq_true, decide_eq_true_eq, Bool.not_eq_true', not_or, Bool.not_eq_false]
  refine and_congr_right fun hl => ?_
  rw [Similarity.passesFloor_iff (longest_score_pos hl), rate_score]

theorem IsNearest.concat (h : IsNearest probe before l after) {k : Text}
    (hk : trim k ≠ [] → closeness probe (trim k) ≤ closeness probe (trim l)) :
    IsNearest probe before l (after ++ [k]) where
  candidate := h.candidate
  farther_before := h.farther_before
  not_closer_after := by
    intro j hj
    rcases List.mem_append.mp hj with hj | hj
    · exact h.not_closer_after j hj
    · rw [List.mem_singleton.mp hj]
      exact hk

theorem IsNearest.le_of_mem (h : IsNearest probe before l after) {k : Text}
    (hk : k ∈ before ++ l :: after) (hblank : trim k ≠ []) :
    closeness probe (trim k) ≤ closeness probe (trim l) := by
  rcases List.mem_append.mp hk with hk | hk
  · exact (h.farther_before k hk hblank).le
  · rcases List.mem_cons.mp hk with rfl | hk
    · exact le_rfl
    · exact h.not_closer_after k hk hblank

theorem IsBest.concat (h : IsBest probe seen best) (l : Text) :
    IsBest probe (seen ++ [l]) (visit probe seen l best) := by
  rw [visit.eq_def]
  split
  next hskip =>
    have hl : ¬ IsCandidate probe l := mt isCandidate_iff.mp (not_not.mpr hskip)
    cases best with
    | none =>
        intro k hk
        rcases List.mem_append.mp hk with hk | hk
        · exact h k hk
        · rw [List.mem_singleton.mp hk]
          exact hl
    | some b =>
        obtain ⟨before, k, after, rfl, hk, hb⟩ := h
        refine ⟨before, k, after ++ [l], by simp, hk.concat fun hblank => ?_, hb⟩
        exact (lt_of_not_ge fun hle => hl ⟨hblank, hle⟩).le.trans hk.candidate.2
  next hcount =>
    have hl : IsCandidate probe l := isCandidate_iff.mpr hcount
    cases best with
    | none =>
        refine ⟨seen, l, [], rfl, ⟨hl, fun k hk hblank => ?_, by simp⟩, rfl⟩
        exact (lt_of_not_ge fun hle => h k hk ⟨hblank, hle⟩).trans_le hl.2
    | some b =>
        obtain ⟨before, k, after, rfl, hk, rfl⟩ := h
        have hbetter : (score probe (trim l)).better (report probe before k).similarity = true ↔
            closeness probe (trim k) < closeness probe (trim l) := by
          rw [report, Similarity.better_iff (longest_score_pos hl.1)
            (longest_score_pos hk.candidate.1), rate_score, rate_score]
        dsimp only
        split
        next hlt =>
          refine ⟨before ++ k :: after, l, [], rfl, ⟨hl, fun j hj hblank => ?_, by simp⟩, rfl⟩
          exact (hk.le_of_mem hj hblank).trans_lt (hbetter.mp hlt)
        next hle =>
          refine ⟨before, k, after ++ [l], by simp, hk.concat fun _ => ?_, rfl⟩
          exact le_of_not_gt (mt hbetter.mpr hle)

theorem IsBest.search (h : IsBest probe seen best) (ls : List Text) :
    IsBest probe (seen ++ ls) (search probe (seen.length + 1) ls best) := by
  induction ls generalizing seen best with
  | nil =>
      rw [List.append_nil]
      exact h
  | cons l ls ih =>
      rw [search_cons, List.append_cons]
      exact ih (h.concat l)

theorem isBest_search (probe : Text) (ls : List Text) :
    IsBest probe ls (NearMiss.search probe 1 ls none) :=
  have hnone : IsBest probe [] none := fun _ hl => absurd hl List.not_mem_nil
  hnone.search ls

theorem IsNearest.length_le {before' after' : List Text} {l' : Text}
    (h : IsNearest probe before l after) (h' : IsNearest probe before' l' after')
    (heq : before ++ l :: after = before' ++ l' :: after') : before.length ≤ before'.length := by
  -- Otherwise `l'` stands before `l`, and so is farther from the probe, and not so by its own rank.
  refine le_of_not_gt fun hlt => ?_
  have hmem : l' ∈ before := by
    have hl' := congrArg (·[before'.length]?) heq
    simp only [List.getElem?_append_left hlt, List.getElem?_append_right le_rfl, Nat.sub_self,
      List.getElem?_cons_zero] at hl'
    exact List.mem_of_getElem? hl'
  have hmem' : l ∈ before' ++ l' :: after' := heq ▸ List.mem_append_right before List.mem_cons_self
  exact (h.farther_before l' hmem h'.candidate.1).not_ge (h'.le_of_mem hmem' h.candidate.1)

theorem IsNearest.report_eq {before' after' : List Text} {l' : Text}
    (h : IsNearest probe before l after) (h' : IsNearest probe before' l' after')
    (heq : before ++ l :: after = before' ++ l' :: after') :
    report probe before l = report probe before' l' := by
  have hlength := (h.length_le h' heq).antisymm (h'.length_le h heq.symm)
  obtain ⟨rfl, htail⟩ := List.append_inj heq hlength
  cases htail
  rfl

theorem nearestLine_eq_none_iff (buffer probe : Text) :
    nearestLine buffer probe = none ↔
      trim probe = [] ∨ ∀ l ∈ lines buffer, ¬ IsCandidate (trim probe) l := by
  rw [nearestLine]
  split
  next hprobe => simp [hprobe]
  next hprobe =>
    rw [or_iff_right hprobe]
    have hbest := isBest_search (trim probe) (lines buffer)
    constructor
    · intro hnone
      rw [hnone] at hbest
      exact hbest
    · intro hall
      cases hsearch : NearMiss.search (trim probe) 1 (lines buffer) none with
      | none => rfl
      | some m =>
          rw [hsearch] at hbest
          obtain ⟨before, l, after, hlines, hl, -⟩ := hbest
          refine absurd hl.candidate (hall l ?_)
          exact hlines ▸ List.mem_append_right before List.mem_cons_self

theorem nearestLine_eq_some_iff (buffer probe : Text) (m : NearMiss) :
    nearestLine buffer probe = some m ↔
      trim probe ≠ [] ∧ ∃ before l after,
        lines buffer = before ++ l :: after ∧ IsNearest (trim probe) before l after ∧
          m = report (trim probe) before l := by
  constructor
  · intro h
    rw [nearestLine] at h
    split at h
    next => cases h
    next hprobe =>
      have hbest := isBest_search (trim probe) (lines buffer)
      rw [h] at hbest
      exact ⟨hprobe, hbest⟩
  · rintro ⟨hprobe, before, l, after, hlines, hl, rfl⟩
    have hbest := isBest_search (trim probe) (lines buffer)
    have hmem : l ∈ lines buffer := hlines ▸ List.mem_append_right before List.mem_cons_self
    rw [nearestLine, if_neg hprobe]
    cases hsearch : NearMiss.search (trim probe) 1 (lines buffer) none with
    | none =>
        rw [hsearch] at hbest
        exact absurd hl.candidate (hbest l hmem)
    | some m =>
        rw [hsearch] at hbest
        obtain ⟨before', l', after', hlines', hl', rfl⟩ := hbest
        exact congrArg some (hl'.report_eq hl (hlines'.symm.trans hlines))

/-- A line that contains the probe is a perfect hit, and every line before a nearest one is farther
from the probe than that. -/
theorem IsNearest.not_infix_of_mem (h : IsNearest probe before l after) (hprobe : probe ≠ [])
    {k : Text} (hk : k ∈ before) : ¬ probe <:+: trim k := by
  intro hinfix
  have hblank : trim k ≠ [] := by
    intro hnil
    rw [hnil, List.infix_nil] at hinfix
    exact hprobe hinfix
  have hlt := h.farther_before k hk hblank
  rw [(closeness_eq_one_iff hblank).mpr hinfix] at hlt
  exact hlt.not_ge (closeness_bounds probe (trim l)).2

/-- The first of the lines that come closest to the probe is reported, and none just if no line
comes close enough. A line is reported as perfect just if it contains the probe. No line before it
does. -/
theorem nearestLine_spec (buffer probe : Text) :
    (nearestLine buffer probe = none ↔
      trim probe = [] ∨
        ∀ l ∈ lines buffer, trim l ≠ [] → closeness (trim probe) (trim l) < 3 / 5) ∧
    (∀ m, nearestLine buffer probe = some m ↔
      trim probe ≠ [] ∧ ∃ before l after,
        lines buffer = before ++ l :: after ∧ IsNearest (trim probe) before l after ∧
          m = ⟨before.length + 1, trim l, score (trim probe) (trim l)⟩) ∧
    ∀ m, nearestLine buffer probe = some m →
      m.similarity.rate = closeness (trim probe) m.text ∧
      (m.similarity.rate = 1 ↔ trim probe <:+: m.text) ∧
      (∀ k ∈ (lines buffer).take (m.line - 1), ¬ trim probe <:+: trim k) ∧
      ∃ u v, buffer = u ++ m.text ++ v ∧ m.line = u.count '\n' + 1 := by
  refine ⟨?_, nearestLine_eq_some_iff buffer probe, fun m hm => ?_⟩
  · rw [nearestLine_eq_none_iff]
    simp only [IsCandidate, not_and, not_le]
  · obtain ⟨hprobe, before, l, after, hlines, hl, rfl⟩ :=
      (nearestLine_eq_some_iff buffer probe m).mp hm
    refine ⟨rate_score _ _, ?_, fun k hk => ?_, ?_⟩
    · rw [report, rate_score]
      exact closeness_eq_one_iff hl.candidate.1
    · refine hl.not_infix_of_mem hprobe ?_
      simpa [hlines, report] using hk
    · obtain ⟨u, v, rfl, hcount, hfeed, -⟩ := exists_of_mem_lines hlines
      obtain ⟨x, y, hxy⟩ := trim_infix l
      have hx : '\n' ∉ x := fun hx => hfeed (hxy ▸ by simp [hx])
      refine ⟨u ++ x, y ++ v, ?_, ?_⟩
      · calc
          u ++ l ++ v = u ++ (x ++ trim l ++ y) ++ v := by rw [hxy]
          _ = u ++ x ++ trim l ++ (y ++ v) := by simp
      · simp [report, hcount, List.count_eq_zero_of_not_mem hx]

/-- The probe is in the second line and in the third. -/
theorem nearestLine_spec_second :
    nearestLine ['x', '\n', ' ', 'a', 'b', ';', '\r', '\n', 'a', 'b'] ['a', 'b', ' '] =
        some ⟨2, ['a', 'b', ';'], .perfect⟩ ∧
      (Similarity.perfect.rate = 1 ↔ ['a', 'b'] <:+: ['a', 'b', ';']) := by
  have h : nearestLine ['x', '\n', ' ', 'a', 'b', ';', '\r', '\n', 'a', 'b'] ['a', 'b', ' '] =
      some ⟨2, ['a', 'b', ';'], .perfect⟩ := by decide
  exact ⟨h, ((nearestLine_spec _ _).2.2 _ h).2.1⟩

end NearMiss

end AnchorPatch
