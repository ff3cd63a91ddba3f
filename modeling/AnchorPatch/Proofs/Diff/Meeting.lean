import AnchorPatch.Diff.Shortest

/-!
Where two ways meet.

The ways from the front and from the back may leave the two runs, over the end of the old or of the
new lines. Main statement: the place at which they meet is nevertheless a place of both runs.
-/

namespace AnchorPatch.Diff

variable {r s : Run} {v v' front back : Frontier} {d limit n m x y : Nat} {k j : Int}
  {ks : List Int} {place : Meeting}

theorem commonFrom_le (a b : Array Text) (n i j : Nat) : commonFrom a b n i j ≤ n := by
  induction n generalizing i j with
  | zero => exact Nat.le_refl 0
  | succ n ih =>
      unfold commonFrom
      split
      · split
        · exact Nat.succ_le_succ (ih _ _)
        · exact Nat.zero_le _
      · exact Nat.zero_le _

theorem commonBefore_le (a b : Array Text) (n i j : Nat) : commonBefore a b n i j ≤ n := by
  induction n generalizing i j with
  | zero => exact Nat.le_refl 0
  | succ n ih =>
      unfold commonBefore
      split
      next n' _ _ hn =>
        obtain rfl := Nat.succ.inj hn
        split
        · split
          · exact Nat.succ_le_succ (ih _ _)
          · exact Nat.zero_le _
        · exact Nat.zero_le _
      next => exact Nat.zero_le _

theorem Run.commonFront_le (r s : Run) : r.commonFront s ≤ r.length ∧ r.commonFront s ≤ s.length :=
  Nat.le_min.mp (commonFrom_le ..)

theorem Run.commonBack_le (r s : Run) : r.commonBack s ≤ r.length ∧ r.commonBack s ≤ s.length :=
  Nat.le_min.mp (commonBefore_le ..)

theorem Run.length_dropFront (r : Run) (n : Nat) : (r.dropFront n).length = r.length - n := by
  simp only [length, dropFront]
  omega

theorem Run.length_dropBack (r : Run) (n : Nat) : (r.dropBack n).length = r.length - n := by
  simp only [length, dropBack]
  omega

theorem mem_diagonals_iff : k ∈ diagonals d ↔ -d ≤ k ∧ k ≤ d ∧ (d - k) % 2 = 0 := by
  rw [diagonals, List.mem_map]
  constructor
  · rintro ⟨i, hi, rfl⟩
    have := List.mem_range.mp hi
    omega
  · rintro ⟨hlow, hhigh, heven⟩
    exact ⟨((d - k) / 2).toNat, List.mem_range.mpr (by omega), by omega⟩

namespace Frontier

/-- The diagonals up to one more than `limit` have a place on either side. -/
structure Spans (v : Frontier) (limit : Nat) : Prop where
  low : limit + 1 ≤ v.center
  high : v.center + limit + 1 < v.reach.size

theorem spans_new (limit : Nat) : (new limit).Spans limit := by
  refine ⟨Nat.le_refl _, ?_⟩
  simp only [new, Array.size_replicate]
  omega

theorem get_new (limit : Nat) (k : Int) : (new limit).get k = 0 := by
  simp only [get, new, Array.getD_eq_getD_getElem?, Array.getElem?_replicate]
  split
  · rfl
  · rfl

theorem Spans.set (h : v.Spans limit) (k : Int) (x : Nat) : (v.set k x).Spans limit :=
  ⟨h.low, by simpa only [Frontier.set, Array.size_setIfInBounds] using h.high⟩

theorem get_set_self (h : v.Spans limit) (hlow : -limit ≤ k) (hhigh : k ≤ limit) :
    (v.set k x).get k = x := by
  have := h.low
  have := h.high
  have hk : (k + v.center).toNat < v.reach.size := by omega
  simp [get, set, Array.getD_eq_getD_getElem?, hk]

theorem get_set_of_ne (h : v.Spans limit) (hk : -limit ≤ k) (hne : j ≠ k) :
    (v.set k x).get j = v.get j := by
  have := h.low
  have hjk : (k + v.center).toNat ≠ (j + v.center).toNat := by omega
  simp only [get, set, Array.getD_eq_getD_getElem?, Array.getElem?_setIfInBounds_ne hjk]

/-- A round reads only diagonals that it does not draw. -/
theorem edge_set (h : v.Spans limit) (hd : d ≤ limit) (hk : k ∈ diagonals d)
    (hj : j ∈ diagonals d) : (v.set k x).edge d j = v.edge d j := by
  rw [mem_diagonals_iff] at hk hj
  rw [edge, edge, get_set_of_ne h (by omega) (by omega), get_set_of_ne h (by omega) (by omega)]

/-- A way with one more edit comes from one of the two neighbours, from the one that is farther. -/
theorem edge_cases (hk : k ∈ diagonals (d + 1)) :
    (k + 1 ∈ diagonals d ∧ v.edge (d + 1 : Nat) k = v.get (k + 1) ∧
        (k - 1 ∈ diagonals d → v.get (k - 1) < v.get (k + 1))) ∨
      (k - 1 ∈ diagonals d ∧ v.edge (d + 1 : Nat) k = v.get (k - 1) + 1 ∧
        (k + 1 ∈ diagonals d → v.get (k + 1) ≤ v.get (k - 1))) := by
  simp only [mem_diagonals_iff] at hk ⊢
  unfold edge
  split
  next h =>
    simp only [Bool.or_eq_true, Bool.and_eq_true, decide_eq_true_eq] at h
    refine .inl ⟨?_, rfl, ?_⟩
    · omega
    · omega
  next h =>
    simp only [Bool.or_eq_true, Bool.and_eq_true, decide_eq_true_eq] at h
    refine .inr ⟨?_, rfl, ?_⟩
    · omega
    · omega

theorem get_le_edge (hk : k ∈ diagonals (d + 1)) (hnext : k + 1 ∈ diagonals d) :
    v.get (k + 1) ≤ v.edge (d + 1 : Nat) k := by
  rcases edge_cases (v := v) hk with ⟨-, hedge, -⟩ | ⟨-, hedge, hle⟩
  · exact Nat.le_of_eq hedge.symm
  · exact hedge ▸ Nat.le_succ_of_le (hle hnext)

theorem get_lt_edge (hk : k ∈ diagonals (d + 1)) (hprev : k - 1 ∈ diagonals d) :
    v.get (k - 1) < v.edge (d + 1 : Nat) k := by
  rcases edge_cases (v := v) hk with ⟨-, hedge, hlt⟩ | ⟨-, hedge, -⟩
  · exact hedge ▸ hlt hprev
  · exact hedge ▸ Nat.lt_succ_self _

/-- What holds after the round with the `d`th edit. A way is nowhere behind its diagonal. A way
that has left the `n` old lines is at most one step ahead of the way on the diagonal below, and
one that has left the `m` new lines is behind the way on the diagonal above. -/
structure Round (n m d : Nat) (v : Frontier) : Prop where
  le : ∀ k ∈ diagonals d, k ≤ v.get k
  right : ∀ k ∈ diagonals d, n < v.get k → k - 2 ∈ diagonals d ∧ v.get k ≤ v.get (k - 2) + 1
  down : ∀ k ∈ diagonals d, (m : Int) < v.get k - k →
    k + 2 ∈ diagonals d ∧ v.get k < v.get (k + 2)

/-- Ways go on along lines in common, and so not outside of `n` old and `m` new lines. -/
structure Inside (n m : Nat) (pass : Int → Nat → Nat) : Prop where
  le : ∀ k x, x ≤ pass k x
  right : ∀ k x, n < pass k x → pass k x = x
  down : ∀ k x, (m : Int) < pass k x - k → pass k x = x

variable {pass : Int → Nat → Nat}

theorem round_zero (hpass : Inside n m pass) (h : v.get 0 = pass 0 0) : Round n m 0 v := by
  have hzero {k : Int} (hk : k ∈ diagonals 0) : k = 0 := by
    rw [mem_diagonals_iff] at hk
    omega
  refine ⟨fun k hk => ?_, fun k hk hn => ?_, fun k hk hm => ?_⟩
  · obtain rfl := hzero hk
    omega
  · obtain rfl := hzero hk
    have := hpass.right 0 0 (h ▸ hn)
    omega
  · obtain rfl := hzero hk
    have := hpass.down 0 0 (h ▸ hm)
    omega

theorem Round.succ (hpass : Inside n m pass) (hv : Round n m d v)
    (h : ∀ k ∈ diagonals (d + 1), v'.get k = pass k (v.edge (d + 1 : Nat) k)) :
    Round n m (d + 1) v' := by
  have hedge (k : Int) (hk : k ∈ diagonals (d + 1)) : v.edge (d + 1 : Nat) k ≤ v'.get k :=
    h k hk ▸ hpass.le k _
  have hbelow (k : Int) (hk : k - 1 ∈ diagonals d) :
      k - 2 ∈ diagonals (d + 1) ∧ v.get (k - 1) ≤ v'.get (k - 2) := by
    have hprev : k - 2 ∈ diagonals (d + 1) := by
      rw [mem_diagonals_iff] at hk ⊢
      omega
    have hget := get_le_edge (v := v) hprev
    rw [show k - 2 + 1 = k - 1 by omega] at hget
    exact ⟨hprev, Nat.le_trans (hget hk) (hedge _ hprev)⟩
  have habove (k : Int) (hk : k + 1 ∈ diagonals d) :
      k + 2 ∈ diagonals (d + 1) ∧ v.get (k + 1) < v'.get (k + 2) := by
    have hnext : k + 2 ∈ diagonals (d + 1) := by
      rw [mem_diagonals_iff] at hk ⊢
      omega
    have hget := get_lt_edge (v := v) hnext
    rw [show k + 2 - 1 = k + 1 by omega] at hget
    exact ⟨hnext, Nat.lt_of_lt_of_le (hget hk) (hedge _ hnext)⟩
  refine ⟨fun k hk => ?_, fun k hk hn => ?_, fun k hk hm => ?_⟩
  · have hle := hedge k hk
    rcases edge_cases (v := v) hk with ⟨hnext, heq, -⟩ | ⟨hprev, heq, -⟩
    · have := hv.le _ hnext
      omega
    · have := hv.le _ hprev
      omega
  · have heq : v'.get k = v.edge (d + 1 : Nat) k := by
      rw [h k hk] at hn ⊢
      exact hpass.right k _ hn
    rw [heq] at hn ⊢
    rcases edge_cases (v := v) hk with ⟨hnext, hget, -⟩ | ⟨hprev, hget, -⟩
    · rw [hget] at hn ⊢
      obtain ⟨hprev, hle⟩ := hv.right _ hnext hn
      rw [show k + 1 - 2 = k - 1 by omega] at hprev hle
      obtain ⟨hmem, hle'⟩ := hbelow k hprev
      exact ⟨hmem, Nat.le_trans hle (Nat.succ_le_succ hle')⟩
    · obtain ⟨hmem, hle⟩ := hbelow k hprev
      exact ⟨hmem, hget ▸ Nat.succ_le_succ hle⟩
  · have heq : v'.get k = v.edge (d + 1 : Nat) k := by
      rw [h k hk] at hm ⊢
      exact hpass.down k _ hm
    rw [heq] at hm ⊢
    rcases edge_cases (v := v) hk with ⟨hnext, hget, -⟩ | ⟨hprev, hget, hle⟩
    · rw [hget]
      exact habove k hnext
    · -- a way below the new lines would have come from the other neighbour
      rw [hget] at hm
      obtain ⟨hnext, hlt⟩ := hv.down _ hprev (by omega)
      rw [show k - 1 + 2 = k + 1 by omega] at hnext hlt
      exact absurd (hle hnext) (by omega)

/-- One round of drawing, along the given diagonals, until a way from the other side is met.
`pass` tells where a way is behind the lines in common. -/
def draw (pass : Int → Nat → Nat) (met? : Int → Nat → Option Meeting) (d : Nat) :
    List Int → Frontier → Except Meeting Frontier
  | [], v => .ok v
  | k :: ks, v =>
      match met? k (v.edge d k) with
      | some place => .error place
      | none => draw pass met? d ks (v.set k (pass k (v.edge d k)))

variable {met? : Int → Nat → Option Meeting}

theorem met_of_draw (hv : v.Spans limit) (hd : d ≤ limit) (hks : ∀ k ∈ ks, k ∈ diagonals d)
    (h : draw pass met? d ks v = .error place) : ∃ k ∈ ks, met? k (v.edge d k) = some place := by
  induction ks generalizing v with
  | nil => cases h
  | cons k ks ih =>
      unfold draw at h
      split at h
      next hmet =>
        cases h
        exact ⟨k, List.mem_cons_self, hmet⟩
      next =>
        obtain ⟨hk, hks⟩ := List.forall_mem_cons.mp hks
        obtain ⟨j, hj, hmet⟩ := ih (hv.set k _) hks h
        rw [edge_set hv hd hk (hks j hj)] at hmet
        exact ⟨j, List.mem_cons_of_mem _ hj, hmet⟩

theorem drawn_of_draw (hv : v.Spans limit) (hd : d ≤ limit) (hks : ∀ k ∈ ks, k ∈ diagonals d)
    (h : draw pass met? d ks v = .ok v') :
    v'.Spans limit ∧ (∀ j ∈ diagonals d, j ∉ ks → v'.get j = v.get j) ∧
      ∀ k ∈ ks, v'.get k = pass k (v.edge d k) ∧ met? k (v.edge d k) = none := by
  induction ks generalizing v with
  | nil =>
      cases h
      exact ⟨hv, fun _ _ _ => rfl, fun _ hk => absurd hk List.not_mem_nil⟩
  | cons k ks ih =>
      unfold draw at h
      split at h
      next => cases h
      next hmet =>
        obtain ⟨hk, hks⟩ := List.forall_mem_cons.mp hks
        obtain ⟨hspans, hoff, hon⟩ := ih (hv.set k _) hks h
        have hbounds := mem_diagonals_iff.mp hk
        refine ⟨hspans, fun j hj hnot => ?_, fun j hj => ?_⟩
        · obtain ⟨hne, hnot⟩ := not_or.mp (mt List.mem_cons.mpr hnot)
          rw [hoff j hj hnot, get_set_of_ne hv (by omega) hne]
        · by_cases hmem : j ∈ ks
          · have hget := hon j hmem
            rwa [edge_set hv hd hk (hks j hmem)] at hget
          · obtain rfl : j = k := (List.mem_cons.mp hj).resolve_right hmem
            refine ⟨?_, hmet⟩
            rw [hoff j hk hmem, get_set_self hv (by omega) (by omega)]

theorem round_of_draw (hv : v.Spans limit) (hd : d < limit) (hpass : Inside n m pass)
    (hround : Round n m d v)
    (h : draw pass met? (d + 1) (diagonals (d + 1)) v = .ok v') :
    v'.Spans limit ∧ Round n m (d + 1) v' := by
  obtain ⟨hspans, -, hon⟩ := drawn_of_draw hv hd (fun _ hk => hk) h
  exact ⟨hspans, hround.succ hpass fun k hk => (hon k hk).1⟩

theorem round_of_first_draw (hpass : Inside n m pass)
    (h : draw pass met? 0 (diagonals 0) (.new limit) = .ok v') :
    v'.Spans limit ∧ Round n m 0 v' := by
  obtain ⟨hspans, -, hon⟩ := drawn_of_draw (spans_new limit) (Nat.zero_le _) (fun _ hk => hk) h
  have hget := (hon 0 (mem_diagonals_iff.mpr (by omega))).1
  rw [edge, if_pos (by simp), get_new] at hget
  exact ⟨hspans, round_zero hpass hget⟩

end Frontier

open Frontier

/-- How many lines the two runs have in common behind a place that a way has reached. -/
def frontCommon (r s : Run) (k : Int) (x : Nat) : Nat :=
  if x < r.length && (0 : Int) ≤ x - k && (x - k : Int).toNat < s.length then
    (r.dropFront x).commonFront (s.dropFront (x - k : Int).toNat)
  else 0

def backCommon (r s : Run) (k : Int) (x : Nat) : Nat :=
  if x < r.length && (0 : Int) ≤ x - k && (x - k : Int).toNat < s.length then
    (r.dropBack x).commonBack (s.dropBack (x - k : Int).toNat)
  else 0

theorem inside_of_common {common : Int → Nat → Nat}
    (h : ∀ k x, 0 < common k x → x + common k x ≤ n ∧ (x + common k x : Int) - k ≤ m) :
    Inside n m fun k x => x + common k x := by
  refine ⟨fun k x => Nat.le_add_right _ _, fun k x hn => ?_, fun k x hm => ?_⟩
  · have := h k x
    omega
  · have := h k x
    omega

theorem inside_front (r s : Run) : Inside r.length s.length fun k x => x + frontCommon r s k x := by
  refine inside_of_common fun k x => ?_
  unfold frontCommon
  split
  next hin =>
    simp only [Bool.and_eq_true, decide_eq_true_eq] at hin
    have hle := (r.dropFront x).commonFront_le (s.dropFront (x - k : Int).toNat)
    rw [Run.length_dropFront, Run.length_dropFront] at hle
    omega
  next => omega

theorem inside_back (r s : Run) : Inside r.length s.length fun k x => x + backCommon r s k x := by
  refine inside_of_common fun k x => ?_
  unfold backCommon
  split
  next hin =>
    simp only [Bool.and_eq_true, decide_eq_true_eq] at hin
    have hle := (r.dropBack x).commonBack_le (s.dropBack (x - k : Int).toNat)
    rw [Run.length_dropBack, Run.length_dropBack] at hle
    omega
  next => omega

/-- The place at which a way from the front meets one from the back. The place is where the way
from the front was before the last lines in common. -/
def frontMet? (r s : Run) (back : Frontier) (d : Nat) (k : Int) (x : Nat) : Option Meeting :=
  if (r.length - s.length : Int) % 2 ≠ 0 && (k - (r.length - s.length)).natAbs + 1 ≤ d
      && r.length ≤ x + frontCommon r s k x + back.get ((r.length - s.length : Int) - k) then
    some (x, (x - k : Int).toNat)
  else none

def backMet? (r s : Run) (front : Frontier) (d : Nat) (k : Int) (x : Nat) : Option Meeting :=
  if (r.length - s.length : Int) % 2 = 0 && (k - (r.length - s.length)).natAbs ≤ d
      && r.length ≤ x + backCommon r s k x + front.get ((r.length - s.length : Int) - k) then
    some (r.length - (x + backCommon r s k x),
      s.length - ((x - k : Int).toNat + backCommon r s k x))
  else none

theorem forward_eq_draw (r s : Run) (back : Frontier) (d : Nat) (ks : List Int)
    (front : Frontier) :
    forward r s back d ks front =
      draw (fun k x => x + frontCommon r s k x) (frontMet? r s back d) d ks front := by
  induction ks generalizing front with
  | nil => rfl
  | cons k ks ih =>
      rw [forward, draw]
      cases hmet : frontMet? r s back d k (front.edge d k) with
      | none =>
          unfold frontMet? at hmet
          split at hmet
          next => cases hmet
          next hcond => exact (if_neg hcond).trans (ih _)
      | some place =>
          unfold frontMet? at hmet
          split at hmet
          next hcond =>
            cases hmet
            exact if_pos hcond
          next => cases hmet

theorem backward_eq_draw (r s : Run) (front : Frontier) (d : Nat) (ks : List Int)
    (back : Frontier) :
    backward r s front d ks back =
      draw (fun k x => x + backCommon r s k x) (backMet? r s front d) d ks back := by
  induction ks generalizing back with
  | nil => rfl
  | cons k ks ih =>
      rw [backward, draw]
      cases hmet : backMet? r s front d k (back.edge d k) with
      | none =>
          unfold backMet? at hmet
          split at hmet
          next => cases hmet
          next hcond => exact (if_neg hcond).trans (ih _)
      | some place =>
          unfold backMet? at hmet
          split at hmet
          next hcond =>
            cases hmet
            exact if_pos hcond
          next => cases hmet

/-- Where `n - m` is odd, no way from the front has left the lines on the diagonals that ways from
the back have reached: it would have met them. -/
def Apart (n m d : Nat) (front : Frontier) : Prop :=
  ((n : Int) - m) % 2 ≠ 0 → ∀ k ∈ diagonals d, (k - ((n : Int) - m)).natAbs + 1 ≤ d →
    front.get k < n ∧ (front.get k : Int) - k < m

theorem apart_of_not_met (hback : Round r.length s.length d back)
    (h : ∀ k ∈ diagonals (d + 1), ∃ x, v.get k = x + frontCommon r s k x ∧
      frontMet? r s back (d + 1) k x = none) : Apart r.length s.length (d + 1) v := by
  intro hodd k hk hnear
  obtain ⟨x, hget, hmet⟩ := h k hk
  have hmem : (r.length - s.length : Int) - k ∈ diagonals d := by
    rw [mem_diagonals_iff] at hk ⊢
    omega
  have hle := hback.le _ hmem
  have hfar :
      ¬ r.length ≤ x + frontCommon r s k x + back.get ((r.length - s.length : Int) - k) := by
    intro hreach
    rw [frontMet?, if_pos (by simp [hodd, hnear, hreach])] at hmet
    cases hmet
  rw [← hget] at hfar
  omega

theorem le_of_front_met (hround : Round n m d front) (hapart : Apart n m d front)
    (hodd : ((n : Int) - m) % 2 ≠ 0) (hk : k ∈ diagonals (d + 1))
    (hnear : (k - ((n : Int) - m)).natAbs + 1 ≤ d + 1) :
    front.edge (d + 1 : Nat) k ≤ n ∧ (front.edge (d + 1 : Nat) k - k : Int) ≤ m := by
  have hbounds := mem_diagonals_iff.mp hk
  rcases edge_cases (v := front) hk with ⟨hnext, hedge, hlt⟩ | ⟨hprev, hedge, hle⟩
  · rw [hedge]
    have hnbounds := mem_diagonals_iff.mp hnext
    by_cases hnear' : (k + 1 - ((n : Int) - m)).natAbs + 1 ≤ d
    · have := hapart hodd _ hnext hnear'
      omega
    · -- the way comes from just above the diagonals that the ways from the back have reached
      have hn : front.get (k + 1) ≤ n := by
        refine Nat.le_of_not_lt fun hout => ?_
        obtain ⟨hprev, hstep⟩ := hround.right _ hnext hout
        rw [show k + 1 - 2 = k - 1 by omega] at hprev hstep
        have hpbounds := mem_diagonals_iff.mp hprev
        have := hapart hodd _ hprev (by omega)
        omega
      omega
  · rw [hedge]
    have hpbounds := mem_diagonals_iff.mp hprev
    by_cases hnear' : (k - 1 - ((n : Int) - m)).natAbs + 1 ≤ d
    · have := hapart hodd _ hprev hnear'
      omega
    · have hm : (front.get (k - 1) : Int) - (k - 1) ≤ m := by
        refine Int.not_lt.mp fun hout => ?_
        obtain ⟨hnext, hstep⟩ := hround.down _ hprev hout
        rw [show k - 1 + 2 = k + 1 by omega] at hnext hstep
        exact absurd (hle hnext) (Nat.not_le.mpr hstep)
      omega

theorem le_of_backMet? (h : backMet? r s front d k n = some (x, y)) :
    x ≤ r.length ∧ y ≤ s.length := by
  unfold backMet? at h
  split at h
  next =>
    cases h
    exact ⟨Nat.sub_le .., Nat.sub_le ..⟩
  next => cases h

theorem le_of_backward (hback : back.Spans limit) (hd : d ≤ limit)
    (h : backward r s front d (diagonals d) back = .error (x, y)) :
    x ≤ r.length ∧ y ≤ s.length := by
  rw [backward_eq_draw] at h
  obtain ⟨k, -, hmet⟩ := met_of_draw hback hd (fun _ hk => hk) h
  exact le_of_backMet? hmet

theorem le_of_forward (hfront : front.Spans limit) (hd : d < limit)
    (hround : Round r.length s.length d front) (hapart : Apart r.length s.length d front)
    (h : forward r s back (d + 1) (diagonals (d + 1)) front = .error (x, y)) :
    x ≤ r.length ∧ y ≤ s.length := by
  rw [forward_eq_draw] at h
  obtain ⟨k, hk, hmet⟩ := met_of_draw (d := d + 1) hfront hd (fun _ hk => hk) h
  unfold frontMet? at hmet
  split at hmet
  next hcond =>
    simp only [Bool.and_eq_true, decide_eq_true_eq] at hcond
    obtain ⟨⟨hodd, hnear⟩, -⟩ := hcond
    cases hmet
    obtain ⟨hx, hy⟩ := le_of_front_met hround hapart hodd hk hnear
    exact ⟨hx, by omega⟩
  next => cases hmet

theorem le_of_meet {fuel : Nat} (hfuel : d + fuel ≤ limit) (hfront : front.Spans limit)
    (hback : back.Spans limit) (hfround : Round r.length s.length d front)
    (hbround : Round r.length s.length d back) (hapart : Apart r.length s.length d front)
    (h : meet r s fuel (d + 1) front back = some (x, y)) : x ≤ r.length ∧ y ≤ s.length := by
  induction fuel generalizing d front back with
  | zero => cases h
  | succ fuel ih =>
      unfold meet at h
      split at h
      next place hforward =>
        cases h
        exact le_of_forward hfront (by omega) hfround hapart hforward
      next front' hforward =>
        rw [forward_eq_draw] at hforward
        obtain ⟨hfront', -, hon⟩ := drawn_of_draw hfront (by omega) (fun _ hk => hk) hforward
        have hfround' := hfround.succ (inside_front r s) fun k hk => (hon k hk).1
        have hapart' := apart_of_not_met hbround fun k hk => ⟨_, hon k hk⟩
        split at h
        next place hbackward =>
          cases h
          exact le_of_backward hback (by omega) hbackward
        next back' hbackward =>
          rw [backward_eq_draw] at hbackward
          obtain ⟨hback', hbround'⟩ := round_of_draw hback (by omega) (inside_back r s) hbround
            hbackward
          exact ih (by omega) hfront' hback' hfround' hbround' hapart' h

theorem meeting_le (h : meeting r s = some (x, y)) : x ≤ r.length ∧ y ≤ s.length := by
  rw [meeting, editLimit] at h
  generalize (r.length + s.length + 1) / 2 = limit at h
  unfold meet at h
  split at h
  next place hforward =>
    -- nothing has been drawn from the back yet
    rw [forward_eq_draw] at hforward
    obtain ⟨k, -, hmet⟩ := met_of_draw (spans_new _) (Nat.zero_le _) (fun _ hk => hk) hforward
    simp [frontMet?] at hmet
  next front hforward =>
    rw [forward_eq_draw] at hforward
    obtain ⟨hfront, hfround⟩ := round_of_first_draw (inside_front r s) hforward
    split at h
    next place hbackward =>
      cases h
      exact le_of_backward (spans_new _) (Nat.zero_le _) hbackward
    next back hbackward =>
      rw [backward_eq_draw] at hbackward
      obtain ⟨hback, hbround⟩ := round_of_first_draw (inside_back r s) hbackward
      have hapart : Apart r.length s.length 0 front := fun _ k _ hnear => by omega
      exact le_of_meet (by omega) hfront hback hfround hbround hapart h

end AnchorPatch.Diff
