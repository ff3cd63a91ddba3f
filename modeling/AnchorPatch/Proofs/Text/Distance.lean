import AnchorPatch.Text.Distance

namespace AnchorPatch.Text

/-- `n` characters are inserted, deleted or exchanged to turn `s` into `t`. -/
inductive Edits : Text → Text → Nat → Prop
  | done : Edits [] [] 0
  | keep {s t : Text} {n : Nat} (c : Char) : Edits s t n → Edits (c :: s) (c :: t) n
  | insert {s t : Text} {n : Nat} (c : Char) : Edits s t n → Edits s (c :: t) (n + 1)
  | delete {s t : Text} {n : Nat} (a : Char) : Edits s t n → Edits (a :: s) t (n + 1)
  | exchange {s t : Text} {n : Nat} (a c : Char) :
      Edits s t n → Edits (a :: s) (c :: t) (n + 1)

variable {s t : Text} {n : Nat}

theorem distanceRow_cons (a : Char) (s t : Text) :
    distanceRow (a :: s) t = distance (a :: s) t :: distanceRow s t := by
  induction t with
  | nil => rfl
  | cons c t ih =>
      rw [distance, distanceRow, ih, extendRow, distanceRow]
      rfl

theorem distance_nil_right (s : Text) : distance s [] = s.length := by
  cases s <;> rfl

theorem distance_nil_left (t : Text) : distance [] t = t.length := by
  induction t with
  | nil => rfl
  | cons c t ih => exact congrArg (· + 1) ih

theorem distance_cons_cons (a c : Char) (s t : Text) :
    distance (a :: s) (c :: t) =
      if a = c then distance s t
      else min (distance (a :: s) t) (min (distance s (c :: t)) (distance s t)) + 1 := by
  rw [distance, distanceRow, distanceRow_cons, extendRow]
  rfl

theorem distance_comm (s t : Text) : distance s t = distance t s := by
  induction s generalizing t with
  | nil => rw [distance_nil_left, distance_nil_right]
  | cons a s ihs =>
      induction t with
      | nil => rw [distance_nil_left, distance_nil_right]
      | cons c t iht =>
          rw [distance_cons_cons, distance_cons_cons, ihs t, ihs (c :: t), iht]
          by_cases h : a = c
          · rw [if_pos h, if_pos h.symm]
          · rw [if_neg h, if_neg (Ne.symm h)]
            omega

theorem distance_insert_le_of (h : ∀ a s, distance s t ≤ distance (a :: s) t + 1) (c : Char)
    (s : Text) : distance s (c :: t) ≤ distance s t + 1 := by
  cases s with
  | nil => simp [distance_nil_left]
  | cons a s =>
      have hs := h a s
      rw [distance_cons_cons]
      split <;> omega

theorem distance_tail_le (a : Char) (s t : Text) :
    distance s t ≤ distance (a :: s) t + 1 := by
  induction t generalizing a s with
  | nil =>
      rw [distance_nil_right, distance_nil_right, List.length_cons]
      omega
  | cons c t ih =>
      have hinsert := distance_insert_le_of ih c s
      have htail := ih a s
      rw [distance_cons_cons]
      split <;> omega

theorem distance_insert_le (c : Char) (s t : Text) :
    distance s (c :: t) ≤ distance s t + 1 :=
  distance_insert_le_of (fun a s => distance_tail_le a s t) c s

theorem distance_delete_le (a : Char) (s t : Text) :
    distance (a :: s) t ≤ distance s t + 1 := by
  rw [distance_comm, distance_comm s]
  exact distance_insert_le a t s

theorem distance_exchange_le (a c : Char) (s t : Text) :
    distance (a :: s) (c :: t) ≤ distance s t + 1 := by
  rw [distance_cons_cons]
  split <;> omega

theorem Edits.insertAll (t : Text) : Edits [] t t.length := by
  induction t with
  | nil => exact .done
  | cons c t ih => exact ih.insert c

theorem Edits.deleteAll (s : Text) : Edits s [] s.length := by
  induction s with
  | nil => exact .done
  | cons a s ih => exact ih.delete a

theorem edits_distance (s t : Text) : Edits s t (distance s t) := by
  induction s generalizing t with
  | nil =>
      rw [distance_nil_left]
      exact Edits.insertAll t
  | cons a s ihs =>
      induction t with
      | nil =>
          rw [distance_nil_right]
          exact Edits.deleteAll (a :: s)
      | cons c t iht =>
          rw [distance_cons_cons]
          split
          next h =>
            subst h
            exact (ihs t).keep a
          next h =>
            rcases Nat.le_total (distance (a :: s) t) (min (distance s (c :: t)) (distance s t))
              with hle | hle
            · rw [Nat.min_eq_left hle]
              exact iht.insert c
            · rw [Nat.min_eq_right hle]
              rcases Nat.le_total (distance s (c :: t)) (distance s t) with hle | hle
              · rw [Nat.min_eq_left hle]
                exact (ihs (c :: t)).delete a
              · rw [Nat.min_eq_right hle]
                exact (ihs t).exchange a c

theorem Edits.distance_le (h : Edits s t n) : distance s t ≤ n := by
  induction h with
  | done => exact Nat.le_refl 0
  | keep c _ ih =>
      rw [distance_cons_cons, if_pos rfl]
      exact ih
  | insert c _ ih => exact Nat.le_trans (distance_insert_le c _ _) (Nat.succ_le_succ ih)
  | delete a _ ih => exact Nat.le_trans (distance_delete_le a _ _) (Nat.succ_le_succ ih)
  | exchange a c _ ih => exact Nat.le_trans (distance_exchange_le a c _ _) (Nat.succ_le_succ ih)

theorem edits_zero_iff : Edits s t 0 ↔ s = t := by
  constructor
  · intro h
    generalize hn : 0 = n at h
    induction h with
    | done => rfl
    | keep c _ ih => rw [ih hn]
    | insert | delete | exchange => cases hn
  · rintro rfl
    induction s with
    | nil => exact .done
    | cons c s ih => exact ih.keep c

theorem distance_eq_zero_iff : distance s t = 0 ↔ s = t := by
  constructor
  · intro h
    exact edits_zero_iff.mp (h ▸ edits_distance s t)
  · intro h
    exact Nat.le_zero.mp (edits_zero_iff.mpr h).distance_le

theorem distance_le_max (s t : Text) : distance s t ≤ max s.length t.length := by
  induction s generalizing t with
  | nil => simp [distance_nil_left]
  | cons a s ih =>
      cases t with
      | nil => simp [distance_nil_right]
      | cons c t =>
          have hexchange := distance_exchange_le a c s t
          have hrest := ih t
          rw [List.length_cons, List.length_cons]
          omega

end AnchorPatch.Text
