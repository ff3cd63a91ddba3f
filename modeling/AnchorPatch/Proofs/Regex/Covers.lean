import AnchorPatch.Proofs.Regex.Language

namespace AnchorPatch

namespace Regex

variable {s : CharSet} {t u : Text} {n : Nat} {a b : Address} {x y z : Spot} {w : List Bool}

theorem Cursor.exists_step? {c : Cursor} {x : Char} (hx : s.contains x = true)
    (h : c.after = x :: t) : ∃ d, c.step? s = some d ∧ c.Passes [x] d := by
  obtain ⟨before, after, offset, groups, hoffset⟩ := c
  obtain rfl : after = x :: t := h
  exact ⟨_, if_pos hx, rfl, rfl⟩

theorem Cursor.Passes.after_eq {c d : Cursor} (h : c.Passes t d) (hc : c.after = t ++ u) :
    d.after = u :=
  List.append_cancel_left (h.1.symm.trans hc)

/-- No choice was made at an address or at one below it. -/
def Spot.Fresh (x : Spot) (a : Address) : Prop := ∀ b ∈ x.made, ¬ a <:+ b

/-- Since `x`, choices were made at an address or below it only. -/
def Spot.Since (y x : Spot) (a : Address) : Prop := ∀ b ∈ y.made, b ∈ x.made ∨ a <:+ b

namespace Spot

variable {turn turn' : Turn}

theorem Since.refl (x : Spot) (a : Address) : x.Since x a := fun _ => .inl

theorem Since.trans (h : y.Since x a) (h' : z.Since y a) : z.Since x a :=
  fun b hb => (h' b hb).elim (h b) .inr

theorem Since.of_below (h : y.Since x (turn :: a)) : y.Since x a :=
  fun b hb => (h b hb).imp id (List.suffix_cons turn a).trans

theorem since_choose (x : Spot) (a : Address) : (x.choose a).Since x a := by
  intro b hb
  rcases List.mem_cons.mp hb with rfl | hb
  · exact .inr (List.suffix_refl _)
  · exact .inl hb

theorem since_of_made_eq_nil (h : y.made = []) : y.Since x a := by
  rw [Since, h]
  exact nofun

theorem Fresh.below (h : x.Fresh a) : x.Fresh (turn :: a) :=
  fun b hb hsuffix => h b hb ((List.suffix_cons turn a).trans hsuffix)

theorem Fresh.notMem (h : x.Fresh a) : a ∉ x.made := fun hmem => h a hmem (List.suffix_refl a)

theorem Fresh.choose (h : x.Fresh a) : (x.choose a).Fresh (turn :: a) := by
  intro b hb
  rcases List.mem_cons.mp hb with rfl | hb
  · intro hsuffix
    have hle := hsuffix.length_le
    rw [List.length_cons] at hle
    omega
  · exact h.below b hb

theorem fresh_of_made_eq_nil (h : x.made = []) : x.Fresh a := by
  rw [Fresh, h]
  exact nofun

theorem notSuffix_of_ne (hne : turn ≠ turn') (h : turn :: a <:+ b) : ¬ turn' :: a <:+ b := by
  intro h'
  have heq := List.suffix_of_suffix_length_le h h' (Nat.le_refl _)
  exact hne (List.cons.inj (heq.eq_of_length rfl)).1

/-- Choices that were made at one part do not stand in the way of another part. -/
theorem Fresh.of_since (h : x.Fresh a) (hne : turn ≠ turn') (hsince : y.Since x (turn :: a)) :
    y.Fresh (turn' :: a) := by
  intro b hb
  rcases hsince b hb with hb | hsuffix
  · exact h.below b hb
  · exact notSuffix_of_ne hne hsuffix

end Spot

namespace Ways

variable {P Q : Ways} {R : Nat → Ways} {greedy : Bool} {rest : Option Nat}

/-- On every way, choices are made at an address or below it only. -/
def Under (a : Address) (P : Ways) : Prop := ∀ x w y, P x w y → y.Since x a

theorem Under.of_below {turn : Turn} (h : P.Under (turn :: a)) : P.Under a :=
  fun x w y hway => (h x w y hway).of_below

theorem under_stay : stay.Under a := by
  rintro x _ _ ⟨rfl, rfl⟩
  exact .refl _ a

theorem Under.seq (hP : P.Under a) (hQ : Q.Under a) : (P.seq Q).Under a := by
  rintro x _ y ⟨u, v, z, rfl, hu, hv⟩
  exact (hP _ _ _ hu).trans (hQ _ _ _ hv)

theorem Under.either (hP : P.Under a) (hQ : Q.Under a) : (either a P Q).Under a := by
  rintro x w y ⟨-, v, ⟨-, hv⟩ | ⟨-, hv⟩⟩
  · exact (x.since_choose a).trans (hP _ _ _ hv)
  · exact (x.since_choose a).trans (hQ _ _ _ hv)

theorem under_copies (hR : ∀ n, (R n).Under a) (n : Nat) : (copies R n).Under a := by
  induction n with
  | zero => exact under_stay
  | succ n ih => exact (hR n).seq ih

theorem under_further (hR : ∀ n, (R n).Under a) : (Further a R greedy rest).Under a := by
  intro x w y h
  induction h with
  | full => exact .refl _ a
  | stop => exact (Spot.since_choose _ _).of_below
  | copy _ _ hcopy _ ih => exact ((Spot.since_choose _ _).of_below.trans (hR _ _ _ _ hcopy)).trans ih

end Ways

namespace Expr

variable {e e' : Expr}

theorem under_way (e : Expr) (a : Address) : (e.Way a).Under a := by
  induction e generalizing a with
  | empty => exact Ways.under_stay
  | chars set =>
      rintro x w ⟨d, _⟩ ⟨-, -, rfl⟩
      exact Spot.since_of_made_eq_nil rfl
  | look l =>
      rintro x w y ⟨-, hstay⟩
      exact Ways.under_stay x w y hstay
  | group index body ih =>
      rintro x w _ ⟨z, hz, rfl⟩
      exact ih a x w z hz
  | seq first second ih ih' => exact (ih _).of_below.seq (ih' _).of_below
  | alt first second ih ih' => exact (ih _).of_below.either (ih' _).of_below
  | iterate least most greedy body ih =>
      exact (Ways.under_copies (fun n => (ih _).of_below) least).seq
        (Ways.under_further fun n => (ih _).of_below)

/-- Some way passes exactly this text wherever it stands. -/
def Covers (e : Expr) (t : Text) : Prop :=
  ∀ a x u, x.cursor.after = t ++ u → x.Fresh a → ∃ w y, e.Way a x w y ∧ x.cursor.Passes t y.cursor

theorem covers_empty : Covers .empty [] :=
  fun _ x _ _ _ => ⟨[], x, ⟨rfl, rfl⟩, .refl x.cursor⟩

theorem covers_chars {x : Char} (hx : s.contains x = true) : Covers (.chars s) [x] := by
  intro a x u h _
  obtain ⟨d, hd, hpass⟩ := Cursor.exists_step? hx h
  exact ⟨[], ⟨d, []⟩, ⟨rfl, hd, rfl⟩, hpass⟩

theorem exists_copies_chars (address : Nat → Address) (ht : ∀ c ∈ t, s.contains c = true)
    (h : x.cursor.after = t ++ u) (hfresh : x.Fresh a) :
    ∃ w y, Ways.copies (fun n => (Expr.chars s).Way (address n)) t.length x w y ∧ y.Fresh a ∧
      x.cursor.Passes t y.cursor := by
  induction t generalizing x with
  | nil => exact ⟨[], x, ⟨rfl, rfl⟩, hfresh, .refl _⟩
  | cons c t ih =>
      obtain ⟨d, hd, hpass⟩ := Cursor.exists_step? (ht c List.mem_cons_self) h
      obtain ⟨w, y, hway, hfresh', hpass'⟩ := ih (x := ⟨d, []⟩)
        (fun c' hc' => ht c' (List.mem_cons_of_mem _ hc')) (hpass.after_eq h)
        (Spot.fresh_of_made_eq_nil rfl)
      exact ⟨w, y, ⟨[], w, ⟨d, []⟩, rfl, ⟨rfl, hd, rfl⟩, hway⟩, hfresh', hpass.trans hpass'⟩

theorem exists_further_chars (greedy : Bool) (ht : ∀ c ∈ t, s.contains c = true)
    (h : x.cursor.after = t ++ u) (hfresh : x.Fresh a) :
    ∃ w y, (Expr.chars s).Further a greedy none x w y ∧ x.cursor.Passes t y.cursor := by
  induction t generalizing x with
  | nil => exact ⟨_, _, .stop nofun hfresh.below.notMem, .refl _⟩
  | cons c t ih =>
      obtain ⟨d, hd, hpass⟩ := Cursor.exists_step? (ht c List.mem_cons_self) h
      obtain ⟨w, y, hway, hpass'⟩ := ih (x := ⟨d, []⟩)
        (fun c' hc' => ht c' (List.mem_cons_of_mem _ hc')) (hpass.after_eq h)
        (Spot.fresh_of_made_eq_nil rfl)
      have hstep : (Expr.chars s).Way (.further 0 :: a) (x.choose (.choice 0 :: a)) [] ⟨d, []⟩ :=
        ⟨rfl, hd, rfl⟩
      exact ⟨_, y, .copy nofun hfresh.below.notMem hstep hway, hpass.trans hpass'⟩

theorem covers_run {least : Nat} {greedy : Bool} (ht : ∀ x ∈ t, s.contains x = true)
    (hleast : least ≤ t.length) : Covers (.iterate least none greedy (.chars s)) t := by
  intro a x u h hfresh
  obtain ⟨t, t', rfl, hlength⟩ : ∃ v v', t = v ++ v' ∧ v.length = least :=
    ⟨t.take least, t.drop least, (List.take_append_drop least t).symm, by
      rw [List.length_take, Nat.min_eq_left hleast]⟩
  subst hlength
  rw [List.append_assoc] at h
  obtain ⟨w, y, hway, hfresh', hpass⟩ := exists_copies_chars
    (fun n => .ofCopy none n :: a) (fun c hc => ht c (List.mem_append_left _ hc)) h hfresh
  obtain ⟨w', z, hway', hpass'⟩ := exists_further_chars greedy
    (fun c hc => ht c (List.mem_append_right _ hc)) (hpass.after_eq h) hfresh'
  exact ⟨w ++ w', z, ⟨w, w', y, rfl, hway, hway'⟩, hpass.trans hpass'⟩

theorem Covers.seq (h : e.Covers t) (h' : e'.Covers u) : (Expr.seq e e').Covers (t ++ u) := by
  intro a x v hafter hfresh
  rw [List.append_assoc] at hafter
  obtain ⟨w, y, hway, hpass⟩ := h (.first :: a) x _ hafter hfresh.below
  obtain ⟨w', z, hway', hpass'⟩ := h' (.second :: a) y v (hpass.after_eq hafter)
    (hfresh.of_since (by simp) (under_way e _ x w y hway))
  exact ⟨w ++ w', z, ⟨w, w', y, rfl, hway, hway'⟩, hpass.trans hpass'⟩

theorem covers_optional (e e' : Expr) : Covers (.iterate 0 (some 1) true (.seq e e')) [] := by
  intro a x u _ hfresh
  have hstop : (Expr.seq e e').Further a true (some 1) x [true] (x.choose (.choice 1 :: a)) :=
    .stop (by decide) hfresh.below.notMem
  exact ⟨[true], _, ⟨[], [true], x, rfl, ⟨rfl, rfl⟩, hstop⟩, .refl _⟩

/-- A text whose parts are covered by some expressions, one behind another. -/
inductive CoversItems : List Expr → Text → Prop
  | nil : CoversItems [] []
  | cons {e : Expr} {es : List Expr} {t u : Text} (h : e.Covers t) (rest : CoversItems es u) :
      CoversItems (e :: es) (t ++ u)

theorem Covers.foldl {e : Expr} {es : List Expr} (h : e.Covers t) (hes : CoversItems es u) :
    (es.foldl .seq e).Covers (t ++ u) := by
  induction hes generalizing e t with
  | nil => simpa using h
  | cons he _ ih =>
      rw [← List.append_assoc]
      exact ih (h.seq he)

theorem CoversItems.ofItems {es : List Expr} (h : CoversItems es t) : (ofItems es).Covers t := by
  cases h with
  | nil => exact covers_empty
  | cons he hes => exact he.foldl hes

theorem CoversItems.append {es es' : List Expr} (h : CoversItems es t) (h' : CoversItems es' u) :
    CoversItems (es ++ es') (t ++ u) := by
  induction h with
  | nil => exact h'
  | cons he _ ih =>
      rw [List.append_assoc]
      exact .cons he ih

/-- A part that is a single character or a run of characters of any length. -/
def isPlain : Expr → Bool
  | .chars _ => true
  | .iterate _ none _ (.chars _) => true
  | _ => false

theorem copies_chars {n : Nat} (h : Copies (Expr.chars s).Reads n t) :
    t.length = n ∧ ∀ x ∈ t, s.contains x = true := by
  induction n generalizing t with
  | zero =>
      obtain rfl := h
      exact ⟨rfl, fun x hx => (by cases hx)⟩
  | succ n ih =>
      obtain ⟨u, v, rfl, ⟨x, hx, rfl⟩, hv⟩ := h
      obtain ⟨hlength, hall⟩ := ih hv
      refine ⟨by simp [hlength], ?_⟩
      intro y hy
      rcases List.mem_cons.mp hy with rfl | hy
      · exact hx
      · exact hall y hy

theorem covers_of_isPlain {e : Expr} (he : e.isPlain = true) (h : e.Reads t) : e.Covers t := by
  unfold isPlain at he
  split at he
  · obtain ⟨x, hx, rfl⟩ := h
    exact covers_chars hx
  · obtain ⟨n, hleast, -, hcopies⟩ := h
    obtain ⟨rfl, hall⟩ := copies_chars hcopies
    exact covers_run hall hleast
  · cases he

theorem coversItems_of_isPlain {es : List Expr} (hes : ∀ e ∈ es, e.isPlain = true)
    (h : ReadsItems es t) : CoversItems es t := by
  induction es generalizing t with
  | nil =>
      obtain rfl := h
      exact .nil
  | cons e es ih =>
      obtain ⟨u, v, rfl, hu, hv⟩ := h
      exact .cons (covers_of_isPlain (hes e List.mem_cons_self) hu)
        (ih (fun e' he' => hes e' (List.mem_cons_of_mem _ he')) hv)

end Expr

end Regex

end AnchorPatch
