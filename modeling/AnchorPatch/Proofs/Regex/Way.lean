import AnchorPatch.Regex.Backtrack
import Mathlib.Data.Set.Defs

namespace AnchorPatch

theorem Text.eq_of_byteLength {a b x y : Text} (h : a ++ x = b ++ y)
    (hlength : a.byteLength = b.byteLength) : a = b := by
  have ha := Text.splitAt?_byteLength a x
  rw [h, hlength, Text.splitAt?_byteLength] at ha
  cases ha
  rfl

namespace Regex

namespace Cursor

variable {c d d' e : Cursor} {t u : Text}

/-- A text stands between two places. -/
def Passes (c : Cursor) (t : Text) (d : Cursor) : Prop :=
  c.after = t ++ d.after ∧ d.before = t.reverse ++ c.before

theorem Passes.refl (c : Cursor) : c.Passes [] c := ⟨rfl, rfl⟩

theorem Passes.trans (h : c.Passes t d) (h' : d.Passes u e) : c.Passes (t ++ u) e := by
  constructor
  · rw [h.1, h'.1, List.append_assoc]
  · rw [h'.2, h.2, List.reverse_append, List.append_assoc]

theorem Passes.whole_eq (h : c.Passes t d) : d.whole = c.whole := by
  simp [whole, h.1, h.2]

theorem Passes.offset_eq (h : c.Passes t d) : d.offset = c.offset + t.byteLength := by
  rw [d.offset_eq, c.offset_eq, h.2, Text.byteLength_append, Text.byteLength_reverse, Nat.add_comm]

theorem Passes.offset_le (h : c.Passes t d) : c.offset ≤ d.offset := by
  rw [h.offset_eq]
  exact Nat.le_add_right _ _

theorem Passes.eq_of_offset (h : c.Passes t d) (h' : c.Passes u d')
    (hoffset : d'.offset = d.offset) : u = t := by
  refine Text.eq_of_byteLength (h'.1.symm.trans h.1) ?_
  rw [h.offset_eq, h'.offset_eq] at hoffset
  omega

theorem passes_of_next? (h : c.next? = some d) : ∃ x, c.Passes [x] d := by
  unfold next? at h
  split at h
  · cases h
  next x rest hx =>
    cases h
    exact ⟨x, by simp [Passes, hx]⟩

theorem passes_of_step? {s : CharSet} (h : c.step? s = some d) :
    ∃ x, s.contains x = true ∧ c.Passes [x] d := by
  unfold step? at h
  split at h
  · cases h
  next x rest hx =>
    split at h
    next hs =>
      obtain ⟨y, hy⟩ := passes_of_next? h
      have hxy : x = y := by
        have hafter := hy.1
        rw [hx, List.singleton_append, List.cons.injEq] at hafter
        exact hafter.1
      exact ⟨y, hxy ▸ hs, hy⟩
    · cases h

end Cursor

/-- A place on a way, with the choices made there since the last character. -/
structure Spot where
  cursor : Cursor
  made : List Address := []

/-- The spot where one more choice was made. -/
def Spot.choose (s : Spot) (a : Address) : Spot := { s with made := a :: s.made }

/-- The spot at the end of a group that began at `start`. -/
def Spot.close (s : Spot) (index start : Nat) : Spot :=
  { s with cursor := { s.cursor with groups := ⟨index, start, s.cursor.offset⟩ :: s.cursor.groups } }

/-- Ways from spot to spot. A way is told by what is chosen on it, one time after another: `false`
is the choice that is preferred. -/
abbrev Ways := Spot → List Bool → Spot → Prop

namespace Ways

/-- The way that goes nowhere. -/
def stay : Ways := fun s w t => w = [] ∧ t = s

/-- A way and then another one. -/
def seq (P Q : Ways) : Ways := fun s w t => ∃ u v x, w = u ++ v ∧ P s u x ∧ Q x v t

/-- A way or another one. It is not chosen twice at one place. -/
def either (a : Address) (P Q : Ways) : Ways := fun s w t =>
  a ∉ s.made ∧
    ∃ v, (w = false :: v ∧ P (s.choose a) v t) ∨ (w = true :: v ∧ Q (s.choose a) v t)

/-- The copies of a part that an iteration has to take. -/
def copies (P : Nat → Ways) : Nat → Ways
  | 0 => stay
  | n + 1 => (P n).seq (copies P n)

/-- The further copies of a part that an iteration may take, up to `rest` of them. -/
inductive Further (a : Address) (P : Nat → Ways) (greedy : Bool) : Option Nat → Ways
  | full {s : Spot} : Further a P greedy (some 0) s [] s
  | stop {rest : Option Nat} {s : Spot} (hrest : rest ≠ some 0)
      (hmade : .choice (rest.getD 0) :: a ∉ s.made) :
      Further a P greedy rest s [greedy] (s.choose (.choice (rest.getD 0) :: a))
  | copy {rest : Option Nat} {s x t : Spot} {u v : List Bool} (hrest : rest ≠ some 0)
      (hmade : .choice (rest.getD 0) :: a ∉ s.made)
      (hcopy : P (rest.getD 0) (s.choose (.choice (rest.getD 0) :: a)) u x)
      (hfurther : Further a P greedy (rest.map (· - 1)) x v t) :
      Further a P greedy rest s ((!greedy) :: (u ++ v)) t

end Ways

/-- The ways through an expression that stands at an address. A choice is not made twice at one
place, so that nothing is repeated without a character. -/
def Expr.Way : Expr → Address → Ways
  | .empty, _, s, w, t => Ways.stay s w t
  | .chars set, _, s, w, t => w = [] ∧ s.cursor.step? set = some t.cursor ∧ t.made = []
  | .look l, _, s, w, t => s.cursor.satisfies l = true ∧ Ways.stay s w t
  | .group index body, a, s, w, t =>
      ∃ x, body.Way a s w x ∧ t = x.close index s.cursor.offset
  | .seq first second, a, s, w, t =>
      Ways.seq (first.Way (.first :: a)) (second.Way (.second :: a)) s w t
  | .alt first second, a, s, w, t =>
      Ways.either a (first.Way (.first :: a)) (second.Way (.second :: a)) s w t
  | .iterate least most greedy body, a, s, w, t =>
      Ways.seq (Ways.copies (fun n => body.Way (.ofCopy most n :: a)) least)
        (Ways.Further a (fun n => body.Way (.further n :: a)) greedy (most.map (· - least))) s w t

/-- The ways through the further copies of a part. -/
abbrev Expr.Further (body : Expr) (a : Address) (greedy : Bool) : Option Nat → Ways :=
  Ways.Further a (fun n => body.Way (.further n :: a)) greedy

/-- The way with the choices `v` is preferred to the one with the choices `w`: where they part, it
takes what is preferred. -/
inductive Precedes : List Bool → List Bool → Prop
  | here {v w : List Bool} : Precedes (false :: v) (true :: w)
  | there {b : Bool} {v w : List Bool} (h : Precedes v w) : Precedes (b :: v) (b :: w)

/-- The way through a whole expression with the choices `w` leads from one place to another. -/
def Expr.Goes (e : Expr) (c : Cursor) (w : List Bool) (d : Cursor) : Prop :=
  ∃ made, e.Way [] ⟨c, []⟩ w ⟨d, made⟩

/-- The preferred way through a whole expression from a place. -/
structure Expr.Prefers (e : Expr) (c : Cursor) (w : List Bool) (d : Cursor) : Prop where
  goes : e.Goes c w d
  first : ∀ w' d', e.Goes c w' d' → ¬ Precedes w' w

/-- The places where a match that begins at `c` may end. -/
def Expr.ends (e : Expr) (c : Cursor) : Set Cursor := {d | ∃ w, e.Goes c w d}

variable {a : Address} {s s' t t' x x' : Spot} {u u' v v' w w' : List Bool} {P Q : Ways}
  {R : Nat → Ways} {greedy : Bool} {rest : Option Nat} {n : Nat}

namespace Precedes

theorem append_right (h : Precedes v w) (u u' : List Bool) : Precedes (v ++ u) (w ++ u') := by
  induction h with
  | here => exact .here
  | there _ ih => exact .there ih

theorem append_left (u : List Bool) (h : Precedes v w) : Precedes (u ++ v) (u ++ w) := by
  induction u with
  | nil => exact h
  | cons b u ih => exact .there ih

end Precedes

namespace Ways

/-- Of two ways from one spot, one is preferred to the other or they are the same. -/
def Linear (P : Ways) : Prop :=
  ∀ s w t w' t', P s w t → P s w' t' → (w = w' ∧ t = t') ∨ Precedes w w' ∨ Precedes w' w

theorem linear_stay : stay.Linear := by
  rintro s w t w' t' ⟨rfl, rfl⟩ ⟨rfl, rfl⟩
  exact .inl ⟨rfl, rfl⟩

theorem Linear.seq (hP : P.Linear) (hQ : Q.Linear) : (P.seq Q).Linear := by
  rintro s _ t _ t' ⟨u, v, x, rfl, hu, hv⟩ ⟨u', v', x', rfl, hu', hv'⟩
  rcases hP _ _ _ _ _ hu hu' with ⟨rfl, rfl⟩ | h | h
  · rcases hQ _ _ _ _ _ hv hv' with ⟨rfl, rfl⟩ | h | h
    · exact .inl ⟨rfl, rfl⟩
    · exact .inr (.inl (h.append_left u))
    · exact .inr (.inr (h.append_left u))
  · exact .inr (.inl (h.append_right v v'))
  · exact .inr (.inr (h.append_right v' v))

theorem Linear.either (hP : P.Linear) (hQ : Q.Linear) (a : Address) : (either a P Q).Linear := by
  have hcons {b : Bool} {v v' : List Bool} {t t' : Spot}
      (h : (v = v' ∧ t = t') ∨ Precedes v v' ∨ Precedes v' v) :
      (b :: v = b :: v' ∧ t = t') ∨ Precedes (b :: v) (b :: v') ∨ Precedes (b :: v') (b :: v) := by
    rcases h with ⟨rfl, rfl⟩ | h | h
    · exact .inl ⟨rfl, rfl⟩
    · exact .inr (.inl (.there h))
    · exact .inr (.inr (.there h))
  rintro s _ t _ t' ⟨-, v, ⟨rfl, hv⟩ | ⟨rfl, hv⟩⟩ ⟨-, v', ⟨rfl, hv'⟩ | ⟨rfl, hv'⟩⟩
  · exact hcons (hP _ _ _ _ _ hv hv')
  · exact .inr (.inl .here)
  · exact .inr (.inr .here)
  · exact hcons (hQ _ _ _ _ _ hv hv')

theorem linear_copies (hR : ∀ n, (R n).Linear) (n : Nat) : (copies R n).Linear := by
  induction n with
  | zero => exact linear_stay
  | succ n ih => exact (hR n).seq ih

theorem further_full : Further a R greedy (some 0) = stay := by
  funext s w t
  refine propext ⟨?_, ?_⟩
  · intro h
    cases h with
    | full => exact ⟨rfl, rfl⟩
    | stop hrest => exact absurd rfl hrest
    | copy hrest => exact absurd rfl hrest
  · rintro ⟨rfl, rfl⟩
    exact .full

theorem further_seq (hrest : rest ≠ some 0) (Q : Ways) :
    (Further a R greedy rest).seq Q =
      either (.choice (rest.getD 0) :: a)
        (if greedy then (R (rest.getD 0)).seq ((Further a R greedy (rest.map (· - 1))).seq Q) else Q)
        (if greedy then Q
          else (R (rest.getD 0)).seq ((Further a R greedy (rest.map (· - 1))).seq Q)) := by
  funext s w t
  refine propext ⟨?_, ?_⟩
  · rintro ⟨u, v, x, rfl, hu, hv⟩
    cases hu with
    | full => exact absurd rfl hrest
    | stop _ hmade =>
        cases greedy with
        | true => exact ⟨hmade, v, .inr ⟨rfl, hv⟩⟩
        | false => exact ⟨hmade, v, .inl ⟨rfl, hv⟩⟩
    | copy _ hmade hcopy hfurther =>
        have hon := (⟨_, _, _, List.append_assoc .., hcopy, _, _, _, rfl, hfurther, hv⟩ :
          (R (rest.getD 0)).seq ((Further a R greedy (rest.map (· - 1))).seq Q)
            (s.choose _) _ t)
        cases greedy with
        | true => exact ⟨hmade, _, .inl ⟨rfl, hon⟩⟩
        | false => exact ⟨hmade, _, .inr ⟨rfl, hon⟩⟩
  · have hstop {v : List Bool} (hmade : .choice (rest.getD 0) :: a ∉ s.made)
        (h : Q (s.choose (.choice (rest.getD 0) :: a)) v t) :
        (Further a R greedy rest).seq Q s (greedy :: v) t :=
      ⟨[greedy], v, _, rfl, .stop hrest hmade, h⟩
    have hcopy {v : List Bool} (hmade : .choice (rest.getD 0) :: a ∉ s.made)
        (h : (R (rest.getD 0)).seq ((Further a R greedy (rest.map (· - 1))).seq Q)
          (s.choose (.choice (rest.getD 0) :: a)) v t) :
        (Further a R greedy rest).seq Q s ((!greedy) :: v) t := by
      obtain ⟨u, _, x, rfl, hu, v, v', x', rfl, hv, hv'⟩ := h
      exact ⟨_, v', x', by simp, .copy hrest hmade hu hv, hv'⟩
    rintro ⟨hmade, v, ⟨rfl, h⟩ | ⟨rfl, h⟩⟩
    · cases greedy with
      | true => exact hcopy hmade h
      | false => exact hstop hmade h
    · cases greedy with
      | true => exact hstop hmade h
      | false => exact hcopy hmade h

theorem seq_assoc (P Q R : Ways) : (P.seq Q).seq R = P.seq (Q.seq R) := by
  funext s w t
  refine propext ⟨?_, ?_⟩
  · rintro ⟨_, z, y, rfl, ⟨u, v, x, rfl, hu, hv⟩, hz⟩
    exact ⟨u, v ++ z, x, by simp, hu, v, z, y, rfl, hv, hz⟩
  · rintro ⟨u, _, x, rfl, hu, v, z, y, rfl, hv, hz⟩
    exact ⟨u ++ v, z, y, by simp, ⟨u, v, x, rfl, hu, hv⟩, hz⟩

theorem stay_seq (P : Ways) : stay.seq P = P := by
  funext s w t
  refine propext ⟨?_, fun h => ⟨[], w, s, rfl, ⟨rfl, rfl⟩, h⟩⟩
  rintro ⟨_, v, _, rfl, ⟨rfl, rfl⟩, hv⟩
  exact hv

theorem seq_stay (P : Ways) : P.seq stay = P := by
  funext s w t
  refine propext ⟨?_, fun h => ⟨w, [], t, by simp, h, rfl, rfl⟩⟩
  rintro ⟨u, _, x, rfl, hu, rfl, rfl⟩
  simpa using hu

theorem linear_further (hR : ∀ n, (R n).Linear) (rest : Option Nat) :
    (Further a R greedy rest).Linear := by
  intro s w t w' t' h h'
  induction h generalizing w' t' with
  | full => exact linear_stay _ _ _ _ _ ⟨rfl, rfl⟩ (further_full ▸ h')
  | stop hrest =>
      cases h' with
      | full => exact absurd rfl hrest
      | stop => exact .inl ⟨rfl, rfl⟩
      | copy =>
          cases greedy with
          | true => exact .inr (.inr .here)
          | false => exact .inr (.inl .here)
  | @copy rest s x t u v hrest hmade hcopy hfurther ih =>
      cases h' with
      | full => exact absurd rfl hrest
      | stop =>
          cases greedy with
          | true => exact .inr (.inl .here)
          | false => exact .inr (.inr .here)
      | copy _ _ hcopy' hfurther' =>
          rcases hR _ _ _ _ _ _ hcopy hcopy' with ⟨rfl, rfl⟩ | h | h
          · rcases ih _ _ hfurther' with ⟨rfl, rfl⟩ | h | h
            · exact .inl ⟨rfl, rfl⟩
            · exact .inr (.inl (.there (h.append_left u)))
            · exact .inr (.inr (.there (h.append_left u)))
          · exact .inr (.inl (.there (h.append_right _ _)))
          · exact .inr (.inr (.there (h.append_right _ _)))

end Ways

namespace Expr

variable {e : Expr} {c d d' : Cursor}

theorem way_chars_seq {set : CharSet} (hd : s.cursor.step? set = some d) (P : Ways) :
    (((Expr.chars set).Way a).seq P) s w t ↔ P ⟨d, []⟩ w t := by
  constructor
  · rintro ⟨_, w, ⟨d', _⟩, rfl, ⟨rfl, hd', rfl⟩, h⟩
    rw [hd] at hd'
    cases hd'
    exact h
  · intro h
    exact ⟨[], w, ⟨d, []⟩, rfl, ⟨rfl, hd, rfl⟩, h⟩

theorem linear_way (e : Expr) (a : Address) : (e.Way a).Linear := by
  induction e generalizing a with
  | empty => exact Ways.linear_stay
  | chars set =>
      rintro s _ ⟨d, _⟩ _ ⟨d', _⟩ ⟨rfl, hd, rfl⟩ ⟨rfl, hd', rfl⟩
      rw [hd, Option.some.injEq] at hd'
      obtain rfl : d = d' := hd'
      exact .inl ⟨rfl, rfl⟩
  | look l =>
      rintro s w t w' t' ⟨-, h⟩ ⟨-, h'⟩
      exact Ways.linear_stay s w t w' t' h h'
  | group index body ih =>
      rintro s w _ w' _ ⟨x, h, rfl⟩ ⟨x', h', rfl⟩
      rcases ih a s w x w' x' h h' with ⟨rfl, rfl⟩ | h | h
      · exact .inl ⟨rfl, rfl⟩
      · exact .inr (.inl h)
      · exact .inr (.inr h)
  | seq first second ih ih' => exact (ih _).seq (ih' _)
  | alt first second ih ih' => exact (ih _).either (ih' _) a
  | iterate least most greedy body ih =>
      exact (Ways.linear_copies (fun n => ih _) least).seq (Ways.linear_further (fun n => ih _) _)

theorem Prefers.unique (h : e.Prefers c w d) (h' : e.Prefers c w' d') : w = w' ∧ d = d' := by
  obtain ⟨made, hway⟩ := h.goes
  obtain ⟨made', hway'⟩ := h'.goes
  rcases e.linear_way [] _ _ _ _ _ hway hway' with ⟨rfl, heq⟩ | hlt | hlt
  · exact ⟨rfl, (Spot.mk.inj heq).1⟩
  · exact absurd hlt (h'.first w d h.goes)
  · exact absurd hlt (h.first w' d' h'.goes)

end Expr

end Regex

end AnchorPatch
