import AnchorPatch.Proofs.Regex.Language

/-!
Searches for ways.

A search leaves out every choice that it has come to before at the same place. That is right because
no way leads on from there, or else only ways that make the choice twice. Main statement: a search
finds the preferred way through an expression wherever there is one.
-/

namespace AnchorPatch.Regex

variable {a b n : Address} {s s' t x y : Spot} {u v w : List Bool} {P Q : Ways} {R : Nat → Ways}
  {greedy : Bool} {rest : Option Nat}

/-- The same place, where no choices were made but these and those made at `s`. The groups that were
passed do not matter. -/
structure Spot.Near (more : List Address) (s' s : Spot) : Prop where
  before : s'.cursor.before = s.cursor.before
  after : s'.cursor.after = s.cursor.after
  made : s'.made ⊆ more ++ s.made

namespace Spot

variable {more : List Address}

theorem near_choose (s : Spot) (a : Address) : s.Near [] (s.choose a) :=
  ⟨rfl, rfl, List.subset_cons_self _ _⟩

theorem close_near (s : Spot) (index start : Nat) : (s.close index start).Near [] s :=
  ⟨rfl, rfl, List.Subset.refl _⟩

theorem near_close (s : Spot) (index start : Nat) : s.Near [] (s.close index start) :=
  ⟨rfl, rfl, List.Subset.refl _⟩

theorem Near.choose (h : s'.Near more s) (a : Address) : (s'.choose a).Near more (s.choose a) := by
  refine ⟨h.before, h.after, fun b hb => ?_⟩
  rcases List.mem_cons.mp hb with rfl | hb
  · exact List.mem_append_right _ List.mem_cons_self
  · rcases List.mem_append.mp (h.made hb) with hb | hb
    · exact List.mem_append_left _ hb
    · exact List.mem_append_right _ (List.mem_cons_of_mem _ hb)

theorem Near.step? {set : CharSet} {d : Cursor} (h : s'.Near more s)
    (hd : s.cursor.step? set = some d) :
    ∃ d', s'.cursor.step? set = some d' ∧ d'.before = d.before ∧ d'.after = d.after := by
  obtain ⟨⟨before, after, offset, groups, hoffset⟩, made⟩ := s
  obtain ⟨⟨before', after', offset', groups', hoffset'⟩, made'⟩ := s'
  obtain rfl : before' = before := h.before
  obtain rfl : after' = after := h.after
  cases after' with
  | nil => cases hd
  | cons x rest =>
      simp only [Cursor.step?] at hd ⊢
      split at hd
      next hx =>
        cases hd
        rw [if_pos hx]
        exact ⟨_, rfl, rfl, rfl⟩
      · cases hd

theorem Near.satisfies_eq (h : s'.Near more s) (l : Look) :
    s'.cursor.satisfies l = s.cursor.satisfies l := by
  rw [Cursor.satisfies, Cursor.satisfies, h.before, h.after]

end Spot

namespace Ways

/-- Wherever no more choices were made, there are the same ways. -/
def Mono (P : Ways) : Prop :=
  ∀ s' s w t, s'.Near [] s → P s w t → ∃ t', P s' w t' ∧ t'.Near [] t

theorem mono_stay : stay.Mono := by
  rintro s' s _ _ h ⟨rfl, rfl⟩
  exact ⟨s', ⟨rfl, rfl⟩, h⟩

theorem Mono.seq (hP : P.Mono) (hQ : Q.Mono) : (P.seq Q).Mono := by
  rintro s' s _ t h ⟨u, v, x, rfl, hu, hv⟩
  obtain ⟨x', hu', hx⟩ := hP _ _ _ _ h hu
  obtain ⟨t', hv', ht⟩ := hQ _ _ _ _ hx hv
  exact ⟨t', ⟨u, v, x', rfl, hu', hv'⟩, ht⟩

theorem Mono.either (hP : P.Mono) (hQ : Q.Mono) (a : Address) : (either a P Q).Mono := by
  rintro s' s _ t h ⟨hmade, v, ⟨rfl, hv⟩ | ⟨rfl, hv⟩⟩
  · obtain ⟨t', hv', ht⟩ := hP _ _ _ _ (h.choose a) hv
    exact ⟨t', ⟨fun hmem => hmade (h.made hmem), v, .inl ⟨rfl, hv'⟩⟩, ht⟩
  · obtain ⟨t', hv', ht⟩ := hQ _ _ _ _ (h.choose a) hv
    exact ⟨t', ⟨fun hmem => hmade (h.made hmem), v, .inr ⟨rfl, hv'⟩⟩, ht⟩

theorem mono_copies (hR : ∀ n, (R n).Mono) (n : Nat) : (copies R n).Mono := by
  induction n with
  | zero => exact mono_stay
  | succ n ih => exact (hR n).seq ih

theorem mono_further (hR : ∀ n, (R n).Mono) (rest : Option Nat) :
    (Further a R greedy rest).Mono := by
  intro s' s w t hs h
  induction h generalizing s' with
  | full => exact ⟨s', .full, hs⟩
  | stop hrest hmade => exact ⟨_, .stop hrest fun hmem => hmade (hs.made hmem), hs.choose _⟩
  | copy hrest hmade hcopy hfurther ih =>
      obtain ⟨x', hcopy', hx⟩ := hR _ _ _ _ _ (hs.choose _) hcopy
      obtain ⟨t', hfurther', ht⟩ := ih _ hx
      exact ⟨t', .copy hrest (fun hmem => hmade (hs.made hmem)) hcopy' hfurther', ht⟩

end Ways

theorem Expr.mono_way (e : Expr) (a : Address) : (e.Way a).Mono := by
  induction e generalizing a with
  | empty => exact Ways.mono_stay
  | chars set =>
      rintro s' s _ ⟨d, _⟩ h ⟨rfl, hd, rfl⟩
      obtain ⟨d', hd', hbefore, hafter⟩ := h.step? hd
      exact ⟨⟨d', []⟩, ⟨rfl, hd', rfl⟩, hbefore, hafter, List.Subset.refl _⟩
  | look l =>
      rintro s' s w t h ⟨hl, hstay⟩
      obtain ⟨t', hstay', ht⟩ := Ways.mono_stay _ _ _ _ h hstay
      exact ⟨t', ⟨(h.satisfies_eq l).trans hl, hstay'⟩, ht⟩
  | group index body ih =>
      rintro s' s w _ h ⟨x, hx, rfl⟩
      obtain ⟨x', hx', hnear⟩ := ih a _ _ _ _ h hx
      exact ⟨_, ⟨x', hx', rfl⟩, hnear.before, hnear.after, hnear.made⟩
  | seq first second ih ih' => exact (ih _).seq (ih' _)
  | alt first second ih ih' => exact (ih _).either (ih' _) a
  | iterate least most greedy body ih =>
      exact (Ways.mono_copies (fun n => ih _) least).seq (Ways.mono_further (fun n => ih _) _)

theorem Expr.mono_further (body : Expr) (a : Address) (greedy : Bool) (rest : Option Nat) :
    (body.Further a greedy rest).Mono :=
  Ways.mono_further (fun _ => body.mono_way _) rest

/-- What is asked of a spot. -/
abbrev Goal := Spot → Prop

/-- Some way leads to a spot of which the goal holds. -/
def Ways.Reaches (P : Ways) (G : Goal) : Goal := fun s => ∃ w t, P s w t ∧ G t

/-- There is some way. -/
def Ways.Open (P : Ways) : Goal := fun s => ∃ w t, P s w t

theorem Ways.open_seq (P Q : Ways) : (P.seq Q).Open = P.Reaches Q.Open := by
  funext s
  refine propext ⟨?_, ?_⟩
  · rintro ⟨_, t, u, v, x, rfl, hu, hv⟩
    exact ⟨u, x, hu, v, t, hv⟩
  · rintro ⟨u, x, hu, v, t, hv⟩
    exact ⟨_, t, u, v, x, rfl, hu, hv⟩

theorem Ways.reaches_seq (P Q : Ways) (G : Goal) :
    (P.seq Q).Reaches G = P.Reaches (Q.Reaches G) := by
  funext s
  refine propext ⟨?_, ?_⟩
  · rintro ⟨_, t, ⟨u, v, x, rfl, hu, hv⟩, ht⟩
    exact ⟨u, x, hu, v, t, hv, ht⟩
  · rintro ⟨u, x, hu, v, t, hv, ht⟩
    exact ⟨_, t, ⟨u, v, x, rfl, hu, hv⟩, ht⟩

theorem Ways.stay_reaches (G : Goal) : stay.Reaches G = G := by
  funext s
  refine propext ⟨?_, fun h => ⟨[], s, ⟨rfl, rfl⟩, h⟩⟩
  rintro ⟨_, _, ⟨rfl, rfl⟩, h⟩
  exact h

/-- A goal that stays reached where fewer choices were made. -/
def Goal.Mono (G : Goal) : Prop := ∀ s' s, s'.Near [] s → G s → G s'

theorem Ways.Mono.reaches {G : Goal} (hP : P.Mono) (hG : G.Mono) : (P.Reaches G).Mono := by
  rintro s' s h ⟨w, t, hw, ht⟩
  obtain ⟨t', hw', hnear⟩ := hP _ _ _ _ h hw
  exact ⟨w, t', hw', hG _ _ hnear ht⟩

variable {ρ : Address → Goal} {G H : Goal}

/-- What `ρ` says of the choices in an expression: from the choice some way leads through the rest
of the expression to the goal. -/
def Expr.Fits (ρ : Address → Goal) : Expr → Address → Goal → Prop
  | .empty, _, _ => True
  | .chars _, _, _ => True
  | .look _, _, _ => True
  | .group _ body, a, G => body.Fits ρ a G
  | .seq first second, a, G =>
      first.Fits ρ (.first :: a) ((second.Way (.second :: a)).Reaches G) ∧
        second.Fits ρ (.second :: a) G
  | .alt first second, a, G =>
      ρ a = ((Expr.alt first second).Way a).Reaches G ∧ first.Fits ρ (.first :: a) G ∧
        second.Fits ρ (.second :: a) G
  | .iterate least most greedy body, a, G =>
      let further (rest : Option Nat) : Goal :=
        (body.Further a greedy rest).Reaches G
      (∀ rest : Option Nat, rest.isSome = most.isSome → rest ≠ some 0 →
        ρ (.choice (rest.getD 0) :: a) = further rest ∧
          body.Fits ρ (.further (rest.getD 0) :: a) (further (rest.map (· - 1)))) ∧
        ∀ n, body.Fits ρ (.ofCopy most n :: a)
          ((Ways.copies (fun n => body.Way (.ofCopy most n :: a)) n).Reaches
            (further (most.map (· - least))))

/-- Whether some way leads on to the goal from the choice at which one arrives by some turns. -/
def Expr.onward : Expr → Address → Goal → List Turn → Goal
  | .group _ body, a, G, turns => body.onward a G turns
  | .seq first second, a, G, .first :: turns =>
      first.onward (.first :: a) ((second.Way (.second :: a)).Reaches G) turns
  | .seq _ second, a, G, .second :: turns => second.onward (.second :: a) G turns
  | .alt first second, a, G, [] => ((Expr.alt first second).Way a).Reaches G
  | .alt first _, a, G, .first :: turns => first.onward (.first :: a) G turns
  | .alt _ second, a, G, .second :: turns => second.onward (.second :: a) G turns
  | .iterate _ most greedy body, a, G, [.choice n] =>
      (body.Further a greedy (most.map fun _ => n)).Reaches G
  | .iterate _ most greedy body, a, G, .further n :: turns =>
      body.onward (.further n :: a)
        ((body.Further a greedy (most.map fun _ => n - 1)).Reaches G) turns
  | .iterate least most greedy body, a, G, .copy n :: turns =>
      body.onward (.copy n :: a)
        ((Ways.copies (fun n => body.Way (.ofCopy most n :: a)) n).Reaches
          ((body.Further a greedy (most.map (· - least))).Reaches G)) turns
  | _, _, _, _ => fun _ => False

theorem Expr.fits_of_onward {e : Expr} (h : ∀ turns, ρ (turns.reverse ++ a) = e.onward a G turns) :
    e.Fits ρ a G := by
  have hcons (turn : Turn) (turns : List Turn) :
      turns.reverse ++ turn :: a = (turn :: turns).reverse ++ a := by simp
  induction e generalizing a G with
  | empty => trivial
  | chars set => trivial
  | look l => trivial
  | group index body ih => exact ih h hcons
  | seq first second ih ih' =>
      exact ⟨ih (fun turns => (hcons _ _ ▸ h (.first :: turns))) (by simp),
        ih' (fun turns => (hcons _ _ ▸ h (.second :: turns))) (by simp)⟩
  | alt first second ih ih' =>
      exact ⟨h [], ih (fun turns => (hcons _ _ ▸ h (.first :: turns))) (by simp),
        ih' (fun turns => (hcons _ _ ▸ h (.second :: turns))) (by simp)⟩
  | iterate least most greedy body ih =>
      refine ⟨fun rest hrest hne => ?_, fun n => ?_⟩
      · have hmap : (most.map fun _ => rest.getD 0) = rest := by
          cases most with
          | none => cases rest with
            | none => rfl
            | some n => cases hrest
          | some m => cases rest with
            | none => cases hrest
            | some n => rfl
        have hmap' : (most.map fun _ => rest.getD 0 - 1) = rest.map (· - 1) := by
          rw [← hmap, Option.map_map]
          cases most <;> rfl
        refine ⟨?_, ih (fun turns => ?_) (by simp)⟩
        · have hchoice := h [.choice (rest.getD 0)]
          rw [onward, hmap] at hchoice
          exact hchoice
        · rw [hcons, h, onward, hmap']
      · refine ih (fun turns => ?_) (by simp)
        rw [hcons, h, Turn.ofCopy]
        split
        next hlast =>
          obtain ⟨rfl, rfl⟩ := hlast
          rw [onward, Ways.copies, Ways.stay_reaches]
          rfl
        · rw [onward]

/-- Where one more choice `n` was made before, the same goal is still reached unless the way there
makes that choice. -/
def Ways.Splits (ρ : Address → Goal) (n : Address) (P : Ways) (G : Goal) : Prop :=
  ∀ s w t, P s w t → G t → (∀ t', t'.Near [n] t → G t' ∨ ρ n t) →
    ∀ s', s'.Near [n] s → P.Reaches G s' ∨ ρ n s

namespace Ways

theorem Splits.seq (hP : P.Splits ρ n (Q.Reaches G)) (hQ : Q.Splits ρ n G) :
    (P.seq Q).Splits ρ n G := by
  rintro s _ t ⟨u, v, x, rfl, hu, hv⟩ ht hnear s' hs
  rw [reaches_seq]
  exact hP _ _ _ hu ⟨v, t, hv, ht⟩ (hQ _ _ _ hv ht hnear) s' hs

theorem splits_stay : stay.Splits ρ n G := by
  rintro s _ _ ⟨rfl, rfl⟩ - hnear s' hs
  rw [stay_reaches]
  exact hnear s' hs

theorem notMem_of_near (hs : s'.Near [n] s) (hmade : a ∉ s.made) (hne : a ≠ n) : a ∉ s'.made := by
  intro hmem
  rcases List.mem_cons.mp (hs.made hmem) with h | h
  · exact hne h
  · exact hmade h

theorem Splits.either (hn : (ρ n).Mono) (ha : ρ a = (either a P Q).Reaches G)
    (hP : P.Splits ρ n G) (hQ : Q.Splits ρ n G) : (either a P Q).Splits ρ n G := by
  rintro s w t h ht hnear s' hs
  by_cases hne : a = n
  · subst hne
    rw [ha]
    exact .inr ⟨w, t, h, ht⟩
  · obtain ⟨hmade, v, ⟨rfl, hv⟩ | ⟨rfl, hv⟩⟩ := h
    · rcases hP _ _ _ hv ht hnear _ (hs.choose a) with ⟨v', t', hv', ht'⟩ | h
      · exact .inl ⟨_, t', ⟨notMem_of_near hs hmade hne, v', .inl ⟨rfl, hv'⟩⟩, ht'⟩
      · exact .inr (hn _ _ (s.near_choose a) h)
    · rcases hQ _ _ _ hv ht hnear _ (hs.choose a) with ⟨v', t', hv', ht'⟩ | h
      · exact .inl ⟨_, t', ⟨notMem_of_near hs hmade hne, v', .inr ⟨rfl, hv'⟩⟩, ht'⟩
      · exact .inr (hn _ _ (s.near_choose a) h)

theorem splits_copies (hR : ∀ i, (R i).Splits ρ n ((copies R i).Reaches G)) (i : Nat) :
    (copies R i).Splits ρ n G := by
  induction i with
  | zero => exact splits_stay
  | succ i ih => exact (hR i).seq ih

theorem splits_further (hn : (ρ n).Mono) {bounded : Bool}
    (hρ : ∀ rest : Option Nat, rest.isSome = bounded → rest ≠ some 0 →
      ρ (.choice (rest.getD 0) :: a) = (Further a R greedy rest).Reaches G)
    (hR : ∀ rest : Option Nat, rest.isSome = bounded → rest ≠ some 0 →
      (R (rest.getD 0)).Splits ρ n ((Further a R greedy (rest.map (· - 1))).Reaches G))
    (hrest : rest.isSome = bounded) : (Further a R greedy rest).Splits ρ n G := by
  intro s w t h ht hnear
  induction h with
  | full =>
      intro s' hs
      exact (hnear s' hs).imp (fun h => ⟨[], s', .full, h⟩) id
  | @stop rest s hne hmade =>
      intro s' hs
      by_cases hchoice : .choice (rest.getD 0) :: a = n
      · rw [← hchoice, hρ rest hrest hne]
        exact .inr ⟨_, _, .stop hne hmade, ht⟩
      · rcases hnear _ (hs.choose _) with h | h
        · exact .inl ⟨_, _, .stop hne (notMem_of_near hs hmade hchoice), h⟩
        · exact .inr (hn _ _ (s.near_choose _) h)
  | @copy rest s x t u v hne hmade hcopy hfurther ih =>
      intro s' hs
      by_cases hchoice : .choice (rest.getD 0) :: a = n
      · rw [← hchoice, hρ rest hrest hne]
        exact .inr ⟨_, _, .copy hne hmade hcopy hfurther, ht⟩
      · have hrest' : (rest.map (· - 1)).isSome = bounded := by rw [Option.isSome_map, hrest]
        rcases hR rest hrest hne _ _ _ hcopy ⟨v, t, hfurther, ht⟩ (ih hrest' ht hnear) _
          (hs.choose _) with ⟨u', x', hcopy', v', t', hfurther', ht'⟩ | h
        · exact .inl ⟨_, t', .copy hne (notMem_of_near hs hmade hchoice) hcopy' hfurther', ht'⟩
        · exact .inr (hn _ _ (s.near_choose _) h)

end Ways

theorem Expr.splits_way {e : Expr} (hn : (ρ n).Mono) (hG : G.Mono) (hfits : e.Fits ρ a G) :
    (e.Way a).Splits ρ n G := by
  induction e generalizing a G with
  | empty => exact Ways.splits_stay
  | chars set =>
      rintro s _ ⟨d, _⟩ ⟨rfl, hd, rfl⟩ ht - s' hs
      obtain ⟨d', hd', hbefore, hafter⟩ := hs.step? hd
      exact .inl ⟨[], ⟨d', []⟩, ⟨rfl, hd', rfl⟩, hG _ _ ⟨hbefore, hafter, List.Subset.refl _⟩ ht⟩
  | look l =>
      rintro s w t ⟨hl, hstay⟩ ht hnear s' hs
      rcases Ways.splits_stay s w t hstay ht hnear s' hs with ⟨w', t', hstay', ht'⟩ | h
      · exact .inl ⟨w', t', ⟨(hs.satisfies_eq l).trans hl, hstay'⟩, ht'⟩
      · exact .inr h
  | group index body ih =>
      rintro s w _ ⟨x, hx, rfl⟩ ht hnear s' hs
      have hback := x.near_close index s.cursor.offset
      have hnear' (t' : Spot) (ht' : t'.Near [n] x) : G t' ∨ ρ n x :=
        (hnear t' ⟨ht'.before, ht'.after, ht'.made⟩).imp id (hn _ _ hback)
      rcases ih hG hfits s w x hx (hG _ _ hback ht) hnear' s' hs with ⟨w', x', hx', hG'⟩ | h
      · exact .inl ⟨w', _, ⟨x', hx', rfl⟩, hG _ _ (x'.close_near _ _) hG'⟩
      · exact .inr h
  | seq first second ih ih' =>
      exact (ih ((second.mono_way _).reaches hG) hfits.1).seq (ih' hG hfits.2)
  | alt first second ih ih' =>
      exact .either hn hfits.1 (ih hG hfits.2.1) (ih' hG hfits.2.2)
  | iterate least most greedy body ih =>
      have hfurther (rest : Option Nat) := (body.mono_further a greedy rest).reaches hG
      refine .seq (Ways.splits_copies (fun i => ?_) least) (Ways.splits_further hn
        (fun rest hrest hne => (hfits.1 rest hrest hne).1) (fun rest hrest hne => ?_)
        Option.isSome_map)
      · exact ih ((Ways.mono_copies (fun n => body.mono_way _) i).reaches (hfurther _)) (hfits.2 i)
      · exact ih (hfurther _) (hfits.1 rest hrest hne).2

end AnchorPatch.Regex
