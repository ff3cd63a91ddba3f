import AnchorPatch.Proofs.Regex.Onward
import Mathlib.Data.Set.Basic

namespace AnchorPatch.Regex

variable {a b : Address} {i p : Nat} {v v' v'' : Visited} {s x y : Spot} {ρ : Address → Goal}
  {P Q κ : Ways} {k : Search} {greedy : Bool} {rest : Option Nat} {r : Option Cursor × Visited}

theorem Visited.contains_insert :
    (v.insert a i).contains b p = true ↔ (b = a ∧ p = i) ∨ v.contains b p = true := by
  have hbit (places : Nat) :
      (places ||| 1 <<< i).testBit p = true ↔ p = i ∨ places.testBit p = true := by
    rw [Nat.testBit_or, Nat.shiftLeft_eq, Nat.one_mul, Nat.testBit_two_pow, Bool.or_eq_true,
      decide_eq_true_eq, or_comm, eq_comm]
  induction v with
  | nil =>
      have hzero := hbit 0
      rw [Nat.zero_or, Nat.zero_testBit] at hzero
      simp only [insert, contains]
      split
      next hab =>
        rw [hzero]
        simp [hab]
      next hab => simp [Ne.symm hab]
  | cons entry v ih =>
      obtain ⟨a', places⟩ := entry
      simp only [insert]
      split
      next ha =>
        subst ha
        simp only [contains]
        split
        next hb =>
          rw [hbit]
          simp [hb]
        next hb => simp [Ne.symm hb]
      next ha =>
        simp only [contains]
        split
        next hb =>
          subst hb
          simp [ha]
        next hb => exact ih

/-- A goal that is reached with more choices made before, unless the way there makes them. -/
structure Goal.Tame (ρ : Address → Goal) (G : Goal) : Prop where
  mono : G.Mono
  splits : ∀ n, (ρ n).Mono → ∀ s' s, s'.Near [n] s → G s → G s' ∨ ρ n s

theorem Goal.Tame.of_splits {G : Goal} (hG : G.Tame ρ) (hP : P.Mono)
    (hsplits : ∀ n, (ρ n).Mono → P.Splits ρ n G) : (P.Reaches G).Tame ρ := by
  refine ⟨hP.reaches hG.mono, ?_⟩
  rintro n hn s' s hs ⟨w, t, hw, ht⟩
  exact hsplits n hn s w t hw ht (fun t' ht' => hG.splits n hn t' t ht' ht) s' hs

theorem Goal.Tame.way {e : Expr} {G : Goal} (hG : G.Tame ρ) (hfits : e.Fits ρ a G) :
    ((e.Way a).Reaches G).Tame ρ :=
  hG.of_splits (e.mono_way a) fun _ hn => e.splits_way hn hG.mono hfits

/-- The spots that may still be come to from a spot: the same place with more choices made, and all
places behind it. -/
inductive Spot.Follows (x s : Spot) : Prop
  | here (before : x.cursor.before = s.cursor.before) (after : x.cursor.after = s.cursor.after)
      (made : s.made ⊆ x.made)
  | behind {t : Text} (ht : t ≠ []) (hpass : s.cursor.Passes t x.cursor)

namespace Spot

@[simp] theorem cursor_choose (s : Spot) (a : Address) : (s.choose a).cursor = s.cursor := rfl

theorem Follows.refl (s : Spot) : s.Follows s := .here rfl rfl (List.Subset.refl _)

theorem Follows.of_choose (h : x.Follows (s.choose a)) : x.Follows s := by
  cases h with
  | here before after made => exact .here before after fun b hb => made (List.mem_cons_of_mem _ hb)
  | behind ht hpass => exact .behind ht hpass

theorem Follows.of_passes {d : Cursor} {t : Text} (hpass : s.cursor.Passes t d) (ht : t ≠ [])
    (h : x.Follows ⟨d, []⟩) : x.Follows s := by
  cases h with
  | here before after =>
      refine .behind ht ⟨?_, ?_⟩
      · rw [after, hpass.1]
      · rw [before, hpass.2]
  | behind _ hpass' => exact .behind (by simp [ht]) (hpass.trans hpass')

theorem follows_of_behind {c : Char} {d : Cursor} {t : Text} (hpass : s.cursor.Passes [c] d)
    (ht : t ≠ []) (h : s.cursor.Passes t x.cursor) : x.Follows ⟨d, []⟩ := by
  obtain ⟨c', t, rfl⟩ := List.exists_cons_of_ne_nil ht
  have hafter := hpass.1.symm.trans h.1
  simp only [List.cons_append, List.nil_append, List.cons.injEq] at hafter
  obtain ⟨rfl, hafter⟩ := hafter
  have hbefore : x.cursor.before = t.reverse ++ d.before := by
    rw [h.2, hpass.2]
    simp
  cases t with
  | nil => exact .here hbefore hafter.symm (List.nil_subset _)
  | cons c' t => exact .behind (List.cons_ne_nil _ _) ⟨hafter, hbefore⟩

end Spot

/-- The choices that were come to are those made at the spot, and others. From none of them a way
leads on that may still be taken. -/
structure Dead (ρ : Address → Goal) (v : Visited) (s : Spot) : Prop where
  made : ∀ b ∈ s.made, v.contains b s.cursor.offset = true
  tame : ∀ b p, v.contains b p = true → (ρ b).Tame ρ
  closed : ∀ b p, v.contains b p = true → ∀ x : Spot, x.Follows s → x.cursor.offset = p → ¬ ρ b x

/-- More choices were come to, at no places before the spot. -/
structure Visited.Grows (v : Visited) (s : Spot) (v' : Visited) : Prop where
  le : ∀ b p, v.contains b p = true → v'.contains b p = true
  offset_le : ∀ b p, v'.contains b p = true → v.contains b p = true ∨ s.cursor.offset ≤ p

theorem Visited.Grows.refl (v : Visited) (s : Spot) : v.Grows s v := ⟨fun _ _ => id, fun _ _ => .inl⟩

theorem Visited.Grows.trans (h : v.Grows s v') (h' : v'.Grows x v'')
    (hoffset : s.cursor.offset ≤ x.cursor.offset) : v.Grows s v'' := by
  refine ⟨fun b p hb => h'.le b p (h.le b p hb), fun b p hb => ?_⟩
  rcases h'.offset_le b p hb with hb | hp
  · exact h.offset_le b p hb
  · exact .inr (Nat.le_trans hoffset hp)

theorem Visited.grows_insert (v : Visited) (s : Spot) (a : Address) :
    v.Grows s (v.insert a s.cursor.offset) := by
  refine ⟨fun b p hb => contains_insert.mpr (.inr hb), fun b p hb => ?_⟩
  rcases contains_insert.mp hb with ⟨-, rfl⟩ | hb
  · exact .inr (Nat.le_refl _)
  · exact .inl hb

/-- What a search for the ways of `P` comes to: the end of the preferred one; or nothing, where
there is none. -/
inductive Answers (ρ : Address → Goal) (P : Ways) (s : Spot) (v : Visited) :
    Option Cursor × Visited → Prop
  | found {w : List Bool} {t : Spot} {v' : Visited} (hway : P s w t)
      (hfirst : ∀ w' t', P s w' t' → ¬ Precedes w' w) : Answers ρ P s v (some t.cursor, v')
  | missed {v' : Visited} (hnone : ¬ P.Open s) (hdead : Dead ρ v' s) (hgrows : v.Grows s v') :
      Answers ρ P s v (none, v')

/-- A search finds the preferred way of `P`. -/
def Meets (ρ : Address → Goal) (k : Search) (P : Ways) (s : Spot) (v : Visited) : Prop :=
  Dead ρ v s → Answers ρ P s v (k s.cursor v)

theorem Answers.congr (h : Answers ρ P s v r) (heq : ∀ w t, P s w t ↔ Q x w t)
    (hdead : ∀ v', Dead ρ v' s → Dead ρ v' x) (hoffset : s.cursor.offset = x.cursor.offset) :
    Answers ρ Q x v r := by
  cases h with
  | found hway hfirst =>
      exact .found ((heq _ _).mp hway) fun w' t' h => hfirst w' t' ((heq _ _).mpr h)
  | missed hnone hdead' hgrows =>
      refine .missed ?_ (hdead _ hdead') ⟨hgrows.le, hoffset ▸ hgrows.offset_le⟩
      rintro ⟨w, t, h⟩
      exact hnone ⟨w, t, (heq _ _).mpr h⟩

theorem Spot.follows_close {index start : Nat} : x.Follows (s.close index start) ↔ x.Follows s := by
  constructor
  · intro h
    cases h with
    | here before after made => exact .here before after made
    | behind ht hpass => exact .behind ht hpass
  · intro h
    cases h with
    | here before after made => exact .here before after made
    | behind ht hpass => exact .behind ht hpass

theorem dead_close {index start : Nat} : Dead ρ v (s.close index start) ↔ Dead ρ v s :=
  ⟨fun h => ⟨h.made, h.tame, fun b p hb x hx => h.closed b p hb x (Spot.follows_close.mpr hx)⟩,
    fun h => ⟨h.made, h.tame, fun b p hb x hx => h.closed b p hb x (Spot.follows_close.mp hx)⟩⟩

theorem meets_step {set : CharSet}
    (hk : ∀ d, s.cursor.step? set = some d → Meets ρ k κ ⟨d, []⟩ v) :
    Meets ρ (k.step set) (((Expr.chars set).Way a).seq κ) s v := by
  intro hdead
  rw [Search.step]
  cases hd : s.cursor.step? set with
  | none =>
      refine .missed ?_ hdead (.refl v s)
      rintro ⟨_, t, u, w, ⟨d, _⟩, rfl, ⟨-, hd', -⟩, -⟩
      rw [hd] at hd'
      cases hd'
  | some d =>
      obtain ⟨c, -, hpass⟩ := Cursor.passes_of_step? hd
      have hlt : s.cursor.offset < d.offset := by
        have hpos := c.utf8Size_pos
        rw [hpass.offset_eq, Text.byteLength_cons, Text.byteLength_nil]
        omega
      have hdead' : Dead ρ v ⟨d, []⟩ := ⟨fun b hb => absurd hb List.not_mem_nil, hdead.tame,
        fun b p hb x hx => hdead.closed b p hb x (hx.of_passes hpass (by simp))⟩
      have hanswer := hk d hd hdead'
      dsimp only at hanswer ⊢
      generalize k d v = r at hanswer
      cases hanswer with
      | found hway hfirst =>
          exact .found ((Expr.way_chars_seq hd κ).mpr hway) fun w' t' h =>
            hfirst w' t' ((Expr.way_chars_seq hd κ).mp h)
      | missed hnone hdead'' hgrows =>
          refine .missed ?_ ⟨fun b hb => hgrows.le b _ (hdead.made b hb), hdead''.tame,
            fun b p hb x hx hp => ?_⟩ ((Visited.Grows.refl v s).trans hgrows (Nat.le_of_lt hlt))
          · rintro ⟨w, t, h⟩
            exact hnone ⟨w, t, (Expr.way_chars_seq hd κ).mp h⟩
          · cases hx with
            | here before after made =>
                have hoffset : x.cursor.offset = s.cursor.offset := by
                  rw [x.cursor.offset_eq, s.cursor.offset_eq, before]
                rcases hgrows.offset_le b p hb with hb | hle
                · exact hdead.closed b p hb x (.here before after made) hp
                · dsimp only at hle
                  omega
            | behind ht hpass' =>
                exact hdead''.closed b p hb x (Spot.follows_of_behind hpass ht hpass') hp

theorem dead_insert (hρ : ρ a = (Ways.either a P Q).Open) (htame : (Ways.either a P Q).Open.Tame ρ)
    (hdead : Dead ρ v s) : Dead ρ (v.insert a s.cursor.offset) (s.choose a) := by
  refine ⟨fun b hb => ?_, fun b p hb => ?_, fun b p hb x hx hp => ?_⟩
  · rcases List.mem_cons.mp hb with rfl | hb
    · exact Visited.contains_insert.mpr (.inl ⟨rfl, rfl⟩)
    · exact Visited.contains_insert.mpr (.inr (hdead.made b hb))
  · rcases Visited.contains_insert.mp hb with ⟨rfl, -⟩ | hb
    · exact hρ ▸ htame
    · exact hdead.tame b p hb
  · rcases Visited.contains_insert.mp hb with ⟨rfl, rfl⟩ | hb
    · cases hx with
      | here before after made =>
          rw [hρ]
          rintro ⟨w, t, hmade, -⟩
          exact hmade (made List.mem_cons_self)
      | behind ht hpass =>
          obtain ⟨c, t, rfl⟩ := List.exists_cons_of_ne_nil ht
          have hoffset := hpass.offset_eq
          have hpos := c.utf8Size_pos
          rw [hp, s.cursor_choose, Text.byteLength_cons] at hoffset
          omega
    · exact hdead.closed b p hb x hx.of_choose hp

/-- If neither alternative leads on, no way leads on from the choices that were come to, now that
this choice may be made again. -/
theorem dead_of_choose (hρ : ρ a = (Ways.either a P Q).Open) (htame : (Ways.either a P Q).Open.Tame ρ)
    (hP : P.Open.Mono) (hQ : Q.Open.Mono) (hnoneP : ¬ P.Open (s.choose a))
    (hnoneQ : ¬ Q.Open (s.choose a)) (hdead : Dead ρ v (s.choose a)) : Dead ρ v s := by
  refine ⟨fun b hb => hdead.made b (List.mem_cons_of_mem _ hb), hdead.tame,
    fun b p hb x hx hp hx' => ?_⟩
  cases hx with
  | behind ht hpass => exact hdead.closed b p hb x (.behind ht hpass) hp hx'
  | here before after made =>
      have hnear : (s.choose a).Near [] (x.choose a) :=
        ⟨before.symm, after.symm, List.cons_subset_cons _ made⟩
      have ha : (ρ a).Mono := hρ ▸ htame.mono
      have hmore : (x.choose a).Near [a] x := ⟨rfl, rfl, List.Subset.refl _⟩
      rcases (hdead.tame b p hb).splits a ha _ _ hmore hx' with h | h
      · exact hdead.closed b p hb (x.choose a)
          (.here before after (List.cons_subset_cons _ made)) hp h
      · rw [hρ] at h
        obtain ⟨_, t, -, w, ⟨-, h⟩ | ⟨-, h⟩⟩ := h
        · exact hnoneP (hP _ _ hnear ⟨w, t, h⟩)
        · exact hnoneQ (hQ _ _ hnear ⟨w, t, h⟩)

theorem meets_either {first second : Search} (hρ : ρ a = (Ways.either a P Q).Open)
    (htame : (Ways.either a P Q).Open.Tame ρ) (hP : P.Open.Mono) (hQ : Q.Open.Mono)
    (hfirst : ∀ v', a ∉ s.made → v.Grows s v' → v'.contains a s.cursor.offset = true →
      Meets ρ first P (s.choose a) v')
    (hsecond : ∀ v', a ∉ s.made → v.Grows s v' → v'.contains a s.cursor.offset = true →
      Meets ρ second Q (s.choose a) v') :
    Meets ρ (Search.either a first second) (Ways.either a P Q) s v := by
  intro hdead
  rw [Search.either]
  split
  next hmem =>
    have hnone := hdead.closed a _ hmem s (.refl s) rfl
    rw [hρ] at hnone
    exact .missed hnone hdead (.refl v s)
  next hnew =>
    have hmade : a ∉ s.made := fun hmem => hnew (hdead.made a hmem)
    have hgrows := v.grows_insert s a
    have hmem : (v.insert a s.cursor.offset).contains a s.cursor.offset = true :=
      Visited.contains_insert.mpr (.inl ⟨rfl, rfl⟩)
    have hanswer := hfirst _ hmade hgrows hmem (dead_insert hρ htame hdead)
    rw [s.cursor_choose] at hanswer
    generalize first s.cursor _ = r at hanswer ⊢
    cases hanswer with
    | @found w t v' hway hleast =>
        refine .found ⟨hmade, w, .inl ⟨rfl, hway⟩⟩ ?_
        rintro _ t' ⟨-, w', ⟨rfl, h⟩ | ⟨rfl, h⟩⟩ hlt
        · cases hlt with
          | there hlt => exact hleast w' t' h hlt
        · cases hlt
    | @missed v₁ hnoneP hdeadP hgrowsP =>
        have hgrows' := hgrows.trans hgrowsP (Nat.le_refl _)
        have hanswer := hsecond _ hmade hgrows' (hgrowsP.le _ _ hmem) hdeadP
        rw [s.cursor_choose] at hanswer
        dsimp only
        generalize second s.cursor _ = r at hanswer ⊢
        cases hanswer with
        | @found w t v' hway hleast =>
            refine .found ⟨hmade, w, .inr ⟨rfl, hway⟩⟩ ?_
            rintro _ t' ⟨-, w', ⟨rfl, h⟩ | ⟨rfl, h⟩⟩ hlt
            · exact hnoneP ⟨w', t', h⟩
            · cases hlt with
              | there hlt => exact hleast w' t' h hlt
        | missed hnoneQ hdeadQ hgrowsQ =>
            refine .missed ?_ (dead_of_choose hρ htame hP hQ hnoneP hnoneQ hdeadQ)
              (hgrows'.trans hgrowsQ (Nat.le_refl _))
            rintro ⟨_, t, -, w, ⟨-, h⟩ | ⟨-, h⟩⟩
            · exact hnoneP ⟨w, t, h⟩
            · exact hnoneQ ⟨w, t, h⟩

theorem getD_pred_lt {l m n : Nat} (hrest : rest ≠ some 0) (h : rest.getD m < n + 1) (hl : l < m) :
    (rest.map (· - 1)).getD l < n := by
  cases rest with
  | none =>
      simp only [Option.getD_none, Option.map_none] at h ⊢
      omega
  | some i =>
      have hi : i ≠ 0 := fun hi => hrest (hi ▸ rfl)
      simp only [Option.getD_some, Option.map_some] at h ⊢
      omega

theorem Search.fromEach_reach {set : CharSet} {t : Text} {c : Cursor} {n : Nat} (hc : c.after = t)
    (hfuel : rest.getD t.length < n) (v : Visited) (passed : List Cursor) :
    fromEach k (reach a set t rest c v passed).1 (reach a set t rest c v passed).2 =
      match further a (fun _ => .step set) true k n rest c v with
      | (some d, v) => (some d, v)
      | (none, v) => fromEach k passed v := by
  induction n generalizing t rest c v passed with
  | zero => omega
  | succ n ih =>
      by_cases hrest : rest = some 0
      · subst hrest
        rw [reach, further, if_pos rfl]
        rfl
      · rw [further, if_neg hrest, either]
        cases hd : c.step? set with
        | none =>
            rw [reach.eq_3 _ _ _ _ _ _ _ hrest (by simp [hd])]
            split
            · rfl
            · simp only [if_true, step, hd]
              rfl
        | some d =>
            obtain ⟨x, -, hpass⟩ := Cursor.passes_of_step? hd
            obtain rfl : t = x :: d.after := hc.symm.trans hpass.1
            rw [reach.eq_2 _ _ _ _ _ _ _ _ _ hrest hd]
            split
            · rfl
            · simp only [if_true, step, hd]
              rw [ih rfl (getD_pred_lt hrest hfuel (Nat.lt_succ_self _))]
              generalize further a _ true k n _ d _ = r
              obtain ⟨_ | e, v'⟩ := r
              · rfl
              · rfl

theorem Search.nearest_eq {set : CharSet} {t : Text} {c : Cursor} {n : Nat} (hc : c.after = t)
    (hfuel : rest.getD t.length < n) (v : Visited) :
    nearest a set k t rest c v = further a (fun _ => .step set) false k n rest c v := by
  induction n generalizing t rest c v with
  | zero => omega
  | succ n ih =>
      by_cases hrest : rest = some 0
      · subst hrest
        rw [nearest, further, if_pos rfl]
      · rw [further, if_neg hrest, either, nearest.eq_2 _ _ _ _ _ _ _ hrest]
        split
        · rfl
        · simp only [Bool.false_eq_true, if_false]
          generalize k c _ = r
          obtain ⟨_ | e, v'⟩ := r
          · cases hd : c.step? set with
            | none => simp [step, hd]
            | some d =>
                obtain ⟨x, -, hpass⟩ := Cursor.passes_of_step? hd
                obtain rfl : t = x :: d.after := hc.symm.trans hpass.1
                simp only [step, hd]
                exact ih rfl (getD_pred_lt hrest hfuel (Nat.lt_succ_self _)) v'
          · rfl

theorem Search.run_eq {set : CharSet} (c : Cursor) (v : Visited) :
    run a set greedy rest k c v =
      further a (fun _ => .step set) greedy k (rest.getD c.after.length + 1) rest c v := by
  rw [run]
  cases greedy with
  | true =>
      rw [if_pos rfl]
      dsimp only
      rw [fromEach_reach rfl (Nat.lt_succ_self _)]
      generalize further a _ true k _ _ c v = r
      obtain ⟨_ | e, v'⟩ := r
      · rfl
      · rfl
  | false => exact nearest_eq rfl (Nat.lt_succ_self _) v

theorem Expr.search_iterate {least : Nat} {most : Option Nat} {body : Expr} (c : Cursor)
    (v : Visited) :
    (Expr.iterate least most greedy body).search a k c v =
      Search.copies (fun n => body.search (.ofCopy most n :: a)) least
        (fun d v => Search.further a (fun n => body.search (.further n :: a)) greedy k
          ((most.map (· - least)).getD d.after.length + 1) (most.map (· - least)) d v) c v := by
  cases body with
  | chars set =>
      simp only [search, ← Search.run_eq]
  | _ => rfl

theorem Expr.offset_le_of_way {e : Expr} {w : List Bool} (h : e.Way a s w x) :
    s.cursor.offset ≤ x.cursor.offset := by
  obtain ⟨t, ht⟩ := passes_of_way h
  exact ht.offset_le

/-- Whatever comes behind an expression and is met at each of its ends, the search of the expression
meets the ways through it and on. -/
def Expr.Meeting (ρ : Address → Goal) (e : Expr) : Prop :=
  ∀ (a : Address) (κ : Ways) (k : Search) (s : Spot) (v : Visited),
    e.Fits ρ a κ.Open → κ.Open.Tame ρ →
      (∀ w x v', e.Way a s w x → v.Grows s v' → Meets ρ k κ x v') →
        Meets ρ (e.search a k) ((e.Way a).seq κ) s v

/-- Behind a copy there is still fuel enough, or else the copy took no character and the choice was
visited at this place. -/
theorem enough_of_passes {n : Nat} {c d : Cursor} (hne : rest ≠ some 0)
    (hfuel : rest.getD c.after.length < n + 1) (hpass : ∃ t, c.Passes t d)
    (hmem : v.contains (.choice (rest.getD 0) :: a) c.offset = true) :
    (rest.map (· - 1)).getD d.after.length < n ∨
      rest.map (· - 1) = none ∧ v.contains (.choice 0 :: a) d.offset = true := by
  obtain ⟨t, hpass⟩ := hpass
  cases rest with
  | some m =>
      have hm : m ≠ 0 := fun hm => hne (hm ▸ rfl)
      simp only [Option.getD_some, Option.map_some] at hfuel ⊢
      omega
  | none =>
      cases t with
      | nil =>
          refine .inr ⟨rfl, ?_⟩
          rw [hpass.offset_eq]
          exact hmem
      | cons x t =>
          have hlength := congrArg List.length hpass.1
          rw [List.length_append, List.length_cons] at hlength
          simp only [Option.getD_none, Option.map_none] at hfuel ⊢
          omega

section Iteration

variable {body : Expr} (hbody : body.Meeting ρ)
include hbody

theorem meets_copies {address : Nat → Address} (n : Nat)
    (hfits : ∀ n, body.Fits ρ (address n)
      ((Ways.copies (fun n => body.Way (address n)) n).Reaches κ.Open))
    (htame : κ.Open.Tame ρ)
    (hk : ∀ w x v', Ways.copies (fun n => body.Way (address n)) n s w x → v.Grows s v' →
      Meets ρ k κ x v') :
    Meets ρ (Search.copies (fun n => body.search (address n)) n k)
      ((Ways.copies (fun n => body.Way (address n)) n).seq κ) s v := by
  induction n generalizing s v with
  | zero =>
      rw [Ways.copies, Ways.stay_seq]
      exact hk [] s v ⟨rfl, rfl⟩ (.refl v s)
  | succ n ih =>
      have htame' (n : Nat) :
          ((Ways.copies (fun n => body.Way (address n)) n).Reaches κ.Open).Tame ρ := by
        refine htame.of_splits (Ways.mono_copies (fun n => body.mono_way _) n) fun b hb => ?_
        refine Ways.splits_copies (fun n => ?_) n
        refine body.splits_way hb ?_ (hfits n)
        exact (Ways.mono_copies (fun n => body.mono_way _) n).reaches htame.mono
      rw [Ways.copies, Ways.seq_assoc]
      refine hbody _ _ _ s v ?_ ?_ fun w x v' hx hv' => ih fun u y v'' hy hv'' => ?_
      · rw [Ways.open_seq]
        exact hfits n
      · rw [Ways.open_seq]
        exact htame' n
      · exact hk _ y v'' ⟨w, u, x, rfl, hx, hy⟩ (hv'.trans hv'' (Expr.offset_le_of_way hx))

variable {bounded : Bool}
  (hfits : ∀ rest : Option Nat, rest.isSome = bounded → rest ≠ some 0 →
    ρ (.choice (rest.getD 0) :: a) =
        (body.Further a greedy rest).Reaches κ.Open ∧
      body.Fits ρ (.further (rest.getD 0) :: a)
        ((body.Further a greedy (rest.map (· - 1))).Reaches κ.Open))
include hfits

omit hbody in
theorem tame_further (htame : κ.Open.Tame ρ) (hrest : rest.isSome = bounded) :
    ((body.Further a greedy rest).Reaches κ.Open).Tame ρ := by
  refine htame.of_splits (body.mono_further a greedy rest) fun b hb => ?_
  refine Ways.splits_further hb (fun rest hrest hne => (hfits rest hrest hne).1)
    (fun rest hrest hne => body.splits_way hb ?_ (hfits rest hrest hne).2) hrest
  exact (body.mono_further a greedy _).reaches htame.mono

omit hbody in
theorem meets_further_of_contains {n : Nat} (hrest : rest.isSome = bounded) (hne : rest ≠ some 0)
    (hmem : v.contains (.choice (rest.getD 0) :: a) s.cursor.offset = true) :
    Meets ρ (Search.further a (fun n => body.search (.further n :: a)) greedy k n rest)
      ((body.Further a greedy rest).seq κ) s v := by
  intro hdead
  have hnone := hdead.closed _ _ hmem s (.refl s) rfl
  rw [(hfits rest hrest hne).1, ← Ways.open_seq] at hnone
  cases n with
  | zero => exact .missed hnone hdead (.refl v s)
  | succ n =>
      rw [Search.further, if_neg hne, Search.either, if_pos hmem]
      exact .missed hnone hdead (.refl v s)

omit hbody in
theorem meets_choice {on : Search} (htame : κ.Open.Tame ρ) (hrest : rest.isSome = bounded)
    (hne : rest ≠ some 0)
    (hon : ∀ v', .choice (rest.getD 0) :: a ∉ s.made → v.Grows s v' →
      v'.contains (.choice (rest.getD 0) :: a) s.cursor.offset = true →
        Meets ρ on ((body.Way (.further (rest.getD 0) :: a)).seq
          ((body.Further a greedy (rest.map (· - 1))).seq κ))
          (s.choose (.choice (rest.getD 0) :: a)) v')
    (hoff : ∀ v', .choice (rest.getD 0) :: a ∉ s.made → v.Grows s v' →
      v'.contains (.choice (rest.getD 0) :: a) s.cursor.offset = true →
        Meets ρ k κ (s.choose (.choice (rest.getD 0) :: a)) v') :
    Meets ρ (Search.either (.choice (rest.getD 0) :: a) (if greedy then on else k)
      (if greedy then k else on)) ((body.Further a greedy rest).seq κ) s v := by
  have hwhole := tame_further hfits htame hrest
  have hchoice := (hfits rest hrest hne).1
  have hrest' : (rest.map (· - 1)).isSome = bounded := by rw [Option.isSome_map, hrest]
  have hmono := (body.mono_way (.further (rest.getD 0) :: a)).reaches
    (tame_further hfits htame hrest').mono
  rw [← Ways.open_seq] at hwhole hchoice
  rw [← Ways.open_seq, ← Ways.open_seq] at hmono
  rw [Expr.Further, Ways.further_seq hne] at hwhole hchoice ⊢
  cases greedy with
  | true => exact meets_either hchoice hwhole hmono htame.mono hon hoff
  | false => exact meets_either hchoice hwhole htame.mono hmono hoff hon

/-- The choice at a further copy is visited once at each place, so a search that may take any number
of them comes to an end before its fuel does. -/
theorem meets_further {n : Nat} (htame : κ.Open.Tame ρ) (hrest : rest.isSome = bounded)
    (hfuel : rest.getD s.cursor.after.length < n ∨
      rest = none ∧ v.contains (.choice 0 :: a) s.cursor.offset = true)
    (hk : ∀ w x v', body.Further a greedy rest s w x → v.Grows s v' → Meets ρ k κ x v') :
    Meets ρ (Search.further a (fun n => body.search (.further n :: a)) greedy k n rest)
      ((body.Further a greedy rest).seq κ) s v := by
  induction n generalizing rest s v with
  | zero =>
      rcases hfuel with hfuel | ⟨rfl, hmem⟩
      · omega
      · exact meets_further_of_contains hfits hrest nofun hmem
  | succ n ih =>
      by_cases hne : rest = some 0
      · subst hne
        rw [Expr.Further, Ways.further_full, Ways.stay_seq]
        exact hk [] s v .full (.refl v s)
      by_cases hmem : v.contains (.choice (rest.getD 0) :: a) s.cursor.offset = true
      · exact meets_further_of_contains hfits hrest hne hmem
      have hrest' : (rest.map (· - 1)).isSome = bounded := by rw [Option.isSome_map, hrest]
      intro hdead
      rw [Search.further, if_neg hne]
      refine meets_choice hfits htame hrest hne (fun v' hmade hv' hmem' => ?_)
        (fun v' hmade hv' _ => hk [greedy] _ v' (.stop hne hmade) hv') hdead
      refine hbody _ _ _ _ v' ?_ ?_ fun w x v'' hx hv'' => ih hrest' ?_ fun u y v₃ hy hv₃ => ?_
      · rw [Ways.open_seq]
        exact (hfits rest hrest hne).2
      · rw [Ways.open_seq]
        exact tame_further hfits htame hrest'
      · have hpass := Expr.passes_of_way hx
        exact enough_of_passes hne (hfuel.resolve_right fun ⟨hnone, h⟩ => hmem (hnone ▸ h)) hpass
          (hv''.le _ _ hmem')
      · exact hk _ y v₃ (.copy hne hmade hx hy)
          (hv'.trans (hv''.trans hv₃ (Expr.offset_le_of_way hx)) (Nat.le_refl _))

end Iteration

theorem Ways.either_seq (a : Address) (P Q R : Ways) :
    (either a P Q).seq R = either a (P.seq R) (Q.seq R) := by
  funext s w t
  refine propext ⟨?_, ?_⟩
  · rintro ⟨_, v, x, rfl, ⟨hmade, u, ⟨rfl, hu⟩ | ⟨rfl, hu⟩⟩, hv⟩
    · exact ⟨hmade, _, .inl ⟨rfl, u, v, x, rfl, hu, hv⟩⟩
    · exact ⟨hmade, _, .inr ⟨rfl, u, v, x, rfl, hu, hv⟩⟩
  · rintro ⟨hmade, _, ⟨rfl, u, v, x, rfl, hu, hv⟩ | ⟨rfl, u, v, x, rfl, hu, hv⟩⟩
    · exact ⟨_, v, x, rfl, ⟨hmade, u, .inl ⟨rfl, hu⟩⟩, hv⟩
    · exact ⟨_, v, x, rfl, ⟨hmade, u, .inr ⟨rfl, hu⟩⟩, hv⟩

namespace Expr

variable {body : Expr} {e : Expr}

theorem Meeting.group (hbody : body.Meeting ρ) (index : Nat) :
    (Expr.group index body).Meeting ρ := by
  intro a κ k s v hfits htame hk hdead
  -- behind the body, the group is closed and `κ` goes on
  let κ' : Ways := fun x w t => κ (x.close index s.cursor.offset) w t
  have hopen : κ'.Open = κ.Open := by
    funext x
    exact propext ⟨htame.mono _ _ (x.near_close _ _), htame.mono _ _ (x.close_near _ _)⟩
  have hanswer := hbody a κ' (fun d => k (d.record index s.cursor.offset)) s v
    (hopen.symm ▸ hfits) (hopen.symm ▸ htame) (fun w x v' hx hv' hdead' =>
      (hk w _ v' ⟨x, hx, rfl⟩ hv' (dead_close.mpr hdead')).congr (fun _ _ => Iff.rfl)
        (fun _ => dead_close.mp) rfl) hdead
  refine hanswer.congr (fun w t => ⟨?_, ?_⟩) (fun _ => id) rfl
  · rintro ⟨u, v, x, rfl, hu, hv⟩
    exact ⟨u, v, _, rfl, ⟨x, hu, rfl⟩, hv⟩
  · rintro ⟨u, v, _, rfl, ⟨x, hu, rfl⟩, hv⟩
    exact ⟨u, v, x, rfl, hu, hv⟩

theorem Meeting.iterate (hbody : body.Meeting ρ) (least : Nat) (most : Option Nat) (greedy : Bool) :
    (Expr.iterate least most greedy body).Meeting ρ := by
  intro a κ k s v hfits htame hk
  have hsearch : (Expr.iterate least most greedy body).search a k =
      Search.copies (fun n => body.search (.ofCopy most n :: a)) least
        (fun d v => Search.further a (fun n => body.search (.further n :: a)) greedy k
          ((most.map (· - least)).getD d.after.length + 1) (most.map (· - least)) d v) := by
    funext c v
    exact search_iterate c v
  have hway : ((Expr.iterate least most greedy body).Way a).seq κ =
      (Ways.copies (fun n => body.Way (.ofCopy most n :: a)) least).seq
        ((body.Further a greedy (most.map (· - least))).seq κ) :=
    Ways.seq_assoc ..
  have hbounded : (most.map (· - least)).isSome = most.isSome := Option.isSome_map
  rw [hsearch, hway]
  refine meets_copies hbody least (fun n => ?_) ?_ fun w x v' hx hv' => ?_
  · rw [Ways.open_seq]
    exact hfits.2 n
  · rw [Ways.open_seq]
    exact tame_further hfits.1 htame hbounded
  · obtain ⟨t, -, ht⟩ := Ways.leads_of_copies (fun n _ _ _ h => leads_of_way h) hx
    have hle := ht.offset_le
    exact meets_further hbody hfits.1 htame hbounded (.inl (Nat.lt_succ_self _))
      fun u y v'' hy hv'' => hk _ y v'' ⟨w, u, x, rfl, hx, hy⟩ (hv'.trans hv'' hle)

theorem meeting (e : Expr) (ρ : Address → Goal) : e.Meeting ρ := by
  induction e with
  | empty =>
      intro a κ k s v _ _ hk
      have hway : (Expr.empty.Way a).seq κ = κ := Ways.stay_seq κ
      rw [hway]
      exact hk [] s v ⟨rfl, rfl⟩ (.refl v s)
  | chars set =>
      intro a κ k s v _ _ hk
      exact meets_step fun d hd => hk [] ⟨d, []⟩ v ⟨rfl, hd, rfl⟩ (.refl v s)
  | look l =>
      intro a κ k s v _ _ hk hdead
      rw [search]
      by_cases hl : s.cursor.satisfies l = true
      · rw [if_pos hl]
        refine (hk [] s v ⟨hl, rfl, rfl⟩ (.refl v s) hdead).congr (fun w t => ⟨?_, ?_⟩)
          (fun _ => id) rfl
        · intro h
          exact ⟨[], w, s, rfl, ⟨hl, rfl, rfl⟩, h⟩
        · rintro ⟨_, w, _, rfl, ⟨-, rfl, rfl⟩, h⟩
          exact h
      · rw [if_neg hl]
        refine .missed ?_ hdead (.refl v s)
        rintro ⟨_, t, u, w, x, rfl, ⟨hl', -⟩, -⟩
        exact hl hl'
  | group index body ih => exact ih.group index
  | seq first second ih ih' =>
      intro a κ k s v hfits htame hk
      have hway : ((Expr.seq first second).Way a).seq κ =
          (first.Way (.first :: a)).seq ((second.Way (.second :: a)).seq κ) := Ways.seq_assoc ..
      rw [hway]
      refine ih _ _ _ s v ?_ ?_ fun w x v' hx hv' => ih' _ _ _ x v' hfits.2 htame
        fun u y v'' hy hv'' => hk _ y v'' ⟨w, u, x, rfl, hx, hy⟩ (hv'.trans hv'' (offset_le_of_way hx))
      · rw [Ways.open_seq]
        exact hfits.1
      · rw [Ways.open_seq]
        exact htame.way hfits.2
  | alt first second ih ih' =>
      intro a κ k s v hfits htame hk
      have hway : ((Expr.alt first second).Way a).seq κ =
          Ways.either a ((first.Way (.first :: a)).seq κ) ((second.Way (.second :: a)).seq κ) :=
        Ways.either_seq ..
      have hwhole := htame.way hfits
      have hchoice := hfits.1
      rw [← Ways.open_seq, hway] at hwhole hchoice
      rw [hway]
      intro hdead
      refine meets_either hchoice hwhole ?_ ?_
        (fun v' hmade hv' _ => ih _ _ _ _ v' hfits.2.1 htame fun w x v'' hx hv'' =>
          hk _ x v'' ⟨hmade, w, .inl ⟨rfl, hx⟩⟩ (hv'.trans hv'' (Nat.le_refl _)))
        (fun v' hmade hv' _ => ih' _ _ _ _ v' hfits.2.2 htame fun w x v'' hx hv'' =>
          hk _ x v'' ⟨hmade, w, .inr ⟨rfl, hx⟩⟩ (hv'.trans hv'' (Nat.le_refl _))) hdead
      · rw [Ways.open_seq]
        exact (first.mono_way _).reaches htame.mono
      · rw [Ways.open_seq]
        exact (second.mono_way _).reaches htame.mono
  | iterate least most greedy body ih => exact ih.iterate least most greedy

/-- No way through the whole expression leads on from a choice that was visited, neither at a place
nor behind it. -/
def Spent (e : Expr) (v : Visited) (c : Cursor) : Prop :=
  Dead (fun x => e.onward [] (fun _ => True) x.reverse) v ⟨c, []⟩

variable {c d : Cursor}

theorem spent_nil (e : Expr) (c : Cursor) : e.Spent [] c := ⟨nofun, nofun, nofun⟩

theorem Spent.next (h : e.Spent v c) (hd : c.next? = some d) : e.Spent v d := by
  obtain ⟨x, hx⟩ := Cursor.passes_of_next? hd
  have hpass : (Spot.mk c []).cursor.Passes [x] d := hx
  exact ⟨nofun, h.tame, fun b p hb y hy => h.closed b p hb y (hy.of_passes hpass (by simp))⟩

/-- A search finds the preferred way through an expression, and finds nothing only where there is no
way. -/
theorem search_cases (h : e.Spent v c) :
    (∃ w d v', e.search [] .done c v = (some d, v') ∧ e.Prefers c w d) ∨
      ∃ v', e.search [] .done c v = (none, v') ∧ e.ends c = ∅ ∧ e.Spent v' c := by
  have hopen : Ways.stay.Open = fun _ => True := by
    funext s
    exact propext ⟨fun _ => trivial, fun _ => ⟨[], s, rfl, rfl⟩⟩
  have hfits : e.Fits (fun x => e.onward [] (fun _ => True) x.reverse) [] Ways.stay.Open := by
    rw [hopen]
    exact fits_of_onward fun turns => by simp
  have htame : Ways.stay.Open.Tame (fun x => e.onward [] (fun _ => True) x.reverse) := by
    rw [hopen]
    exact ⟨fun _ _ _ _ => trivial, fun _ _ _ _ _ _ => .inl trivial⟩
  have hdone (w : List Bool) (x : Spot) (v' : Visited) :
      Meets (fun x => e.onward [] (fun _ => True) x.reverse) .done .stay x v' := by
    intro _
    refine .found ⟨rfl, rfl⟩ ?_
    rintro w' t' ⟨rfl, -⟩ hlt
    cases hlt
  have hanswer := e.meeting _ [] .stay .done ⟨c, []⟩ v hfits htame (fun w x v' _ _ => hdone w x v') h
  rw [Ways.seq_stay] at hanswer
  dsimp only at hanswer
  generalize e.search [] .done c v = r at hanswer ⊢
  cases hanswer with
  | @found w t v' hway hfirst =>
      exact .inl ⟨w, t.cursor, v', rfl, ⟨t.made, hway⟩, fun w' d ⟨made, h⟩ => hfirst w' ⟨d, made⟩ h⟩
  | missed hnone hdead _ =>
      refine .inr ⟨_, rfl, Set.eq_empty_iff_forall_notMem.mpr ?_, hdead⟩
      rintro d ⟨w, made, h⟩
      exact hnone ⟨w, ⟨d, made⟩, h⟩

end Expr

end AnchorPatch.Regex
