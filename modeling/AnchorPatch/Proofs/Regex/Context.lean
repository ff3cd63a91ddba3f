import AnchorPatch.Proofs.Anchor.Leftmost

/-!
Matches within a longer text.

`e.follow goesOn k t` looks for the preferred match of `e` at the front of `t` and goes on with `k`
behind it. It reads `t` alone; if more may stand behind `t`, it gives up where it would have to know
what. Main statements: what it decides is what a match at that place comes to, and stays decided
when more text is put behind; so a match that a search finds without reading the end of its text is
found in every longer text in which none begins before.
-/

namespace AnchorPatch

namespace Regex

/-- What a search at one place comes to. -/
inductive Verdict
  /-- It depends on what stands behind the text. -/
  | undecided
  | missed
  /-- The preferred match leaves this rest of the text. -/
  | found (rest : Text)
deriving DecidableEq

namespace Verdict

variable {u u' v v' w : Verdict} {greedy : Bool} {t y : Text}

/-- The verdict of one way, or that of another one where the first way leads nowhere. -/
def or : Verdict → Verdict → Verdict
  | missed, w => w
  | v, _ => v

/-- The verdict where an iteration may go further or stop here. -/
def prefer (greedy : Bool) (further here : Verdict) : Verdict :=
  if greedy then further.or here else here.or further

/-- The verdict at the end of the text on a way that needs one more character. -/
def ending (goesOn : Bool) : Verdict := if goesOn then undecided else missed

/-- The same verdict when `y` stands behind the text. -/
def extend (y : Text) : Verdict → Verdict
  | found rest => found (rest ++ y)
  | v => v

/-- The second verdict is the first one, if that one is decided. -/
def Agrees (v w : Verdict) : Prop := v = undecided ∨ v = w

theorem Agrees.refl (v : Verdict) : v.Agrees v := .inr rfl

theorem undecided_agrees (v : Verdict) : undecided.Agrees v := .inl rfl

theorem Agrees.or (h : u.Agrees u') (h' : v.Agrees v') : (u.or v).Agrees (u'.or v') := by
  rcases h with rfl | rfl
  · exact undecided_agrees _
  · cases u with
    | missed => exact h'
    | undecided | found => exact .refl _

theorem Agrees.prefer (h : u.Agrees u') (h' : v.Agrees v') :
    (prefer greedy u v).Agrees (prefer greedy u' v') := by
  cases greedy with
  | true => exact h.or h'
  | false => exact h'.or h

theorem extend_eq_undecided_iff : v.extend y = undecided ↔ v = undecided := by
  cases v <;> simp [extend]

theorem extend_or : (u.or v).extend y = (u.extend y).or (v.extend y) := by cases u <;> rfl

theorem extend_prefer :
    (prefer greedy u v).extend y = prefer greedy (u.extend y) (v.extend y) := by
  cases greedy <;> exact extend_or

end Verdict

/-- Takes a character of a set. -/
def takeOne (goesOn : Bool) (s : CharSet) (k : Text → Verdict) : Text → Verdict
  | [] => .ending goesOn
  | x :: t => if s.contains x then k t else .missed

def takeTimes (goesOn : Bool) (s : CharSet) : Nat → (Text → Verdict) → Text → Verdict
  | 0, k => k
  | n + 1, k => takeOne goesOn s (takeTimes goesOn s n k)

/-- Follows a run of characters of a set, of which at most `most` are passed. -/
def followRun (goesOn : Bool) (s : CharSet) (greedy : Bool) (k : Text → Verdict) :
    Option Nat → Text → Verdict
  | some 0, t => k t
  | _, [] => .prefer greedy (.ending goesOn) (k [])
  | most, x :: t =>
      .prefer greedy
        (if s.contains x then followRun goesOn s greedy k (most.map (· - 1)) t else .missed)
        (k (x :: t))

/-- Follows an expression. Conditions and groups are left undecided, and so are iterations of larger
parts that are not just optional. -/
def Expr.follow (goesOn : Bool) : Expr → (Text → Verdict) → Text → Verdict
  | .empty, k, t => k t
  | .chars s, k, t => takeOne goesOn s k t
  | .look _, _, _ => .undecided
  | .group _ _, _, _ => .undecided
  | .seq first second, k, t => first.follow goesOn (second.follow goesOn k) t
  | .alt first second, k, t => (first.follow goesOn k t).or (second.follow goesOn k t)
  | .iterate least most greedy (.chars s), k, t =>
      takeTimes goesOn s least (followRun goesOn s greedy k (most.map (· - least))) t
  | .iterate least most greedy body, k, t =>
      if least = 0 ∧ most = some 1 then .prefer greedy (body.follow goesOn k t) (k t)
      else .undecided

variable {goesOn greedy : Bool} {s : CharSet} {k k' : Text → Verdict} {most : Option Nat} {n : Nat}
  {t u y : Text}

theorem followRun_zero : followRun goesOn s greedy k (some 0) t = k t := by
  cases t <;> rfl

theorem followRun_eq (hmost : most ≠ some 0) :
    followRun goesOn s greedy k most t =
      .prefer greedy (takeOne goesOn s (followRun goesOn s greedy k (most.map (· - 1))) t) (k t) := by
  rcases most with _ | _ | m
  · cases t <;> rfl
  · exact absurd rfl hmost
  · cases t <;> rfl

theorem Expr.follow_iterate {body : Expr} (hbody : ¬ ∃ s, body = .chars s) {least : Nat} :
    (Expr.iterate least most greedy body).follow goesOn k t =
      if least = 0 ∧ most = some 1 then .prefer greedy (body.follow goesOn k t) (k t)
      else .undecided := by
  cases body with
  | chars s => exact absurd ⟨s, rfl⟩ hbody
  | _ => rfl

/-- What a verdict says of the ways from a spot: that there is none, or what the preferred one leaves
of the text. -/
def Verdict.Decides (P : Ways) (x : Spot) : Verdict → Prop
  | undecided => True
  | missed => ¬ P.Open x
  | found rest =>
      ∃ w y, P x w y ∧ (∀ w' y', P x w' y' → ¬ Precedes w' w) ∧ y.cursor.after = rest

section Decides

variable {a : Address} {P Q κ : Ways} {x : Spot} {v v' : Verdict}

theorem Verdict.Decides.or (hmade : a ∉ x.made) (h : v.Decides P (x.choose a))
    (h' : v'.Decides Q (x.choose a)) : (v.or v').Decides (.either a P Q) x := by
  cases v with
  | undecided => trivial
  | found rest =>
      obtain ⟨w, y, hway, hfirst, hafter⟩ := h
      refine ⟨false :: w, y, ⟨hmade, w, .inl ⟨rfl, hway⟩⟩, ?_, hafter⟩
      rintro _ y' ⟨-, w', ⟨rfl, hway'⟩ | ⟨rfl, -⟩⟩ hlt
      · cases hlt with
        | there hlt => exact hfirst w' y' hway' hlt
      · cases hlt
  | missed =>
      cases v' with
      | undecided => trivial
      | missed =>
          rintro ⟨_, y, -, w, ⟨-, hway⟩ | ⟨-, hway⟩⟩
          · exact h ⟨w, y, hway⟩
          · exact h' ⟨w, y, hway⟩
      | found rest =>
          obtain ⟨w, y, hway, hfirst, hafter⟩ := h'
          refine ⟨true :: w, y, ⟨hmade, w, .inr ⟨rfl, hway⟩⟩, ?_, hafter⟩
          rintro _ y' ⟨-, w', ⟨rfl, hway'⟩ | ⟨rfl, hway'⟩⟩ hlt
          · exact h ⟨w', y', hway'⟩
          · cases hlt with
            | there hlt => exact hfirst w' y' hway' hlt

theorem Verdict.Decides.prefer (hmade : a ∉ x.made) (h : v.Decides P (x.choose a))
    (h' : v'.Decides Q (x.choose a)) :
    (prefer greedy v v').Decides
      (.either a (if greedy then P else Q) (if greedy then Q else P)) x := by
  cases greedy with
  | true => exact h.or hmade h'
  | false => exact h'.or hmade h

theorem Verdict.Decides.congr {x' : Spot} (h : v.Decides P x)
    (heq : ∀ w y, P x w y ↔ Q x' w y) : v.Decides Q x' := by
  cases v with
  | undecided => trivial
  | missed => exact fun ⟨w, y, hway⟩ => h ⟨w, y, (heq w y).mpr hway⟩
  | found rest =>
      obtain ⟨w, y, hway, hfirst, hafter⟩ := h
      exact ⟨w, y, (heq w y).mp hway, fun w' y' h => hfirst w' y' ((heq w' y').mpr h), hafter⟩

theorem decides_takeOne (hk : ∀ d, x.cursor.step? s = some d → (k d.after).Decides κ ⟨d, []⟩) :
    (takeOne false s k x.cursor.after).Decides (((Expr.chars s).Way a).seq κ) x := by
  have hmissed (hstep : x.cursor.step? s = none) :
      Verdict.missed.Decides (((Expr.chars s).Way a).seq κ) x := by
    rintro ⟨_, y, u, w, z, rfl, ⟨-, hz, -⟩, -⟩
    rw [hstep] at hz
    cases hz
  cases hafter : x.cursor.after with
  | nil => exact hmissed (by rw [Cursor.step?, hafter])
  | cons c t =>
      rw [takeOne]
      split
      next hc =>
        obtain ⟨d, hd, hpass⟩ := Cursor.exists_step? hc hafter
        rw [← hpass.after_eq (u := t) hafter]
        exact (hk d hd).congr fun w y => (Expr.way_chars_seq hd κ).symm
      next hc => exact hmissed (by rw [Cursor.step?, hafter]; exact if_neg hc)

/-- What comes behind an expression is decided wherever only choices within the expression were
made since. -/
def DecidedBehind (x : Spot) (a : Address) (k : Text → Verdict) (κ : Ways) : Prop :=
  ∀ y : Spot, y.Since x a → (k y.cursor.after).Decides κ y

theorem DecidedBehind.self (hk : DecidedBehind x a k κ) : (k x.cursor.after).Decides κ x :=
  hk x (.refl x a)

theorem DecidedBehind.of_since {y : Spot} (hk : DecidedBehind x a k κ) (h : y.Since x a) :
    DecidedBehind y a k κ :=
  fun z hz => hk z (h.trans hz)

theorem DecidedBehind.below {turn : Turn} (hk : DecidedBehind x a k κ) :
    DecidedBehind x (turn :: a) k κ :=
  fun z hz => hk z hz.of_below

theorem DecidedBehind.step (hk : DecidedBehind x a k κ) (d : Cursor) :
    DecidedBehind ⟨d, []⟩ a k κ :=
  hk.of_since (Spot.since_of_made_eq_nil rfl)

theorem decides_takeTimes {address : Nat → Address} (hself : (k x.cursor.after).Decides κ x)
    (hstep : ∀ d : Cursor, (k d.after).Decides κ ⟨d, []⟩) (n : Nat) :
    (takeTimes false s n k x.cursor.after).Decides
      ((Ways.copies (fun n => (Expr.chars s).Way (address n)) n).seq κ) x := by
  induction n generalizing x with
  | zero =>
      rw [Ways.copies, Ways.stay_seq]
      exact hself
  | succ n ih =>
      rw [Ways.copies, Ways.seq_assoc]
      exact decides_takeOne fun d _ => ih (hstep d)

theorem decides_followRun (hfresh : x.Fresh a) (hk : DecidedBehind x a k κ) (most : Option Nat) :
    (followRun false s greedy k most x.cursor.after).Decides
      (((Expr.chars s).Further a greedy most).seq κ) x := by
  induction hlength : x.cursor.after.length using Nat.strong_induction_on generalizing x most with
  | h n ih =>
      by_cases hmost : most = some 0
      · rw [hmost, followRun_zero, Expr.Further, Ways.further_full, Ways.stay_seq]
        exact hk.self
      · rw [followRun_eq hmost, Expr.Further, Ways.further_seq hmost]
        refine .prefer hfresh.below.notMem ?_ ?_
        · refine decides_takeOne (x := x.choose _) fun d hd => ?_
          obtain ⟨c, -, hpass⟩ := Cursor.passes_of_step? hd
          have hlt : d.after.length < n := by
            rw [← hlength, show x.cursor.after = [c] ++ d.after from hpass.1]
            exact Nat.lt_succ_self _
          exact ih _ hlt (x := ⟨d, []⟩) (Spot.fresh_of_made_eq_nil rfl) (hk.step d) _ rfl
        · exact hk _ (x.since_choose _).of_below

/-- What following an expression decides is what the ways from that spot come to. -/
theorem Expr.follow_decides (e : Expr) (hfresh : x.Fresh a) (hk : DecidedBehind x a k κ) :
    (e.follow false k x.cursor.after).Decides ((e.Way a).seq κ) x := by
  induction e generalizing a x k κ with
  | empty =>
      have hway : (Expr.empty.Way a).seq κ = κ := Ways.stay_seq κ
      rw [hway]
      exact hk.self
  | chars s => exact decides_takeOne fun d _ => (hk.step d).self
  | look l => trivial
  | group index body ih => trivial
  | seq first second ih ih' =>
      have hway : ((Expr.seq first second).Way a).seq κ =
          (first.Way (.first :: a)).seq ((second.Way (.second :: a)).seq κ) := Ways.seq_assoc ..
      rw [hway]
      exact ih hfresh.below fun y hy =>
        ih' (hfresh.of_since (by simp) hy) (hk.of_since hy.of_below).below
  | alt first second ih ih' =>
      have hway : ((Expr.alt first second).Way a).seq κ =
          Ways.either a ((first.Way (.first :: a)).seq κ) ((second.Way (.second :: a)).seq κ) :=
        Ways.either_seq ..
      rw [hway]
      have hk' := hk.of_since (x.since_choose a)
      exact .or hfresh.notMem (ih (x := x.choose a) hfresh.choose hk'.below)
        (ih' (x := x.choose a) hfresh.choose hk'.below)
  | iterate least most greedy body ih =>
      have hway : ((Expr.iterate least most greedy body).Way a).seq κ =
          (Ways.copies (fun n => body.Way (.ofCopy most n :: a)) least).seq
            ((body.Further a greedy (most.map (· - least))).seq κ) := Ways.seq_assoc ..
      rw [hway]
      by_cases hbody : ∃ s, body = .chars s
      · obtain ⟨s, rfl⟩ := hbody
        exact decides_takeTimes (decides_followRun hfresh hk _)
          (fun d => decides_followRun (Spot.fresh_of_made_eq_nil rfl) (hk.step d) _) least
      · rw [follow_iterate hbody]
        split
        next hoptional =>
          obtain ⟨rfl, rfl⟩ := hoptional
          have hne : (some 1).map (· - 0) ≠ some 0 := by decide
          rw [Ways.copies, Ways.stay_seq, Expr.Further, Ways.further_seq hne]
          have hzero : (Ways.Further a (fun n => body.Way (.further n :: a)) greedy
              (((some 1).map (· - 0)).map (· - 1))).seq κ = κ := by
            rw [show ((some 1).map (· - 0)).map (· - 1) = some 0 from rfl, Ways.further_full,
              Ways.stay_seq]
          rw [hzero]
          have hsince := x.since_choose (.choice 1 :: a)
          have hk' := hk.of_since hsince.of_below
          exact .prefer hfresh.below.notMem
            (ih (x := x.choose _) (hfresh.of_since (by simp) hsince) hk'.below) hk'.self
        · trivial

end Decides

/-- What `k` decides of a text, `k'` says of the text with `y` behind it. -/
def Extends (y : Text) (k k' : Text → Verdict) : Prop :=
  ∀ t, ((k t).extend y).Agrees (k' (t ++ y))

theorem takeOne_extends (hk : Extends y k k') :
    Extends y (takeOne true s k) (takeOne false s k') := by
  intro t
  cases t with
  | nil => exact Verdict.undecided_agrees _
  | cons x t =>
      rw [List.cons_append, takeOne, takeOne]
      split
      · exact hk t
      · exact .refl _

theorem takeTimes_extends (hk : Extends y k k') (n : Nat) :
    Extends y (takeTimes true s n k) (takeTimes false s n k') := by
  induction n with
  | zero => exact hk
  | succ n ih => exact takeOne_extends ih

theorem followRun_extends (hk : Extends y k k') (most : Option Nat) :
    Extends y (followRun true s greedy k most) (followRun false s greedy k' most) := by
  intro t
  induction t generalizing most with
  | nil =>
      by_cases hmost : most = some 0
      · rw [hmost, followRun_zero, followRun_zero]
        exact hk []
      · rw [followRun_eq hmost, followRun_eq hmost, Verdict.extend_prefer]
        exact (Verdict.undecided_agrees _).prefer (hk [])
  | cons x t ih =>
      by_cases hmost : most = some 0
      · rw [hmost, followRun_zero, followRun_zero]
        exact hk (x :: t)
      · rw [followRun_eq hmost, followRun_eq hmost, Verdict.extend_prefer]
        refine Verdict.Agrees.prefer ?_ (hk (x :: t))
        rw [List.cons_append, takeOne, takeOne]
        split
        · exact ih _
        · exact .refl _

theorem Expr.follow_extends (e : Expr) (hk : Extends y k k') :
    Extends y (e.follow true k) (e.follow false k') := by
  induction e generalizing k k' with
  | empty => exact hk
  | chars s => exact takeOne_extends hk
  | look l => exact fun t => Verdict.undecided_agrees _
  | group index body ih => exact fun t => Verdict.undecided_agrees _
  | seq first second ih ih' => exact ih (ih' hk)
  | alt first second ih ih' =>
      intro t
      rw [follow, follow, Verdict.extend_or]
      exact (ih hk t).or (ih' hk t)
  | iterate least most greedy body ih =>
      by_cases hbody : ∃ s, body = .chars s
      · obtain ⟨s, rfl⟩ := hbody
        exact takeTimes_extends (followRun_extends hk _) least
      · intro t
        rw [follow_iterate hbody, follow_iterate hbody]
        split
        · rw [Verdict.extend_prefer]
          exact (ih hk t).prefer (hk t)
        · exact Verdict.undecided_agrees _

/-- Follows one expression after another. -/
def Expr.followItems (goesOn : Bool) : List Expr → (Text → Verdict) → Text → Verdict
  | [], k => k
  | e :: es, k => e.follow goesOn (followItems goesOn es k)

theorem Expr.follow_foldl {e : Expr} {es : List Expr} :
    (es.foldl .seq e).follow goesOn k = e.follow goesOn (followItems goesOn es k) := by
  induction es generalizing e with
  | nil => rfl
  | cons e' es ih =>
      rw [List.foldl_cons, ih]
      rfl

theorem Expr.follow_ofItems (es : List Expr) :
    (ofItems es).follow goesOn k = followItems goesOn es k := by
  cases es with
  | nil => rfl
  | cons e es => exact follow_foldl

/-- What the preferred match at the front of a text comes to, whatever stands behind the text. -/
def Expr.front (e : Expr) : Text → Verdict := e.follow true .found

variable {r : Regex} {before rest x b : Text} {span : Span}

theorem decides_of_front (h : r.expr.front t ≠ .undecided) (before y : Text) :
    ((r.expr.front t).extend y).Decides (r.expr.Way []) ⟨.behind before (t ++ y), []⟩ := by
  let x : Spot := ⟨.behind before (t ++ y), []⟩
  have hdone : DecidedBehind x [] .found .stay := by
    intro z _
    refine ⟨[], z, ⟨rfl, rfl⟩, ?_, rfl⟩
    rintro w z' ⟨rfl, -⟩ hlt
    cases hlt
  have hdecides := r.expr.follow_decides (Spot.fresh_of_made_eq_nil rfl) hdone
  rw [Ways.seq_stay] at hdecides
  have hfound : Extends y .found .found := fun t => .refl _
  rcases r.expr.follow_extends hfound t with hnone | hsome
  · exact absurd (Verdict.extend_eq_undecided_iff.mp hnone) h
  · rw [Expr.front, hsome]
    exact hdecides

theorem matchBetween?_of_front_missed (h : r.expr.front t = .missed) :
    (Pattern.regex r).matchBetween? before (t ++ y) = none := by
  have hdecides := decides_of_front (show r.expr.front t ≠ .undecided by simp [h]) before y
  rw [h] at hdecides
  rw [Pattern.matchBetween?, Option.map_eq_none_iff, matchAt?_eq_none_iff,
    Set.eq_empty_iff_forall_notMem]
  rintro d ⟨w, made, hway⟩
  exact hdecides ⟨w, ⟨d, made⟩, hway⟩

theorem matchBetween?_of_front_found (h : r.expr.front t = .found rest) :
    (Pattern.regex r).matchBetween? before (t ++ y) =
      some ⟨before, t.take (t.length - rest.length), rest ++ y⟩ := by
  have hdecides := decides_of_front (show r.expr.front t ≠ .undecided by simp [h]) before y
  rw [h] at hdecides
  obtain ⟨w, ⟨d, made⟩, hway, hfirst, hafter⟩ := hdecides
  have hat : r.matchAt? (.behind before (t ++ y)) = some ⟨.behind before (t ++ y), d⟩ :=
    matchAt?_eq_some_iff.mpr ⟨rfl, w, ⟨made, hway⟩, fun w' d' ⟨made', h'⟩ => hfirst w' _ h'⟩
  have hmatch : (Pattern.regex r).matchBetween? before (t ++ y) =
      some (Match.span ⟨.behind before (t ++ y), d⟩) := by
    rw [Pattern.matchBetween?, hat]
    rfl
  obtain ⟨hbefore, hwhole, -⟩ := Pattern.matchBetween?_eq_some_iff.mp hmatch
  have hspan : (Match.span ⟨.behind before (t ++ y), d⟩).after = rest ++ y := hafter
  rw [hmatch]
  generalize Match.span ⟨.behind before (t ++ y), d⟩ = span at hbefore hwhole hspan
  obtain ⟨_, matched, _⟩ := span
  obtain rfl := hbefore
  obtain rfl := hspan
  have ht : matched ++ rest = t := by
    rw [← List.append_assoc] at hwhole
    exact List.append_cancel_right hwhole
  rw [← ht, List.length_append, Nat.add_sub_cancel, List.take_left]

/-- The rests of a text in front of and behind the first place at which something is found, if each
place before it is decided. -/
def firstFound? (look : Text → Verdict) : Text → Option (Text × Text)
  | [] => none
  | c :: t =>
      match look (c :: t) with
      | .found rest => some (c :: t, rest)
      | .missed => firstFound? look t
      | .undecided => none

/-- The place of the leftmost match of a sequence in a text, if that is found without reading the
end of the text. -/
def Expr.settledSpan? (items : List Expr) (b : Text) : Option Span :=
  (firstFound? (followItems true items .found) b).map fun (here, rest) =>
    ⟨b.take (b.length - here.length), here.take (here.length - rest.length), rest⟩

theorem firstPlace_of_firstFound? {here : Text}
    (h : firstFound? r.expr.front b = some (here, rest)) (before y : Text) :
    ∃ p, b = p ++ here ∧
      Text.firstPlace (Pattern.regex r).matchBetween? before (b ++ y) =
        some ⟨before ++ p, here.take (here.length - rest.length), rest ++ y⟩ := by
  induction b generalizing before with
  | nil => cases h
  | cons c t ih =>
      rw [firstFound?] at h
      rw [List.cons_append, Text.firstPlace, ← List.cons_append]
      split at h
      next rest' hfront =>
        cases h
        refine ⟨[], rfl, ?_⟩
        rw [matchBetween?_of_front_found hfront, List.append_nil]
      next hfront =>
        obtain ⟨p, rfl, hplace⟩ := ih h (before ++ [c])
        refine ⟨c :: p, rfl, ?_⟩
        rw [matchBetween?_of_front_missed hfront]
        simpa using hplace
      next => cases h

/-- A match that a search finds without reading the end of its text is found in every longer text,
provided that no match begins in what stands before. -/
theorem find?_within {source : Text} {items : List Expr} {names : List (Text × Nat)}
    (h : Expr.settledSpan? items b = some span)
    (hx : ∀ t u, x = t ++ u → u ≠ [] →
      (Pattern.regex ⟨source, .ofItems items, names⟩).matchBetween? t (u ++ (b ++ y)) = none) :
    (Pattern.regex ⟨source, .ofItems items, names⟩).find? (x ++ (b ++ y)) =
      some ⟨x ++ span.before, span.matched, span.after ++ y⟩ := by
  obtain ⟨⟨here, rest⟩, hfirst, rfl⟩ := Option.map_eq_some_iff.mp h
  have hfront : (Expr.ofItems items).front = Expr.followItems true items .found :=
    Expr.follow_ofItems items
  rw [← hfront] at hfirst
  obtain ⟨p, rfl, hplace⟩ :=
    firstPlace_of_firstFound? (r := ⟨source, .ofItems items, names⟩) hfirst x y
  rw [Pattern.find?_eq_firstPlace, Text.firstPlace_append [] hx, List.nil_append, hplace]
  simp

end Regex

end AnchorPatch
