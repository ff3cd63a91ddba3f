import AnchorPatch.Proofs.Regex.Lead
import Mathlib.Algebra.Divisibility.Basic

/-!
Openings of patterns.

The opening of a pattern is the text at its front, where every part counts that may be there. Unlike
what leads all matches, it only grows while a pattern is read. Main statements: what leads a pattern
is the front of its opening, and what the parser has read keeps its opening to the end.
-/

namespace AnchorPatch

open Text (visible visible_append)

/-- A text with which something begins, and whether it is all of it, so that more may follow. -/
@[ext] structure Opening where
  text : Text
  isWhole : Bool

namespace Opening

variable {a b : Opening}

/-- Nothing is known of what follows. -/
def stop : Opening := ⟨[], false⟩

def ofChar (c : Char) : Opening := ⟨visible [c], true⟩

instance : Mul Opening where
  mul a b := if a.isWhole then ⟨a.text ++ b.text, b.isWhole⟩ else a

instance : One Opening where
  one := ⟨[], true⟩

theorem mul_of_isWhole (h : a.isWhole = true) (b : Opening) :
    a * b = ⟨a.text ++ b.text, b.isWhole⟩ := if_pos h

theorem mul_of_not_isWhole (h : a.isWhole = false) (b : Opening) : a * b = a :=
  if_neg (by simp [h])

/-- Openings one behind the other. -/
instance : Monoid Opening where
  mul_assoc a b c := by
    cases ha : a.isWhole with
    | false => simp only [mul_of_not_isWhole, ha]
    | true =>
        cases hb : b.isWhole with
        | false => simp only [mul_of_isWhole, mul_of_not_isWhole, ha, hb]
        | true => simp only [mul_of_isWhole, ha, hb, List.append_assoc]
  one_mul a := @mul_of_isWhole 1 rfl a
  mul_one a := by
    cases ha : a.isWhole with
    | false => exact mul_of_not_isWhole ha 1
    | true =>
        rw [mul_of_isWhole ha]
        ext1
        · exact List.append_nil _
        · exact ha.symm

@[simp] theorem stop_mul (a : Opening) : stop * a = stop := rfl

theorem prefix_of_dvd (h : a ∣ b) : a.text <+: b.text := by
  obtain ⟨c, rfl⟩ := h
  cases ha : a.isWhole with
  | false =>
      have htext : a.text = (a * c).text := congrArg text (mul_of_not_isWhole ha c).symm
      exact ⟨[], (List.append_nil _).trans htext⟩
  | true =>
      rw [mul_of_isWhole ha]
      exact List.prefix_append _ _

theorem eq_of_dvd (h : a ∣ b) (ha : a.isWhole = false) : b = a := by
  obtain ⟨c, rfl⟩ := h
  exact mul_of_not_isWhole ha c

end Opening

namespace Regex

open Opening (stop ofChar)

/-- A named group and a group that hides blanks are not entered. -/
def GroupKind.opening : GroupKind → Opening
  | .capture _ none => 1
  | .capture _ (some _) => stop
  | .plain signs => if hidesBlanks signs then stop else 1

/-- The signs of an assertion that are taken for characters are those behind a backslash. -/
def Assertion.opening : Assertion → Opening
  | .lineStart => 1
  | .wordStart => ofChar '<'
  | .wordEnd => ofChar '>'
  | _ => stop

mutual

/-- The text at the front of a pattern if parts are taken for certain that are not: those that are
optional, the first of several branches, and letters in either case. -/
def Ast.opening : Ast → Opening
  | .empty => 1
  | .flags signs => if hidesBlanks signs then stop else 1
  | .literal c _ => ofChar c
  | .assertion a => a.opening
  | .letter l negated => if Ast.isBlankRun (.letter l negated) then 1 else stop
  | .iteration _ _ _ body => if body.isBlankRun then 1 else body.opening * stop
  | .group kind body => kind.opening * body.opening
  | .alternation (first :: _) => first.opening * stop
  | .sequence items => Ast.openings items
  | _ => stop

def Ast.openings : List Ast → Opening
  | [] => 1
  | item :: items => item.opening * Ast.openings items

end

/-- What leads a pattern is not more than its opening, and is all of it if it is the whole
pattern. -/
structure Within (l : Text × Option Flags) (a : Opening) : Prop where
  isPrefix : l.1 <+: a.text
  whole : ∀ g, l.2 = some g → a = ⟨l.1, true⟩

theorem within_nil (a : Opening) : Within ([], none) a := ⟨List.nil_prefix, nofun⟩

theorem within_whole (f : Flags) (t : Text) : Within (t, some f) ⟨t, true⟩ :=
  ⟨List.prefix_rfl, fun _ _ => rfl⟩

theorem Within.withFlags {l : Text × Option Flags} {a : Opening} (h : Within l a) (f : Flags) :
    Within (l.1, l.2.map fun _ => f) a := by
  refine ⟨h.isPrefix, fun g hg => ?_⟩
  obtain ⟨g', hg', -⟩ := Option.map_eq_some_iff.mp hg
  exact h.whole g' hg'

mutual

theorem Ast.lead_within (ast : Ast) (f : Flags) : Within (ast.lead f) ast.opening := by
  cases ast with
  | empty => exact within_whole f []
  | flags signs =>
      rw [lead, opening]
      split
      · exact within_nil _
      · exact within_whole _ []
  | literal c byte =>
      rw [lead, opening]
      split
      · exact within_whole f _
      · exact within_nil _
  | assertion a =>
      cases a
      case lineStart => exact within_whole f []
      all_goals exact within_nil _
  | letter l negated =>
      rw [lead, opening]
      split
      · exact within_whole f []
      · exact within_nil _
  | iteration least most greedy body =>
      rw [lead, opening]
      split
      · exact within_whole f []
      · split
        · exact within_nil _
        · exact ⟨(Ast.lead_within body f).isPrefix.trans (Opening.prefix_of_dvd ⟨stop, rfl⟩), nofun⟩
  | group kind body =>
      rw [opening]
      cases kind with
      | capture index name =>
          cases name with
          | some name => exact within_nil _
          | none =>
              rw [GroupKind.opening, one_mul]
              exact (Ast.lead_within body f).withFlags f
      | plain signs =>
          rw [lead, GroupKind.opening]
          split
          · exact within_nil _
          · rw [one_mul]
            exact (Ast.lead_within body (f.update signs)).withFlags f
  | sequence items => exact Ast.leads_within items f
  | dot | property | bracketed | alternation => exact within_nil _

theorem Ast.leads_within (items : List Ast) (f : Flags) :
    Within (Ast.leads f items) (Ast.openings items) := by
  cases items with
  | nil => exact within_whole f []
  | cons item items =>
      have hfirst := Ast.lead_within item f
      rw [leads, openings]
      split
      next s hs =>
        rw [hs] at hfirst
        exact ⟨hfirst.isPrefix.trans (Opening.prefix_of_dvd ⟨_, rfl⟩), nofun⟩
      next s g hs =>
        rw [hs] at hfirst
        have hrest := Ast.leads_within items g
        rw [hfirst.whole g rfl, Opening.mul_of_isWhole rfl]
        refine ⟨(List.prefix_append_right_inj _).mpr hrest.isPrefix, fun g' hg' => ?_⟩
        rw [hrest.whole g' hg']

end

theorem Ast.opening_of_isBlankRun {ast : Ast} (h : ast.isBlankRun = true) : ast.opening = 1 := by
  cases ast with
  | letter l negated =>
      rw [opening]
      exact if_pos h
  | iteration least most greedy body =>
      rw [opening]
      exact if_pos h
  | _ => cases h

theorem Ast.openings_append (items items' : List Ast) :
    Ast.openings (items ++ items') = Ast.openings items * Ast.openings items' := by
  induction items with
  | nil => exact (one_mul _).symm
  | cons item items ih => rw [List.cons_append, openings, openings, ih, mul_assoc]

theorem Ast.opening_ofItems (items : List Ast) :
    (Ast.ofItems items).opening = Ast.openings items := by
  match items with
  | [] => rfl
  | [item] => rw [ofItems, openings, openings, mul_one]
  | _ :: _ :: _ => rfl

/-- The opening of what has been read of a group: of its first branch if that is complete. -/
def groupOpening (branches items : List Ast) : Opening :=
  match branches.getLast? with
  | none => Ast.openings items.reverse
  | some first => first.opening * stop

theorem groupOpening_cons (branches : List Ast) (item : Ast) (items : List Ast) :
    groupOpening branches (item :: items) = groupOpening branches items * item.opening := by
  rw [groupOpening, groupOpening]
  split
  · rw [List.reverse_cons, Ast.openings_append, Ast.openings, Ast.openings, mul_one]
  · rw [mul_assoc, Opening.stop_mul]

theorem groupOpening_branch (branches items : List Ast) :
    groupOpening (.ofItems items.reverse :: branches) [] = groupOpening branches items * stop := by
  rw [groupOpening, groupOpening, List.getLast?_cons]
  cases branches.getLast? with
  | none => exact congrArg (· * stop) (Ast.opening_ofItems _)
  | some first => exact (mul_assoc first.opening stop stop).symm

def stackOpening : List Frame → Opening
  | [] => 1
  | f :: stack => stackOpening stack * groupOpening f.branches f.items * f.kind.opening

namespace ParseState

variable {st st' : ParseState} {ast : Ast} {fuel : Nat} {c : Char} {s rest : Text}

/-- The opening of what has been read of a pattern. -/
def opening (st : ParseState) : Opening := stackOpening st.stack * groupOpening st.branches st.items

theorem opening_body (st : ParseState) : st.body.opening = groupOpening st.branches st.items := by
  rw [body, groupOpening]
  cases hbranches : st.branches with
  | nil => exact Ast.opening_ofItems _
  | cons b branches =>
      obtain ⟨first, hfirst⟩ : ∃ first, (b :: branches).getLast? = some first := ⟨_, rfl⟩
      obtain ⟨init, hinit⟩ := List.getLast?_eq_some_iff.mp hfirst
      rw [hfirst]
      simp [hinit, Ast.opening]

theorem opening_push (st : ParseState) (item : Ast) (rest : Text) :
    (st.push item rest).opening = st.opening * item.opening := by
  rw [opening, push, groupOpening_cons, ← mul_assoc]
  rfl

theorem opening_enter (st : ParseState) (kind : GroupKind) (free : Bool) (rest : Text) :
    (st.enter kind free rest).opening = st.opening * kind.opening :=
  mul_one _

theorem opening_enterCapture (st : ParseState) (name : Option Text) (rest : Text) :
    (st.enterCapture name rest).opening =
      st.opening * (GroupKind.capture (st.groups + 1) name).opening :=
  mul_one _

theorem opening_closeGroup (h : st.closeGroup s = .ok st') : st'.opening = st.opening := by
  rw [closeGroup] at h
  split at h
  · cases h
  next f stack hstack =>
    cases h
    rw [opening, opening, hstack, stackOpening, groupOpening_cons, Ast.opening, opening_body]
    simp only [mul_assoc]

theorem opening_branch (st : ParseState) (rest : Text) :
    { st with rest, items := [], branches := .ofItems st.items.reverse :: st.branches }.opening =
      st.opening * stop := by
  rw [opening, groupOpening_branch, ← mul_assoc]
  rfl

theorem opening_iterate {least : Nat} {most : Option Nat} {greedy : Bool}
    (h : st.iterate least most greedy s = .ok st') :
    ∃ item items, st.items = item :: items ∧
      st' = { st with rest := s, items := .iteration least most greedy item :: items } ∧
      st'.opening = if item.isBlankRun then st.opening else st.opening * stop := by
  rw [iterate.eq_def] at h
  split at h
  case h_4 item items _ _ hitems =>
    cases h
    refine ⟨item, items, hitems, rfl, ?_⟩
    rw [opening, opening, hitems, groupOpening_cons, groupOpening_cons, Ast.opening]
    split
    next hrun => rw [Ast.opening_of_isBlankRun hrun]
    next => simp only [mul_assoc]
  all_goals cases h

/-- What a parenthesis opens. -/
inductive Opens (st : ParseState) (s : Text) : ParseState → Prop
  | named {name rest : Text} (hs : (settle st.free s).head? = some '?') :
      Opens st s (st.enterCapture (some name) rest)
  | flags {signs : List FlagSign} {s' rest : Text} (hs : settle st.free s = '?' :: s')
      (hread : readFlags [] s' = .ok (signs, ')' :: rest)) :
      Opens st s
        { st.push (.flags signs) rest with
          free := (flagSetting .ignoreBlanks true signs).getD st.free }
  | plain {signs : List FlagSign} {s' rest : Text} (hs : settle st.free s = '?' :: s')
      (hread : readFlags [] s' = .ok (signs, rest)) :
      Opens st s
        (st.enter (.plain signs) ((flagSetting .ignoreBlanks true signs).getD st.free) rest.tail)
  | capture (hs : (settle st.free s).head? ≠ some '?') :
      Opens st s (st.enterCapture none (settle st.free s))

theorem exists_of_readNamedGroup (h : st.readNamedGroup s = .ok st') :
    ∃ name rest, st' = st.enterCapture (some name) rest := by
  rw [readNamedGroup, Except.bind_eq_ok_iff] at h
  obtain ⟨⟨name, rest⟩, -, h⟩ := h
  dsimp only at h
  split at h
  · cases h
  · exact ⟨name, rest, (Except.pure_eq_ok_iff.mp h).symm⟩

theorem opens_of_openGroup (h : st.openGroup s = .ok st') : st.Opens s st' := by
  have named {s' : Text} (hs : settle st.free s = '?' :: s') {u : Text}
      (h : st.readNamedGroup u = .ok st') : st.Opens s st' := by
    obtain ⟨name, rest, rfl⟩ := exists_of_readNamedGroup h
    exact .named (congrArg List.head? hs)
  rw [openGroup.eq_def] at h
  split at h
  case h_5 hs => exact named hs h
  case h_6 hs => exact named hs h
  case h_7 hs =>
    obtain ⟨⟨signs, rest⟩, hread, h⟩ := Except.bind_eq_ok_iff.mp h
    dsimp only at h
    split at h
    · split at h
      · cases h
      · cases h
        exact .flags hs hread
    · cases h
      exact .plain hs hread
  case h_8 hs =>
    cases h
    refine .capture fun hhead => ?_
    obtain ⟨s', hs'⟩ := List.head?_eq_some_iff.mp hhead
    exact hs s' hs'
  all_goals cases h

theorem Opens.opening_dvd (h : st.Opens s st') : st.opening ∣ st'.opening := by
  cases h with
  | named => exact Dvd.intro _ (opening_enterCapture st (some _) _).symm
  | @flags signs _ rest => exact Dvd.intro _ (opening_push st (.flags signs) rest).symm
  | plain => exact Dvd.intro _ (opening_enter st _ _ _).symm
  | capture => exact Dvd.intro _ (opening_enterCapture st none _).symm

theorem opening_dvd_iterate {least : Nat} {most : Option Nat} {greedy : Bool}
    (h : st.iterate least most greedy s = .ok st') : st.opening ∣ st'.opening := by
  obtain ⟨item, items, -, -, hopening⟩ := opening_iterate h
  rw [hopening]
  split
  · exact dvd_rfl
  · exact Dvd.intro _ rfl

theorem opening_dvd_iterateCount (h : st.iterateCount s = .ok st') : st.opening ∣ st'.opening := by
  simp only [iterateCount, bind, Except.bind, pure, Except.pure] at h
  repeat' split at h
  all_goals first
    | cases h
    | exact opening_dvd_iterate h

theorem opening_dvd_step (h : st.step c s = .ok st') : st.opening ∣ st'.opening := by
  have hpush (item : Ast) (rest : Text) : st.opening ∣ (st.push item rest).opening :=
    opening_push st item rest ▸ Dvd.intro _ rfl
  unfold step at h
  split at h
  · exact (opens_of_openGroup h).opening_dvd
  · exact dvd_of_eq (opening_closeGroup h).symm
  · cases h
    exact opening_branch st s ▸ Dvd.intro _ rfl
  · obtain ⟨⟨negated, items, rest⟩, -, h⟩ := Except.bind_eq_ok_iff.mp h
    obtain ⟨⟨ast, rest⟩, -, h⟩ := Except.bind_eq_ok_iff.mp h
    cases h
    exact hpush _ _
  · exact opening_dvd_iterate h
  · exact opening_dvd_iterate h
  · exact opening_dvd_iterate h
  · exact opening_dvd_iterateCount h
  · obtain ⟨⟨p, rest⟩, -, h⟩ := Except.bind_eq_ok_iff.mp h
    cases h
    exact hpush _ _
  all_goals
    cases h
    exact hpush _ _

theorem opening_dvd_run (h : run fuel st = .ok ast) : st.opening ∣ ast.opening := by
  induction fuel generalizing st with
  | zero => cases h
  | succ fuel ih =>
      rw [run] at h
      split at h
      · split at h
        next hstack =>
          cases h
          rw [opening_body, opening, List.isEmpty_iff.mp hstack, stackOpening, one_mul]
        · cases h
      · obtain ⟨st', hstep, hrun⟩ := Except.bind_eq_ok_iff.mp h
        exact (opening_dvd_step hstep).trans (ih hrun)

end ParseState

end Regex

end AnchorPatch
