import Mathlib.Data.List.TakeWhile
import AnchorPatch.Regex.Template

namespace AnchorPatch.Regex

variable {r : Regex} {m : Match} {s t name : Text} {fuel : Nat}

/-- No reference begins here, and no second dollar sign stands here. -/
def Unreferenced : Text → Prop
  | [] => True
  | c :: s => c ≠ '$' ∧ isRefChar c = false ∧ (c = '{' → '}' ∉ s)

/-- What a template becomes. A dollar sign begins a reference where a name follows, either the
longest possible one or one in braces, and the reference becomes the text of its group. Two dollar
signs become one. All else stays as it is. -/
inductive Expands (r : Regex) (m : Match) : Text → Text → Prop
  | nil : Expands r m [] []
  | char {c : Char} {s t : Text} (hc : c ≠ '$') (h : Expands r m s t) :
      Expands r m (c :: s) (c :: t)
  | dollars {s t : Text} (h : Expands r m s t) : Expands r m ('$' :: '$' :: s) ('$' :: t)
  | braced {name s t : Text} (hname : '}' ∉ name) (h : Expands r m s t) :
      Expands r m ('$' :: '{' :: (name ++ '}' :: s)) (r.groupText m (.ofText name) ++ t)
  | plain {name s t : Text} (hne : name ≠ []) (hname : ∀ c ∈ name, isRefChar c = true)
      (hs : ∀ c, s.head? = some c → isRefChar c = false) (h : Expands r m s t) :
      Expands r m ('$' :: (name ++ s)) (r.groupText m (.ofText name) ++ t)
  | lone {s t : Text} (hs : Unreferenced s) (h : Expands r m s t) :
      Expands r m ('$' :: s) ('$' :: t)

namespace GroupRef

theorem read?_cons {c : Char} (hc : c ≠ '{') (s : Text) :
    read? (c :: s) =
      match (c :: s).takeWhile isRefChar with
      | [] => none
      | chars => some (.ofText chars, (c :: s).dropWhile isRefChar) := by
  unfold read?
  split
  next h => exact absurd (List.cons.inj h).1 hc
  next => rfl

theorem read?_braced (hname : '}' ∉ name) :
    read? ('{' :: (name ++ '}' :: s)) = some (.ofText name, s) := by
  have hall : ∀ c ∈ name, decide (c ≠ '}') = true := by
    intro c hc
    exact decide_eq_true fun h => hname (h ▸ hc)
  have htake : (name ++ '}' :: s).takeWhile (· ≠ '}') = name := by
    rw [List.takeWhile_append_of_pos hall, List.takeWhile_cons_of_neg (by decide), List.append_nil]
  have hdrop : (name ++ '}' :: s).dropWhile (· ≠ '}') = '}' :: s := by
    rw [List.dropWhile_append_of_pos hall, List.dropWhile_cons_of_neg (by decide)]
  rw [read?, hdrop, htake]

theorem read?_plain (hne : name ≠ []) (hname : ∀ c ∈ name, isRefChar c = true)
    (hs : ∀ c, s.head? = some c → isRefChar c = false) :
    read? (name ++ s) = some (.ofText name, s) := by
  have htake : (name ++ s).takeWhile isRefChar = name := by
    rw [List.takeWhile_append_of_pos hname]
    cases s with
    | nil => rw [List.takeWhile_nil, List.append_nil]
    | cons c s => rw [List.takeWhile_cons_of_neg (by simp [hs c rfl]), List.append_nil]
  have hdrop : (name ++ s).dropWhile isRefChar = s := by
    rw [List.dropWhile_append_of_pos hname]
    cases s with
    | nil => rfl
    | cons c s => rw [List.dropWhile_cons_of_neg (by simp [hs c rfl])]
  obtain ⟨c, name, rfl⟩ := List.exists_cons_of_ne_nil hne
  have hc : c ≠ '{' := by
    rintro rfl
    exact absurd (hname '{' List.mem_cons_self) (by decide)
  rw [List.cons_append] at htake hdrop ⊢
  rw [read?_cons hc, htake, hdrop]

theorem read?_unreferenced (hs : Unreferenced s) : read? s = none := by
  cases s with
  | nil => rfl
  | cons c s =>
      obtain ⟨-, hc, hbrace⟩ := hs
      by_cases h : c = '{'
      · subst h
        have hdrop : s.dropWhile (· ≠ '}') = [] := by
          rw [List.dropWhile_eq_nil_iff]
          intro x hx
          exact decide_eq_true fun h => hbrace rfl (h ▸ hx)
        rw [read?, hdrop]
      · rw [read?_cons h, List.takeWhile_cons_of_neg (by simp [hc])]

end GroupRef

theorem Unreferenced.head?_ne (hs : Unreferenced s) : s.head? ≠ some '$' := by
  cases s with
  | nil => simp
  | cons c s => exact fun h => hs.1 (Option.some.inj h)

theorem cases_of_ne_dollar (hs : s.head? ≠ some '$') :
    Unreferenced s ∨
      (∃ name rest, s = '{' :: (name ++ '}' :: rest) ∧ '}' ∉ name) ∨
      ∃ name rest, s = name ++ rest ∧ name ≠ [] ∧ (∀ c ∈ name, isRefChar c = true) ∧
        ∀ c, rest.head? = some c → isRefChar c = false := by
  cases s with
  | nil => exact .inl trivial
  | cons c s =>
      cases hc : isRefChar c with
      | true =>
          refine .inr (.inr ⟨(c :: s).takeWhile isRefChar, (c :: s).dropWhile isRefChar,
            List.takeWhile_append_dropWhile.symm, ?_, fun x hx => ?_, fun x hx => ?_⟩)
          · rw [List.takeWhile_cons_of_pos hc]
            exact List.cons_ne_nil _ _
          · exact List.mem_takeWhile_imp hx
          · have hhead := List.head?_dropWhile_not isRefChar (c :: s)
            rw [hx] at hhead
            simpa using hhead
      | false =>
          by_cases hbrace : c = '{' ∧ '}' ∈ s
          · obtain ⟨rfl, hmem⟩ := hbrace
            obtain ⟨name, rest, rfl, hname⟩ := List.eq_append_cons_of_mem hmem
            exact .inr (.inl ⟨name, rest, rfl, hname⟩)
          · refine .inl ⟨fun h => hs (congrArg some h), hc, fun h hmem => hbrace ⟨h, hmem⟩⟩

theorem readTemplate_char {c : Char} (hc : c ≠ '$') :
    readTemplate (fuel + 1) (c :: s) = .literal c :: readTemplate fuel s :=
  readTemplate.eq_5 _ _ _ (fun _ h _ => hc h) hc

theorem readTemplate_dollar (hs : s.head? ≠ some '$') :
    readTemplate (fuel + 1) ('$' :: s) =
      match GroupRef.read? s with
      | some (ref, rest) => .reference ref :: readTemplate fuel rest
      | none => .literal '$' :: readTemplate fuel s :=
  readTemplate.eq_4 _ _ fun _ h => hs (congrArg List.head? h)

theorem readTemplate_braced (hname : '}' ∉ name) :
    readTemplate (fuel + 1) ('$' :: '{' :: (name ++ '}' :: s)) =
      .reference (.ofText name) :: readTemplate fuel s := by
  rw [readTemplate_dollar (by simp), GroupRef.read?_braced hname]

theorem readTemplate_plain (hne : name ≠ []) (hname : ∀ c ∈ name, isRefChar c = true)
    (hs : ∀ c, s.head? = some c → isRefChar c = false) :
    readTemplate (fuel + 1) ('$' :: (name ++ s)) =
      .reference (.ofText name) :: readTemplate fuel s := by
  have hhead : (name ++ s).head? ≠ some '$' := by
    obtain ⟨c, name, rfl⟩ := List.exists_cons_of_ne_nil hne
    intro h
    have hc := hname c List.mem_cons_self
    rw [Option.some.inj h] at hc
    exact absurd hc (by decide)
  rw [readTemplate_dollar hhead, GroupRef.read?_plain hne hname hs]

theorem readTemplate_lone (hs : Unreferenced s) :
    readTemplate (fuel + 1) ('$' :: s) = .literal '$' :: readTemplate fuel s := by
  rw [readTemplate_dollar hs.head?_ne, GroupRef.read?_unreferenced hs]

theorem Expands.eq_readTemplate (h : r.Expands m s t) (hfuel : s.length < fuel) :
    t = (readTemplate fuel s).flatMap (Piece.expand r m) := by
  induction h generalizing fuel with
  | nil =>
      obtain ⟨fuel, rfl⟩ := Nat.exists_eq_add_one_of_ne_zero (Nat.ne_zero_of_lt hfuel)
      rfl
  | char hc _ ih =>
      obtain ⟨fuel, rfl⟩ := Nat.exists_eq_add_one_of_ne_zero (Nat.ne_zero_of_lt hfuel)
      rw [readTemplate_char hc, List.flatMap_cons, ← ih (Nat.lt_of_succ_lt_succ hfuel)]
      rfl
  | dollars _ ih =>
      obtain ⟨fuel, rfl⟩ := Nat.exists_eq_add_one_of_ne_zero (Nat.ne_zero_of_lt hfuel)
      simp only [List.length_cons] at hfuel
      rw [readTemplate, List.flatMap_cons, ← ih (by omega)]
      rfl
  | braced hname _ ih =>
      obtain ⟨fuel, rfl⟩ := Nat.exists_eq_add_one_of_ne_zero (Nat.ne_zero_of_lt hfuel)
      simp only [List.length_cons, List.length_append] at hfuel
      rw [readTemplate_braced hname, List.flatMap_cons, ← ih (by omega)]
      rfl
  | plain hne hname hs _ ih =>
      obtain ⟨fuel, rfl⟩ := Nat.exists_eq_add_one_of_ne_zero (Nat.ne_zero_of_lt hfuel)
      simp only [List.length_cons, List.length_append] at hfuel
      rw [readTemplate_plain hne hname hs, List.flatMap_cons, ← ih (by omega)]
      rfl
  | lone hs _ ih =>
      obtain ⟨fuel, rfl⟩ := Nat.exists_eq_add_one_of_ne_zero (Nat.ne_zero_of_lt hfuel)
      rw [readTemplate_lone hs, List.flatMap_cons, ← ih (Nat.lt_of_succ_lt_succ hfuel)]
      rfl

theorem exists_expands (r : Regex) (m : Match) (s : Text) : ∃ t, r.Expands m s t := by
  -- on the length, because a reference is read as a whole
  induction hlen : s.length using Nat.strong_induction_on generalizing s with
  | h n ih =>
      subst hlen
      cases s with
      | nil => exact ⟨[], .nil⟩
      | cons c s =>
          obtain ⟨t, ht⟩ := ih s.length (Nat.lt_succ_self _) s rfl
          by_cases hc : c = '$'
          · subst hc
            by_cases hs : s.head? = some '$'
            · obtain ⟨s, rfl⟩ := List.head?_eq_some_iff.mp hs
              have hlen : s.length < ('$' :: '$' :: s).length :=
                Nat.lt_add_right 1 (Nat.lt_succ_self _)
              obtain ⟨t, ht⟩ := ih s.length hlen s rfl
              exact ⟨_, .dollars ht⟩
            · obtain hs | ⟨name, rest, rfl, hname⟩ | ⟨name, rest, rfl, hne, hname, hrest⟩ :=
                cases_of_ne_dollar hs
              · exact ⟨_, .lone hs ht⟩
              · have hlen : rest.length < ('$' :: '{' :: (name ++ '}' :: rest)).length := by
                  simp only [List.length_cons, List.length_append]
                  omega
                obtain ⟨t, ht⟩ := ih rest.length hlen rest rfl
                exact ⟨_, .braced hname ht⟩
              · have hlen : rest.length < ('$' :: (name ++ rest)).length := by
                  simp only [List.length_cons, List.length_append]
                  omega
                obtain ⟨t, ht⟩ := ih rest.length hlen rest rfl
                exact ⟨_, .plain hne hname hrest ht⟩
          · exact ⟨_, .char hc ht⟩

/-- A template is expanded to the one text that it becomes. -/
theorem expands_iff : r.Expands m s t ↔ t = r.expand m s := by
  constructor
  · exact fun h => h.eq_readTemplate (Nat.lt_succ_self _)
  · rintro rfl
    obtain ⟨t, ht⟩ := exists_expands r m s
    rwa [expand, ← ht.eq_readTemplate (Nat.lt_succ_self _)]

end AnchorPatch.Regex
