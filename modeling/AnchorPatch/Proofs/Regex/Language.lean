import AnchorPatch.Proofs.Regex.Way

namespace AnchorPatch.Regex

variable {R : Text → Prop} {m n : Nat} {t u : Text}

/-- A text that consists of `n` texts of a language. -/
def Copies (R : Text → Prop) : Nat → Text → Prop
  | 0, t => t = []
  | n + 1, t => ∃ u v, t = u ++ v ∧ R u ∧ Copies R n v

/-- The texts that an expression reads. -/
def Expr.Reads : Expr → Text → Prop
  | .empty, t => t = []
  | .chars s, t => ∃ x, s.contains x = true ∧ t = [x]
  | .look _, t => t = []
  | .group _ body, t => body.Reads t
  | .seq first second, t => ∃ u v, t = u ++ v ∧ first.Reads u ∧ second.Reads v
  | .alt first second, t => first.Reads t ∨ second.Reads t
  | .iterate least most _ body, t =>
      ∃ n, least ≤ n ∧ (∀ m, most = some m → n ≤ max least m) ∧ Copies body.Reads n t

namespace Cursor

/-- A text of a language stands between two places. -/
def Leads (R : Text → Prop) (c d : Cursor) : Prop := ∃ t, R t ∧ c.Passes t d

end Cursor

open Cursor (Leads)

theorem copies_append (h : Copies R m t) (h' : Copies R n u) : Copies R (m + n) (t ++ u) := by
  induction m generalizing t with
  | zero =>
      obtain rfl := h
      simpa using h'
  | succ m ih =>
      obtain ⟨x, y, rfl, hx, hy⟩ := h
      rw [Nat.succ_add, List.append_assoc]
      exact ⟨x, y ++ u, rfl, hx, ih hy⟩

namespace Ways

variable {P : Nat → Ways} {s s' : Spot} {w : List Bool}

theorem leads_of_copies (hP : ∀ n s w s', P n s w s' → Leads R s.cursor s'.cursor)
    (h : copies P n s w s') : Leads (Copies R n) s.cursor s'.cursor := by
  induction n generalizing s w with
  | zero =>
      obtain ⟨-, rfl⟩ := h
      exact ⟨[], rfl, .refl _⟩
  | succ n ih =>
      obtain ⟨u, v, x, rfl, hu, hv⟩ := h
      obtain ⟨t, ht, hpass⟩ := hP _ _ _ _ hu
      obtain ⟨t', ht', hpass'⟩ := ih hv
      exact ⟨t ++ t', ⟨t, t', rfl, ht, ht'⟩, hpass.trans hpass'⟩

theorem leads_of_further {a : Address} {greedy : Bool} {rest : Option Nat}
    (hP : ∀ n s w s', P n s w s' → Leads R s.cursor s'.cursor)
    (h : Further a P greedy rest s w s') :
    ∃ n, (∀ m, rest = some m → n ≤ m) ∧ Leads (Copies R n) s.cursor s'.cursor := by
  induction h with
  | full => exact ⟨0, fun m _ => Nat.zero_le m, [], rfl, .refl _⟩
  | stop => exact ⟨0, fun m _ => Nat.zero_le m, [], rfl, .refl _⟩
  | @copy rest _ _ _ _ _ hrest _ hcopy _ ih =>
      obtain ⟨n, hn, t', ht', hpass'⟩ := ih
      obtain ⟨t, ht, hpass⟩ := hP _ _ _ _ hcopy
      refine ⟨n + 1, ?_, t ++ t', ⟨t, t', rfl, ht, ht'⟩, hpass.trans hpass'⟩
      -- `hn` bounds what follows the first copy by `m - 1`
      rintro m rfl
      have hle := hn (m - 1) rfl
      have hpos : m ≠ 0 := by
        rintro rfl
        exact hrest rfl
      omega

end Ways

theorem Expr.leads_of_way {e : Expr} {a : Address} {s s' : Spot} {w : List Bool}
    (h : e.Way a s w s') : Leads e.Reads s.cursor s'.cursor := by
  induction e generalizing a s w s' with
  | empty =>
      obtain ⟨-, rfl⟩ := h
      exact ⟨[], rfl, .refl _⟩
  | chars set =>
      obtain ⟨-, hstep, -⟩ := h
      obtain ⟨x, hx, hpass⟩ := Cursor.passes_of_step? hstep
      exact ⟨[x], ⟨x, hx, rfl⟩, hpass⟩
  | look l =>
      obtain ⟨-, -, rfl⟩ := h
      exact ⟨[], rfl, .refl _⟩
  | group index body ih =>
      obtain ⟨x, hx, rfl⟩ := h
      obtain ⟨t, ht, hpass⟩ := ih hx
      exact ⟨t, ht, hpass⟩
  | seq first second ih ih' =>
      obtain ⟨u, v, x, rfl, hu, hv⟩ := h
      obtain ⟨t, ht, hpass⟩ := ih hu
      obtain ⟨t', ht', hpass'⟩ := ih' hv
      exact ⟨t ++ t', ⟨t, t', rfl, ht, ht'⟩, hpass.trans hpass'⟩
  | alt first second ih ih' =>
      obtain ⟨-, v, ⟨rfl, hv⟩ | ⟨rfl, hv⟩⟩ := h
      · obtain ⟨t, ht, hpass⟩ := ih hv
        exact ⟨t, .inl ht, hpass⟩
      · obtain ⟨t, ht, hpass⟩ := ih' hv
        exact ⟨t, .inr ht, hpass⟩
  | iterate least most greedy body ih =>
      obtain ⟨u, v, x, rfl, hu, hv⟩ := h
      obtain ⟨t, ht, hpass⟩ := Ways.leads_of_copies (fun n _ _ _ h => ih h) hu
      obtain ⟨n, hn, t', ht', hpass'⟩ := Ways.leads_of_further (fun n _ _ _ h => ih h) hv
      refine ⟨t ++ t', ⟨least + n, Nat.le_add_right _ _, ?_, copies_append ht ht'⟩,
        hpass.trans hpass'⟩
      rintro m rfl
      have hle := hn (m - least) rfl
      omega

namespace Expr

theorem passes_of_way {e : Expr} {a : Address} {s s' : Spot} {w : List Bool}
    (h : e.Way a s w s') : ∃ t, s.cursor.Passes t s'.cursor := by
  obtain ⟨t, -, ht⟩ := leads_of_way h
  exact ⟨t, ht⟩

theorem leads_of_mem_ends {e : Expr} {c d : Cursor} (h : d ∈ e.ends c) : Leads e.Reads c d := by
  obtain ⟨w, made, h⟩ := h
  exact leads_of_way h

/-- A text that consists of what some expressions read, one behind another. -/
def ReadsItems : List Expr → Text → Prop
  | [], t => t = []
  | e :: es, t => ∃ u v, t = u ++ v ∧ e.Reads u ∧ ReadsItems es v

theorem readsItems_of_foldl {e : Expr} {es : List Expr} (h : (es.foldl .seq e).Reads t) :
    ReadsItems (e :: es) t := by
  induction es generalizing e with
  | nil => exact ⟨t, [], by simp, h, rfl⟩
  | cons e' es ih =>
      obtain ⟨u, v, rfl, ⟨x, y, rfl, hx, hy⟩, hv⟩ := ih h
      exact ⟨x, y ++ v, by simp, hx, y, v, rfl, hy, hv⟩

theorem readsItems_of_ofItems {es : List Expr} (h : (ofItems es).Reads t) : ReadsItems es t := by
  cases es with
  | nil => exact h
  | cons e es => exact readsItems_of_foldl h

theorem readsItems_of_empty_cons {es : List Expr} (h : ReadsItems (.empty :: es) t) :
    ReadsItems es t := by
  obtain ⟨_, v, rfl, rfl, hv⟩ := h
  exact hv

theorem readsItems_append {es es' : List Expr} (h : ReadsItems (es ++ es') t) :
    ∃ u v, t = u ++ v ∧ ReadsItems es u ∧ ReadsItems es' v := by
  induction es generalizing t with
  | nil => exact ⟨[], t, rfl, rfl, h⟩
  | cons e es ih =>
      obtain ⟨x, y, rfl, hx, hy⟩ := h
      obtain ⟨u, v, rfl, hu, hv⟩ := ih hy
      exact ⟨x ++ u, v, by simp, ⟨x, u, rfl, hx, hu⟩, hv⟩

def literal (s : Text) : List Expr := s.map fun c => .chars (.single c)

theorem contains_single {x y : Char} : (CharSet.single x).contains y = true ↔ y = x := by
  have hrange : (CharSet.single x).contains y = true ↔ y.toNat = x.toNat := by
    simp only [CharSet.contains, CharSet.holds, CharSet.single, CharSet.inRanges]
    split
    · simp only [Bool.false_eq_true, false_iff]
      omega
    · split
      · simp only [true_iff]
        omega
      · simp only [Bool.false_eq_true, false_iff]
        omega
  rw [hrange]
  exact ⟨fun h => Char.toNat_inj.mp h, fun h => h ▸ rfl⟩

theorem readsItems_literal {s : Text} : ReadsItems (literal s) t ↔ t = s := by
  induction s generalizing t with
  | nil => exact Iff.rfl
  | cons x s ih =>
      constructor
      · rintro ⟨u, v, rfl, ⟨y, hy, rfl⟩, hv⟩
        rw [contains_single.mp hy, ih.mp hv]
        rfl
      · rintro rfl
        exact ⟨[x], s, rfl, ⟨x, contains_single.mpr rfl, rfl⟩, ih.mpr rfl⟩

/-- Whether no part of an expression reads a character. -/
def avoids (x : Char) : Expr → Bool
  | .empty => true
  | .chars s => !s.contains x
  | .look _ => true
  | .group _ body => body.avoids x
  | .seq first second => first.avoids x && second.avoids x
  | .alt first second => first.avoids x && second.avoids x
  | .iterate _ _ _ body => body.avoids x

theorem notMem_of_copies {x : Char} (hR : ∀ t, R t → x ∉ t) (h : Copies R n t) : x ∉ t := by
  induction n generalizing t with
  | zero =>
      obtain rfl := h
      simp
  | succ n ih =>
      obtain ⟨u, v, rfl, hu, hv⟩ := h
      rw [List.mem_append, not_or]
      exact ⟨hR u hu, ih hv⟩

theorem notMem_of_avoids {x : Char} {e : Expr} (he : e.avoids x = true) (h : e.Reads t) :
    x ∉ t := by
  induction e generalizing t with
  | empty =>
      obtain rfl := h
      simp
  | chars s =>
      obtain ⟨y, hy, rfl⟩ := h
      simp only [avoids, Bool.not_eq_true'] at he
      rw [List.mem_singleton]
      rintro rfl
      rw [hy] at he
      cases he
  | look l =>
      obtain rfl := h
      simp
  | group index body ih => exact ih he h
  | seq first second ih ih' =>
      obtain ⟨u, v, rfl, hu, hv⟩ := h
      rw [avoids, Bool.and_eq_true] at he
      rw [List.mem_append, not_or]
      exact ⟨ih he.1 hu, ih' he.2 hv⟩
  | alt first second ih ih' =>
      rw [avoids, Bool.and_eq_true] at he
      rcases h with h | h
      · exact ih he.1 h
      · exact ih' he.2 h
  | iterate least most greedy body ih =>
      obtain ⟨n, -, -, hcopies⟩ := h
      exact notMem_of_copies (fun t ht => ih he ht) hcopies

theorem notMem_of_readsItems {x : Char} {es : List Expr} (hes : ∀ e ∈ es, e.avoids x = true)
    (h : ReadsItems es t) : x ∉ t := by
  induction es generalizing t with
  | nil =>
      obtain rfl := h
      simp
  | cons e es ih =>
      obtain ⟨u, v, rfl, hu, hv⟩ := h
      rw [List.mem_append, not_or]
      exact ⟨notMem_of_avoids (hes e List.mem_cons_self) hu,
        ih (fun e' he' => hes e' (List.mem_cons_of_mem _ he')) hv⟩

end Expr

end AnchorPatch.Regex
