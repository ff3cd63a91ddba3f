import AnchorPatch.Proofs.Except
import AnchorPatch.Proofs.Regex.Find

namespace AnchorPatch

/-- A text without its blanks. -/
def Text.visible (s : Text) : Text := s.filter fun c => !isBlank c

theorem Text.visible_append (s t : Text) : visible (s ++ t) = visible s ++ visible t :=
  List.filter_append ..

theorem Text.visible_eq_nil_iff {s : Text} : visible s = [] ↔ ∀ c ∈ s, isBlank c = true := by
  simp [visible]

namespace Regex

open Text (visible visible_append visible_eq_nil_iff isBlank)

variable {f g : Flags} {e : Expr} {es : List Expr} {n : Nat} {s t u v : Text}

/-- Whether a list of flags makes the blanks of a pattern disappear. -/
def hidesBlanks (signs : List FlagSign) : Bool :=
  flagSetting .ignoreBlanks true signs = some true

/-- A blank, or an iteration of blanks. -/
def Ast.isBlankRun : Ast → Bool
  | .letter .space negated => !negated
  | .iteration _ _ _ body => body.isBlankRun
  | _ => false

mutual

/-- The plain text at the front of a pattern, without blanks, and the flags in force behind it if it
is the whole pattern. -/
def Ast.lead (f : Flags) : Ast → Text × Option Flags
  | .empty => ([], some f)
  | .flags signs => if hidesBlanks signs then ([], none) else ([], some (f.update signs))
  | .literal c _ =>
      if f.literalSet c = .single c then (visible [c], some f) else ([], none)
  | .letter class_ negated =>
      if Ast.isBlankRun (.letter class_ negated) then ([], some f) else ([], none)
  | .assertion .lineStart => ([], some f)
  | .iteration least _ _ body =>
      if body.isBlankRun then ([], some f)
      else if least = 0 then ([], none)
      else ((body.lead f).1, none)
  | .group (.capture _ none) body => ((body.lead f).1, (body.lead f).2.map fun _ => f)
  | .group (.plain signs) body =>
      if hidesBlanks signs then ([], none)
      else ((body.lead (f.update signs)).1, (body.lead (f.update signs)).2.map fun _ => f)
  | .sequence items => Ast.leads f items
  | _ => ([], none)

def Ast.leads (f : Flags) : List Ast → Text × Option Flags
  | [] => ([], some f)
  | item :: items =>
      match item.lead f with
      | (t, none) => (t, none)
      | (t, some g) => (t ++ (Ast.leads g items).1, (Ast.leads g items).2)

end

/-- The plain text at the front of a pattern, without blanks. -/
def lead (pattern : Text) : Text :=
  match Ast.parse pattern with
  | .ok ast => (ast.lead {}).1
  | .error _ => []

theorem any_of_inRanges {c : Nat} {ranges : List (Nat × Nat)}
    (h : CharSet.inRanges c ranges = true) :
    ranges.any (fun (lo, hi) => lo ≤ c && c ≤ hi) = true := by
  induction ranges with
  | nil => cases h
  | cons r ranges ih =>
      obtain ⟨lo, hi⟩ := r
      rw [CharSet.inRanges] at h
      rw [List.any_cons, Bool.or_eq_true]
      split at h
      · cases h
      next hlo =>
        split at h
        next hhi => exact .inl (by simp; omega)
        · exact .inr (ih h)

theorem isBlank_of_letterSet {s : CharSet} {c : Char} (h : f.letterSet .space false = .ok s)
    (hc : s.contains c = true) : isBlank c = true := by
  have hs : LetterClass.space.toSet f.unicode = s := by
    simp only [Flags.letterSet, Flags.check, Bool.false_eq_true, ↓reduceIte] at h
    split at h
    · exact Except.ok.inj h
    · cases h
  subst hs
  have hany := any_of_inRanges hc
  cases hunicode : f.unicode with
  | true =>
      rw [hunicode] at hany
      exact hany
  | false =>
      rw [hunicode] at hany
      simp only [LetterClass.toSet, NamedClass.toSet] at hany
      simp only [isBlank, Text.blankRanges]
      simp at hany ⊢
      omega

theorem Expr.exists_copies_of_iterated {least : Nat} {most : Option Nat} {greedy : Bool}
    (h : (Expr.iterated least most greedy e).Reads t) :
    ∃ n, min least 1 ≤ n ∧ Copies e.Reads n t := by
  rw [iterated] at h
  split at h
  · obtain ⟨n, hleast, -, hn⟩ := h
    exact ⟨n, by omega, hn⟩
  split at h
  next hany =>
    obtain ⟨rfl, -⟩ := hany
    obtain ⟨n, -, hmost, hn⟩ := h
    have hle := hmost 1 rfl
    cases n with
    | zero => exact ⟨0, Nat.le_refl 0, hn⟩
    | succ n =>
        obtain rfl : n = 0 := by omega
        obtain ⟨u, _, rfl, ⟨n, -, -, hcopies⟩, rfl⟩ := hn
        exact ⟨n, Nat.zero_le n, by rwa [List.append_nil]⟩
  · obtain ⟨n, hleast, -, hn⟩ := h
    exact ⟨n, by omega, hn⟩

theorem visible_of_copies (he : ∀ t, e.Reads t → visible t = []) (h : Copies e.Reads n t) :
    visible t = [] := by
  induction n generalizing t with
  | zero =>
      obtain rfl := h
      rfl
  | succ n ih =>
      obtain ⟨u, v, rfl, hu, hv⟩ := h
      rw [visible_append, he u hu, ih hv]
      rfl

theorem Ast.visible_of_isBlankRun {ast : Ast} (hast : ast.isBlankRun = true)
    (h : ast.resolve f = .ok (e, g)) (ht : e.Reads t) : g = f ∧ visible t = [] := by
  induction ast using Ast.isBlankRun.induct generalizing e g t with
  | case1 negated =>
      obtain rfl : negated = false := by simpa [isBlankRun] using hast
      rw [resolve, Except.bind_eq_ok_iff] at h
      obtain ⟨s, hs, h⟩ := h
      cases h
      obtain ⟨c, hc, rfl⟩ := ht
      refine ⟨rfl, visible_eq_nil_iff.mpr fun d hd => ?_⟩
      rw [List.mem_singleton.mp hd]
      exact isBlank_of_letterSet hs hc
  | case2 least most greedy body ih =>
      rw [resolve, Except.bind_eq_ok_iff] at h
      obtain ⟨⟨e, g'⟩, hbody, h⟩ := h
      cases h
      obtain ⟨n, -, hn⟩ := Expr.exists_copies_of_iterated ht
      exact ⟨rfl, visible_of_copies (fun u hu => (ih hast hbody hu).2) hn⟩
  | case3 ast hspace hiteration =>
      rw [isBlankRun.eq_3 ast hspace hiteration] at hast
      cases hast

/-- A text begins with what leads a pattern, and is no more than that if nothing follows. -/
structure Heads (l : Text × Option Flags) (g : Flags) (t : Text) : Prop where
  isPrefix : l.1 <+: visible t
  whole : ∀ g', l.2 = some g' → g' = g ∧ visible t = l.1

theorem heads_nil (g : Flags) (t : Text) : Heads ([], none) g t := ⟨List.nil_prefix, nofun⟩

theorem heads_whole (g : Flags) (t : Text) : Heads (visible t, some g) g t :=
  ⟨List.prefix_rfl, fun _ h => ⟨(Option.some.inj h).symm, rfl⟩⟩

theorem Heads.withFlags {l : Text × Option Flags} (h : Heads l g t) (f : Flags) :
    Heads (l.1, l.2.map fun _ => f) f t := by
  refine ⟨h.isPrefix, fun g' hg' => ?_⟩
  obtain ⟨g'', hg'', rfl⟩ := Option.map_eq_some_iff.mp hg'
  exact ⟨rfl, (h.whole g'' hg'').2⟩

mutual

theorem Ast.heads_of_reads (ast : Ast) {f g : Flags} {e : Expr} {t : Text}
    (h : ast.resolve f = .ok (e, g)) (ht : e.Reads t) : Heads (ast.lead f) g t := by
  cases ast with
  | empty =>
      cases h
      obtain rfl := ht
      exact heads_whole f []
  | flags signs =>
      cases h
      obtain rfl := ht
      rw [lead]
      split
      · exact heads_nil _ _
      · exact heads_whole _ []
  | literal c byte =>
      rw [resolve] at h
      split at h
      · cases h
      · cases h
        obtain ⟨x, hx, rfl⟩ := ht
        rw [lead]
        split
        next hsingle =>
          rw [hsingle, Expr.contains_single] at hx
          subst hx
          exact heads_whole f [x]
        · exact heads_nil _ _
  | assertion a =>
      cases h
      obtain rfl := ht
      cases a
      case lineStart => exact heads_whole f []
      all_goals exact heads_nil _ _
  | letter l negated =>
      rw [lead]
      split
      next hrun =>
        obtain ⟨rfl, hblank⟩ := visible_of_isBlankRun hrun h ht
        exact hblank ▸ heads_whole g t
      · exact heads_nil _ _
  | iteration least most greedy body =>
      rw [lead]
      split
      next hrun =>
        have hast : (Ast.iteration least most greedy body).isBlankRun = true := hrun
        obtain ⟨rfl, hblank⟩ := visible_of_isBlankRun hast h ht
        exact hblank ▸ heads_whole g t
      · split
        · exact heads_nil _ _
        next hleast =>
          rw [resolve, Except.bind_eq_ok_iff] at h
          obtain ⟨⟨e, g'⟩, hbody, h⟩ := h
          cases h
          obtain ⟨n, hn, hcopies⟩ := Expr.exists_copies_of_iterated ht
          -- A first copy of the body stands at the front.
          obtain ⟨n, rfl⟩ := Nat.exists_eq_add_of_le' (show 1 ≤ n by omega)
          obtain ⟨u, v, rfl, hu, -⟩ := hcopies
          refine ⟨?_, nofun⟩
          rw [visible_append]
          exact (Ast.heads_of_reads body hbody hu).isPrefix.trans (List.prefix_append _ _)
  | group kind body =>
      cases kind with
      | capture index name =>
          cases name with
          | some name => exact heads_nil _ _
          | none =>
              rw [resolve, Except.bind_eq_ok_iff] at h
              obtain ⟨⟨e, g'⟩, hbody, h⟩ := h
              cases h
              exact (Ast.heads_of_reads body hbody ht).withFlags f
      | plain signs =>
          rw [lead]
          split
          · exact heads_nil _ _
          · rw [resolve, Except.bind_eq_ok_iff] at h
            obtain ⟨⟨e, g'⟩, hbody, h⟩ := h
            cases h
            exact (Ast.heads_of_reads body hbody ht).withFlags f
  | sequence items =>
      rw [resolve, Except.bind_eq_ok_iff] at h
      obtain ⟨⟨es, g'⟩, hitems, h⟩ := h
      cases h
      exact Ast.heads_of_readsItems items hitems (Expr.readsItems_of_ofItems ht)
  | dot | property | bracketed | alternation => exact heads_nil _ _

theorem Ast.heads_of_readsItems (items : List Ast) {f g : Flags} {es : List Expr} {t : Text}
    (h : Ast.resolveAll f items = .ok (es, g)) (ht : Expr.ReadsItems es t) :
    Heads (Ast.leads f items) g t := by
  cases items with
  | nil =>
      cases h
      obtain rfl := ht
      exact heads_whole f []
  | cons item items =>
      rw [resolveAll, Except.bind_eq_ok_iff] at h
      obtain ⟨⟨e, g'⟩, hitem, h⟩ := h
      obtain ⟨⟨es, g''⟩, hitems, h⟩ := Except.bind_eq_ok_iff.mp h
      cases h
      obtain ⟨u, v, rfl, hu, hv⟩ := ht
      have hfirst := Ast.heads_of_reads item hitem hu
      rw [leads]
      split
      next s hs =>
        rw [hs] at hfirst
        refine ⟨?_, nofun⟩
        rw [visible_append]
        exact hfirst.isPrefix.trans (List.prefix_append _ _)
      next s f' hs =>
        rw [hs] at hfirst
        obtain ⟨rfl, hwhole⟩ := hfirst.whole f' rfl
        have hrest := Ast.heads_of_readsItems items hitems hv
        dsimp only at hwhole
        refine ⟨?_, fun f'' hf'' => ?_⟩
        · rw [visible_append, hwhole]
          exact (List.prefix_append_right_inj _).mpr hrest.isPrefix
        · obtain ⟨rfl, hv⟩ := hrest.whole f'' hf''
          exact ⟨rfl, by rw [visible_append, hwhole, hv]⟩

end

theorem exists_of_compile {pattern : Text} {r : Regex} (h : Regex.compile pattern = .ok r) :
    r.source = pattern ∧
      ∃ ast g, Ast.parse pattern = .ok ast ∧ ast.resolve {} = .ok (r.expr, g) := by
  rw [compile, Except.bind_eq_ok_iff] at h
  obtain ⟨ast, hparse, h⟩ := h
  obtain ⟨⟨e, g⟩, hresolve, h⟩ := Except.bind_eq_ok_iff.mp h
  dsimp only at h
  split at h
  · cases h
  · cases h
    exact ⟨rfl, ast, g, hparse, hresolve⟩

/-- Every match begins with the plain text at the front of the pattern, apart from blanks. -/
theorem lead_prefix_of_mem_ends {pattern : Text} {r : Regex}
    (h : Regex.compile pattern = .ok r) {m : Match} (hm : m.last ∈ r.expr.ends m.first) :
    lead pattern <+: visible m.span.matched := by
  obtain ⟨-, ast, g, hparse, hresolve⟩ := exists_of_compile h
  obtain ⟨t, ht, hpass⟩ := Expr.leads_of_mem_ends hm
  rw [lead, hparse, (span_of_passes hpass).1]
  exact (ast.heads_of_reads hresolve ht).isPrefix

end Regex

end AnchorPatch
