import AnchorPatch.Path

namespace AnchorPatch.Path

@[simp] theorem pieces_nil : pieces [] = [[]] := rfl

@[simp] theorem pieces_slash (p : Path) : pieces ('/' :: p) = [] :: pieces p := rfl

theorem pieces_ne_nil (p : Path) : p.pieces ≠ [] := by
  cases p with
  | nil => simp
  | cons c p =>
      by_cases hc : c = '/'
      · subst hc
        simp
      · rw [pieces.eq_3 c p hc]
        split <;> simp

theorem pieces_cons_of_ne {c : Char} {p : Path} {s : Text} {ps : List Text} (hc : c ≠ '/')
    (h : p.pieces = s :: ps) : pieces (c :: p) = (c :: s) :: ps := by
  rw [pieces.eq_3 c p hc, h]

theorem pieces_append_slash (p q : Path) : pieces (p ++ '/' :: q) = p.pieces ++ q.pieces := by
  induction p with
  | nil => rfl
  | cons c p ih =>
      by_cases hc : c = '/'
      · subst hc
        simpa using ih
      · obtain ⟨s, ps, hp⟩ := List.exists_cons_of_ne_nil (pieces_ne_nil p)
        rw [pieces_cons_of_ne hc hp, List.cons_append,
          @pieces_cons_of_ne c _ s (ps ++ q.pieces) hc (by rw [ih, hp]; rfl)]
        rfl

theorem slash_notMem_of_mem_pieces {p : Path} {s : Text} (h : s ∈ p.pieces) : '/' ∉ s := by
  induction p generalizing s with
  | nil => simp_all
  | cons c p ih =>
      by_cases hc : c = '/'
      · subst hc
        rcases List.mem_cons.mp h with rfl | h
        · simp
        · exact ih h
      · obtain ⟨t, ps, hp⟩ := List.exists_cons_of_ne_nil (pieces_ne_nil p)
        rw [pieces_cons_of_ne hc hp] at h
        rw [hp] at ih
        rcases List.mem_cons.mp h with rfl | h
        · have ht : '/' ∉ t := ih (List.mem_cons_self ..)
          simpa [ht] using fun h => hc h.symm
        · exact ih (List.mem_cons_of_mem _ h)

theorem pieces_eq_singleton {s : Text} (h : '/' ∉ s) : pieces s = [s] := by
  induction s with
  | nil => rfl
  | cons c s ih =>
      have hc : c ≠ '/' := fun he => h (by simp [he])
      exact pieces_cons_of_ne hc (ih fun hs => h (List.mem_cons_of_mem _ hs))

theorem pieces_intercalate {ps : List Text} (hne : ps ≠ []) (h : ∀ s ∈ ps, '/' ∉ s) :
    pieces (['/'].intercalate ps) = ps := by
  induction ps with
  | nil => exact absurd rfl hne
  | cons s ps ih =>
      cases ps with
      | nil => simpa using pieces_eq_singleton (h s (by simp))
      | cons t ps =>
          have hs : pieces s = [s] := pieces_eq_singleton (h s (by simp))
          have hps := ih (by simp) fun r hr => h r (List.mem_cons_of_mem _ hr)
          rw [List.intercalate_cons_cons, List.append_assoc, List.singleton_append,
            pieces_append_slash, hs, hps]
          rfl

theorem ends_of_pieces {p : Path} {s : Text} {ps : List Text} (h : p.pieces = (s :: ps).reverse)
    (hs : s ≠ []) : p ≠ [] ∧ p.getLast? ≠ some '/' := by
  have hlast : p.pieces.getLast? = some s := by simp [h]
  refine ⟨?_, ?_⟩
  · rintro rfl
    exact hs (by simpa using hlast.symm)
  · intro hslash
    obtain ⟨q, rfl⟩ := List.getLast?_eq_some_iff.mp hslash
    rw [pieces_append_slash] at hlast
    exact hs (by simpa using hlast.symm)

theorem isAbsolute_iff (p : Path) :
    p.isAbsolute = true ↔ p ≠ [] ∧ p.pieces.head? = some [] := by
  cases p with
  | nil => simp [isAbsolute]
  | cons c p =>
      by_cases hc : c = '/'
      · subst hc
        simp [isAbsolute]
      · obtain ⟨s, ps, hp⟩ := List.exists_cons_of_ne_nil (pieces_ne_nil p)
        simp [isAbsolute, hc, pieces_cons_of_ne hc hp]

/-- A piece that means nothing. -/
def IsIdle (s : Text) : Prop := s = [] ∨ s = ['.']

theorem dropIdle_suffix (ps : List Text) : dropIdle ps <:+ ps := by
  fun_induction dropIdle ps with
  | case1 => exact List.suffix_refl _
  | case2 => exact List.nil_suffix
  | case3 => exact List.suffix_refl _
  | case4 s rest hne hs ih => exact ih.trans (List.suffix_cons s rest)
  | case5 s rest hne hs => exact List.suffix_refl _

theorem head_ne_nil_of_dropIdle {ps : List Text} {s : Text} {rest : List Text}
    (h : dropIdle ps = s :: rest) : s ≠ [] := by
  fun_induction dropIdle ps with
  | case1 => cases h
  | case2 => cases h
  | case3 first hfirst =>
      cases h
      exact hfirst
  | case4 t ts hne ht ih => exact ih h
  | case5 t ts hne ht =>
      cases h
      exact fun hs => ht (by simp [hs])

theorem dropIdle_dropIdle (ps : List Text) : dropIdle (dropIdle ps) = dropIdle ps := by
  fun_induction dropIdle ps with
  | case1 => rfl
  | case2 => rfl
  | case3 first hfirst => simp [dropIdle, hfirst]
  | case4 s rest hne hs ih => exact ih
  | case5 s rest hne hs => rw [dropIdle.eq_3 s rest hne, if_neg hs]

/-- A piece that names something in a directory. -/
def IsName (s : Text) : Prop := s ≠ [] ∧ s ≠ ['.'] ∧ s ≠ ['.', '.']

instance (s : Text) : Decidable (IsName s) := inferInstanceAs (Decidable (_ ∧ _ ∧ _))

theorem IsName.not_isIdle {s : Text} (h : IsName s) : ¬ IsIdle s := by
  rintro (rfl | rfl)
  · exact h.1 rfl
  · exact h.2.1 rfl

theorem IsName.append {s : Text} (h : IsName s) (t : Text) : IsName (s ++ t) := by
  obtain ⟨h₁, h₂, h₃⟩ := h
  refine ⟨by simp [h₁], ?_, ?_⟩
  · intro he
    rcases List.append_eq_singleton_iff.mp he with ⟨rfl, -⟩ | ⟨rfl, -⟩
    · exact h₁ rfl
    · exact h₂ rfl
  · intro he
    rcases s with _ | ⟨a, _ | ⟨b, s⟩⟩ <;> simp_all

theorem isIdle_of_ofPiece? {s : Text} (h : Part.ofPiece? s = none) : IsIdle s := by
  unfold Part.ofPiece? at h
  split at h
  next hs => simpa [IsIdle] using hs
  · split at h <;> cases h

theorem isIdle_of_parts {p : Path} (h : p.parts = [.here]) :
    p.isAbsolute = false ∧ ∀ s ∈ p.pieces, IsIdle s := by
  have hnot (s : Text) : Part.ofPiece? s ≠ some .here := by
    unfold Part.ofPiece?
    split
    · simp
    · split <;> simp
  obtain ⟨first, rest, hpieces⟩ := List.exists_cons_of_ne_nil (pieces_ne_nil p)
  unfold parts at h
  rw [hpieces] at h ⊢
  have hrest {parts : List Part} (hparts : parts ++ rest.filterMap Part.ofPiece? = [.here])
      (hne : parts ≠ []) : parts = [.here] ∧ ∀ s ∈ rest, IsIdle s := by
    rcases List.append_eq_singleton_iff.mp hparts with ⟨hnil, -⟩ | ⟨hhere, hidle⟩
    · exact absurd hnil hne
    · refine ⟨hhere, fun s hs => isIdle_of_ofPiece? ?_⟩
      exact List.filterMap_eq_nil_iff.mp hidle s hs
  simp only at h
  split at h
  · obtain ⟨hroot, -⟩ := hrest h (by simp)
    cases hroot
  next habs =>
    refine ⟨by simpa using habs, ?_⟩
    split at h
    next hfirst =>
      obtain ⟨-, hidle⟩ := hrest h (by simp)
      intro s hs
      rcases List.mem_cons.mp hs with rfl | hs
      · exact .inr hfirst
      · exact hidle s hs
    · exfalso
      have hmem : Part.here ∈ (Part.ofPiece? first).toList ++ rest.filterMap Part.ofPiece? := by
        rw [h]
        exact List.mem_singleton_self _
      rcases List.mem_append.mp hmem with hmem | hmem
      · exact hnot first (by simpa using hmem)
      · obtain ⟨s, -, hs⟩ := List.mem_filterMap.mp hmem
        exact hnot s hs

theorem isAbsolute_of_slash_notMem {s : Text} (h : '/' ∉ s) : isAbsolute s = false := by
  rcases s with _ | ⟨c, s⟩
  · rfl
  · have hc : c ≠ '/' := fun hc => h (by simp [hc])
    simp [isAbsolute, hc]

theorem join_ne_nil {r : Path} (hr : r ≠ []) (t : Path) : r.join t ≠ [] := by
  unfold join
  split
  next habs =>
    rintro rfl
    cases habs
  · split
    · simp [hr]
    · simp

/-- A relative path behind another path adds its pieces, in place of the empty one behind a slash
at the end. -/
theorem pieces_join {r t : Path} (hr : r ≠ []) (ht : t.isAbsolute = false) :
    ∃ front, (r.join t).pieces = front ++ t.pieces ∧ (r.join t).isAbsolute = r.isAbsolute ∧
      (r.pieces = front ∨ r.pieces = front ++ [[]]) := by
  obtain ⟨c, rest, rfl⟩ := List.exists_cons_of_ne_nil hr
  rw [join, if_neg (by simp [ht])]
  by_cases hlast : (c :: rest).getLast? = some '/'
  · rw [if_pos (by simp [hlast])]
    obtain ⟨body, hbody⟩ := List.getLast?_eq_some_iff.mp hlast
    refine ⟨pieces body, ?_, rfl, .inr ?_⟩
    · rw [hbody, List.append_assoc, List.singleton_append, pieces_append_slash]
    · rw [hbody, pieces_append_slash]
      rfl
  · rw [if_neg (by simp [hlast])]
    exact ⟨pieces (c :: rest), pieces_append_slash _ _, rfl, .inl rfl⟩

/-- The last piece of a path is a name, and these are the pieces in front of it. -/
structure EndsIn (p : Path) (front : List Text) (name : Text) : Prop where
  pieces_eq : p.pieces = front ++ [name]
  isName : IsName name

namespace EndsIn

variable {p : Path} {front : List Text} {name : Text}

theorem unique {front' : List Text} {name' : Text} (h : p.EndsIn front name)
    (h' : p.EndsIn front' name') : front = front' ∧ name = name' := by
  have he := h.pieces_eq.symm.trans h'.pieces_eq
  exact ⟨(List.append_inj' he rfl).1, by simpa using (List.append_inj' he rfl).2⟩

theorem ne_nil (h : p.EndsIn front name) : p ≠ [] := by
  rintro rfl
  have hp := h.pieces_eq
  have hlast : [] = name := by simpa using congrArg List.getLast? hp
  exact h.isName.1 hlast.symm

theorem slash_notMem (h : p.EndsIn front name) : '/' ∉ name :=
  slash_notMem_of_mem_pieces (p := p) (by simp [h.pieces_eq])

theorem isAbsolute_append (h : p.EndsIn front name) (s : Text) :
    isAbsolute (name ++ s) = false := by
  obtain ⟨c, rest, hname⟩ := List.exists_cons_of_ne_nil h.isName.1
  have hslash := h.slash_notMem
  rw [hname] at hslash ⊢
  have hc : c ≠ '/' := fun hc => hslash (by simp [hc])
  simp [isAbsolute, hc]

theorem slash_notMem_front (h : p.EndsIn front name) {s : Text} (hs : s ∈ front) : '/' ∉ s :=
  slash_notMem_of_mem_pieces (p := p) (by simp [h.pieces_eq, hs])

theorem backwards_eq (h : p.EndsIn front name) : p.backwards = name :: front.reverse := by
  have hidle : ¬ (name = [] || name = ['.']) = true := by
    simpa [IsIdle] using h.isName.not_isIdle
  unfold backwards
  rw [h.pieces_eq, List.reverse_append, List.reverse_singleton, List.singleton_append]
  cases hf : front.reverse with
  | nil => simp [dropIdle, h.isName.1]
  | cons s rest => rw [dropIdle.eq_3 _ _ (by simp), if_neg hidle]

theorem fileName?_eq (h : p.EndsIn front name) : p.fileName? = some name := by
  have hname : ¬ (name = ['.'] ∨ name = ['.', '.']) := by
    rintro (hn | hn)
    · exact h.isName.2.1 hn
    · exact h.isName.2.2 hn
  simpa [fileName?, h.backwards_eq] using hname

theorem parent?_eq (h : p.EndsIn front name) :
    p.parent? = some (ofBackwards p.isAbsolute (dropIdle front.reverse)) := by
  simp [parent?, h.backwards_eq]

theorem parent?_congr {q : Path} {front' : List Text} {name' : Text} (h : p.EndsIn front name)
    (h' : q.EndsIn front' name') (habs : q.isAbsolute = p.isAbsolute)
    (hfront : dropIdle front'.reverse = dropIdle front.reverse) : q.parent? = p.parent? := by
  rw [h'.parent?_eq, h.parent?_eq, habs, hfront]

theorem head?_of_dropIdle (h : p.EndsIn front name) {ps : List Text}
    (hps : dropIdle front.reverse = ps) (hne : ps ≠ []) : ps.reverse.head? = p.pieces.head? := by
  obtain ⟨qs, hqs⟩ := hps ▸ dropIdle_suffix front.reverse
  have hfront : front = ps.reverse ++ qs.reverse := by
    rw [← List.reverse_append, hqs, List.reverse_reverse]
  obtain ⟨t, ts, hts⟩ := List.exists_cons_of_ne_nil (List.reverse_ne_nil_iff.mpr hne)
  simp [h.pieces_eq, hfront, hts]

theorem pieces_ofBackwards (h : p.EndsIn front name) {s : Text} {ps : List Text}
    (hps : dropIdle front.reverse = s :: ps) :
    (ofBackwards p.isAbsolute (s :: ps)).pieces = (s :: ps).reverse ∧
      (ofBackwards p.isAbsolute (s :: ps)).isAbsolute = p.isAbsolute := by
  have hbody : pieces (['/'].intercalate (s :: ps).reverse) = (s :: ps).reverse := by
    refine pieces_intercalate (by simp) fun t ht => h.slash_notMem_front ?_
    have hmem : t ∈ dropIdle front.reverse := hps ▸ List.mem_reverse.mp ht
    exact List.mem_reverse.mp ((dropIdle_suffix front.reverse).subset hmem)
  have hback : ofBackwards p.isAbsolute (s :: ps) =
      if p.isAbsolute && (['/'].intercalate (s :: ps).reverse).head? ≠ some '/' then
        '/' :: ['/'].intercalate (s :: ps).reverse
      else ['/'].intercalate (s :: ps).reverse := rfl
  have hhead := h.head?_of_dropIdle hps (by simp)
  rw [hback]
  generalize ['/'].intercalate (s :: ps).reverse = body at hbody ⊢
  have hne : body ≠ [] := (ends_of_pieces hbody (head_ne_nil_of_dropIdle hps)).1
  have habs : isAbsolute body = p.isAbsolute := by
    rw [Bool.eq_iff_iff, isAbsolute_iff, isAbsolute_iff, hbody, hhead]
    exact and_congr_left fun _ => ⟨fun _ => h.ne_nil, fun _ => hne⟩
  rw [if_neg, habs]
  · exact ⟨hbody, rfl⟩
  · rw [← habs]
    simp [isAbsolute]

theorem pieces_withFileName (h : p.EndsIn front name) {other : Text}
    (hrel : isAbsolute other = false) :
    ∃ front', (p.withFileName other).pieces = front' ++ pieces other ∧
      (p.withFileName other).isAbsolute = p.isAbsolute ∧
      dropIdle front'.reverse = dropIdle front.reverse := by
  have hpath : p.withFileName other =
      (ofBackwards p.isAbsolute (dropIdle front.reverse)).join other := by
    simp [Path.withFileName, h.fileName?_eq, h.parent?_eq]
  rw [hpath, join, if_neg (by simp [hrel])]
  cases hps : dropIdle front.reverse with
  | nil =>
      cases habs : p.isAbsolute with
      | false => exact ⟨[], by simp [ofBackwards], by simpa [ofBackwards] using hrel, rfl⟩
      | true => exact ⟨[[]], by simp [ofBackwards], by simp [ofBackwards, isAbsolute], rfl⟩
  | cons s ps =>
      obtain ⟨hpieces, habs⟩ := h.pieces_ofBackwards hps
      generalize ofBackwards p.isAbsolute (s :: ps) = body at hpieces habs ⊢
      obtain ⟨hbody, hlast⟩ := ends_of_pieces hpieces (head_ne_nil_of_dropIdle hps)
      rw [if_neg (by simp [hbody, hlast])]
      refine ⟨(s :: ps).reverse, ?_, ?_, ?_⟩
      · rw [pieces_append_slash, hpieces]
      · rw [← habs]
        obtain ⟨c, rest, rfl⟩ := List.exists_cons_of_ne_nil hbody
        rfl
      · rw [List.reverse_reverse, ← hps, dropIdle_dropIdle]

theorem withFileName (h : p.EndsIn front name) {other : Text} (hother : IsName other)
    (hslash : '/' ∉ other) :
    ∃ front', (p.withFileName other).EndsIn front' other ∧
      (p.withFileName other).isAbsolute = p.isAbsolute ∧
      dropIdle front'.reverse = dropIdle front.reverse := by
  obtain ⟨front', hpieces, habs, hfront⟩ :=
    h.pieces_withFileName (isAbsolute_of_slash_notMem hslash)
  rw [pieces_eq_singleton hslash] at hpieces
  exact ⟨front', ⟨hpieces, hother⟩, habs, hfront⟩

end EndsIn

end AnchorPatch.Path
