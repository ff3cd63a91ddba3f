import AnchorPatch.Proofs.Path.Names
import Mathlib.Data.List.Basic

namespace AnchorPatch.Path

variable {p q other : Path} {s name : Text} {front rest ps : List Text}

/-- What stands in front of the parts that the pieces of a path mean wherever they are. -/
def origin (absolute : Bool) (first : Option Text) : List Part :=
  if absolute then [.root] else if first = some ['.'] then [.here] else []

theorem parts_eq (p : Path) :
    p.parts = origin p.isAbsolute p.pieces.head? ++ p.pieces.filterMap Part.ofPiece? := by
  obtain ⟨first, rest, hp⟩ := List.exists_cons_of_ne_nil p.pieces_ne_nil
  have habsolute := p.isAbsolute_iff
  unfold parts origin
  rw [hp] at habsolute ⊢
  simp only [List.head?_cons, Option.some.injEq] at habsolute ⊢
  by_cases habs : p.isAbsolute = true
  · obtain ⟨-, rfl⟩ := habsolute.mp habs
    simp [habs, Part.ofPiece?]
  · rw [if_neg habs, if_neg habs]
    by_cases hfirst : first = ['.']
    · simp [hfirst, Part.ofPiece?]
    · rw [if_neg hfirst, if_neg hfirst, List.nil_append]
      cases h : Part.ofPiece? first with
      | none => simp [h]
      | some part => simp [h]

theorem ofPiece?_of_isName (h : IsName s) : Part.ofPiece? s = some (.name s) := by
  obtain ⟨hnil, hhere, hup⟩ := h
  simp [Part.ofPiece?, hnil, hhere, hup]

theorem filterMap_dropIdle (ps : List Text) :
    (dropIdle ps).filterMap Part.ofPiece? = ps.filterMap Part.ofPiece? := by
  fun_induction dropIdle ps with
  | case1 => rfl
  | case2 => rfl
  | case3 => rfl
  | case4 s rest hne hs ih =>
      have hidle : Part.ofPiece? s = none := if_pos hs
      rw [ih, List.filterMap_cons_none hidle]
  | case5 => rfl

theorem getLast?_dropIdle (h : ps.getLast? ≠ some []) : (dropIdle ps).getLast? = ps.getLast? := by
  fun_induction dropIdle ps with
  | case1 => rfl
  | case2 => exact absurd rfl h
  | case3 => rfl
  | case4 s rest hne hs ih =>
      obtain ⟨t, ts, rfl⟩ := List.exists_cons_of_ne_nil fun hnil => hne hnil
      rw [List.getLast?_cons_cons] at h ⊢
      exact ih h
  | case5 => rfl

theorem parts_eq_of_backwards (h : p.backwards ≠ []) :
    p.parts =
      origin p.isAbsolute p.backwards.getLast? ++ p.backwards.reverse.filterMap Part.ofPiece? := by
  obtain ⟨qs, hqs⟩ := dropIdle_suffix p.pieces.reverse
  have hhead : p.backwards.getLast? = p.pieces.head? := by
    rw [← List.getLast?_reverse, ← hqs]
    exact (List.getLast?_append_of_ne_nil qs h).symm
  rw [parts_eq, hhead, List.filterMap_reverse, backwards, filterMap_dropIdle,
    List.filterMap_reverse, List.reverse_reverse]

theorem exists_backwards_of_fileName? (h : p.fileName? = some name) :
    IsName name ∧ ∃ rest, p.backwards = name :: rest := by
  unfold fileName? at h
  split at h
  · cases h
  next s rest hback =>
    split at h
    · cases h
    next hs =>
      obtain rfl := Option.some.inj h
      simp only [Bool.or_eq_true, decide_eq_true_eq, not_or] at hs
      exact ⟨⟨head_ne_nil_of_dropIdle hback, hs⟩, rest, hback⟩

theorem exists_endsIn (h : p.fileName? = some name) :
    ∃ (q : Path) (front : List Text), q.EndsIn front name ∧ q.isAbsolute = p.isAbsolute ∧
      q.backwards = p.backwards := by
  obtain ⟨hname, rest, hback⟩ := exists_backwards_of_fileName? h
  have hne : p.backwards ≠ [] := by simp [hback]
  obtain ⟨qs, hqs⟩ := dropIdle_suffix p.pieces.reverse
  rw [← backwards] at hqs
  have hslash : ∀ s ∈ p.backwards.reverse, '/' ∉ s := by
    intro s hs
    refine slash_notMem_of_mem_pieces (p := p) (List.mem_reverse.mp ?_)
    rw [← hqs]
    exact List.mem_append_right qs (List.mem_reverse.mp hs)
  let q : Path := ['/'].intercalate p.backwards.reverse
  have hpieces : q.pieces = p.backwards.reverse :=
    pieces_intercalate (List.reverse_ne_nil_iff.mpr hne) hslash
  have hends : q.EndsIn rest.reverse name := ⟨by rw [hpieces, hback, List.reverse_cons], hname⟩
  refine ⟨q, rest.reverse, hends, ?_, ?_⟩
  · have hhead : q.pieces.head? = p.pieces.head? := by
      rw [hpieces, List.head?_reverse, ← List.getLast?_reverse, ← hqs,
        List.getLast?_append_of_ne_nil qs hne]
    have hp : p ≠ [] := by
      rintro rfl
      cases h
    rw [Bool.eq_iff_iff, isAbsolute_iff, isAbsolute_iff, hhead]
    exact and_congr_left fun _ => ⟨fun _ => hp, fun _ => hends.ne_nil⟩
  · rw [hends.backwards_eq, hback, List.reverse_reverse]

section Backwards

variable (habs : q.isAbsolute = p.isAbsolute) (hback : q.backwards = p.backwards)

include hback in
theorem fileName?_congr : q.fileName? = p.fileName? := by
  rw [fileName?, fileName?, hback]

include habs hback

theorem parent?_congr : q.parent? = p.parent? := by
  rw [parent?, parent?, habs, hback]

theorem withFileName_congr (h : p.fileName? = some name) (other : Text) :
    q.withFileName other = p.withFileName other := by
  obtain ⟨-, rest, hrest⟩ := exists_backwards_of_fileName? h
  have hparent : p.parent? = some (ofBackwards p.isAbsolute (dropIdle rest)) := by
    rw [parent?, hrest]
  rw [withFileName, withFileName, fileName?_congr hback, parent?_congr habs hback, h, hparent]

theorem parts_congr (h : p.backwards ≠ []) : q.parts = p.parts := by
  rw [parts_eq_of_backwards h, parts_eq_of_backwards (hback ▸ h), habs, hback]

end Backwards

theorem origin_congr (hname : IsName name) (hfront : front.head? ≠ some []) :
    origin false (front ++ name :: rest).head? =
      origin false (dropIdle front.reverse).getLast? := by
  have hlast : (dropIdle front.reverse).getLast? = front.head? := by
    rw [getLast?_dropIdle, List.getLast?_reverse]
    rwa [List.getLast?_reverse]
  rw [hlast]
  cases front with
  | nil => simp [origin, hname.2.1]
  | cons s ss => rfl

theorem origin_eq (hpieces : p.pieces = front ++ name :: rest) (hname : IsName name) :
    origin p.isAbsolute p.pieces.head? =
      origin p.isAbsolute (dropIdle front.reverse).getLast? := by
  cases habs : p.isAbsolute with
  | true => rfl
  | false =>
      rw [hpieces]
      refine origin_congr hname fun hhead => ?_
      -- A path whose first piece is empty is absolute.
      obtain ⟨ps, rfl⟩ := List.head?_eq_some_iff.mp hhead
      have hp : p ≠ [] := by
        rintro rfl
        simp at hpieces
      have habsolute := p.isAbsolute_iff.mpr ⟨hp, by rw [hpieces]; rfl⟩
      rw [habs] at habsolute
      cases habsolute

theorem EndsIn.parts_withFileName (h : p.EndsIn front name) (hother : other.pieces = s :: rest)
    (hs : IsName s) :
    p.parts = p.parts.dropLast ++ [.name name] ∧
      (p.withFileName other).parts =
        p.parts.dropLast ++ (pieces other).filterMap Part.ofPiece? := by
  have hrel : isAbsolute other = false := by
    rw [← Bool.not_eq_true, isAbsolute_iff, hother]
    rintro ⟨-, hhead⟩
    exact hs.1 (Option.some.inj hhead)
  obtain ⟨front', hpieces, habs, hfront⟩ := h.pieces_withFileName hrel
  have hmeans : front'.filterMap Part.ofPiece? = front.filterMap Part.ofPiece? := by
    have hreverse := congrArg (List.filterMap Part.ofPiece?) hfront
    rw [filterMap_dropIdle, filterMap_dropIdle, List.filterMap_reverse,
      List.filterMap_reverse] at hreverse
    exact List.reverse_injective hreverse
  have hparts : p.parts = origin p.isAbsolute (dropIdle front.reverse).getLast? ++
      front.filterMap Part.ofPiece? ++ [.name name] := by
    rw [parts_eq, origin_eq h.pieces_eq h.isName, h.pieces_eq, List.filterMap_append,
      List.filterMap_cons_some (ofPiece?_of_isName h.isName), List.filterMap_nil,
      List.append_assoc]
  have hlast : p.parts.dropLast = origin p.isAbsolute (dropIdle front.reverse).getLast? ++
      front.filterMap Part.ofPiece? := by
    rw [hparts, List.dropLast_concat]
  refine ⟨by rw [hlast, hparts], ?_⟩
  rw [hother] at hpieces
  rw [hlast, parts_eq, origin_eq hpieces hs, habs, hfront, hpieces, List.filterMap_append, hmeans,
    ← hother, List.append_assoc]

/-- With another last name a path has its parts up to the last one, and behind them what the new
name means. -/
theorem parts_withFileName (h : p.fileName? = some name) (hother : other.pieces = s :: rest)
    (hs : IsName s) :
    p.parts = p.parts.dropLast ++ [.name name] ∧
      (p.withFileName other).parts =
        p.parts.dropLast ++ (pieces other).filterMap Part.ofPiece? := by
  obtain ⟨q, front, hends, habs, hback⟩ := exists_endsIn h
  obtain ⟨-, rest', hrest⟩ := exists_backwards_of_fileName? h
  have hne : p.backwards ≠ [] := by simp [hrest]
  rw [← parts_congr habs hback hne, ← withFileName_congr habs hback h]
  exact hends.parts_withFileName hother hs

theorem parent?_withFileName (h : p.fileName? = some name) (hother : IsName other)
    (hslash : '/' ∉ other) :
    (p.withFileName other).parent? = p.parent? ∧
      (p.withFileName other).fileName? = some other := by
  obtain ⟨q, front, hends, habs, hback⟩ := exists_endsIn h
  obtain ⟨front', hends', habs', hfront⟩ := hends.withFileName hother hslash
  rw [← withFileName_congr habs hback h, ← parent?_congr habs hback]
  exact ⟨hends.parent?_congr hends' habs' hfront, hends'.fileName?_eq⟩

theorem slash_notMem_of_fileName? (h : p.fileName? = some name) : '/' ∉ name := by
  obtain ⟨q, front, hends, -⟩ := exists_endsIn h
  exact hends.slash_notMem

theorem pieces_append_of_notMem (hs : '/' ∉ s) {t : Text} (h : p.pieces = t :: rest) :
    pieces (s ++ p) = (s ++ t) :: rest := by
  induction s with
  | nil => exact h
  | cons c s ih =>
      have hc : c ≠ '/' := fun he => hs (by simp [he])
      exact pieces_cons_of_ne hc (ih fun hmem => hs (List.mem_cons_of_mem _ hmem))

end AnchorPatch.Path
