import AnchorPatch.Text.Basic

namespace AnchorPatch.Text

variable {g a b t x y z : Text} {c d : Char}

/-- The piece `g` cannot stand across the seam between `a` and `b`. -/
def Apart (g a b : Text) : Prop :=
  ∀ p s, g = p ++ s → p <:+ a → s <+: b → p = [] ∨ s = []

/-- The piece `g` cannot stand across the end of `a`, whatever stands around `a`. -/
def EndsApart (g a : Text) : Prop := ∀ x y, Apart g (x ++ a) y

/-- The piece `g` cannot stand across the beginning of `a`, whatever stands around `a`. -/
def BeginsApart (g a : Text) : Prop := ∀ x y, Apart g x (a ++ y)

theorem Apart.infix_append_iff (h : Apart g a b) : g <:+: a ++ b ↔ g <:+: a ∨ g <:+: b := by
  rw [List.infix_append_iff]
  constructor
  · rintro (ha | hb | ⟨p, s, hg, hp, hs⟩)
    · exact .inl ha
    · exact .inr hb
    · rcases h p s hg hp hs with rfl | rfl
      · rw [hg, List.nil_append]
        exact .inr hs.isInfix
      · rw [hg, List.append_nil]
        exact .inl hp.isInfix
  · rintro (ha | hb)
    · exact .inl ha
    · exact .inr (.inl hb)

theorem infix_insert_iff (ha : EndsApart g a) (ht : EndsApart g t) (hnot : ¬ g <:+: t)
    (x y : Text) : g <:+: x ++ a ++ (t ++ y) ↔ g <:+: x ++ a ++ y := by
  have hty : Apart g t y := ht [] y
  rw [(ha x (t ++ y)).infix_append_iff, (ha x y).infix_append_iff, hty.infix_append_iff]
  simp [hnot]

theorem infix_between_iff (hbegin : BeginsApart g t) (hend : EndsApart g t) (x y : Text) :
    g <:+: x ++ t ++ y ↔ g <:+: x ∨ g <:+: t ∨ g <:+: y := by
  have hty : Apart g t y := hend [] y
  rw [List.append_assoc, (hbegin x y).infix_append_iff, hty.infix_append_iff]

theorem mem_dropLast_of_append {p s : Text} (hs : s ≠ []) (hc : c ∈ p) : c ∈ (p ++ s).dropLast := by
  rw [List.dropLast_append_of_ne_nil hs]
  exact List.mem_append_left _ hc

/-- A piece that has `c` at most as its last character, and that begins with no character of `z`,
does not reach across the end of a text that ends in `c` and `z`. -/
theorem endsApart_of_suffix (hc : c ∉ g.dropLast) (hz : ∀ d ∈ z, g.head? ≠ some d)
    (ha : c :: z <:+ a) : EndsApart g a := by
  rintro x y p s rfl hp -
  rcases p with _ | ⟨d, p⟩
  · exact .inl rfl
  · right
    apply Classical.byContradiction
    intro hs
    rcases List.suffix_or_suffix_of_suffix hp (List.suffix_append_of_suffix ha) with hshort | hlong
    · rcases List.suffix_cons_iff.mp hshort with heq | hshort
      · obtain ⟨rfl, -⟩ := List.cons.inj heq
        exact hc (mem_dropLast_of_append hs List.mem_cons_self)
      · exact hz d (hshort.subset List.mem_cons_self) rfl
    · exact hc (mem_dropLast_of_append hs (hlong.subset List.mem_cons_self))

theorem endsApart_of_notMem (hc : c ∉ g) (ha : [c] <:+ a) : EndsApart g a :=
  endsApart_of_suffix (fun hmem => hc (g.dropLast_subset hmem)) (by simp) ha

/-- A piece in which `c` and `d` do not follow each other, except at its very beginning, and that
does not end in `c`, does not reach across the beginning of a text that begins with `c` and `d`. -/
theorem beginsApart_of_pair (hpair : ¬ [c, d] <:+: g.tail) (hlast : g.getLast? ≠ some c)
    (ha : [c, d] <+: a) : BeginsApart g a := by
  obtain ⟨a, rfl⟩ := ha
  rintro x y p s rfl - hs
  rcases p with _ | ⟨e, p⟩
  · exact .inl rfl
  · right
    rcases s with _ | ⟨e', _ | ⟨e'', s⟩⟩
    · rfl
    · obtain ⟨rfl, -⟩ := List.cons_prefix_cons.mp hs
      exact absurd List.getLast?_concat hlast
    · obtain ⟨rfl, hrest⟩ := List.cons_prefix_cons.mp hs
      obtain ⟨rfl, -⟩ := List.cons_prefix_cons.mp hrest
      exact absurd ⟨p, s, by simp⟩ hpair

theorem beginsApart_of_head? (hc : c ∉ g) (ha : a.head? = some c) : BeginsApart g a := by
  obtain ⟨a, rfl⟩ := List.head?_eq_some_iff.mp ha
  rintro x y p s rfl - hs
  rcases s with _ | ⟨d, s⟩
  · exact .inr rfl
  · obtain ⟨rfl, -⟩ := List.cons_prefix_cons.mp hs
    exact absurd (List.mem_append_right p List.mem_cons_self) hc

theorem exists_of_suffix {u v w : Text} (hc : c ∉ w) (hu : [c] <:+ u) (h : u ++ v = w ++ t) :
    ∃ u', u = w ++ u' ∧ [c] <:+ u' ∧ u' ++ v = t := by
  rcases List.append_eq_append_iff.mp h with ⟨a, rfl, -⟩ | ⟨a, rfl, rfl⟩
  · exact absurd (List.mem_append_left a (hu.subset List.mem_cons_self)) hc
  · rcases a with _ | ⟨d, a⟩
    · rw [List.append_nil] at hu
      exact absurd (hu.subset List.mem_cons_self) hc
    · exact ⟨d :: a, rfl,
        List.suffix_of_suffix_length_le hu (List.suffix_append w _) (by simp), rfl⟩

theorem exists_of_head? {u v w : Text} (hd : d ∉ w) (hv : v.head? = some d) (h : u ++ v = w ++ t) :
    ∃ u', u = w ++ u' ∧ u' ++ v = t := by
  rcases List.append_eq_append_iff.mp h with ⟨a, rfl, hrest⟩ | ⟨a, rfl, rfl⟩
  · rcases a with _ | ⟨e, a⟩
    · exact ⟨[], by simp, hrest⟩
    · rw [hrest] at hv
      obtain rfl := Option.some.inj hv
      exact absurd (List.mem_append_right u List.mem_cons_self) hd
  · exact ⟨a, rfl, rfl⟩

end AnchorPatch.Text
