import AnchorPatch.Guard
import AnchorPatch.Proofs.Disk.Below
import AnchorPatch.Proofs.Except

namespace AnchorPatch.Guard

variable {g : Guard} {d : Disk} {p : Path} {l place folder : Location} {name : Text}

theorem check_eq_ok_iff :
    g.check l = .ok () ↔ g.root <+: l ∧ ∀ s ∈ l.drop g.root.length, s ∉ g.forbidden := by
  unfold check
  split
  next hroot =>
    rw [and_iff_right (List.isPrefixOf_iff_prefix.mp hroot)]
    split
    next s hs =>
      simp only [reduceCtorEq, false_iff, Classical.not_forall, Classical.not_not]
      exact ⟨s, List.mem_of_find?_eq_some hs, by simpa using List.find?_some hs⟩
    next hnone => simpa using hnone
  next hroot =>
    simp only [reduceCtorEq, false_iff, not_and]
    intro h
    exact absurd (List.isPrefixOf_iff_prefix.mpr h) hroot

theorem validate_eq_ok_iff :
    g.validate d p = .ok place ↔
      d.canonicalize (g.absolute p) = .ok place ∧ g.check place = .ok () := by
  simp only [validate, Except.bind_eq_ok_iff, Except.mapError_eq_ok_iff, Except.pure_eq_ok_iff]
  constructor
  · rintro ⟨l, hl, ⟨⟩, hcheck, rfl⟩
    exact ⟨hl, hcheck⟩
  · rintro ⟨hl, hcheck⟩
    exact ⟨place, hl, (), hcheck, rfl⟩

theorem validate_congr {q : Path} (h : d.canonicalize (g.absolute p) = .ok place)
    (h' : d.canonicalize (g.absolute q) = .ok place) : g.validate d p = g.validate d q := by
  simp only [validate, h, h']

/-- An entry inside the workspace that is neither forbidden nor below something forbidden. -/
def Holds (g : Guard) (l : Location) : Prop :=
  g.root <+: l ∧ l ≠ g.root ∧ ∀ s ∈ l.drop g.root.length, s ∉ g.forbidden

instance (g : Guard) (l : Location) : Decidable (g.Holds l) :=
  inferInstanceAs (Decidable (_ ∧ _ ∧ _))

theorem holds_iff_check : g.Holds l ↔ l ≠ g.root ∧ g.check l = .ok () := by
  rw [check_eq_ok_iff, Holds]
  exact and_left_comm

theorem holds_append_singleton_iff :
    g.Holds (folder ++ [name]) ↔
      g.root <+: folder ∧ (∀ s ∈ folder.drop g.root.length, s ∉ g.forbidden) ∧
        name ∉ g.forbidden := by
  have hprefix : g.root <+: folder ++ [name] ∧ folder ++ [name] ≠ g.root ↔ g.root <+: folder := by
    rw [List.prefix_concat_iff]
    constructor
    · rintro ⟨h | h, hne⟩
      · exact absurd h.symm hne
      · exact h
    · intro h
      refine ⟨.inr h, fun he => ?_⟩
      have hle := h.length_le
      rw [← he, List.length_append, List.length_singleton] at hle
      omega
  rw [Holds, ← and_assoc, hprefix]
  refine and_congr_right fun h => ?_
  rw [List.drop_append_of_le_length h.length_le]
  simp [or_imp, forall_and]

/-- The entry at a path lies where the guard lets it. -/
def Admits (g : Guard) (d : Disk) (p : Path) : Prop :=
  ∃ folder name, d.EntryAt p folder name ∧ g.Holds (folder ++ [name])

theorem admits_iff (h : d.EntryAt p folder name) : g.Admits d p ↔ g.Holds (folder ++ [name]) := by
  constructor
  · rintro ⟨folder', name', h', hholds⟩
    obtain ⟨rfl, rfl⟩ := h.unique h'
    exact hholds
  · intro hholds
    exact ⟨folder, name, h, hholds⟩

theorem absolute_of_isAbsolute (h : p.isAbsolute = true) : g.absolute p = p := if_pos h

theorem canonicalize_absolute (hbase : p.isAbsolute = true ∨ d.IsTree ∧ g.root = d.current)
    (hp : p ≠ []) : d.canonicalize (g.absolute p) = .ok place ↔ d.canonicalize p = .ok place := by
  cases habs : p.isAbsolute with
  | true => rw [absolute_of_isAbsolute habs]
  | false =>
      rcases hbase with hbase | ⟨htree, hroot⟩
      · rw [habs] at hbase
        cases hbase
      · have hcurrent := htree.isDirectory_current
        have hjoin := htree.below_toPath_join hcurrent habs
        have hself := Disk.below_self hcurrent habs
        have hne := Path.join_ne_nil d.current.toPath_ne_nil p
        rw [absolute, if_neg (by simp [habs]), hroot, hjoin.canonicalize_eq_ok_iff hne,
          hself.canonicalize_eq_ok_iff hp]

theorem place_eq_entry (h : d.EntryAt p folder name) (hplace : d.canonicalize p = .ok place)
    (hlink : ∀ target, d.get? (folder ++ [name]) ≠ some (.link target)) :
    place = folder ++ [name] := by
  obtain ⟨front, hends⟩ := h.endsIn
  obtain ⟨k, hway⟩ := h.exists_way hplace
  cases hway with
  | idle _ hs => exact absurd hs hends.isName.not_isIdle
  | up => exact absurd rfl hends.isName.2.2
  | enter _ _ _ _ _ rest =>
      cases rest
      rfl
  | link _ _ _ he => exact absurd he (hlink _)

end AnchorPatch.Guard
