import AnchorPatch.Proofs.Guard

namespace AnchorPatch

variable {g : Guard} {d : Disk} {p : Path} {l place front below : Location} {name : Text}
  {result : Except GuardError Location}

namespace Guard

/-- What a guard answers for a path. -/
inductive Verdict (g : Guard) (d : Disk) (p : Path) : Except GuardError Location → Prop
  | unresolved {cause : DiskError} (h : d.canonicalize (g.absolute p) = .error cause) :
      Verdict g d p (.error (.unresolved cause))
  | outside {place : Location} (h : d.canonicalize (g.absolute p) = .ok place)
      (hplace : ¬ g.root <+: place) : Verdict g d p (.error (.outside place g.root))
  | forbidden {front back : Location} {name : Text}
      (h : d.canonicalize (g.absolute p) = .ok (g.root ++ (front ++ name :: back)))
      (hfront : ∀ s ∈ front, s ∉ g.forbidden) (hname : name ∈ g.forbidden) :
      Verdict g d p (.error (.forbidden (g.root ++ (front ++ name :: back)) name))
  | accepted {below : Location} (h : d.canonicalize (g.absolute p) = .ok (g.root ++ below))
      (hbelow : ∀ s ∈ below, s ∉ g.forbidden) : Verdict g d p (.ok (g.root ++ below))

theorem check_of_not_prefix (h : ¬ g.root <+: l) : g.check l = .error (.outside l g.root) := by
  rw [check, if_neg fun hroot => h (List.isPrefixOf_iff_prefix.mp hroot)]

theorem check_of_find? (h : below.find? g.forbidden.contains = some name) :
    g.check (g.root ++ below) = .error (.forbidden (g.root ++ below) name) := by
  have hroot : g.root.isPrefixOf (g.root ++ below) = true :=
    List.isPrefixOf_iff_prefix.mpr (List.prefix_append _ _)
  simp only [check, hroot, if_true, List.drop_left, h]

theorem check_of_forall (h : ∀ s ∈ below, s ∉ g.forbidden) : g.check (g.root ++ below) = .ok () := by
  rw [check_eq_ok_iff, List.drop_left]
  exact ⟨List.prefix_append _ _, h⟩

theorem validate_of_canonicalize (h : d.canonicalize (g.absolute p) = .ok place) :
    g.validate d p = (g.check place).map fun _ => place := by
  rw [validate, h]
  change (g.check place >>= fun _ => pure place) = _
  cases g.check place with
  | ok => rfl
  | error e => rfl

theorem validate_of_verdict (h : g.Verdict d p result) : g.validate d p = result := by
  cases h with
  | unresolved h =>
      rw [validate, h]
      rfl
  | outside h hplace =>
      rw [validate_of_canonicalize h, check_of_not_prefix hplace]
      rfl
  | @forbidden front back name h hfront hname =>
      have hfind : (front ++ name :: back).find? g.forbidden.contains = some name := by
        refine List.find?_eq_some_iff_append.mpr ⟨by simpa using hname, front, back, rfl, ?_⟩
        simpa using hfront
      rw [validate_of_canonicalize h, check_of_find? hfind]
      rfl
  | accepted h hbelow =>
      rw [validate_of_canonicalize h, check_of_forall hbelow]
      rfl

theorem exists_verdict (g : Guard) (d : Disk) (p : Path) : ∃ result, g.Verdict d p result := by
  cases h : d.canonicalize (g.absolute p) with
  | error cause => exact ⟨_, .unresolved h⟩
  | ok place =>
      by_cases hplace : g.root <+: place
      · obtain ⟨below, rfl⟩ := hplace
        cases hfind : below.find? g.forbidden.contains with
        | none => exact ⟨_, .accepted h (by simpa using hfind)⟩
        | some name =>
            obtain ⟨hname, front, back, rfl, hfront⟩ := List.find?_eq_some_iff_append.mp hfind
            exact ⟨_, .forbidden h (by simpa using hfront) (by simpa using hname)⟩
      · exact ⟨_, .outside h hplace⟩

theorem validate_eq_iff_verdict : g.validate d p = result ↔ g.Verdict d p result := by
  refine ⟨?_, validate_of_verdict⟩
  rintro rfl
  obtain ⟨result, h⟩ := exists_verdict g d p
  exact validate_of_verdict h ▸ h

theorem validate_toPath (htree : d.IsTree) (h : g.validate d p = .ok place) :
    g.validate d place.toPath = .ok place := by
  obtain ⟨hplace, hcheck⟩ := validate_eq_ok_iff.mp h
  have hself := htree.canonicalize_toPath (htree.isPlace_of_canonicalize hplace)
  rw [validate_eq_ok_iff, absolute_of_isAbsolute place.isAbsolute_toPath]
  exact ⟨hself, hcheck⟩

theorem not_prefix_longer {ext : Text} (hext : ext ≠ []) (front below : Location) :
    ¬ front ++ [name] <+: front ++ (name ++ ext) :: below := by
  intro h
  obtain ⟨hname, -⟩ := List.cons_prefix_cons.mp ((List.prefix_append_right_inj front).mp h)
  exact hext (List.append_right_eq_self.mp hname.symm)

theorem validate_longer {ext : Text} (hroot : g.root = front ++ [name]) (hext : ext ≠ [])
    (h : d.canonicalize (g.absolute p) = .ok (front ++ (name ++ ext) :: below)) :
    g.validate d p = .error (.outside (front ++ (name ++ ext) :: below) g.root) :=
  validate_of_verdict (.outside h (hroot ▸ not_prefix_longer hext front below))

theorem toPath_prefix_longer (front : Location) (name ext : Text) :
    Location.toPath (front ++ [name]) <+: Location.toPath (front ++ [name ++ ext]) := by
  rw [Location.toPath_of_ne_nil (by simp), Location.toPath_of_ne_nil (by simp),
    List.flatMap_append, List.flatMap_append]
  refine (List.prefix_append_right_inj _).mpr ⟨ext, ?_⟩
  simp

/-- On a tree, resolving a path leads to a place that is no link, and resolving the path of this
place leads back to it. A guard answers for a path by this place alone: it must be inside the
workspace, and no name on the way from there may be forbidden; the first one that is, is reported.
So two paths that lead to one place get one answer, and the path of a place that is accepted is
accepted. What has the path of the workspace with a longer last name is outside, although its path
begins with the same characters. -/
theorem verdict_of_place (g : Guard) (htree : d.IsTree) :
    (∀ p place, d.canonicalize p = .ok place →
      d.IsPlace place ∧ d.canonicalize place.toPath = .ok place) ∧
    (∀ p result, g.validate d p = result ↔ g.Verdict d p result) ∧
    (∀ p q, d.canonicalize (g.absolute p) = d.canonicalize (g.absolute q) →
      g.validate d p = g.validate d q) ∧
    (∀ p place, g.validate d p = .ok place → g.validate d place.toPath = .ok place) ∧
    ∀ front name ext, g.root = front ++ [name] → ext ≠ [] →
      g.root.toPath <+: Location.toPath (front ++ [name ++ ext]) ∧
      (∀ p below, d.canonicalize (g.absolute p) = .ok (front ++ (name ++ ext) :: below) →
        g.validate d p = .error (.outside (front ++ (name ++ ext) :: below) g.root)) ∧
      (d.IsPlace (front ++ [name ++ ext]) →
        g.validate d (Location.toPath (front ++ [name ++ ext])) =
          .error (.outside (front ++ [name ++ ext]) g.root)) := by
  refine ⟨fun p place h => ?_, fun p result => validate_eq_iff_verdict, fun p q h => ?_,
    fun p place => validate_toPath htree, fun front name ext hroot hext => ⟨?_, ?_, ?_⟩⟩
  · have hplace := htree.isPlace_of_canonicalize h
    exact ⟨hplace, htree.canonicalize_toPath hplace⟩
  · rw [validate, validate, h]
  · rw [hroot]
    exact toPath_prefix_longer front name ext
  · intro p below h
    exact validate_longer hroot hext h
  · intro hplace
    refine validate_longer hroot hext ?_
    rw [absolute_of_isAbsolute (Location.isAbsolute_toPath _)]
    exact htree.canonicalize_toPath hplace

/-- A workspace `w` beside a directory `wx`, with a link to a place in each of them. -/
def besideDisk : Disk where
  entries :=
    [([['w']], .directory 0o755), ([['w'], ['a']], .directory 0o755),
      ([['w'], ['a'], ['t']], .file (.text ['A']) 0o644),
      ([['w'], ['i']], .link "a/../a/t".toList), ([['w'], ['o']], .link "/wx/t".toList),
      ([['w', 'x']], .directory 0o755), ([['w', 'x'], ['t']], .file (.text ['A']) 0o644)]
  current := []

def besideGuard : Guard where
  root := [['w']]
  forbidden := ["dist".toList]

theorem verdict_of_place_beside :
    besideDisk.IsTree ∧
      besideGuard.validate besideDisk ['i'] = .ok [['w'], ['a'], ['t']] ∧
      besideGuard.validate besideDisk (Location.toPath [['w'], ['a'], ['t']]) =
        .ok [['w'], ['a'], ['t']] ∧
      besideGuard.validate besideDisk ['o'] = .error (.outside [['w', 'x'], ['t']] [['w']]) := by
  have htree : besideDisk.IsTree := Disk.isTree_of_entries (by decide) (by decide)
  have hinside : besideDisk.canonicalize (besideGuard.absolute ['i']) =
      .ok [['w'], ['a'], ['t']] := rfl
  have houtside : besideDisk.canonicalize (besideGuard.absolute ['o']) =
      .ok [['w', 'x'], ['t']] := rfl
  obtain ⟨-, hverdict, -, hself, hlonger⟩ := verdict_of_place besideGuard htree
  have hlegal : besideGuard.Verdict besideDisk ['i'] (.ok (besideGuard.root ++ [['a'], ['t']])) :=
    .accepted hinside (by decide)
  have haccepted : besideGuard.validate besideDisk ['i'] = .ok [['w'], ['a'], ['t']] :=
    (hverdict _ _).mpr hlegal
  have hrejected := (hlonger [] ['w'] ['x'] rfl (by simp)).2.1 ['o'] [['t']] houtside
  exact ⟨htree, haccepted, hself _ _ haccepted, hrejected⟩

end Guard

end AnchorPatch
