import AnchorPatch.Proofs.Guard
import AnchorPatch.Proofs.Patcher.Commit

/-!
Spellings of a root.

The target of a configuration is read below the root as it is written, while the guard reads a
relative target below the place of the root. Main statements: the exact condition for the patchers
of two spellings of one root to agree; and they do agree if no spelling crosses a link and each is
absolute or starts from the root itself.
-/

namespace AnchorPatch

open Disk (IsTree Below maxLinks)

/-- Why a path is refused, without the path. -/
inductive GuardError.Kind
  | outside
  | forbidden
  | unresolved
deriving DecidableEq

def GuardError.kind : GuardError → Kind
  | .outside .. => .outside
  | .forbidden .. => .forbidden
  | .unresolved _ => .unresolved

/-- What has gone wrong, without any path. -/
inductive PatchError.Kind
  | unreadable
  | rule
  | guard (kind : GuardError.Kind)
  | backup
  | write
deriving DecidableEq

def PatchError.kind : PatchError → Kind
  | .unreadable .. => .unreadable
  | .rule _ => .rule
  | .guard cause => .guard cause.kind
  | .commit (.backup ..) => .backup
  | .commit (.write ..) => .write

/-- How a guard judges a path: the kind of its error, if there is one. -/
def Guard.verdict? (g : Guard) (d : Disk) (p : Path) : Option GuardError.Kind :=
  match g.validate d p with
  | .ok _ => none
  | .error cause => some cause.kind

/-- What counts of a plan: its texts and outcomes, or the kind of its error. -/
def planSummary : Except PatchError Plan → Except PatchError.Kind (Text × RuleRun)
  | .ok plan => .ok (plan.unpatched, plan.run)
  | .error e => .error e.kind

namespace Gate

variable {g : Gate} {doc doc' : Document} {patched : Text} {d : Disk} {l folder : Location}
  {t : Path} {front : List Text} {name : Text} {n n' : Nat}

theorem modeFor_congr {place : Location} (h : d.canonicalize doc.path = .ok place)
    (h' : d.canonicalize doc'.path = .ok place) : modeFor d doc = modeFor d doc' := by
  simp only [modeFor, Disk.mode?, Disk.find, h, h']

theorem backup_unique (hdoc : d.Below n l t doc.path) (hdoc' : d.Below n' l t doc'.path)
    (ht : t.EndsIn front name) {b b' : Location}
    (hb : d.renameLocation (g.backupPath doc.path) = .ok b)
    (hb' : d.renameLocation (g.backupPath doc'.path) = .ok b') : b = b' := by
  obtain ⟨f, hf, -⟩ := hdoc.endsIn ht
  obtain ⟨f', hf', -⟩ := hdoc'.endsIn ht
  rw [backupPath_eq hf] at hb
  rw [backupPath_eq hf'] at hb'
  obtain ⟨folder, name₁, hfree, rfl⟩ := Disk.renameLocation_eq_ok_iff.mp hb
  obtain ⟨folder', name₂, hfree', rfl⟩ := Disk.renameLocation_eq_ok_iff.mp hb'
  obtain ⟨rfl, rfl⟩ := hdoc.entryAt_withFileName_unique hdoc' ht (ht.isAbsolute_append _)
    hfree.entryAt hfree'.entryAt
  rfl

theorem eq_of_renameLocation_saved {b x : Location} (hfree : d.EntryAt doc.path folder name)
    (hb : d.renameLocation (g.backupPath doc.path) = .ok b)
    (hx : (saved doc d b).renameLocation doc.path = .ok x) : x = folder ++ [name] := by
  obtain ⟨folder₁, name₁, -, rfl⟩ := Disk.renameLocation_eq_ok_iff.mp hb
  obtain ⟨folder₂, name₂, hfree₂, rfl⟩ := Disk.renameLocation_eq_ok_iff.mp hx
  obtain ⟨rfl, rfl⟩ := hfree.unique (hfree₂.entryAt.of_put (by simp))
  rfl

theorem get?_diskAfter_iff (hne : patched ≠ doc.content) (hat : d.EntryAt doc.path folder name)
    (htext : ∀ s mode, d.get? (folder ++ [name]) = some (.file (.text s) mode) → s = doc.content) :
    (∃ mode, (diskAfter doc patched d (g.writes doc patched d)).get? (folder ++ [name]) =
        some (.file (.text patched) mode)) ↔
      (g.writes doc patched d).length = 2 := by
  have hold (mode : Nat) : d.get? (folder ++ [name]) ≠ some (.file (.text patched) mode) :=
    fun h => hne (htext patched mode h)
  rcases g.writes_cases doc patched d with hnil | ⟨-, b, hb, ⟨-, hone⟩ | ⟨x, hx, htwo⟩⟩
  · simp [hnil, diskAfter, hold]
  · rw [hone]
    simp only [diskAfter, List.length_singleton, Nat.reduceEqDiff, iff_false, not_exists]
    intro mode h
    by_cases hbx : folder ++ [name] = b
    · subst hbx
      rw [saved, Disk.get?_put_self _ _ _ (by simp)] at h
      cases h
      exact hne rfl
    · rw [saved, Disk.get?_put_of_ne _ _ hbx] at h
      exact hold mode h
  · rw [htwo, eq_of_renameLocation_saved hat hb hx]
    simp only [diskAfter, List.length_cons, List.length_nil, iff_true]
    exact ⟨_, Disk.get?_put_self _ _ _ (by simp)⟩

theorem saved_ne_of_unwritable (hfree : d.Free doc.path folder name) {b : Location}
    (h : ∀ x, (saved doc d b).renameLocation doc.path ≠ .ok x) : saved doc d b ≠ d := by
  intro he
  rw [he] at h
  exact h _ (Disk.renameLocation_eq_ok_iff.mpr ⟨folder, name, hfree, rfl⟩)

theorem diskAfter_eq_iff (htree : d.IsTree) (hdoc : d.Below n l t doc.path)
    (hdoc' : d.Below n' l t doc'.path) (hread : d.readText doc.path = .ok doc.content)
    (hread' : d.readText doc'.path = .ok doc'.content) :
    diskAfter doc patched d (g.writes doc patched d) =
        diskAfter doc' patched d (g.writes doc' patched d) ↔
      g.writes doc patched d = g.writes doc' patched d := by
  obtain ⟨place, mode, hplace, hfile⟩ := Disk.readText_eq_ok_iff.mp hread
  obtain ⟨place', mode', hplace', hfile'⟩ := Disk.readText_eq_ok_iff.mp hread'
  obtain rfl := hdoc.canonicalize_unique hdoc' hplace hplace'
  have hcontent : doc.content = doc'.content := by
    have hsame := hfile.symm.trans hfile'
    simp only [Option.some.injEq, Entry.file.injEq, Content.text.injEq] at hsame
    exact hsame.1
  constructor
  · intro hdisk
    by_cases hne : patched = doc.content
    · have hsame : hasChanges doc patched = false := hasChanges_eq_false_iff.mpr hne
      have hsame' : hasChanges doc' patched = false :=
        hasChanges_eq_false_iff.mpr (hne.trans hcontent)
      simp [writes, hsame, hsame']
    · obtain ⟨folder, name, hfree, htext⟩ := htree.exists_free_of_readText hread
      obtain ⟨folder', name', hfree', htext'⟩ := htree.exists_free_of_readText hread'
      obtain ⟨front, last, ht⟩ := hdoc.exists_endsIn_of_readText htree hread
      obtain ⟨rfl, rfl⟩ := hdoc.entryAt_unique hdoc' ht hfree.entryAt hfree'.entryAt
      have htwo : (g.writes doc patched d).length = 2 ↔ (g.writes doc' patched d).length = 2 := by
        rw [← get?_diskAfter_iff hne hfree.entryAt htext,
          ← get?_diskAfter_iff (hcontent ▸ hne) hfree'.entryAt htext', hdisk]
      rcases g.writes_cases doc patched d with hnil | ⟨-, b, hb, ⟨hstuck, hone⟩ | ⟨x, hx, hboth⟩⟩
      · rcases g.writes_cases doc' patched d with
          hnil' | ⟨-, b', hb', ⟨hstuck', hone'⟩ | ⟨x', hx', hboth'⟩⟩
        · rw [hnil, hnil']
        · rw [hnil, hone'] at hdisk
          exact absurd hdisk.symm (saved_ne_of_unwritable hfree' hstuck')
        · rw [hnil, hboth'] at htwo
          simp at htwo
      · rcases g.writes_cases doc' patched d with
          hnil' | ⟨-, b', hb', ⟨hstuck', hone'⟩ | ⟨x', hx', hboth'⟩⟩
        · rw [hone, hnil'] at hdisk
          exact absurd hdisk (saved_ne_of_unwritable hfree hstuck)
        · rw [hone, hone', backup_unique hdoc hdoc' ht hb hb']
        · rw [hone, hboth'] at htwo
          simp at htwo
      · rcases g.writes_cases doc' patched d with
          hnil' | ⟨-, b', hb', ⟨hstuck', hone'⟩ | ⟨x', hx', hboth'⟩⟩
        · rw [hboth, hnil'] at htwo
          simp at htwo
        · rw [hboth, hone'] at htwo
          simp at htwo
        · rw [hboth, hboth', backup_unique hdoc hdoc' ht hb hb',
            eq_of_renameLocation_saved hfree.entryAt hb hx,
            eq_of_renameLocation_saved hfree'.entryAt hb' hx']
  · intro hwrites
    rw [hwrites]
    exact diskAfter_congr hcontent (modeFor_congr hplace hplace') _

theorem writes_eq_of_below (hdoc : d.Below 0 l t doc.path) (hdoc' : d.Below 0 l t doc'.path)
    (ht : t.EndsIn front name) (hcontent : doc.content = doc'.content)
    (hmode : modeFor d doc = modeFor d doc') :
    g.writes doc patched d = g.writes doc' patched d := by
  obtain ⟨f, hf, -⟩ := hdoc.endsIn ht
  obtain ⟨f', hf', -⟩ := hdoc'.endsIn ht
  refine writes_congr hcontent hmode ?_ ?_
  · intro b
    rw [backupPath_eq hf, backupPath_eq hf']
    exact hdoc.renameLocation_withFileName_congr hdoc' ht (ht.isAbsolute_append _)
  · intro b hb x
    obtain ⟨folder, name', hfree, rfl⟩ := Disk.renameLocation_eq_ok_iff.mp hb
    exact (hdoc.put hfree.not_isDirectory).renameLocation_congr
      (hdoc'.put hfree.not_isDirectory) ht

end Gate

namespace Patcher

variable {p q : Patcher} {g : Guard} {d : Disk} {l : Location} {t : Path} {s : Text} {m n : Nat}

theorem planSummary_plan (hguard : p.guard = some g) :
    planSummary (p.plan d) =
      match d.readText p.target with
      | .error _ => .error .unreadable
      | .ok s =>
          match g.verdict? d p.target with
          | some kind => .error (.guard kind)
          | none =>
              match p.rules.apply s with
              | .error _ => .error .rule
              | .ok run => .ok (s, run) := by
  unfold plan Document.read checkGuard Guard.verdict?
  simp only [hguard]
  cases d.readText p.target with
  | error cause => rfl
  | ok s =>
      cases g.validate d p.target with
      | error cause => rfl
      | ok place =>
          simp only [bind, Except.bind, pure, Except.pure, Except.mapError_ok]
          cases p.rules.apply s <;> rfl

/-- Two patchers with the same rules, the same gate and the same guard, whose targets are one path
below one directory. -/
structure Twins (d : Disk) (l : Location) (t : Path) (g : Guard) (p q : Patcher) : Prop where
  rules_eq : p.rules = q.rules
  gate_eq : p.gate = q.gate
  guard_left : p.guard = some g
  guard_right : q.guard = some g
  below_left : ∃ n, d.Below n l t p.target
  below_right : ∃ n, d.Below n l t q.target

namespace Twins

theorem place_unique (h : Twins d l t g p q) {place place' : Location}
    (hp : d.canonicalize p.target = .ok place) (hq : d.canonicalize q.target = .ok place') :
    place = place' := by
  obtain ⟨n, hbelow⟩ := h.below_left
  obtain ⟨n', hbelow'⟩ := h.below_right
  exact hbelow.canonicalize_unique hbelow' hp hq

theorem readText_unique (h : Twins d l t g p q) {s' : Text} (hp : d.readText p.target = .ok s)
    (hq : d.readText q.target = .ok s') : s = s' := by
  obtain ⟨place, mode, hplace, hfile⟩ := Disk.readText_eq_ok_iff.mp hp
  obtain ⟨place', mode', hplace', hfile'⟩ := Disk.readText_eq_ok_iff.mp hq
  rw [h.place_unique hplace hplace', hfile'] at hfile
  cases hfile
  rfl

theorem planSummary_eq_iff (h : Twins d l t g p q) :
    planSummary (p.plan d) = planSummary (q.plan d) ↔
      ((∃ s, d.readText p.target = .ok s) ↔ ∃ s, d.readText q.target = .ok s) ∧
        ((∃ s, d.readText p.target = .ok s) →
          g.verdict? d p.target = g.verdict? d q.target) := by
  rw [planSummary_plan h.guard_left, planSummary_plan h.guard_right, h.rules_eq]
  cases hp : d.readText p.target with
  | error cause =>
      cases hq : d.readText q.target with
      | error cause' => simp
      | ok s =>
          cases g.verdict? d q.target with
          | some kind => simp
          | none => cases hrun : q.rules.apply s <;> simp [hrun]
  | ok s =>
      cases hq : d.readText q.target with
      | error cause =>
          cases g.verdict? d p.target with
          | some kind => simp
          | none => cases hrun : q.rules.apply s <;> simp [hrun]
      | ok s' =>
          rw [← h.readText_unique hp hq]
          cases g.verdict? d p.target with
          | some kind =>
              cases g.verdict? d q.target with
              | some kind' => simp
              | none => cases hrun : q.rules.apply s <;> simp [hrun]
          | none =>
              cases g.verdict? d q.target with
              | some kind' => cases hrun : q.rules.apply s <;> simp [hrun]
              | none => simp

theorem unpatched_eq (h : Twins d l t g p q) {plan plan' : Plan} (hp : p.plan d = .ok plan)
    (hq : q.plan d = .ok plan') : plan.unpatched = plan'.unpatched ∧ plan.run = plan'.run := by
  obtain ⟨-, hread, -, hrun⟩ := plan_eq_ok_iff.mp hp
  obtain ⟨-, hread', -, hrun'⟩ := plan_eq_ok_iff.mp hq
  have htext := h.readText_unique hread hread'
  refine ⟨htext, ?_⟩
  rw [htext, h.rules_eq, hrun'] at hrun
  exact (Except.ok.inj hrun).symm

theorem disk_eq_iff (h : Twins d l t g p q) (htree : d.IsTree) {plan plan' : Plan}
    (hp : p.plan d = .ok plan) (hq : q.plan d = .ok plan') :
    (p.commit plan d).2 = (q.commit plan' d).2 ↔ p.writes plan d = q.writes plan' d := by
  obtain ⟨n, hbelow⟩ := h.below_left
  obtain ⟨n', hbelow'⟩ := h.below_right
  obtain ⟨hpath, hread, hguard, -⟩ := plan_eq_ok_iff.mp hp
  obtain ⟨hpath', hread', hguard', -⟩ := plan_eq_ok_iff.mp hq
  have hrun : plan.run = plan'.run := (h.unpatched_eq hp hq).2
  rw [← hpath] at hbelow hread hguard
  rw [← hpath'] at hbelow' hread' hguard'
  rw [p.disk_commit, q.disk_commit, writes_of_guard hguard, writes_of_guard hguard',
    ← h.gate_eq, Plan.patched, Plan.patched, hrun]
  exact Gate.diskAfter_eq_iff htree hbelow hbelow' hread hread'

/-- Both patchers agree exactly if both targets or neither can be read, if the guard then judges
them alike, and if both commits then write the same entries. -/
theorem agree_iff (h : Twins d l t g p q) (htree : d.IsTree) :
    planSummary (p.plan d) = planSummary (q.plan d) ∧ (p.run d).2 = (q.run d).2 ↔
      ((∃ s, d.readText p.target = .ok s) ↔ ∃ s, d.readText q.target = .ok s) ∧
        ((∃ s, d.readText p.target = .ok s) →
          g.verdict? d p.target = g.verdict? d q.target) ∧
        ∀ plan plan', p.plan d = .ok plan → q.plan d = .ok plan' →
          p.writes plan d = q.writes plan' d := by
  rw [← and_assoc, ← h.planSummary_eq_iff]
  refine and_congr_right fun hsummary => ?_
  unfold run
  cases hp : p.plan d with
  | error e =>
      cases hq : q.plan d with
      | error e' => simp
      | ok plan' =>
          rw [hp, hq] at hsummary
          cases hsummary
  | ok plan =>
      cases hq : q.plan d with
      | error e' =>
          rw [hp, hq] at hsummary
          cases hsummary
      | ok plan' =>
          rw [h.disk_eq_iff htree hp hq]
          constructor
          · rintro hwrites _ _ ⟨⟩ ⟨⟩
            exact hwrites
          · intro hwrites
            exact hwrites plan plan' rfl rfl

theorem agree_of_straight (h : Twins d l t g p q) (htree : d.IsTree)
    (hp : d.Below 0 l t p.target) (hq : d.Below 0 l t q.target)
    (hbase : Path.isAbsolute p.target = true ∨ d.IsTree ∧ g.root = d.current)
    (hbase' : Path.isAbsolute q.target = true ∨ d.IsTree ∧ g.root = d.current) :
    planSummary (p.plan d) = planSummary (q.plan d) ∧ (p.run d).2 = (q.run d).2 := by
  have hread {a b : Path} (ha : d.Below 0 l t a) (hb : d.Below 0 l t b)
      (h : ∃ s, d.readText a = .ok s) : ∃ s, d.readText b = .ok s := by
    obtain ⟨s, hs⟩ := h
    obtain ⟨place, mode, hplace, hfile⟩ := Disk.readText_eq_ok_iff.mp hs
    have hnot := Disk.not_isDirectory_of_file hfile
    refine ⟨s, Disk.readText_eq_ok_iff.mpr ⟨place, mode, ?_, hfile⟩⟩
    exact (hb.canonicalize_eq_ok_iff_of_not_isDirectory hnot).mpr
      ((ha.canonicalize_eq_ok_iff_of_not_isDirectory hnot).mp hplace)
  refine (h.agree_iff htree).mpr ⟨⟨hread hp hq, hread hq hp⟩, ?_, ?_⟩
  · rintro ⟨s, hs⟩
    obtain ⟨s', hs'⟩ := hread hp hq ⟨s, hs⟩
    obtain ⟨place, -, hplace, -⟩ := Disk.readText_eq_ok_iff.mp hs
    obtain ⟨place', -, hplace', -⟩ := Disk.readText_eq_ok_iff.mp hs'
    obtain rfl := h.place_unique hplace hplace'
    have hne := (Disk.canonicalize_eq_ok_iff.mp hplace).1
    have hne' := (Disk.canonicalize_eq_ok_iff.mp hplace').1
    have hvalidate := Guard.validate_congr ((Guard.canonicalize_absolute hbase hne).mpr hplace)
      ((Guard.canonicalize_absolute hbase' hne').mpr hplace')
    simp only [Guard.verdict?, hvalidate]
  · intro plan plan' hplan hplan'
    obtain ⟨hpath, hs, hguard, -⟩ := plan_eq_ok_iff.mp hplan
    obtain ⟨hpath', hs', hguard', -⟩ := plan_eq_ok_iff.mp hplan'
    obtain ⟨htext, hrun⟩ := h.unpatched_eq hplan hplan'
    obtain ⟨front, name, ht⟩ := hp.exists_endsIn_of_readText htree hs
    obtain ⟨place, -, hplace, -⟩ := Disk.readText_eq_ok_iff.mp hs
    obtain ⟨place', -, hplace', -⟩ := Disk.readText_eq_ok_iff.mp hs'
    obtain rfl := h.place_unique hplace hplace'
    rw [← hpath] at hp hguard hplace
    rw [← hpath'] at hq hguard' hplace'
    rw [writes_of_guard hguard, writes_of_guard hguard', ← h.gate_eq, Plan.patched, Plan.patched,
      hrun]
    exact Gate.writes_eq_of_below hp hq ht htext (Gate.modeFor_congr hplace hplace')

end Twins

variable {c : Config} {r r₁ r₂ : Path} {rules : RuleSet}

/-- The patcher for a configuration whose root is `r` and leads to `l`. -/
def atRoot (c : Config) (rules : RuleSet) (l : Location) (r : Path) : Patcher where
  target := targetPath r c.info.target
  rules := rules
  gate := { backupSuffix := c.info.backupSuffix }
  guard := some { root := l, forbidden := Guard.defaultForbidden }

theorem ofConfig_eq (h : d.canonicalize r = .ok l) :
    ofConfig d c r =
      match RuleSet.compile c.rules with
      | .error cause => .error (.rule cause)
      | .ok rules => .ok (atRoot c rules l r) := by
  unfold ofConfig Guard.create
  rw [h]
  cases RuleSet.compile c.rules <;> rfl

theorem ofConfig_eq_ok_iff (h : d.canonicalize r = .ok l) :
    ofConfig d c r = .ok p ↔
      ∃ rules, RuleSet.compile c.rules = .ok rules ∧ p = atRoot c rules l r := by
  rw [ofConfig_eq h]
  cases RuleSet.compile c.rules with
  | error cause => simp
  | ok rules => simp [eq_comm]

theorem below_targetPath (hl : d.IsDirectory l) (ht : t.isAbsolute = false) (hr : r ≠ [])
    (hway : d.Way n (Disk.start d.current r).1 r.pieces l) : d.Below n l t (targetPath r t) := by
  unfold targetPath
  split
  next hparts =>
    obtain ⟨habs, hidle⟩ := Path.isIdle_of_parts hparts
    obtain ⟨rfl, rfl⟩ := hway.eq_of_idle hidle
    simp only [Disk.start, habs] at hl ⊢
    exact Disk.below_self hl ht
  · exact Disk.below_join hl hr ht hway

theorem twins_of_ofConfig (hl : d.IsDirectory l) (ht : Path.isAbsolute c.info.target = false)
    (h₁ : d.canonicalize r₁ = .ok l) (h₂ : d.canonicalize r₂ = .ok l)
    (hp : ofConfig d c r₁ = .ok p) (hq : ofConfig d c r₂ = .ok q) :
    Twins d l c.info.target { root := l, forbidden := Guard.defaultForbidden } p q := by
  obtain ⟨rules, hrules, rfl⟩ := (ofConfig_eq_ok_iff h₁).mp hp
  obtain ⟨rules', hrules', rfl⟩ := (ofConfig_eq_ok_iff h₂).mp hq
  rw [hrules] at hrules'
  cases hrules'
  obtain ⟨hr₁, n₁, -, hway₁⟩ := Disk.canonicalize_eq_ok_iff.mp h₁
  obtain ⟨hr₂, n₂, -, hway₂⟩ := Disk.canonicalize_eq_ok_iff.mp h₂
  exact ⟨rfl, rfl, rfl, rfl, ⟨n₁, below_targetPath hl ht hr₁ hway₁⟩,
    ⟨n₂, below_targetPath hl ht hr₂ hway₂⟩⟩

/-- A path that crosses no link on its way to a directory, and is absolute or starts there. -/
def Straight (d : Disk) (r : Path) (l : Location) : Prop :=
  d.Way 0 (Disk.start d.current r).1 r.pieces l ∧ (r.isAbsolute = true ∨ l = d.current)

theorem straight_toPath (htree : d.IsTree) (hl : d.IsDirectory l) : Straight d l.toPath l := by
  refine ⟨?_, .inl l.isAbsolute_toPath⟩
  rw [Disk.start, if_pos l.isAbsolute_toPath]
  exact htree.way_toPath hl.isPlace

theorem straight_here (htree : d.IsTree) : Straight d ['.'] d.current :=
  ⟨.idle htree.isDirectory_current (.inr rfl) (.done _), .inr rfl⟩

theorem base_of_straight (htree : d.IsTree) (h : Straight d r l) (t : Path) (hr : r ≠ [])
    (ht : t.isAbsolute = false) :
    Path.isAbsolute (targetPath r t) = true ∨ d.IsTree ∧ l = d.current := by
  rcases h.2 with habs | hcurrent
  · left
    unfold targetPath
    split
    next hparts =>
      have hrel := (Path.isIdle_of_parts hparts).1
      rw [habs] at hrel
      cases hrel
    · obtain ⟨front, -, hjoin, -⟩ := Path.pieces_join hr ht
      rw [hjoin, habs]
  · exact .inr ⟨htree, hcurrent⟩

/-- The patchers of two spellings of one root agree. -/
def RootsAgree (d : Disk) (c : Config) (r₁ r₂ : Path) : Prop :=
  match ofConfig d c r₁, ofConfig d c r₂ with
  | .ok p, .ok q => planSummary (p.plan d) = planSummary (q.plan d) ∧ (p.run d).2 = (q.run d).2
  | .error e, .error e' => e.kind = e'.kind
  | _, _ => False

theorem rootsAgree_iff_patchers (h₁ : d.canonicalize r₁ = .ok l) (h₂ : d.canonicalize r₂ = .ok l) :
    RootsAgree d c r₁ r₂ ↔ ∀ p q, ofConfig d c r₁ = .ok p → ofConfig d c r₂ = .ok q →
      planSummary (p.plan d) = planSummary (q.plan d) ∧ (p.run d).2 = (q.run d).2 := by
  unfold RootsAgree
  rw [ofConfig_eq h₁, ofConfig_eq h₂]
  cases RuleSet.compile c.rules with
  | error cause => simp
  | ok rules => simp

theorem rootsAgree_of_straight (htree : d.IsTree) (ht : Path.isAbsolute c.info.target = false)
    (hl : d.IsDirectory l) (h₁ : d.canonicalize r₁ = .ok l) (h₂ : d.canonicalize r₂ = .ok l)
    (hs₁ : Straight d r₁ l) (hs₂ : Straight d r₂ l) : RootsAgree d c r₁ r₂ := by
  have hr₁ := (Disk.canonicalize_eq_ok_iff.mp h₁).1
  have hr₂ := (Disk.canonicalize_eq_ok_iff.mp h₂).1
  rw [rootsAgree_iff_patchers h₁ h₂]
  intro p q hp hq
  have htwins := twins_of_ofConfig hl ht h₁ h₂ hp hq
  obtain ⟨rules, -, rfl⟩ := (ofConfig_eq_ok_iff h₁).mp hp
  obtain ⟨rules', -, rfl⟩ := (ofConfig_eq_ok_iff h₂).mp hq
  exact htwins.agree_of_straight htree (below_targetPath hl ht hr₁ hs₁.1)
    (below_targetPath hl ht hr₂ hs₂.1) (base_of_straight htree hs₁ _ hr₁ ht)
    (base_of_straight htree hs₂ _ hr₂ ht)

theorem place_of_straight (htree : d.IsTree) (ht : Path.isAbsolute c.info.target = false)
    (h : d.canonicalize r = .ok l) (hs : Straight d r l) {plan : Plan}
    (hp : ofConfig d c r = .ok p) (hguard : p.guard = some g) (hplan : p.plan d = .ok plan) :
    ∃ place, d.canonicalize p.target = .ok place ∧ g.validate d p.target = .ok place ∧
      ∃ folder name, d.Free p.target folder name ∧
        ((∀ link, d.get? (folder ++ [name]) ≠ some (.link link)) → place = folder ++ [name]) := by
  obtain ⟨-, hread, hcheck, -⟩ := plan_eq_ok_iff.mp hplan
  obtain ⟨place, -, hplace, -⟩ := Disk.readText_eq_ok_iff.mp hread
  obtain ⟨place', hvalidate⟩ := checkGuard_eq_ok_iff.mp hcheck g hguard
  have hbase : Path.isAbsolute p.target = true ∨ d.IsTree ∧ g.root = d.current := by
    obtain ⟨rules, -, rfl⟩ := (ofConfig_eq_ok_iff h).mp hp
    cases hguard
    exact base_of_straight htree hs _ (Disk.canonicalize_eq_ok_iff.mp h).1 ht
  have hplace' := (Guard.validate_eq_ok_iff.mp hvalidate).1
  have hne := (Disk.canonicalize_eq_ok_iff.mp hplace).1
  rw [Guard.canonicalize_absolute hbase hne, hplace] at hplace'
  cases hplace'
  obtain ⟨folder, name, hfree, -⟩ := htree.exists_free_of_readText hread
  exact ⟨place, hplace, hvalidate, folder, name, hfree,
    fun hlink => Guard.place_eq_entry hfree.entryAt hplace hlink⟩

/-- Straight spellings of one root agree, and any two do under the exact condition that both
targets or neither can be read, that the guard judges them alike and that the same entries are
written. -/
theorem rootsAgree_iff (htree : d.IsTree) (ht : Path.isAbsolute c.info.target = false)
    (hl : d.IsDirectory l) (h₁ : d.canonicalize r₁ = .ok l) (h₂ : d.canonicalize r₂ = .ok l) :
    (RootsAgree d c r₁ r₂ ↔
      ∀ p q g, ofConfig d c r₁ = .ok p → ofConfig d c r₂ = .ok q → p.guard = some g →
        ((∃ s, d.readText p.target = .ok s) ↔ ∃ s, d.readText q.target = .ok s) ∧
        ((∃ s, d.readText p.target = .ok s) → g.verdict? d p.target = g.verdict? d q.target) ∧
        ∀ plan plan', p.plan d = .ok plan → q.plan d = .ok plan' →
          p.writes plan d = q.writes plan' d) ∧
    (Straight d r₁ l → Straight d r₂ l → RootsAgree d c r₁ r₂) ∧
    Straight d l.toPath l ∧ (l = d.current → Straight d ['.'] l) ∧
    ∀ p plan g, ofConfig d c r₁ = .ok p → p.guard = some g → p.plan d = .ok plan →
      Straight d r₁ l →
      ∃ place, d.canonicalize p.target = .ok place ∧ g.validate d p.target = .ok place ∧
        ∃ folder name, d.Free p.target folder name ∧
          ((∀ link, d.get? (folder ++ [name]) ≠ some (.link link)) → place = folder ++ [name]) := by
  refine ⟨?_, rootsAgree_of_straight htree ht hl h₁ h₂, straight_toPath htree hl, ?_, ?_⟩
  · rw [rootsAgree_iff_patchers h₁ h₂]
    constructor
    · intro h p q g hp hq hguard
      have htwins := twins_of_ofConfig hl ht h₁ h₂ hp hq
      rw [htwins.guard_left] at hguard
      cases hguard
      exact (htwins.agree_iff htree).mp (h p q hp hq)
    · intro h p q hp hq
      have htwins := twins_of_ofConfig hl ht h₁ h₂ hp hq
      exact (htwins.agree_iff htree).mpr (h p q _ hp hq htwins.guard_left)
  · rintro rfl
    exact straight_here htree
  · intro p plan g hp hguard hplan hs
    exact place_of_straight htree ht h₁ hs hp hguard hplan

/-- A workspace `s` in the current directory. -/
def workspaceDisk : Disk where
  entries :=
    [([['w']], .directory 0o755), ([['w'], ['s']], .directory 0o755),
      ([['w'], ['s'], ['t']], .file (.text ['A']) 0o644)]
  current := [['w']]

def letterConfig : Config where
  info := { target := ['t'] }
  rules :=
    [{ id := ['r']
       primary := { kind := .text, pattern := ['A'], placement := .replace }
       text := ['B'] }]

/-- Below the relative root `s` the guard looks for `s/s/t`, and refuses what it accepts below the
absolute root. -/
theorem rootsAgree_iff_relative :
    workspaceDisk.IsTree ∧ Path.isAbsolute letterConfig.info.target = false ∧
      workspaceDisk.IsDirectory [['w'], ['s']] ∧
      workspaceDisk.canonicalize "/w/s".toList = .ok [['w'], ['s']] ∧
      workspaceDisk.canonicalize ['s'] = .ok [['w'], ['s']] ∧
      ¬ RootsAgree workspaceDisk letterConfig "/w/s".toList ['s'] := by
  have htree : workspaceDisk.IsTree := Disk.isTree_of_entries (by decide) (by decide)
  have ht : Path.isAbsolute letterConfig.info.target = false := rfl
  have hl : workspaceDisk.IsDirectory [['w'], ['s']] := by decide
  have h₁ : workspaceDisk.canonicalize "/w/s".toList = .ok [['w'], ['s']] := rfl
  have h₂ : workspaceDisk.canonicalize ['s'] = .ok [['w'], ['s']] := rfl
  refine ⟨htree, ht, hl, h₁, h₂, ?_⟩
  rw [(rootsAgree_iff htree ht hl h₁ h₂).1]
  intro h
  obtain ⟨-, hverdict, -⟩ := h _ _ _ rfl rfl rfl
  have hbad : none = some GuardError.Kind.unresolved := hverdict ⟨['A'], rfl⟩
  cases hbad

end Patcher

end AnchorPatch
