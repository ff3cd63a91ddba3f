import AnchorPatch.Proofs.Config.WellFormed
import AnchorPatch.Proofs.Gate
import AnchorPatch.Proofs.Path.Parts

namespace AnchorPatch

open AnchorPatch.Path (Part IsName)
open Regex (Cache)

variable {g : Gate} {target : Path} {name : Text}

namespace Gate

theorem backupPath_of_fileName? (h : target.fileName? = some name) :
    g.backupPath target = target.withFileName (name ++ g.backupSuffix) := by
  rw [backupPath, h, Option.getD_some]

theorem isName_append (h : target.fileName? = some name) (s : Text) : IsName (name ++ s) :=
  (Path.exists_backwards_of_fileName? h).1.append s

theorem slash_notMem_append (h : target.fileName? = some name) (hslash : '/' ∉ g.backupSuffix) :
    '/' ∉ name ++ g.backupSuffix := by
  simp [Path.slash_notMem_of_fileName? h, hslash]

theorem parts_backupPath (h : target.fileName? = some name) :
    target.parts = target.parts.dropLast ++ [.name name] ∧
      (g.backupPath target).parts = target.parts.dropLast ++
        (Path.pieces (name ++ g.backupSuffix)).filterMap Part.ofPiece? := by
  obtain ⟨s, rest, hs⟩ := List.exists_cons_of_ne_nil (Path.pieces_ne_nil g.backupSuffix)
  have hpieces := Path.pieces_append_of_notMem (Path.slash_notMem_of_fileName? h) hs
  rw [backupPath_of_fileName? h]
  exact Path.parts_withFileName h hpieces (isName_append h s)

theorem isSibling_iff (h : target.fileName? = some name) :
    ((g.backupPath target).parent? = target.parent? ∧
      (g.backupPath target).fileName? = some (name ++ g.backupSuffix)) ↔ '/' ∉ g.backupSuffix := by
  constructor
  · rintro ⟨-, hname⟩ hslash
    exact Path.slash_notMem_of_fileName? hname (List.mem_append_right _ hslash)
  · intro hslash
    rw [backupPath_of_fileName? h]
    exact Path.parent?_withFileName h (isName_append h _) (slash_notMem_append h hslash)

theorem parts_backupPath_of_notMem (h : target.fileName? = some name)
    (hslash : '/' ∉ g.backupSuffix) :
    (g.backupPath target).parts =
      target.parts.dropLast ++ [.name (name ++ g.backupSuffix)] := by
  have hname := isName_append h g.backupSuffix
  rw [(parts_backupPath h).2, Path.pieces_eq_singleton (slash_notMem_append h hslash),
    List.filterMap_cons_some (Path.ofPiece?_of_isName hname), List.filterMap_nil]

theorem parts_backupPath_ne (h : target.fileName? = some name) (hslash : '/' ∉ g.backupSuffix)
    (hsuffix : g.backupSuffix ≠ []) : (g.backupPath target).parts ≠ target.parts := by
  intro heq
  rw [parts_backupPath_of_notMem h hslash, (parts_backupPath (g := g) h).1,
    List.dropLast_concat, List.append_cancel_left_eq] at heq
  have hname : name ++ g.backupSuffix = name := by simpa using heq
  exact hsuffix (List.append_right_eq_self.mp hname)

end Gate

theorem Config.backupSuffix_ne_nil {c : Config} (h : c.WellFormed) : c.info.backupSuffix ≠ [] := by
  intro hnil
  refine h.backupSuffix_not_blank ?_
  rw [hnil]
  rfl

/-- Let a configuration be found valid, and let a document have a last name. The parts of the path
of its backup are those of its own path up to the last one, and then what the name with the suffix
behind it means as a path. Exactly if there is no slash in the suffix, this is the path with that
name under the same parent; and then it means something else than the path of the document, and on
every disk it names another entry of the directory in which the document is. -/
theorem Gate.backup_beside_iff {c : Config} {k : Cache} (hk : k.Reachable)
    (hvalid : (c.validateCached.run k).1 = .ok ()) (hg : g.backupSuffix = c.info.backupSuffix)
    (hname : target.fileName? = some name) :
    target.parts = target.parts.dropLast ++ [.name name] ∧
      (g.backupPath target).parts = target.parts.dropLast ++
        (Path.pieces (name ++ g.backupSuffix)).filterMap Part.ofPiece? ∧
      ((g.backupPath target).parent? = target.parent? ∧
        (g.backupPath target).fileName? = some (name ++ g.backupSuffix) ↔ '/' ∉ g.backupSuffix) ∧
      ('/' ∉ g.backupSuffix →
        (g.backupPath target).parts = target.parts.dropLast ++ [.name (name ++ g.backupSuffix)] ∧
        (g.backupPath target).parts ≠ target.parts ∧
        ∀ (d : Disk) (folder : Location), d.EntryAt target folder name →
          d.EntryAt (g.backupPath target) folder (name ++ g.backupSuffix) ∧
            folder ++ [name ++ g.backupSuffix] ≠ folder ++ [name]) := by
  rw [(Config.gives_validateCached c).fst hk.sound, Config.validate_eq_ok_iff] at hvalid
  have hsuffix : g.backupSuffix ≠ [] := hg ▸ Config.backupSuffix_ne_nil hvalid
  refine ⟨(parts_backupPath (g := g) hname).1, (parts_backupPath hname).2, isSibling_iff hname, ?_⟩
  intro hslash
  refine ⟨parts_backupPath_of_notMem hname hslash, parts_backupPath_ne hname hslash hsuffix, ?_⟩
  intro d folder hentry
  exact ⟨entryAt_backupPath hentry hslash, append_backupSuffix_ne hsuffix folder name⟩

/-- A configuration that is valid, although its suffix leads out of the directory. -/
def leavingConfig : Config where
  info := { backupSuffix := ".d/../../x".toList }
  rules := [{ id := ['r'], text := ['B'], primary := { kind := .text, pattern := ['A'] } }]

def leavingGate : Gate where
  backupSuffix := leavingConfig.info.backupSuffix

theorem Gate.backup_beside_iff_leaving :
    Cache.Reachable .empty ∧ (leavingConfig.validateCached.run .empty).1 = .ok () ∧
      Path.fileName? "w/t/.".toList = some ['t'] ∧
      Path.parts (leavingGate.backupPath "w/t/.".toList) =
        [.name ['w'], .name ['t', '.', 'd'], .up, .up, .name ['x']] ∧
      ¬ (Path.parent? (leavingGate.backupPath "w/t/.".toList) = Path.parent? "w/t/.".toList ∧
        Path.fileName? (leavingGate.backupPath "w/t/.".toList) =
          some ("t".toList ++ leavingGate.backupSuffix)) := by
  have hvalid : (leavingConfig.validateCached.run .empty).1 = .ok () := rfl
  have hname : Path.fileName? "w/t/.".toList = some ['t'] := by decide
  obtain ⟨-, hparts, hsibling, -⟩ :=
    backup_beside_iff (g := leavingGate) .empty hvalid rfl hname
  refine ⟨.empty, hvalid, hname, ?_, ?_⟩
  · rw [hparts]
    decide
  · rw [show "t".toList = ['t'] from rfl, hsibling]
    decide

end AnchorPatch
