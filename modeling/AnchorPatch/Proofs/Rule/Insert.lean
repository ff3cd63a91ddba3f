import AnchorPatch.Proofs.Rule.Contract
import Mathlib.Algebra.GroupWithZero.Nat

/-!
Rules that only insert.

A rule both of whose anchors put its text behind the place never takes anything out of a buffer.
`Insertions b ts ks c` says that a run goes from `b` to `c` through the turns `ts` by putting in the
blocks `ks`, one for each rule that it applies. Main statement: a run of such rules keeps its
document as a subsequence, and makes it longer by exactly what it puts in.
-/

namespace AnchorPatch

variable {r : Rule} {b c : Text} {found : Located}

/-- Both anchors of a rule put its text behind the place. -/
def Rule.OnlyInserts (r : Rule) : Prop :=
  r.anchors.primary.placement = .after ∧
    ∀ a, r.anchors.fallback = some a → a.placement = .after

theorem Rule.OnlyInserts.placement (h : r.OnlyInserts) (hlocate : r.anchors.locate b = some found) :
    found.anchor.placement = .after := by
  rcases (AnchorPair.find?_of_locate hlocate).2 with hanchor | ⟨-, hanchor⟩
  · rw [hanchor]
    exact h.1
  · exact h.2 _ hanchor

namespace RuleSet

/-- What is put into a buffer at one place. -/
structure Block where
  separator : Text
  text : Text

/-- What a block adds to the buffer. -/
def Block.whole (k : Block) : Text := k.separator ++ k.text

variable {t : Turn} {k : Block} {ts : List Turn} {ks : List Block}

/-- A turn puts a block right behind the place that its rule finds: the separator of the anchor, or
else the default one, and the text of the rule, or what becomes of it as a template. -/
structure Turn.Inserts (t : Turn) (found : Located) (k : Block) : Prop where
  finds : t.rule.anchors.Finds t.given found
  supplies : t.rule.Supplies t.given found k.text
  separator_eq : k.separator =
    found.anchor.separator.getD (Anchor.defaultSeparator found.span.matched k.text)
  given_eq : t.given = found.span.before ++ found.span.matched ++ found.span.after
  left_eq : t.left = found.span.before ++ found.span.matched ++ k.whole ++ found.span.after
  outcome_eq : t.outcome =
    .applied found.slot found.span.start (found.span.matched ++ k.whole).byteLength

/-- A run goes from one buffer to another by putting in these blocks in turn. -/
inductive Insertions : Text → List Turn → List Block → Text → Prop
  | nil (b : Text) : Insertions b [] [] b
  | skip {t : Turn} {ts : List Turn} {ks : List Block} {c : Text}
      (houtcome : t.outcome.isApplied = false) (hleft : t.left = t.given)
      (rest : Insertions t.left ts ks c) : Insertions t.given (t :: ts) ks c
  | insert {t : Turn} {found : Located} {k : Block} {ts : List Turn} {ks : List Block} {c : Text}
      (h : t.Inserts found k) (rest : Insertions t.left ts ks c) :
      Insertions t.given (t :: ts) (k :: ks) c

theorem Turn.inserts_of_step {outcome : Outcome} (h : r.Step b (c, outcome))
    (houtcome : outcome.isApplied = true)
    (hafter : ∀ found, r.anchors.locate b = some found → found.anchor.placement = .after) :
    ∃ found k, Inserts ⟨r, b, c, outcome⟩ found k := by
  cases h with
  | guarded | missing | same => cases houtcome
  | @applied _ found text hlocate htext hsplice =>
      have hsplice_eq := Anchor.splice_of_after (hafter found hlocate) found.span.matched text
      let k : Block :=
        ⟨found.anchor.separator.getD (Anchor.defaultSeparator found.span.matched text), text⟩
      have hblock : found.anchor.splice found.span.matched text = found.span.matched ++ k.whole := by
        rw [hsplice_eq, List.append_assoc]
        rfl
      refine ⟨found, k, ?_⟩
      constructor
      · exact AnchorPair.locate_eq_some_iff.mp hlocate
      · exact Rule.supplies_iff.mpr htext
      · rfl
      · exact (AnchorPair.whole_of_locate hlocate).symm
      · simp only [hblock, List.append_assoc]
      · simp only [hblock]

theorem Turn.Inserts.sublist (h : t.Inserts found k) : t.given.Sublist t.left := by
  rw [h.given_eq, h.left_eq]
  exact (List.sublist_append_left _ _).append (.refl _)

theorem Turn.Inserts.byteLength_eq (h : t.Inserts found k) :
    t.left.byteLength = t.given.byteLength + k.whole.byteLength := by
  rw [h.given_eq, h.left_eq]
  simp only [Text.byteLength_append]
  omega

theorem Turns.exists_insertions (h : Turns b ts c) (honly : ∀ t ∈ ts, t.rule.OnlyInserts) :
    ∃ ks, Insertions b ts ks c := by
  induction h with
  | nil b => exact ⟨[], .nil b⟩
  | @cons r b left c outcome ts step rest ih =>
      obtain ⟨ks, hks⟩ := ih fun t ht => honly t (List.mem_cons_of_mem _ ht)
      let t : Turn := ⟨r, b, left, outcome⟩
      cases houtcome : outcome.isApplied with
      | false => exact ⟨ks, .skip (t := t) houtcome (step.eq_of_not_applied houtcome) hks⟩
      | true =>
          have hafter : r.OnlyInserts := honly t List.mem_cons_self
          obtain ⟨found, k, hinserts⟩ :=
            Turn.inserts_of_step step houtcome fun _ => hafter.placement
          exact ⟨k :: ks, .insert hinserts hks⟩

theorem Insertions.sublist (h : Insertions b ts ks c) : b.Sublist c := by
  induction h with
  | nil b => exact .refl b
  | skip houtcome hleft rest ih => exact hleft ▸ ih
  | insert h rest ih => exact h.sublist.trans ih

theorem Insertions.byteLength_eq (h : Insertions b ts ks c) :
    c.byteLength =
      b.byteLength + (ks.map fun k => k.separator.byteLength + k.text.byteLength).sum := by
  induction h with
  | nil b => rfl
  | skip houtcome hleft rest ih =>
      rw [ih, hleft]
  | insert h rest ih =>
      rw [ih, h.byteLength_eq, Block.whole, Text.byteLength_append, List.map_cons, List.sum_cons,
        Nat.add_assoc]

/-- What a run of rules that only insert makes of a document. -/
structure Grows (s : RuleSet) (document : Text) (run : RuleRun) (ts : List Turn)
    (ks : List Block) : Prop where
  apply_eq : s.apply document = .ok run
  rules_eq : ts.map (·.rule) = s.rules
  outcomes_eq : run.outcomes = ts.map Turn.report
  insertions : Insertions document ts ks run.buffer
  sublist : document.Sublist run.buffer
  byteLength_eq : run.buffer.byteLength =
    document.byteLength + (ks.map fun k => k.separator.byteLength + k.text.byteLength).sum

/-- A run of rules that only insert puts one block into the document for each rule that it applies,
right behind the place which that rule finds, and leaves the buffer to the next rule as it is for
each other one. So no text of the document is lost, and the document grows by the blocks. -/
theorem run_only_inserts (s : RuleSet) (hs : ∀ r ∈ s.rules, r.OnlyInserts) (document : Text) :
    ∃ run ts ks, s.Grows document run ts ks := by
  obtain ⟨run, hrun⟩ := exists_run s.rules document
  obtain ⟨ts, hturns, hrules, houtcomes⟩ := applyRules_eq_ok_iff.mp hrun
  have honly : ∀ t ∈ ts, t.rule.OnlyInserts := by
    intro t ht
    apply hs
    rw [← hrules]
    exact List.mem_map_of_mem ht
  obtain ⟨ks, hks⟩ := hturns.exists_insertions honly
  exact ⟨run, ts, ks, hrun, hrules, houtcomes, hks, hks.sublist, hks.byteLength_eq⟩

/-- The second rule finds its place within what the first one puts in. -/
def nested : RuleSet where
  rules :=
    [{ id := "outer".toList
       anchors :=
         { primary := { pattern := .text "a;".toList, placement := .after, separator := none } }
       text := "b; d;".toList },
     { id := "inner".toList
       anchors :=
         { primary :=
             { pattern := .text "b;".toList, placement := .after, separator := some [' '] } }
       text := "c;".toList }]

theorem run_only_inserts_nested :
    (∀ r ∈ nested.rules, r.OnlyInserts) ∧ ∃ run ts ks, nested.Grows "a;".toList run ts ks ∧
      run.buffer = "a;\nb; c; d;".toList := by
  have hs : ∀ r ∈ nested.rules, r.OnlyInserts := by
    intro r hr
    simp only [nested, List.mem_cons, List.not_mem_nil, or_false] at hr
    rcases hr with rfl | rfl
    all_goals exact ⟨rfl, fun a ha => by cases ha⟩
  obtain ⟨run, ts, ks, hgrows⟩ := run_only_inserts nested hs "a;".toList
  have hbuffer : (nested.apply "a;".toList).toOption.map (·.buffer) =
      some "a;\nb; c; d;".toList := by decide +kernel
  rw [hgrows.apply_eq] at hbuffer
  exact ⟨hs, run, ts, ks, hgrows, Option.some.inj hbuffer⟩

end RuleSet

end AnchorPatch
