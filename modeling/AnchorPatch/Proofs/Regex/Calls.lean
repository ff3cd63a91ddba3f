import AnchorPatch.Proofs.Except
import AnchorPatch.Proofs.Regex.Cache
import Mathlib.Data.List.Nodup
import Mathlib.Data.List.ProdSigma

namespace AnchorPatch.Regex.Cache

variable {c : Cache} {source : Text} {r : Regex} {e : Error}

/-- The patterns that are held, the newest first. -/
def sources (c : Cache) : List Text := c.entries.map Prod.fst

theorem length_sources (c : Cache) : c.sources.length = c.size := List.length_map _

theorem get?_eq_none_iff : c.get? source = none ↔ source ∉ c.sources := by
  rw [get?, List.lookup_eq_none_iff]
  simp only [bne_iff_ne, ne_comm, sources, List.mem_map, not_exists, not_and]

theorem mem_entries_of_get? (h : c.get? source = some r) : (source, r) ∈ c.entries := by
  obtain ⟨front, back, hentries, -⟩ := List.lookup_eq_some_iff.mp h
  simp [hentries]

theorem get?_eq_some_iff (h : c.sources.Nodup) :
    c.get? source = some r ↔ (source, r) ∈ c.entries := by
  refine ⟨mem_entries_of_get?, fun hmem => ?_⟩
  cases hget : c.get? source with
  | none => exact absurd (List.mem_map.mpr ⟨_, hmem, rfl⟩) (get?_eq_none_iff.mp hget)
  | some r' =>
      have hsame := List.inj_on_of_nodup_map h hmem (mem_entries_of_get? hget) rfl
      rw [← (Prod.mk.injEq ..).mp hsame |>.2]

/-- A cache with one pattern more. -/
def store (c : Cache) (source : Text) (r : Regex) : Cache := { entries := (source, r) :: c.entries }

@[simp] theorem sources_store (c : Cache) (source : Text) (r : Regex) :
    (c.store source r).sources = source :: c.sources := rfl

@[simp] theorem size_store (c : Cache) (source : Text) (r : Regex) :
    (c.store source r).size = c.size + 1 := rfl

/-- What a request for a pattern can do to a cache, and how it is answered. -/
inductive Gets (c : Cache) (source : Text) : Except Error Regex × Cache → Prop
  | hit {r : Regex} (hget : c.get? source = some r) : Gets c source (.ok r, c)
  | stored {r : Regex} (hget : c.get? source = none) (h : Regex.compile source = .ok r) :
      Gets c source (.ok r, c.makeRoom.store source r)
  | refused {e : Error} (hget : c.get? source = none) (h : Regex.compile source = .error e) :
      Gets c source (.error e, c.makeRoom)

theorem gets_getOrCompile (c : Cache) (source : Text) : c.Gets source (c.getOrCompile source) := by
  unfold getOrCompile
  rcases hget : c.get? source with _ | r
  · rcases h : Regex.compile source with e | r
    · exact .refused hget h
    · exact .stored hget h
  · exact .hit hget

theorem makeRoom_of_lt (h : c.size < capacity) : c.makeRoom = c := if_neg (Nat.not_le.mpr h)

theorem makeRoom_of_le (h : capacity ≤ c.size) : c.makeRoom = .empty := if_pos h

theorem size_makeRoom_lt (c : Cache) : c.makeRoom.size < capacity := by
  rcases Nat.lt_or_ge c.size capacity with h | h
  · rwa [makeRoom_of_lt h]
  · rw [makeRoom_of_le h]
    decide

theorem sources_makeRoom_sublist (c : Cache) : c.makeRoom.sources.Sublist c.sources := by
  rcases Nat.lt_or_ge c.size capacity with h | h
  · rw [makeRoom_of_lt h]
  · rw [makeRoom_of_le h]
    exact List.nil_sublist _

theorem getOrCompile_of_accepted (hfresh : source ∉ c.sources) (hroom : c.size < capacity)
    (h : Regex.compile source = .ok r) :
    c.getOrCompile source = (.ok r, c.store source r) := by
  unfold getOrCompile
  rw [get?_eq_none_iff.mpr hfresh, h, makeRoom_of_lt hroom]
  rfl

theorem getOrCompile_of_refused (hsound : c.Sound) (h : Regex.compile source = .error e) :
    c.getOrCompile source = (.error e, c.makeRoom) := by
  have hgets := c.gets_getOrCompile source
  generalize c.getOrCompile source = result at hgets ⊢
  cases hgets with
  -- What is held has been accepted, so the request cannot be a hit.
  | hit hget => cases h.symm.trans (hsound _ _ hget)
  | stored _ hok => cases h.symm.trans hok
  | refused _ herror =>
      cases h.symm.trans herror
      rfl

theorem Reachable.nodup_sources (h : c.Reachable) : c.sources.Nodup := by
  induction h with
  | empty => exact List.nodup_nil
  | @compile c _ source ih =>
      have hroom := (sources_makeRoom_sublist c).nodup ih
      have hgets := c.gets_getOrCompile source
      generalize c.getOrCompile source = result at hgets ⊢
      cases hgets with
      | hit => exact ih
      | stored hget =>
          refine List.nodup_cons.mpr ⟨fun hmem => ?_, hroom⟩
          exact get?_eq_none_iff.mp hget ((sources_makeRoom_sublist c).subset hmem)
      | refused => exact hroom

theorem Reachable.size_le (h : c.Reachable) : c.size ≤ capacity := by
  induction h with
  | empty => decide
  | @compile c _ source ih =>
      have hgets := c.gets_getOrCompile source
      generalize c.getOrCompile source = result at hgets ⊢
      cases hgets with
      | hit => exact ih
      | stored => exact c.size_makeRoom_lt
      | refused => exact Nat.le_of_lt c.size_makeRoom_lt

/-- A cache holds patterns that are accepted, each once, with what they compile to, and no more of
them than its capacity. -/
structure Faithful (c : Cache) : Prop where
  compile_eq : ∀ source r, (source, r) ∈ c.entries → Regex.compile source = .ok r
  not_refused : ∀ source e, Regex.compile source = .error e → source ∉ c.sources
  nodup_sources : c.sources.Nodup
  size_le : c.size ≤ capacity

theorem Reachable.faithful (h : c.Reachable) : c.Faithful := by
  have hcompile (source : Text) (r : Regex) (hmem : (source, r) ∈ c.entries) :
      Regex.compile source = .ok r :=
    h.sound source r ((get?_eq_some_iff h.nodup_sources).mpr hmem)
  refine ⟨hcompile, fun source e herror hmem => ?_, h.nodup_sources, h.size_le⟩
  obtain ⟨⟨_, r⟩, hentry, rfl⟩ := List.mem_map.mp hmem
  cases herror.symm.trans (hcompile _ r hentry)

/-- A pattern that is accepted is held once it has been asked for, and so is all that was held
before, unless the pattern is new and the cache was full. -/
structure Keeps (c c' : Cache) (source : Text) (r : Regex) : Prop where
  mem_entries : (source, r) ∈ c'.entries
  entries_suffix : source ∈ c.sources ∨ c.size < capacity → c.entries <:+ c'.entries

theorem Sound.keeps (h : c.Sound) (hok : Regex.compile source = .ok r) :
    c.Keeps (c.getOrCompile source).2 source r := by
  have hgets := c.gets_getOrCompile source
  generalize c.getOrCompile source = result at hgets ⊢
  cases hgets with
  | hit hget =>
      cases hok.symm.trans (h _ _ hget)
      exact ⟨mem_entries_of_get? hget, fun _ => List.suffix_rfl⟩
  | stored hget hcompile =>
      cases hok.symm.trans hcompile
      refine ⟨List.mem_cons_self, fun hroom => ?_⟩
      rw [makeRoom_of_lt (hroom.resolve_left (get?_eq_none_iff.mp hget))]
      exact List.suffix_cons _ _
  | refused _ herror => cases hok.symm.trans herror

/-- What the program asks of a cache. -/
inductive Call
  | get (source : Text)
  | clear

def Call.source? : Call → Option Text
  | get source => some source
  | clear => none

/-- The cache behind some calls. -/
def after : List Call → Cache → Cache
  | [], c => c
  | .get source :: calls, c => after calls (c.getOrCompile source).2
  | .clear :: calls, c => after calls c.clear

/-- The answers to the requests among some calls. -/
def answers : List Call → Cache → List (Except Error Regex)
  | [], _ => []
  | .get source :: calls, c =>
      (c.getOrCompile source).1 :: answers calls (c.getOrCompile source).2
  | .clear :: calls, c => answers calls c.clear

theorem after_append (calls calls' : List Call) (c : Cache) :
    after (calls ++ calls') c = after calls' (after calls c) := by
  induction calls generalizing c with
  | nil => rfl
  | cons call calls ih =>
      cases call with
      | get source => exact ih _
      | clear => exact ih _

theorem Reachable.after (h : c.Reachable) (calls : List Call) : (after calls c).Reachable := by
  induction calls generalizing c with
  | nil => exact h
  | cons call calls ih =>
      cases call with
      | get source => exact ih (h.compile source)
      | clear => exact ih .empty

theorem reachable_iff : c.Reachable ↔ ∃ calls, after calls .empty = c := by
  constructor
  · intro h
    induction h with
    | empty => exact ⟨[], rfl⟩
    | @compile c _ source ih =>
        obtain ⟨calls, rfl⟩ := ih
        exact ⟨calls ++ [.get source], after_append calls [.get source] .empty⟩
  · rintro ⟨calls, rfl⟩
    exact Reachable.empty.after calls

theorem Sound.answers_eq (h : c.Sound) (calls : List Call) :
    answers calls c = (calls.filterMap Call.source?).map Regex.compile := by
  induction calls generalizing c with
  | nil => rfl
  | cons call calls ih =>
      cases call with
      | get source =>
          obtain ⟨hanswer, hsound⟩ := h.getOrCompile source
          rw [answers, hanswer, ih hsound]
          rfl
      | clear => exact ih sound_empty

/-- Whatever has been called before, each request is answered as by compiling its pattern; what the
cache then holds is what compiling gives, within its capacity; and it does hold what it is asked
for. -/
theorem answers_like_compile (calls : List Call) :
    answers calls .empty = (calls.filterMap Call.source?).map Regex.compile ∧
      (after calls .empty).Faithful ∧
      ∀ source r, Regex.compile source = .ok r →
        (after calls .empty).Keeps ((after calls .empty).getOrCompile source).2 source r := by
  have hreachable := reachable_iff.mpr ⟨calls, rfl⟩
  exact ⟨sound_empty.answers_eq calls, hreachable.faithful, fun _ _ => hreachable.sound.keeps⟩

/-- A pattern that is refused is answered with its error. The cache stays as it is exactly if it is
not full, and a full one is emptied; in either case every later answer is what it would have been
without the request. -/
theorem refused_leaves_iff (hc : c.Reachable) (h : Regex.compile source = .error e) :
    (c.getOrCompile source).1 = .error e ∧
      ((c.getOrCompile source).2.entries = c.entries ↔ c.size ≠ capacity) ∧
      (c.size = capacity → (c.getOrCompile source).2.entries = []) ∧
      ∀ calls, answers calls (c.getOrCompile source).2 = answers calls c := by
  have hlater (calls : List Call) :
      answers calls (c.getOrCompile source).2 = answers calls c := by
    rw [(hc.compile source).sound.answers_eq, hc.sound.answers_eq]
  rw [getOrCompile_of_refused hc.sound h] at hlater ⊢
  refine ⟨rfl, ⟨fun hsame hfull => ?_, fun hne => ?_⟩, fun hfull => ?_, hlater⟩
  · have hroom := c.size_makeRoom_lt
    rw [size, hsame] at hroom
    exact Nat.ne_of_lt hroom hfull
  · rw [makeRoom_of_lt (Nat.lt_of_le_of_ne hc.size_le hne)]
  · rw [makeRoom_of_le (Nat.le_of_eq hfull.symm)]
    rfl

theorem sources_after_get {sources : List Text} (hnodup : sources.Nodup)
    (haccepted : ∀ s ∈ sources, ∃ r, Regex.compile s = .ok r)
    (hfresh : ∀ s ∈ sources, s ∉ c.sources) (hroom : c.size + sources.length ≤ capacity) :
    (after (sources.map .get) c).sources = sources.reverse ++ c.sources := by
  induction sources generalizing c with
  | nil => rfl
  | cons s sources ih =>
      obtain ⟨hs, hnodup⟩ := List.nodup_cons.mp hnodup
      obtain ⟨⟨r, hr⟩, haccepted⟩ := List.forall_mem_cons.mp haccepted
      obtain ⟨hnew, hfresh⟩ := List.forall_mem_cons.mp hfresh
      rw [List.length_cons] at hroom
      have hget := getOrCompile_of_accepted hnew (by omega) hr
      have hfresh' : ∀ s' ∈ sources, s' ∉ (c.store s r).sources := by
        intro s' hs' hmem
        rcases List.mem_cons.mp hmem with rfl | hmem
        · exact hs hs'
        · exact hfresh s' hs' hmem
      have hroom' : (c.store s r).size + sources.length ≤ capacity := by
        rw [size_store]
        omega
      rw [List.map_cons, after, hget, ih hnodup haccepted hfresh' hroom', sources_store,
        List.reverse_cons, List.append_assoc, List.singleton_append]

def hexDigits : List Char := "0123456789abcdef".toList

/-- As many patterns as a cache can hold. -/
def hexSources : List Text := (hexDigits ×ˢ hexDigits).map fun p => [p.1, p.2]

/-- A cache without room for one more pattern. -/
def fullCache : Cache := after (hexSources.map .get) .empty

theorem nodup_hexSources : hexSources.Nodup := by
  have hdigits : hexDigits.Nodup := by decide
  refine (hdigits.product hdigits).map fun p q h => ?_
  simpa [Prod.ext_iff] using h

theorem length_hexSources : hexSources.length = capacity := by
  rw [hexSources, List.length_map, List.length_product]
  rfl

theorem accepted_hexSources : ∀ s ∈ hexSources, ∃ r, Regex.compile s = .ok r := by
  have hall : ∀ s ∈ hexSources, (Regex.compile s).toOption.isSome := by decide +kernel
  intro s hs
  obtain ⟨r, hr⟩ := Option.isSome_iff_exists.mp (hall s hs)
  exact ⟨r, Except.toOption_eq_some_iff.mp hr⟩

theorem size_fullCache : fullCache.size = capacity := by
  have hroom : Cache.empty.size + hexSources.length ≤ capacity := by
    rw [length_hexSources]
    decide
  have hsources : fullCache.sources = hexSources.reverse ++ Cache.empty.sources :=
    sources_after_get nodup_hexSources accepted_hexSources (fun _ _ => List.not_mem_nil) hroom
  rw [← length_sources, hsources, List.length_append, List.length_reverse, length_hexSources]
  rfl

theorem reachable_fullCache : fullCache.Reachable := Reachable.empty.after _

theorem refused_leaves_iff_full :
    Regex.compile ['('] = .error .unclosedGroup ∧ fullCache.Reachable ∧
      (fullCache.getOrCompile ['(']).1 = .error .unclosedGroup ∧
      (fullCache.getOrCompile ['(']).2.entries = [] ∧
      (Cache.empty.getOrCompile ['A']).2.Reachable ∧
      ((Cache.empty.getOrCompile ['A']).2.getOrCompile ['(']).2.entries =
        (Cache.empty.getOrCompile ['A']).2.entries := by
  have herror : Regex.compile ['('] = .error .unclosedGroup := rfl
  have hletter : (Cache.empty.getOrCompile ['A']).2.Reachable := .compile .empty ['A']
  obtain ⟨hanswer, -, hemptied, -⟩ := refused_leaves_iff reachable_fullCache herror
  obtain ⟨-, hsame, -⟩ := refused_leaves_iff hletter herror
  exact ⟨herror, reachable_fullCache, hanswer, hemptied size_fullCache, hletter,
    hsame.mpr (by decide)⟩

/-- A full cache is emptied before it turns out that the next pattern is refused. -/
theorem not_forall_refused_leaves :
    ¬ ∀ (c : Cache) (source : Text) (e : Error), c.Reachable → Regex.compile source = .error e →
      (c.getOrCompile source).1 = .error e ∧ (c.getOrCompile source).2.entries = c.entries := by
  intro h
  have hsame := (h fullCache ['('] .unclosedGroup reachable_fullCache rfl).2
  rw [getOrCompile_of_refused reachable_fullCache.sound rfl,
    makeRoom_of_le (Nat.le_of_eq size_fullCache.symm)] at hsame
  have hsize : fullCache.size = 0 := congrArg List.length hsame.symm
  rw [size_fullCache] at hsize
  cases hsize

end AnchorPatch.Regex.Cache
