import AnchorPatch.Config.Cached

namespace AnchorPatch

namespace Regex.Cache

variable {c : Cache} {source : Text} {r : Regex}

/-- Every entry holds what its pattern compiles to. -/
def Sound (c : Cache) : Prop := ∀ source r, c.get? source = some r → Regex.compile source = .ok r

/-- The caches that the program can reach: the empty one, to which clearing returns, and whatever
compiling a pattern makes of one. -/
inductive Reachable : Cache → Prop
  | empty : Reachable .empty
  | compile {c : Cache} (h : Reachable c) (source : Text) : Reachable (c.getOrCompile source).2

theorem sound_empty : Sound .empty := by
  intro source r h
  cases h

theorem Sound.makeRoom (h : c.Sound) : c.makeRoom.Sound := by
  unfold Cache.makeRoom
  split
  · exact sound_empty
  · exact h

theorem Sound.insert (h : c.Sound) (hr : Regex.compile source = .ok r) :
    Sound { entries := (source, r) :: c.entries } := by
  intro source' r' h'
  simp only [get?, List.lookup_cons] at h'
  split at h'
  next heq =>
    obtain rfl := eq_of_beq heq
    exact Option.some.inj h' ▸ hr
  · exact h source' r' h'

/-- Compiling through a sound cache gives what compiling gives, and leaves a sound cache. -/
theorem Sound.getOrCompile (h : c.Sound) (source : Text) :
    (c.getOrCompile source).1 = Regex.compile source ∧ (c.getOrCompile source).2.Sound := by
  unfold Cache.getOrCompile
  rcases hget : c.get? source with _ | r
  · rcases hcompile : Regex.compile source with e | r
    · exact ⟨rfl, h.makeRoom⟩
    · exact ⟨rfl, h.makeRoom.insert hcompile⟩
  · exact ⟨(h source r hget).symm, h⟩

theorem Reachable.sound (h : c.Reachable) : c.Sound := by
  induction h with
  | empty => exact sound_empty
  | compile _ source ih => exact (ih.getOrCompile source).2

end Regex.Cache

open Regex (Cache)

namespace Caching

variable {α β ε ε' : Type}

/-- Over every sound cache the step gives this result, and leaves a sound cache. -/
def Gives (x : Caching α) (a : α) : Prop := ∀ c : Cache, c.Sound → ∃ c', x.run c = (a, c') ∧ c'.Sound

theorem Gives.fst {x : Caching α} {a : α} (h : x.Gives a) {c : Cache} (hc : c.Sound) :
    (x.run c).1 = a := by
  obtain ⟨c', hrun, -⟩ := h c hc
  rw [hrun]

theorem gives_pure (a : α) : Gives (pure a) a := fun c hc => ⟨c, rfl, hc⟩

theorem Gives.bind {x : Caching α} {f : α → Caching β} {a : α} {b : β} (hx : x.Gives a)
    (hf : (f a).Gives b) : Gives (x >>= f) b := by
  intro c hc
  obtain ⟨c', hrun, hc'⟩ := hx c hc
  obtain ⟨c'', hrun', hc''⟩ := hf c' hc'
  exact ⟨c'', by rw [StateT.run_bind, hrun]; exact hrun', hc''⟩

theorem gives_getOrCompile (source : Text) :
    Gives (modifyGet fun cache => cache.getOrCompile source) (Regex.compile source) := by
  intro c hc
  obtain ⟨hresult, hsound⟩ := hc.getOrCompile source
  rw [← hresult]
  exact ⟨_, rfl, hsound⟩

theorem Gives.map {x : Caching α} {a : α} (hx : x.Gives a) (g : α → β) : Gives (g <$> x) (g a) := by
  rw [map_eq_pure_bind]
  exact hx.bind (gives_pure _)

theorem Gives.andThen {x : ExceptT ε Caching α} {f : α → ExceptT ε Caching β} {a : Except ε α}
    {g : α → Except ε β} (hx : Gives x.run a) (hf : ∀ v, Gives (f v).run (g v)) :
    Gives (x >>= f).run (a >>= g) := by
  rw [ExceptT.run_bind]
  refine hx.bind ?_
  cases a with
  | ok v => exact hf v
  | error e => exact gives_pure _

theorem Gives.adapt {x : ExceptT ε Caching α} {a : Except ε α} (hx : Gives x.run a)
    (f : ε → ε') : Gives (x.adapt f).run (a.mapError f) := by
  rw [ExceptT.run_adapt]
  exact hx.map _

theorem gives_mapM {f : α → ExceptT ε Caching β} {g : α → Except ε β}
    (h : ∀ v, Gives (f v).run (g v)) (l : List α) : Gives (l.mapM f).run (l.mapM g) := by
  induction l with
  | nil => exact gives_pure _
  | cons v l ih =>
      rw [List.mapM_cons, List.mapM_cons]
      exact (h v).andThen fun w => ih.andThen fun ws => gives_pure _

theorem gives_mapM_option {f : α → ExceptT ε Caching β} {g : α → Except ε β}
    (h : ∀ v, Gives (f v).run (g v)) (o : Option α) : Gives (o.mapM f).run (o.mapM g) := by
  cases o with
  | none => exact gives_pure _
  | some v => exact (h v).andThen fun w => gives_pure _

end Caching

end AnchorPatch
