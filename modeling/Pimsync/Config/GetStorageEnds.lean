import Pimsync.Config.GetStorageRuns

/-!
# Initialisers that end without a storage

While no initialiser fails, panics or is dropped (`Sound`), the maker of the notifier in the slot is at work (`Alive`),
so that a call which cannot go on is over (`Inv.returns`). A step that is not sound abandons the storage (`Abandoned`):
its slot stays `Initialising`, and no other call for it ever returns (`Abandoned.not_returned`).
-/

namespace Pimsync

variable {ι S : Type}

namespace Cell

/-- The step is not one that ends an initialiser before it has published. -/
def Sound (s : Cell ι S) : ι × Act S → Prop
  | (_, .initDone (.ok _ _)) => True
  | (_, .initDone _) => False
  | (c, .drop) => (s.pc c).makes = false
  | _ => True

/-- No initialiser has ended without publishing. -/
structure Alive (s : Cell ι S) : Prop where
  maker : ∀ k, s.value? = some (.initialising k) → (s.pc k).dead = false
  panicked : ∀ c, s.pc c ≠ .panicked

/-- The call `k` took the configuration and ended without publishing. -/
def Abandoned (k : ι) (s : Cell ι S) : Prop := s.value? = some (.initialising k) ∧ (s.pc k).dead = true

theorem dead_settled {p : Pc ι S} (h : p.dead = true) : p.settled = true := by
  cases p <;> simp_all [Pc.dead, Pc.settled]

theorem alive_initial (raw : Option Scfg) : (initial raw : Cell ι S).Alive := by
  refine ⟨fun k _ => rfl, fun c h => by cases h⟩

/-- No other call for an abandoned storage has returned. -/
theorem Abandoned.not_returned {s : Cell ι S} {k c : ι} (h : s.Inv) (ha : Abandoned k s) (hc : c ≠ k)
    (r : Except Error (S × Duration)) : s.pc c ≠ .returned r := by
  intro hr
  have hb := (h.phase_of ha.1).2.2 c hc
  rw [hr] at hb; exact hb

variable [DecidableEq ι]

/-- A step that does not touch the value keeps the maker alive, unless it is the maker that dies. -/
theorem Alive.go {s s' : Cell ι S} (h : s.Alive) {c : ι} {p : Pc ι S} (hpc : s'.pc = Function.update s.pc c p)
    (hv : s'.value? = s.value?) (hp : s.value? = some (.initialising c) → p.dead = false) (hp' : p ≠ .panicked) :
    s'.Alive := by
  refine ⟨fun k hk => ?_, fun c' => ?_⟩
  · rw [hv] at hk
    by_cases hkc : k = c
    · subst hkc; rw [hpc, Function.update_self]; exact hp hk
    · rw [hpc, Function.update_of_ne hkc]; exact h.maker k hk
  · by_cases hc : c' = c
    · subst hc; rw [hpc, Function.update_self]; exact hp'
    · rw [hpc, Function.update_of_ne hc]; exact h.panicked c'

theorem step_alive {name : String} {s s' : Cell ι S} {l : ι × Act S} (h : s.Inv) (ha : s.Alive) (hok : s.Sound l)
    (hs : Step name s l s') : s'.Alive := by
  cases step_effect h hs with
  | silent c p hpc hv hp =>
    refine ha.go hpc hv (fun _ => ?_) (by rintro rfl; cases hp)
    exact Bool.eq_false_iff.mpr fun hd => by rw [dead_settled hd] at hp; cases hp
  | undefined c _ hpc hv hv' => exact ha.go hpc hv' (by simp [hv]) (by simp)
  | produce c scfg st d _ hpc _ hv' => exact ha.go hpc hv' (fun _ => rfl) (by simp)
  | fail c => exact hok.elim
  | panic c => exact hok.elim
  | give c st d hpc hv hv' => exact ha.go hpc hv' (fun _ => rfl) (by simp)
  | drop c haw hpc hv =>
    refine ha.go hpc hv (fun hc => ?_) (by simp)
    -- the maker is initialising or dead: it is neither here
    have hm := (h.phase_of hc).2.1
    have hd := ha.maker c hc
    have hok : (s.pc c).makes = false := hok
    cases hp : s.pc c <;> simp_all [Pc.Maker, Pc.makes, Pc.dead]
    split at hm <;> simp_all
  | start c scfg hpc hv hv' =>
    refine ⟨fun k hk => ?_, fun c' => ?_⟩
    · obtain rfl : c = k := by simpa [hv'] using hk
      rw [hpc, Function.update_self]; rfl
    · by_cases hc : c' = c
      · subst hc; rw [hpc, Function.update_self]; simp
      · rw [hpc, Function.update_of_ne hc]; exact ha.panicked c'
  | publish c st d _ hpc hv hv' =>
    refine ⟨fun k hk => by simp [hv'] at hk, fun c' => ?_⟩
    by_cases hc : c' = c
    · subst hc; rw [hpc, Function.update_self]; simp
    · rw [hpc, Function.update_of_ne hc]; exact ha.panicked c'

/-- A step that is not sound abandons the storage. -/
theorem step_abandons {name : String} {s s' : Cell ι S} {c : ι} {a : Act S} (h : s.Inv) (hok : ¬ s.Sound (c, a))
    (hs : Step name s (c, a) s') : Abandoned c s' := by
  cases step_effect h hs with
  | fail _ scfg e _ hpc hv hv' => exact ⟨hv'.trans hv, by rw [hpc, Function.update_self]; rfl⟩
  | panic _ scfg _ hpc hv hv' => exact ⟨hv'.trans hv, by rw [hpc, Function.update_self]; rfl⟩
  | drop _ haw hpc hv =>
    have hm : (s.pc c).makes = true := by simpa [Sound] using hok
    exact ⟨hv.trans (h.value?_of_makes hm), by rw [hpc, Function.update_self]; rfl⟩
  | _ => exact absurd trivial hok

/-- An abandoned storage stays so. -/
theorem Abandoned.step {name : String} {s s' : Cell ι S} {k : ι} {l : ι × Act S} (h : s.Inv) (ha : Abandoned k s)
    (hs : Step name s l s') : Abandoned k s' := by
  obtain ⟨c, a⟩ := l
  have hck : k ≠ c := by
    rintro rfl
    have := hs.not_settled
    rw [dead_settled ha.2] at this; cases this
  have keep : ∀ p, s'.pc = Function.update s.pc c p → s'.value? = s.value? → Abandoned k s' := fun p hpc hv =>
    ⟨hv.trans ha.1, by rw [hpc, Function.update_of_ne hck]; exact ha.2⟩
  cases step_effect h hs with
  | silent _ p hpc hv => exact keep p hpc hv
  | undefined _ _ hpc _ hv | produce _ _ _ _ _ hpc _ hv | fail _ _ _ _ hpc _ hv | panic _ _ _ hpc _ hv
  | give _ _ _ hpc _ hv | drop _ _ hpc hv => exact keep _ hpc hv
  | start _ scfg _ hv => exact absurd (hv.symm.trans ha.1) (by simp)
  | publish _ st d _ _ hv => exact absurd (hv.symm.trans ha.1) (by simpa using Ne.symm hck)

/-- No call that has begun can go on, except by being dropped. -/
def Quiescent (name : String) (s : Cell ι S) : Prop :=
  ∀ c a s', Step name s (c, a) s' → s.pc c = .idle ∨ a = .drop

theorem Quiescent.not_moves {name : String} {s : Cell ι S} (hq : s.Quiescent name) {c : ι} (hc : s.pc c ≠ .idle) :
    ¬ Moves name s c := by
  rintro (⟨s', hs⟩ | ⟨s', hs⟩ | ⟨scfg, hpc⟩)
  · rcases hq c _ s' hs with h | h
    · exact hc h
    · cases h
  · rcases hq c _ s' hs with h | h
    · exact hc h
    · cases h
  -- an `init_storage` in progress can end
  · rcases hq c _ _ (.initErr s c scfg [] hpc) with h | h
    · exact hc h
    · cases h

/-- **Every call returns**: where no initialiser has died and no call can go on, every call that was made and not dropped
has returned. -/
theorem Inv.returns {name : String} {s : Cell ι S} (h : s.Inv) (ha : s.Alive) (hq : s.Quiescent name) (c : ι) :
    s.pc c = .idle ∨ s.pc c = .dropped ∨ ∃ r, s.pc c = .returned r := by
  by_cases hi : s.pc c = .idle
  · exact .inl hi
  rcases h.progress name c with hset | ⟨c', hm, hc'⟩ | ⟨k, lk, hsl, -, -, hd⟩
  · cases hpc : s.pc c with
    | returned r => exact .inr (.inr ⟨r, rfl⟩)
    | dropped => exact .inr (.inl rfl)
    | panicked => exact absurd hpc (ha.panicked c)
    | unreachable msg => exact absurd hpc (h.not_unreachable c msg)
    | _ => rw [hpc] at hset; cases hset
  · refine absurd hm (hq.not_moves ?_)
    rcases hc' with rfl | he
    · exact hi
    · intro hpc; rw [hpc] at he; cases he
  · exact absurd hd (by rw [ha.maker k (value?_eq hsl)]; simp)

end Cell

end Pimsync
