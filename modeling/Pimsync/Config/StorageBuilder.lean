import Pimsync.Config.GetStorageEnds

/-!
# Runs of a `StorageBuilder`

The calls for every storage of a builder, in any interleaving:

- `get_storage_once`: `init_storage` is called at most once for a storage, and every call that succeeds returns what it
  made;
- `get_storage_returns`: if no initialiser fails or is dropped, every call returns; after one has, no other call for the
  storage ever does.

The runs of one call alone (`run_init`, `run_published`, `run_waiting`, `run_woken`) put together the runs that show both.
-/

namespace Pimsync

variable {ι S : Type}

namespace Cell

@[simp] theorem put_put (s : Cell ι S) (sl sl' : Slot ι S) : (s.put sl).put sl' = s.put sl' := rfl

theorem put_self {s : Cell ι S} {sl : Slot ι S} (h : s.slot = some sl) : s.put sl = s := by
  cases s; simp_all [put]

variable [DecidableEq ι]

@[simp] theorem go_go (s : Cell ι S) (c : ι) (p q : Pc ι S) : (s.go c p).go c q = s.go c q := by simp [go]

@[simp] theorem put_go (s : Cell ι S) (c : ι) (p : Pc ι S) (sl : Slot ι S) : (s.go c p).put sl = (s.put sl).go c p := rfl

@[simp] theorem wake_go (s : Cell ι S) (c k : ι) (p : Pc ι S) : (s.go c p).wake k = (s.wake k).go c p := rfl

/-! ## The runs of one call alone -/

section Solo

variable {name : String} {s t u : Cell ι S} {l : ι × Act S} {tr : List (ι × Act S)} {c k : ι} {v : LazyStorage ι S}
  {scfg : Scfg} {st : S} {d : Duration}

theorem Step.run (hs : Step name s l t) (ht : t = u) : (getStorage name).Run s [l] u := .single (ht ▸ hs)

theorem Step.andThen (hs : Step name s l t) (ht : t = u) {w : Cell ι S} (h : (getStorage name).Run u tr w) :
    (getStorage name).Run s (l :: tr) w := .cons (L := getStorage name) (ht ▸ hs) h

/-- A call that comes to the mutex when it is free takes it. -/
theorem run_locked (hpc : s.pc c = .idle) (hsl : s.slot = some ⟨none, v⟩) :
    (getStorage name).Run s [(c, .poll), (c, .poll)] ((s.put ⟨some c, v⟩).go c .locked) :=
  (Step.enter s c _ hpc hsl).andThen rfl ((Step.lock _ c v (go_pc_self ..) hsl).run (by simp))

/-- The first call takes the configuration. -/
theorem run_init (hpc : s.pc c = .idle) (hsl : s.slot = some ⟨none, .raw scfg⟩) :
    (getStorage name).Run s [(c, .poll), (c, .poll), (c, .poll), (c, .initStorage)]
      ((s.put ⟨none, .initialising c⟩).go c (.init scfg)) :=
  (run_locked hpc hsl).append <| (Step.seeRaw _ c _ scfg (go_pc_self ..) rfl).andThen (go_go ..) <|
    (Step.swapRaw _ c _ scfg (go_pc_self ..) rfl).run (by simp)

/-- The initialiser publishes what it has made. -/
theorem run_published (hpc : s.pc c = .publish st d) (hsl : s.slot = some ⟨none, .initialising c⟩) :
    (getStorage name).Run s [(c, .poll), (c, .poll), (c, .poll)]
      (((s.put ⟨none, .ready st d⟩).wake c).go c (.returned (.ok (st, d)))) :=
  (Step.lockPublish s c _ st d hpc hsl).andThen rfl <|
    (Step.swapReady _ c c _ st d (go_pc_self ..) rfl).andThen (u := (s.put ⟨none, .ready st d⟩).go c (.notify c st d))
      (by simp) <| (Step.notify _ c c st d (go_pc_self ..)).run (by simp)

/-- A call that comes while the storage is made waits. -/
theorem run_waiting (hpc : s.pc c = .idle) (hsl : s.slot = some ⟨none, .initialising k⟩) :
    (getStorage name).Run s [(c, .poll), (c, .poll), (c, .poll)] (s.go c (.waiting k (s.notified k))) :=
  (run_locked hpc hsl).append <| (Step.seeInitialising _ c k _ (go_pc_self ..) rfl).run
    (by rw [put_go, put_put, put_self hsl, go_go]; rfl)

/-- A call that was waiting when the notifier fired returns the storage. -/
theorem run_woken {calls : ℕ} (hpc : s.pc c = .waiting k calls) (hlt : calls < s.notified k)
    (hsl : s.slot = some ⟨none, .ready st d⟩) :
    (getStorage name).Run s [(c, .poll), (c, .poll), (c, .poll)] (s.go c (.returned (.ok (st, d)))) :=
  (Step.woken s c k calls hpc hlt).andThen rfl <|
    (Step.relock _ c _ (go_pc_self ..) hsl).andThen (u := (s.put ⟨some c, .ready st d⟩).go c .relocked) (by simp) <|
      (Step.readReady _ c _ st d (go_pc_self ..) rfl).run (by simp [put_self hsl])

/-- What two calls do, the second of which comes while the first is making the storage. -/
def sharedCalls (c k : ι) (st : S) (d : Duration) : List (ι × Act S) :=
  [(c, .poll), (c, .poll), (c, .poll), (c, .initStorage), (k, .poll), (k, .poll), (k, .poll), (c, .initDone (.ok st d)),
    (c, .poll), (c, .poll), (c, .poll), (k, .poll), (k, .poll), (k, .poll)]

/-- Two calls share what the first has made. -/
theorem run_shared {ok : Cell ι S → ι × Act S → Prop} (hne : c ≠ k) (hpc : s.pc c = .idle) (hpk : s.pc k = .idle)
    (hsl : s.slot = some ⟨none, .raw scfg⟩) (hpoll : ∀ t k', k' = c ∨ k' = k → ok t (k', .poll))
    (hinit : ∀ t, ok t (c, .initStorage)) (hdone : ∀ t : Cell ι S, t.pc c = .init scfg → ok t (c, .initDone (.ok st d))) :
    ∃ t, (getStorage name).RunWith ok s (sharedCalls c k st d) t ∧ t.pc c = .returned (.ok (st, d)) ∧
      t.pc k = .returned (.ok (st, d)) := by
  let s₁ := (s.put ⟨none, .initialising c⟩).go c (.init scfg)
  let s₂ := s₁.go k (.waiting c (s.notified c))
  let s₃ := s₂.go c (.publish st d)
  let s₄ := ((s₃.put ⟨none, .ready st d⟩).wake c).go c (.returned (.ok (st, d)))
  have hc : s₂.pc c = .init scfg := (Function.update_of_ne hne ..).trans (go_pc_self ..)
  have hk : s₄.pc k = .waiting c (s.notified c) :=
    (Function.update_of_ne hne.symm ..).trans <| (Function.update_of_ne hne.symm ..).trans <| Function.update_self ..
  have hnotified : s₄.notified c = s.notified c + 1 := Function.update_self ..
  have h₁ : (getStorage name).Run s [_, _, _, _] s₁ := run_init hpc hsl
  have h₂ : (getStorage name).Run s₁ [_, _, _] s₂ := run_waiting ((Function.update_of_ne hne.symm ..).trans hpk) rfl
  have h₃ : (getStorage name).RunWith ok s₂ [(c, .initDone (.ok st d))] s₃ :=
    .single (hdone s₂ hc) (.initOk s₂ c scfg st d hc)
  have h₄ : (getStorage name).Run s₃ [_, _, _] s₄ := run_published (Function.update_self ..) rfl
  have h₅ : (getStorage name).Run s₄ [_, _, _] (s₄.go k (.returned (.ok (st, d)))) :=
    run_woken hk (by rw [hnotified]; exact Nat.lt_succ_self _) rfl
  have h₁₂ := Lts.Run.runWith (h₁.append h₂) ok (by simp [hpoll, hinit])
  have h₄₅ := Lts.Run.runWith (h₄.append h₅) ok (by simp [hpoll])
  exact ⟨_, (h₁₂.append h₃).append h₄₅, (Function.update_of_ne hne ..).trans (go_pc_self ..), Function.update_self ..⟩

end Solo

/-! ## Initialised once -/

/-- The label is a call of `init_storage`. -/
def starts : ι × Act S → Bool
  | (_, .initStorage) => true
  | _ => false

omit [DecidableEq ι] in
theorem countP_starts (tr : List (ι × Act S)) :
    tr.countP starts = (tr.filterMap shown).countP fun
      | .start _ => true
      | .produce _ _ => false := by
  rw [List.countP_filterMap]
  congr 1
  funext ⟨c, a⟩
  rcases a with _ | _ | (_ | _ | _) | _ <;> rfl

end Cell

variable [DecidableEq ι] {raw : String → Option Scfg} {tr : List (String × ι × Act S)} {s : String → Cell ι S}

/-- The calls for one storage, in a run of the builder. -/
theorem StorageBuilder.run_cell (hr : StorageBuilder.calls.Run (StorageBuilder.new raw) tr s) (name : String) :
    (getStorage name).Run (Cell.initial (raw name)) (Lts.only name tr) (s name) :=
  Lts.RunWith.component (L := getStorage) (fun _ _ _ => True) hr name

/-- **A storage is initialised once**: in every run and for every storage, `init_storage` is called at most once, the slot
goes from `Raw` to `Initialising` to `Ready`, every call that succeeds returns what the one `init_storage` made, and no
`unreachable!` is reached. -/
theorem get_storage_once (hr : StorageBuilder.calls.Run (StorageBuilder.new raw) tr s) (name : String) :
    (Lts.only name tr).countP Cell.starts ≤ 1 ∧
    (∀ l s', StorageBuilder.calls.step s l s' → Cell.SlotMove (s name).value? (s' name).value?) ∧
    (∀ c r, (s name).pc c = .returned (.ok r) →
      ∃ k, (Lts.only name tr).filterMap Cell.shown = [.start k, .produce k r]) ∧
    (∀ c c' r r', (s name).pc c = .returned (.ok r) → (s name).pc c' = .returned (.ok r') → r = r') ∧
    ∀ c msg, (s name).pc c ≠ .unreachable msg := by
  have hr' := StorageBuilder.run_cell hr name
  have hi := Cell.run_inv hr'
  obtain ⟨cell, hsh, hret⟩ := Cell.run_shown hr'
  refine ⟨?_, fun l s' hs => ?_, fun c r h => ?_, fun c c' r r' h h' => ?_, hi.not_unreachable⟩
  · rw [Cell.countP_starts, hsh]
    cases cell <;> simp [OneShot.Cell.past]
  · obtain ⟨u, hu, rfl⟩ := hs
    by_cases hl : l.1 = name
    · subst hl
      rw [Function.update_self]
      exact Cell.step_slotMove hi hu
    · rw [Function.update_of_ne (Ne.symm hl)]
      exact .inl rfl
  · obtain ⟨k, rfl⟩ := hret c r h
    exact ⟨k, hsh⟩
  · obtain ⟨k, hk⟩ := hret c r h
    obtain ⟨k', hk'⟩ := hret c' r' h'
    rw [hk] at hk'
    cases hk'; rfl

/-- Two calls for one storage, the second of which comes while the first is initialising it. -/
def sharedRun : List (String × Bool × Act String) := (Cell.sharedCalls false true "dav" 60).map ("home", ·)

/-- Both calls of `sharedRun` return. -/
theorem sharedRun_run : ∃ t : Cell Bool String, (∀ c, t.pc c = .returned (.ok ("dav", 60))) ∧
    StorageBuilder.calls.Run (StorageBuilder.new fun _ => some []) sharedRun
      (Function.update (StorageBuilder.new fun _ => some []) "home" t) := by
  obtain ⟨t, hr, hfirst, hsecond⟩ : ∃ t : Cell Bool String,
      (getStorage "home").Run (.initial (some [])) (Cell.sharedCalls false true "dav" 60) t ∧
        t.pc false = .returned (.ok ("dav", 60)) ∧ t.pc true = .returned (.ok ("dav", 60)) :=
    Cell.run_shared Bool.false_ne_true rfl rfl rfl (fun _ _ _ => trivial) (fun _ => trivial) fun _ _ => trivial
  exact ⟨t, Bool.forall_bool.mpr ⟨hfirst, hsecond⟩, Lts.Run.pi (L := getStorage) (k := "home") hr⟩

theorem get_storage_once_shared : ∃ s : String → Cell Bool String,
    (∀ c, (s "home").pc c = .returned (.ok ("dav", 60))) ∧ (Lts.only "home" sharedRun).countP Cell.starts ≤ 1 ∧
      ∀ c r, (s "home").pc c = .returned (.ok r) →
        ∃ k, (Lts.only "home" sharedRun).filterMap Cell.shown = [.start k, .produce k r] := by
  obtain ⟨t, ht, hr⟩ := sharedRun_run
  have h := get_storage_once hr "home"
  exact ⟨_, by rwa [Function.update_self], h.1, h.2.2.1⟩

/-! ## Every call returns -/

/-- No call that has begun can go on, except by being dropped. -/
def StorageBuilder.Quiescent (s : String → Cell ι S) : Prop :=
  ∀ name c a s', StorageBuilder.calls.step s (name, c, a) s' → (s name).pc c = .idle ∨ a = .drop

theorem StorageBuilder.Quiescent.cell (h : StorageBuilder.Quiescent s) (name : String) : (s name).Quiescent name :=
  fun c a u hu => h name c a _ ⟨u, hu, rfl⟩

/-- Nothing can go on in a builder that has been called for one storage only, once nothing can there. -/
theorem StorageBuilder.quiescent_update {name : String} {t : Cell ι S} (h : t.Quiescent name) :
    StorageBuilder.Quiescent (Function.update (StorageBuilder.new raw) name t) := by
  rintro name' c a _ ⟨u, hu, -⟩
  by_cases hn : name' = name
  · subst hn
    simp only [Function.update_self] at hu ⊢
    exact h c a u hu
  · rw [Function.update_of_ne hn]
    exact .inl rfl

/-- The call was never made, or was dropped, or has returned. -/
def Pc.Over (p : Pc ι S) : Prop := p = .idle ∨ p = .dropped ∨ ∃ r, p = .returned r

/-- **Every call returns**: in a run none of whose steps ends an initialiser before it has published, every call that was
made and not dropped has returned once nothing can go on. After a step that does end one, no other call for its storage
ever returns. -/
theorem get_storage_returns :
    (StorageBuilder.calls.RunWith (fun s l => (s l.1).Sound l.2) (StorageBuilder.new raw) tr s →
      StorageBuilder.Quiescent s → ∀ name c, ((s name).pc c).Over) ∧
    (StorageBuilder.calls.Run (StorageBuilder.new raw) tr s → ∀ name c a s₁ tr₂ s₂, ¬ (s name).Sound (c, a) →
      StorageBuilder.calls.step s (name, c, a) s₁ → StorageBuilder.calls.Run s₁ tr₂ s₂ →
      ∀ c' r, c' ≠ c → (s₂ name).pc c' ≠ .returned r) := by
  constructor
  · intro hr hq name c
    have hr' := Lts.RunWith.component (L := getStorage) (fun _ => Cell.Sound) hr name
    have ha : (s name).Inv ∧ (s name).Alive := by
      refine hr'.invariant (I := fun s => s.Inv ∧ s.Alive) ⟨Cell.inv_initial _, Cell.alive_initial _⟩ ?_
      exact fun t l u ⟨hi, ha⟩ hok hs => ⟨Cell.step_inv hi hs, Cell.step_alive hi ha hok hs⟩
    exact ha.1.returns ha.2 (hq.cell name) c
  · intro hr name c a s₁ tr₂ s₂ hok hs hr₂ c' r hc
    have hi := Cell.run_inv (StorageBuilder.run_cell hr name)
    obtain ⟨u, hu, rfl⟩ := hs
    have hr₂' := Lts.RunWith.component (L := getStorage) (fun _ _ _ => True) hr₂ name
    rw [Function.update_self] at hr₂'
    have ha : (s₂ name).Inv ∧ Cell.Abandoned c (s₂ name) := by
      refine hr₂'.invariant (I := fun s => s.Inv ∧ Cell.Abandoned c s) ⟨Cell.step_inv hi hu, Cell.step_abandons hi hok hu⟩ ?_
      exact fun t l u ⟨hi, ha⟩ _ hs => ⟨Cell.step_inv hi hs, ha.step hi hs⟩
    exact ha.2.not_returned ha.1 hc r

theorem get_storage_returns_shared : ∃ s : String → Cell Bool String,
    StorageBuilder.calls.RunWith (fun s l => (s l.1).Sound l.2) (StorageBuilder.new fun _ => some []) sharedRun s ∧
      ∀ name c, ((s name).pc c).Over := by
  obtain ⟨t, ht, hr⟩ := sharedRun_run
  have hr' := hr.runWith (fun s l => (s l.1).Sound l.2) (by simp [sharedRun, Cell.sharedCalls, Cell.Sound])
  refine ⟨_, hr', get_storage_returns.1 hr' (StorageBuilder.quiescent_update fun c a s' hs => ?_)⟩
  have := hs.not_settled
  rw [ht] at this; cases this

/-- **A call can wait for ever**: `init_storage` fails while another call waits for its result. -/
theorem get_storage_hangs : ¬ ∀ (raw : String → Option Scfg) (tr : List (String × Bool × Act String))
    (s : String → Cell Bool String), StorageBuilder.calls.Run (StorageBuilder.new raw) tr s →
    StorageBuilder.Quiescent s → ∀ name c, ((s name).pc c).Over := by
  let s₀ : Cell Bool String := .initial (some [])
  let s₁ := (s₀.put ⟨none, .initialising false⟩).go false (.init [])
  let s₂ := s₁.go true (.waiting false 0)
  let s₃ := s₂.go false (.returned (.error ["Initialising storage home", "connection refused"]))
  have h₁ : (getStorage "home").Run s₀ _ s₁ := Cell.run_init rfl rfl
  have h₂ : (getStorage "home").Run s₁ _ s₂ := Cell.run_waiting rfl rfl
  have h₃ : (getStorage "home").Run s₂ _ s₃ := (Cell.Step.initErr _ false [] ["connection refused"] rfl).run rfl
  have hr := Lts.Run.pi (L := getStorage) (s := StorageBuilder.new fun _ => some []) (k := "home")
    ((h₁.append h₂).append h₃)
  have hpc : s₃.pc true = .waiting false 0 := rfl
  intro h
  refine absurd (h _ _ _ hr (StorageBuilder.quiescent_update fun c a s' hs => ?_) "home" true) ?_
  · cases c with
    | false => exact absurd hs.not_settled (by decide)
    | true =>
      cases hs with
      | woken _ k n hw hlt =>
        cases hpc.symm.trans hw
        exact absurd hlt (Nat.lt_irrefl 0)
      | drop => exact .inr rfl
      | _ => simp_all
  · rw [Function.update_self, Pc.Over, hpc]
    simp

end Pimsync
