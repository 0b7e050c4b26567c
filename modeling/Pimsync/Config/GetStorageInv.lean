import Pimsync.Config.GetStorage

/-!
# The invariant of `get_storage`

While the slot is `Raw`, no call is past the `match`. While it is `Initialising`, one call, the maker of the notifier,
is initialising or dead, and every other call is before the mutex or waits for that notifier, which has not fired. Once it
is `Ready`, the maker is about to fire its notifier or has done so, and whatever a call returned is what the slot holds.
-/

namespace Pimsync

variable {ι S : Type}

namespace Pc

/-- What a call may be at while the slot is `Raw`. -/
def Early : Pc ι S → Prop
  | .idle | .lock | .locked | .sawRaw | .dropped => True
  | _ => False

/-- What the call that swapped `Initialising` in may be at until it swaps it out. -/
def Maker : Pc ι S → Prop
  | .init _ | .publish _ _ | .publishing _ _ | .returned (.error _) | .dropped | .panicked => True
  | _ => False

/-- What every other call may be at meanwhile. -/
def Bystander (k : ι) : Pc ι S → Prop
  | .idle | .lock | .locked | .dropped => True
  | .waiting k' calls => k' = k ∧ calls = 0
  | _ => False

/-- What the maker may be at once the slot is `Ready`, its notifier having fired `n` times. -/
def Publisher (k : ι) (n : ℕ) (r : S × Duration) : Pc ι S → Prop
  | .notify k' st d => k' = k ∧ (st, d) = r ∧ n = 0
  | .returned (.ok r') => r' = r ∧ 0 < n
  | _ => False

/-- What every other call may be at then. -/
def Late (k : ι) (r : S × Duration) : Pc ι S → Prop
  | .idle | .lock | .locked | .relock | .relocked | .dropped => True
  | .waiting k' calls => k' = k ∧ calls = 0
  | .returned (.ok r') => r' = r
  | _ => False

/-- What a call for a storage that is not defined may be at. -/
def Lost : Pc ι S → Prop
  | .idle | .dropped | .returned (.error _) => True
  | _ => False

end Pc

namespace Cell

/-- Which program points go with the value under the mutex. -/
def Phase (s : Cell ι S) : LazyStorage ι S → Prop
  | .raw _ => (∀ c, s.notified c = 0) ∧ ∀ c, (s.pc c).Early
  | .initialising k => s.notified k = 0 ∧ (s.pc k).Maker ∧ ∀ c, c ≠ k → (s.pc c).Bystander k
  | .ready st d => ∃ k, (s.pc k).Publisher k (s.notified k) (st, d) ∧ ∀ c, c ≠ k → (s.pc c).Late k (st, d)

structure Inv (s : Cell ι S) : Prop where
  lost : s.slot = none → ∀ c, (s.pc c).Lost
  lock : ∀ sl, s.slot = some sl → ∀ c, sl.lock = some c ↔ (s.pc c).holds = true
  phase : ∀ sl, s.slot = some sl → s.Phase sl.value

theorem inv_initial (raw : Option Scfg) : (initial raw : Cell ι S).Inv := by
  constructor
  · intro _ c; trivial
  · intro sl h c
    obtain ⟨scfg, -, rfl⟩ := Option.map_eq_some_iff.mp h
    simp [initial, Pc.holds]
  · intro sl h
    obtain ⟨scfg, -, rfl⟩ := Option.map_eq_some_iff.mp h
    exact ⟨fun _ => rfl, fun _ => trivial⟩

/-- A call that does not hold the guard is a bystander once another call has taken the configuration. -/
theorem early_bystander {p : Pc ι S} {k : ι} (h : p.Early) (hp : p.holds = false) : p.Bystander k := by
  cases p <;> simp_all [Pc.Early, Pc.Bystander, Pc.holds]

theorem bystander_late {p : Pc ι S} {k : ι} {r : S × Duration} (h : p.Bystander k) : p.Late k r := by
  cases p <;> simp_all [Pc.Late, Pc.Bystander]

/-- The invariant of a storage that is defined. -/
theorem Inv.of_some {s : Cell ι S} {sl : Slot ι S} (hsl : s.slot = some sl)
    (hl : ∀ c, sl.lock = some c ↔ (s.pc c).holds = true) (hp : s.Phase sl.value) : s.Inv := by
  refine ⟨fun h => ?_, fun sl' h => ?_, fun sl' h => ?_⟩
  · rw [hsl] at h; cases h
  · rw [hsl] at h; cases h; exact hl
  · rw [hsl] at h; cases h; exact hp

/-- A call that has begun and has not failed is for a storage that is defined. -/
theorem Inv.defined {s : Cell ι S} (h : s.Inv) {c : ι} (hc : ¬ (s.pc c).Lost) : ∃ lk v, s.slot = some ⟨lk, v⟩ := by
  rcases hsl : s.slot with _ | ⟨lk, v⟩
  · exact absurd (h.lost hsl c) hc
  · exact ⟨lk, v, rfl⟩

/-- At most one call holds the guard. -/
theorem Inv.holder_unique {s : Cell ι S} (h : s.Inv) {sl : Slot ι S} (hsl : s.slot = some sl) {c c' : ι}
    (hc : (s.pc c).holds = true) (hc' : (s.pc c').holds = true) : c = c' := by
  have h₁ := (h.lock sl hsl c).mpr hc
  rw [(h.lock sl hsl c').mpr hc'] at h₁
  exact (Option.some.inj h₁).symm

variable [DecidableEq ι]

@[simp] theorem go_pc_self (s : Cell ι S) (c : ι) (p : Pc ι S) : (s.go c p).pc c = p := by simp [go]

theorem go_pc_ne (s : Cell ι S) {c c' : ι} (h : c' ≠ c) (p : Pc ι S) : (s.go c p).pc c' = s.pc c' := by simp [go, h]

/-- A property of all program points, after one has moved. -/
theorem forall_go {s : Cell ι S} {c : ι} {p : Pc ι S} {P : ι → Pc ι S → Prop} (hp : P c p)
    (h : ∀ c', c' ≠ c → P c' (s.pc c')) (c' : ι) : P c' ((s.go c p).pc c') := by
  by_cases hc : c' = c
  · subst hc; rwa [go_pc_self]
  · rw [go_pc_ne _ hc]; exact h c' hc

/-- The invariant after a step of `c` that sets the slot: it is about the program points alone. -/
theorem Inv.of_put {s : Cell ι S} {c : ι} {p : Pc ι S} {sl : Slot ι S}
    (hl : ∀ c', sl.lock = some c' ↔ ((s.go c p).pc c').holds = true) (hp : (s.go c p).Phase sl.value) :
    ((s.put sl).go c p).Inv := .of_some rfl hl hp

/-! ## The mutex -/

section Lock

variable {s : Cell ι S} {c : ι} {p : Pc ι S} {sl : Slot ι S}

/-- A move that neither takes nor releases the guard. -/
theorem lock_go (h : s.Inv) (hsl : s.slot = some sl) (hp : p.holds = (s.pc c).holds) :
    ∀ c', sl.lock = some c' ↔ ((s.go c p).pc c').holds = true :=
  forall_go (P := fun c' q => sl.lock = some c' ↔ q.holds = true) (by rw [hp]; exact h.lock sl hsl c)
    fun c' _ => h.lock sl hsl c'

/-- Taking the free guard. -/
theorem lock_take (h : s.Inv) {v : LazyStorage ι S} (hsl : s.slot = some ⟨none, v⟩) (hp : p.holds = true) :
    ∀ c', some c = some c' ↔ ((s.go c p).pc c').holds = true :=
  forall_go (P := fun c' q => some c = some c' ↔ q.holds = true) (by simp [hp]) fun c' hc => by
    rw [← h.lock _ hsl c']
    simp [Ne.symm hc]

/-- Releasing the guard. -/
theorem lock_release (h : s.Inv) (hsl : s.slot = some sl) (hc : (s.pc c).holds = true) (hp : p.holds = false) :
    ∀ c', none = some c' ↔ ((s.go c p).pc c').holds = true :=
  forall_go (P := fun c' q => none = some c' ↔ q.holds = true) (by simp [hp]) fun c' hcc =>
    ⟨fun e => (by cases e), fun hc' => absurd (h.holder_unique hsl hc' hc) hcc⟩

end Lock

/-! ## The phases -/

section Phase

variable {s : Cell ι S} {c : ι} {p : Pc ι S}

/-- A move of a call that every phase allows. -/
structure Fits (p q : Pc ι S) : Prop where
  early : p.Early → q.Early
  maker : p.Maker → q.Maker
  bystander : ∀ k : ι, p.Bystander k → q.Bystander k
  publisher : ∀ (k : ι) n r, p.Publisher k n r → q.Publisher k n r
  late : ∀ (k : ι) r, p.Late k r → q.Late k r

/-- The moves of a call that the others do not notice. -/
inductive Unnoticed : Pc ι S → Pc ι S → Prop
  | enter : Unnoticed .idle .lock
  | lock : Unnoticed .lock .locked
  | initOk (scfg : Scfg) (st : S) (d : Duration) : Unnoticed (.init scfg) (.publish st d)
  | initErr (scfg : Scfg) (e : Error) : Unnoticed (.init scfg) (.returned (.error e))
  | initPanic (scfg : Scfg) : Unnoticed (.init scfg) .panicked
  | lockPublish (st : S) (d : Duration) : Unnoticed (.publish st d) (.publishing st d)
  | relock : Unnoticed .relock .relocked

omit [DecidableEq ι] in
theorem Unnoticed.fits {p q : Pc ι S} (h : Unnoticed p q) : Fits p q := by
  cases h <;> constructor <;> simp [Pc.Early, Pc.Maker, Pc.Bystander, Pc.Publisher, Pc.Late]

/-- Where a call may be, by what the slot holds. -/
theorem Phase.at {v : LazyStorage ι S} (h : s.Phase v) (c : ι) :
    (∃ scfg, v = .raw scfg ∧ (s.pc c).Early) ∨
    (∃ k, v = .initialising k ∧ (c = k ∧ (s.pc c).Maker ∨ (s.pc c).Bystander k)) ∨
    ∃ st d k, v = .ready st d ∧ (c = k ∧ (s.pc c).Publisher k (s.notified k) (st, d) ∨ (s.pc c).Late k (st, d)) ∧
      ∀ c', c' ≠ k → (s.pc c').Late k (st, d) := by
  cases v with
  | raw scfg => exact .inl ⟨scfg, rfl, h.2 c⟩
  | initialising k =>
    refine .inr (.inl ⟨k, rfl, ?_⟩)
    by_cases hc : c = k
    · exact .inl ⟨hc, hc ▸ h.2.1⟩
    · exact .inr (h.2.2 c hc)
  | ready st d =>
    obtain ⟨k, hk, hl⟩ := h
    refine .inr (.inr ⟨st, d, k, rfl, ?_, hl⟩)
    by_cases hc : c = k
    · exact .inl ⟨hc, hc ▸ hk⟩
    · exact .inr (hl c hc)

theorem Phase.go {v : LazyStorage ι S} (h : s.Phase v) (hf : Fits (s.pc c) p) : (s.go c p).Phase v := by
  cases v with
  | raw scfg => exact ⟨h.1, forall_go (hf.early (h.2 c)) fun c' _ => h.2 c'⟩
  | initialising k =>
    obtain ⟨hn, hk, hb⟩ := h
    refine ⟨hn, ?_, forall_go (P := fun c' q => c' ≠ k → q.Bystander k) (fun e => hf.bystander k (hb c e))
      fun c' _ => hb c'⟩
    by_cases hc : k = c
    · subst hc; rw [go_pc_self]; exact hf.maker hk
    · rw [go_pc_ne _ hc]; exact hk
  | ready st d =>
    obtain ⟨k, hk, hl⟩ := h
    refine ⟨k, ?_, forall_go (P := fun c' q => c' ≠ k → q.Late k (st, d)) (fun e => hf.late k _ (hl c e))
      fun c' _ => hl c'⟩
    by_cases hc : k = c
    · subst hc; rw [go_pc_self]; exact hf.publisher k _ _ hk
    · rw [go_pc_ne _ hc]; exact hk

/-- A move of a call other than the maker while the slot is `Ready`. -/
theorem phase_ready_go {st : S} {d : Duration} (h : s.Phase (.ready st d))
    (hc : ∀ n k, ¬ (s.pc c).Publisher k n (st, d)) (hp : ∀ k, p.Late k (st, d)) : (s.go c p).Phase (.ready st d) := by
  obtain ⟨k, hk, hl⟩ := h
  have hck : k ≠ c := fun e => hc _ _ (e ▸ hk)
  exact ⟨k, by rw [go_pc_ne _ hck]; exact hk, forall_go (P := fun c' q => c' ≠ k → q.Late k (st, d)) (fun _ => hp k)
    fun c' _ => hl c'⟩

/-- A notifier fires: its maker returns what the slot holds. -/
theorem phase_notify {v : LazyStorage ι S} (h : s.Phase v) {k : ι} {st : S} {d : Duration}
    (hpc : s.pc c = .notify k st d) : ((s.wake k).go c (.returned (.ok (st, d)))).Phase v := by
  rcases h.at c with ⟨_, rfl, hc⟩ | ⟨_, rfl, ⟨_, hc⟩ | hc⟩ | ⟨st', d', m, rfl, ⟨rfl, hc⟩ | hc, hl⟩ <;> rw [hpc] at hc
  · exact hc.elim
  · exact hc.elim
  · exact hc.elim
  · obtain ⟨rfl, ⟨⟩, hn⟩ := hc
    refine ⟨k, by rw [go_pc_self]; exact ⟨rfl, by simp [wake, Cell.go]⟩, fun c' hc' => ?_⟩
    rw [go_pc_ne _ hc']
    exact hl c' hc'
  · exact hc.elim

/-- A waiter is woken only when the slot is `Ready`. -/
theorem phase_woken {v : LazyStorage ι S} (h : s.Phase v) {k : ι} {calls : ℕ} (hpc : s.pc c = .waiting k calls)
    (hlt : calls < s.notified k) : (s.go c .relock).Phase v := by
  cases v with
  | raw scfg =>
    have hc := h.2 c
    rw [hpc] at hc
    exact hc.elim
  | initialising k' =>
    obtain ⟨hn, hk, hb⟩ := h
    have hck : c ≠ k' := by
      rintro rfl
      rw [hpc] at hk
      exact hk
    have hc := hb c hck
    rw [hpc] at hc
    obtain ⟨rfl, rfl⟩ := hc
    omega
  | ready st d => exact phase_ready_go h (by rw [hpc]; exact fun _ _ h => h) fun _ => trivial

end Phase

/-- A move that no phase forbids and that leaves the guard alone. -/
theorem Inv.go {s : Cell ι S} (h : s.Inv) {c : ι} {p : Pc ι S} (hh : p.holds = (s.pc c).holds)
    (hl : (s.pc c).Lost → p.Lost) (hf : Fits (s.pc c) p) : (s.go c p).Inv where
  lost hsl := forall_go (hl (h.lost hsl c)) fun c' _ => h.lost hsl c'
  lock _ hsl := lock_go h hsl hh
  phase sl hsl := (h.phase sl hsl).go hf

section Where

variable {s : Cell ι S} {c : ι} {lk : Option ι} {v : LazyStorage ι S}

/-- At the first `swap` the slot is `Raw`. -/
theorem Inv.sawRaw (h : s.Inv) (hpc : s.pc c = .sawRaw) (hsl : s.slot = some ⟨lk, v⟩) : ∃ scfg, v = .raw scfg := by
  rcases (h.phase _ hsl).at c with ⟨scfg, he, -⟩ | ⟨_, -, ⟨-, hc⟩ | hc⟩ | ⟨_, _, _, -, ⟨-, hc⟩ | hc, -⟩
  · exact ⟨scfg, he⟩
  all_goals rw [hpc] at hc; exact hc.elim

/-- A call that is initialising made the notifier in the slot. -/
theorem Inv.maker (h : s.Inv) (hpc : (s.pc c).makes = true) (hsl : s.slot = some ⟨lk, v⟩) : v = .initialising c := by
  rcases (h.phase _ hsl).at c with ⟨_, -, hc⟩ | ⟨k, he, ⟨rfl, -⟩ | hc⟩ | ⟨_, _, _, -, ⟨-, hc⟩ | hc, -⟩
  case inr.inl.inl => exact he
  all_goals cases hp : s.pc c <;> rw [hp] at hpc hc <;> first | exact hc.elim | cases hpc

/-- A woken call finds the slot `Ready`. -/
theorem Inv.relocked (h : s.Inv) (hpc : s.pc c = .relocked) (hsl : s.slot = some ⟨lk, v⟩) :
    ∃ st d, v = .ready st d := by
  rcases (h.phase _ hsl).at c with ⟨_, -, hc⟩ | ⟨_, -, ⟨-, hc⟩ | hc⟩ | ⟨st, d, _, he, -⟩
  · rw [hpc] at hc; exact hc.elim
  · rw [hpc] at hc; exact hc.elim
  · rw [hpc] at hc; exact hc.elim
  · exact ⟨st, d, he⟩

/-- A call about to fire a notifier has published its storage. -/
theorem Inv.notify (h : s.Inv) {k : ι} {st : S} {d : Duration} (hpc : s.pc c = .notify k st d)
    (hsl : s.slot = some ⟨lk, v⟩) : v = .ready st d := by
  rcases (h.phase _ hsl).at c with ⟨_, -, hc⟩ | ⟨_, -, ⟨-, hc⟩ | hc⟩ | ⟨st', d', _, he, ⟨-, hc⟩ | hc, -⟩ <;> rw [hpc] at hc
  · exact hc.elim
  · exact hc.elim
  · exact hc.elim
  · obtain ⟨-, ⟨⟩, -⟩ := hc
    exact he
  · exact hc.elim

end Where

/-! ## Every step keeps the invariant -/

theorem step_inv {name : String} {s s' : Cell ι S} {l : ι × Act S} (h : s.Inv) (hs : Step name s l s') : s'.Inv := by
  cases hs with
  | undefined c hpc hsl =>
    refine ⟨fun _ => forall_go trivial fun c' _ => h.lost hsl c', fun sl hsl' => ?_, fun sl hsl' => ?_⟩ <;>
      exact absurd (hsl.symm.trans hsl') (by simp)
  | enter c sl hpc hsl =>
    refine .of_some hsl (lock_go h hsl (by rw [hpc]; rfl)) ((h.phase sl hsl).go ?_)
    rw [hpc]; exact Unnoticed.enter.fits
  | lock c v hpc hsl =>
    refine .of_put (lock_take h hsl rfl) ((h.phase _ hsl).go ?_)
    rw [hpc]; exact Unnoticed.lock.fits
  | seeRaw c lk scfg hpc hsl =>
    have hp := h.phase _ hsl
    exact .of_some hsl (lock_go h hsl (by rw [hpc]; rfl)) ⟨hp.1, forall_go trivial fun c' _ => hp.2 c'⟩
  | swapRaw c lk scfg hpc hsl =>
    have hp := h.phase _ hsl
    have hc : (s.pc c).holds = true := by rw [hpc]; rfl
    refine .of_put (lock_release h hsl hc rfl) ⟨hp.1 c, by rw [go_pc_self]; trivial, fun c' hc' => ?_⟩
    rw [go_pc_ne _ hc']
    -- nobody else is between the `match` and the `swap`: the guard is held
    exact early_bystander (hp.2 c') (Bool.eq_false_iff.mpr fun hh => hc' (h.holder_unique hsl hh hc))
  | swapNotRaw c lk v hpc hsl hv =>
    obtain ⟨scfg, rfl⟩ := h.sawRaw hpc hsl
    exact absurd rfl (hv scfg)
  | initOk c scfg st d hpc =>
    exact h.go (by rw [hpc]; rfl) (by rw [hpc]; exact fun h => h)
      (by rw [hpc]; exact (Unnoticed.initOk scfg st d).fits)
  | initErr c scfg e hpc =>
    exact h.go (by rw [hpc]; rfl) (by rw [hpc]; exact fun _ => trivial)
      (by rw [hpc]; exact (Unnoticed.initErr scfg _).fits)
  | initPanic c scfg hpc =>
    exact h.go (by rw [hpc]; rfl) (by rw [hpc]; exact fun h => h)
      (by rw [hpc]; exact (Unnoticed.initPanic scfg).fits)
  | lockPublish c v st d hpc hsl =>
    refine .of_put (lock_take h hsl rfl) ((h.phase _ hsl).go ?_)
    rw [hpc]; exact (Unnoticed.lockPublish st d).fits
  | swapReady c k lk st d hpc hsl =>
    obtain ⟨⟩ := h.maker (by rw [hpc]; rfl) hsl
    obtain ⟨hn, -, hb⟩ := h.phase _ hsl
    have hc : (s.pc c).holds = true := by rw [hpc]; rfl
    refine .of_put (lock_release h hsl hc rfl) ⟨c, by rw [go_pc_self]; exact ⟨rfl, rfl, hn⟩, fun c' hc' => ?_⟩
    rw [go_pc_ne _ hc']
    exact bystander_late (hb c' hc')
  | swapNotInitialising c lk v st d hpc hsl hv =>
    obtain rfl := h.maker (by rw [hpc]; rfl) hsl
    exact absurd rfl (hv c)
  | notify c k st d hpc =>
    obtain ⟨lk, v, hsl⟩ := h.defined (c := c) (by rw [hpc]; exact fun h => h)
    exact .of_some hsl (lock_go (s := s) h hsl (by rw [hpc]; rfl)) (phase_notify (h.phase _ hsl) hpc)
  | seeInitialising c k lk hpc hsl =>
    obtain ⟨hn, hk, hb⟩ := h.phase _ hsl
    have hck : k ≠ c := by
      rintro rfl
      rw [hpc] at hk
      exact hk
    refine .of_put (lock_release h hsl (by rw [hpc]; rfl) rfl) ⟨hn, by rw [go_pc_ne _ hck]; exact hk,
      forall_go (P := fun c' q => c' ≠ k → q.Bystander k) (fun _ => ⟨rfl, hn⟩) fun c' _ => hb c'⟩
  | woken c k calls hpc hlt =>
    obtain ⟨lk, v, hsl⟩ := h.defined (c := c) (by rw [hpc]; exact fun h => h)
    exact .of_some hsl (lock_go h hsl (by rw [hpc]; rfl)) (phase_woken (h.phase _ hsl) hpc hlt)
  | relock c v hpc hsl =>
    refine .of_put (lock_take h hsl rfl) ((h.phase _ hsl).go ?_)
    rw [hpc]; exact Unnoticed.relock.fits
  | readReady c lk st d hpc hsl =>
    exact .of_put (lock_release h hsl (by rw [hpc]; rfl) rfl)
      (phase_ready_go (h.phase _ hsl) (by rw [hpc]; exact fun _ _ h => h) fun _ => rfl)
  | readNotReady c lk v hpc hsl hv =>
    obtain ⟨st, d, rfl⟩ := h.relocked hpc hsl
    exact absurd rfl (hv st d)
  | seeReady c lk st d hpc hsl =>
    exact .of_put (lock_release h hsl (by rw [hpc]; rfl) rfl)
      (phase_ready_go (h.phase _ hsl) (by rw [hpc]; exact fun _ _ h => h) fun _ => rfl)
  | drop c haw =>
    refine h.go ?_ ?_ ?_
    · cases hp : s.pc c <;> simp_all [Pc.awaiting, Pc.holds]
    · exact fun _ => trivial
    · cases hp : s.pc c <;> simp_all [Pc.awaiting] <;> constructor <;>
        simp [Pc.Early, Pc.Maker, Pc.Bystander, Pc.Publisher, Pc.Late]

/-! ## Progress -/

/-- The call `c` can go on by itself: an `init_storage` in progress will end. -/
def Moves (name : String) (s : Cell ι S) (c : ι) : Prop :=
  (∃ s', Step name s (c, .poll) s') ∨ (∃ s', Step name s (c, .initStorage) s') ∨ ∃ scfg, s.pc c = .init scfg

section Progress

variable {s : Cell ι S} {c : ι} {sl : Slot ι S} (name : String)

/-- A call that holds the guard can go on. -/
theorem holder_moves (hsl : s.slot = some sl) (hc : (s.pc c).holds = true) : Moves name s c := by
  obtain ⟨lk, v⟩ := sl
  cases hpc : s.pc c <;> rw [hpc] at hc <;> try cases hc
  · cases v with
    | raw scfg => exact .inl ⟨_, .seeRaw s c lk scfg hpc hsl⟩
    | initialising k => exact .inl ⟨_, .seeInitialising s c k lk hpc hsl⟩
    | ready st d => exact .inl ⟨_, .seeReady s c lk st d hpc hsl⟩
  · cases v with
    | raw scfg => exact .inr (.inl ⟨_, .swapRaw s c lk scfg hpc hsl⟩)
    | initialising k => exact .inl ⟨_, .swapNotRaw s c lk _ hpc hsl (by simp)⟩
    | ready st d => exact .inl ⟨_, .swapNotRaw s c lk _ hpc hsl (by simp)⟩
  · cases v with
    | raw scfg => exact .inl ⟨_, .swapNotInitialising s c lk _ _ _ hpc hsl (by simp)⟩
    | initialising k => exact .inl ⟨_, .swapReady s c k lk _ _ hpc hsl⟩
    | ready st d => exact .inl ⟨_, .swapNotInitialising s c lk _ _ _ hpc hsl (by simp)⟩
  · cases v with
    | raw scfg => exact .inl ⟨_, .readNotReady s c lk _ hpc hsl (by simp)⟩
    | initialising k => exact .inl ⟨_, .readNotReady s c lk _ hpc hsl (by simp)⟩
    | ready st d => exact .inl ⟨_, .readReady s c lk st d hpc hsl⟩

/-- The mutex is free, or the call that holds it can go on. -/
theorem Inv.free_or_held (h : s.Inv) (hsl : s.slot = some sl) :
    sl.lock = none ∨ ∃ c', Moves name s c' ∧ (s.pc c').engaged = true := by
  rcases hlk : sl.lock with _ | c'
  · exact .inl rfl
  · have hc' := (h.lock sl hsl c').mp hlk
    refine .inr ⟨c', holder_moves name hsl hc', ?_⟩
    cases hpc : s.pc c' <;> simp_all [Pc.holds, Pc.engaged, Pc.settled]

/-- A call at an await point of the mutex can go on, or the call that holds the mutex can. -/
theorem Inv.lock_moves (h : s.Inv) (hl : ¬ (s.pc c).Lost)
    (hstep : ∀ v, s.slot = some ⟨none, v⟩ → ∃ s', Step name s (c, .poll) s') :
    ∃ c', Moves name s c' ∧ (c' = c ∨ (s.pc c').engaged = true) := by
  obtain ⟨lk, v, hsl⟩ := h.defined hl
  rcases h.free_or_held name hsl with hlk | ⟨c', hm, he⟩
  · obtain rfl : lk = none := hlk
    exact ⟨c, .inl (hstep v hsl), .inl rfl⟩
  · exact ⟨c', hm, .inr he⟩

/-- The maker of the notifier can go on, or a call that it waits for can, or it is dead. -/
theorem Inv.maker_moves (h : s.Inv) (hm : (s.pc c).Maker) (hsl : s.slot = some sl) :
    (∃ c', Moves name s c' ∧ (s.pc c').engaged = true) ∨ (s.pc c).dead = true := by
  cases hpc : s.pc c with
  | init scfg => exact .inl ⟨c, .inr (.inr ⟨scfg, hpc⟩), by rw [hpc]; rfl⟩
  | publish st d =>
    obtain ⟨c', hm', rfl | he⟩ := h.lock_moves name (c := c) (by rw [hpc]; exact fun h => h)
      fun v hv => ⟨_, .lockPublish s c v st d hpc hv⟩
    · exact .inl ⟨c', hm', by rw [hpc]; rfl⟩
    · exact .inl ⟨c', hm', he⟩
  | publishing st d => exact .inl ⟨c, holder_moves name hsl (by rw [hpc]; rfl), by rw [hpc]; rfl⟩
  | returned r => cases r with
    | error e => exact .inr rfl
    | ok r => rw [hpc] at hm; exact hm.elim
  | dropped | panicked => exact .inr rfl
  | _ => rw [hpc] at hm; exact hm.elim

/-- **Progress**: a call is over, or it can go on, or a call in progress can, or it waits for a notifier whose maker is
dead. -/
theorem Inv.progress (h : s.Inv) (c : ι) : (s.pc c).settled = true ∨
    (∃ c', Moves name s c' ∧ (c' = c ∨ (s.pc c').engaged = true)) ∨
    ∃ k lk, s.slot = some ⟨lk, .initialising k⟩ ∧ s.pc c = .waiting k 0 ∧ c ≠ k ∧ (s.pc k).dead = true := by
  cases hpc : s.pc c with
  | idle =>
    refine .inr (.inl ⟨c, .inl ?_, .inl rfl⟩)
    rcases hsl : s.slot with _ | sl
    · exact ⟨_, .undefined s c hpc hsl⟩
    · exact ⟨_, .enter s c sl hpc hsl⟩
  | lock =>
    exact .inr (.inl (h.lock_moves name (by rw [hpc]; exact fun h => h) fun v hv => ⟨_, .lock s c v hpc hv⟩))
  | publish st d =>
    exact .inr (.inl (h.lock_moves name (by rw [hpc]; exact fun h => h)
      fun v hv => ⟨_, .lockPublish s c v st d hpc hv⟩))
  | relock =>
    exact .inr (.inl (h.lock_moves name (by rw [hpc]; exact fun h => h) fun v hv => ⟨_, .relock s c v hpc hv⟩))
  | init scfg => exact .inr (.inl ⟨c, .inr (.inr ⟨scfg, hpc⟩), .inl rfl⟩)
  | notify k st d => exact .inr (.inl ⟨c, .inl ⟨_, .notify s c k st d hpc⟩, .inl rfl⟩)
  | locked | sawRaw | publishing | relocked =>
    obtain ⟨lk, v, hsl⟩ := h.defined (c := c) (by rw [hpc]; exact fun h => h)
    exact .inr (.inl ⟨c, holder_moves name hsl (by rw [hpc]; rfl), .inl rfl⟩)
  | waiting k calls =>
    by_cases hlt : calls < s.notified k
    · exact .inr (.inl ⟨c, .inl ⟨_, .woken s c k calls hpc hlt⟩, .inl rfl⟩)
    obtain ⟨lk, v, hsl⟩ := h.defined (c := c) (by rw [hpc]; exact fun h => h)
    have hp := h.phase _ hsl
    cases v with
    | raw scfg =>
      have := hp.2 c
      rw [hpc] at this; exact this.elim
    | initialising k' =>
      have hck : c ≠ k' := by
        rintro rfl
        have := hp.2.1
        rw [hpc] at this; exact this
      have hb := hp.2.2 c hck
      rw [hpc] at hb
      obtain ⟨rfl, rfl⟩ := hb
      rcases h.maker_moves name hp.2.1 hsl with ⟨c', hm, he⟩ | hd
      · exact .inr (.inl ⟨c', hm, .inr he⟩)
      · exact .inr (.inr ⟨k, lk, hsl, rfl, hck, hd⟩)
    | ready st d =>
      obtain ⟨m, hm, hl⟩ := hp
      have hcm : c ≠ m := by
        rintro rfl
        rw [hpc] at hm; exact hm
      have hb := hl c hcm
      rw [hpc] at hb
      obtain ⟨rfl, rfl⟩ := hb
      -- the maker has published; its notifier has not fired yet
      cases hpk : s.pc k with
      | notify k' st' d' => exact .inr (.inl ⟨k, .inl ⟨_, .notify s k k' st' d' hpk⟩, .inr (by rw [hpk]; rfl)⟩)
      | returned r => cases r with
        | ok r => rw [hpk] at hm; exact absurd hm.2 hlt
        | error e => rw [hpk] at hm; exact hm.elim
      | _ => rw [hpk] at hm; exact hm.elim
  | returned _ | dropped | panicked | unreachable _ => exact .inl rfl

end Progress

end Cell

end Pimsync
