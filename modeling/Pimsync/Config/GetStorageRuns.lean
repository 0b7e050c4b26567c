import Pimsync.Config.GetStorageInv

/-!
# Runs of `get_storage`

- `step_effect`: what a step does to the value under the mutex and to its call;
- `oneShot`: a cell is a value made once and shared, on the cells of `Base/OneShot.lean`;
- `run_shown`: what a run shows of the making, and what its calls returned.
-/

namespace Pimsync

variable {ι S : Type}

namespace Cell

/-- What is under the mutex. -/
def value? (s : Cell ι S) : Option (LazyStorage ι S) := s.slot.map (·.value)

theorem Inv.phase_of {s : Cell ι S} (h : s.Inv) {v : LazyStorage ι S} (hv : s.value? = some v) : s.Phase v := by
  obtain ⟨sl, hsl, rfl⟩ := Option.map_eq_some_iff.mp hv
  exact h.phase sl hsl

theorem value?_eq {s : Cell ι S} {lk : Option ι} {v : LazyStorage ι S} (h : s.slot = some ⟨lk, v⟩) :
    s.value? = some v := by simp [value?, h]

end Cell

/-- A call that has no storage to publish. -/
def Pc.Unmade : Pc ι S → Prop
  | .publish _ _ | .publishing _ _ => False
  | _ => True

/-- A call that has made `r` and not published it. -/
def Pc.Carries (r : S × Duration) : Pc ι S → Prop
  | .publish st d | .publishing st d => (st, d) = r
  | .dropped => True
  | _ => False

namespace Cell

variable [DecidableEq ι]

/-! ## What a step does -/

/-- What a step from a state that satisfies the invariant does to the value under the mutex and to its call. -/
inductive Effect (name : String) (s s' : Cell ι S) : ι × Act S → Prop
  | silent (c : ι) (p : Pc ι S) : s'.pc = Function.update s.pc c p → s'.value? = s.value? → p.settled = false →
      ((s.pc c).Unmade → p.Unmade) → (∀ r, (s.pc c).Carries r → p.Carries r) → Effect name s s' (c, .poll)
  | undefined (c : ι) : s.pc c = .idle →
      s'.pc = Function.update s.pc c (.returned (bail s!"Storage {name} is not defined.")) → s.value? = none →
      s'.value? = s.value? → Effect name s s' (c, .poll)
  | start (c : ι) (scfg : Scfg) : s'.pc = Function.update s.pc c (.init scfg) → s.value? = some (.raw scfg) →
      s'.value? = some (.initialising c) → Effect name s s' (c, .initStorage)
  | produce (c : ι) (scfg : Scfg) (st : S) (d : Duration) : s.pc c = .init scfg →
      s'.pc = Function.update s.pc c (.publish st d) → s.value? = some (.initialising c) → s'.value? = s.value? →
      Effect name s s' (c, .initDone (.ok st d))
  | fail (c : ι) (scfg : Scfg) (e : Error) : s.pc c = .init scfg →
      s'.pc = Function.update s.pc c (.returned (.error (s!"Initialising storage {name}" :: e))) →
      s.value? = some (.initialising c) → s'.value? = s.value? → Effect name s s' (c, .initDone (.err e))
  | panic (c : ι) (scfg : Scfg) : s.pc c = .init scfg → s'.pc = Function.update s.pc c .panicked →
      s.value? = some (.initialising c) → s'.value? = s.value? → Effect name s s' (c, .initDone .panic)
  | publish (c : ι) (st : S) (d : Duration) : s.pc c = .publishing st d →
      s'.pc = Function.update s.pc c (.notify c st d) → s.value? = some (.initialising c) →
      s'.value? = some (.ready st d) → Effect name s s' (c, .poll)
  | give (c : ι) (st : S) (d : Duration) : s'.pc = Function.update s.pc c (.returned (.ok (st, d))) →
      s.value? = some (.ready st d) → s'.value? = s.value? → Effect name s s' (c, .poll)
  | drop (c : ι) : (s.pc c).awaiting = true → s'.pc = Function.update s.pc c .dropped → s'.value? = s.value? →
      Effect name s s' (c, .drop)

theorem Inv.value?_of_makes {s : Cell ι S} (h : s.Inv) {c : ι} (hc : (s.pc c).makes = true) :
    s.value? = some (.initialising c) := by
  obtain ⟨lk, v, hsl⟩ := h.defined (c := c) (by cases hp : s.pc c <;> simp_all [Pc.makes, Pc.Lost])
  obtain rfl := h.maker hc hsl
  exact value?_eq hsl

theorem step_effect {name : String} {s s' : Cell ι S} {l : ι × Act S} (h : s.Inv) (hs : Step name s l s') :
    Effect name s s' l := by
  cases hs with
  | undefined c hpc hsl => exact .undefined c hpc rfl (by simp [value?, hsl]) rfl
  | enter c sl hpc hsl => exact .silent c _ rfl rfl rfl (fun _ => trivial) (by simp [hpc, Pc.Carries])
  | lock c v hpc hsl =>
    exact .silent c _ rfl (value?_eq hsl).symm rfl (fun _ => trivial) (by simp [hpc, Pc.Carries])
  | seeRaw c lk scfg hpc hsl => exact .silent c _ rfl rfl rfl (fun _ => trivial) (by simp [hpc, Pc.Carries])
  | swapRaw c lk scfg hpc hsl => exact .start c scfg rfl (value?_eq hsl) rfl
  | swapNotRaw c lk v hpc hsl hv =>
    obtain ⟨scfg, rfl⟩ := h.sawRaw hpc hsl
    exact absurd rfl (hv scfg)
  | initOk c scfg st d hpc => exact .produce c scfg st d hpc rfl (h.value?_of_makes (by rw [hpc]; rfl)) rfl
  | initErr c scfg e hpc => exact .fail c scfg e hpc rfl (h.value?_of_makes (by rw [hpc]; rfl)) rfl
  | initPanic c scfg hpc => exact .panic c scfg hpc rfl (h.value?_of_makes (by rw [hpc]; rfl)) rfl
  | lockPublish c v st d hpc hsl =>
    exact .silent c _ rfl (value?_eq hsl).symm rfl (by rw [hpc]; exact fun h => h) (by rw [hpc]; exact fun _ h => h)
  | swapReady c k lk st d hpc hsl =>
    obtain ⟨⟩ := h.maker (by rw [hpc]; rfl) hsl
    exact .publish c st d hpc rfl (value?_eq hsl) rfl
  | swapNotInitialising c lk v st d hpc hsl hv =>
    obtain rfl := h.maker (by rw [hpc]; rfl) hsl
    exact absurd rfl (hv c)
  | notify c k st d hpc =>
    obtain ⟨lk, v, hsl⟩ := h.defined (c := c) (by rw [hpc]; exact fun h => h)
    obtain rfl := h.notify hpc hsl
    exact .give c st d rfl (value?_eq hsl) rfl
  | seeInitialising c k lk hpc hsl =>
    exact .silent c _ rfl (value?_eq hsl).symm rfl (fun _ => trivial) (by simp [hpc, Pc.Carries])
  | woken c k calls hpc hlt => exact .silent c _ rfl rfl rfl (fun _ => trivial) (by simp [hpc, Pc.Carries])
  | relock c v hpc hsl =>
    exact .silent c _ rfl (value?_eq hsl).symm rfl (fun _ => trivial) (by simp [hpc, Pc.Carries])
  | readReady c lk st d hpc hsl => exact .give c st d rfl (value?_eq hsl) (value?_eq hsl).symm
  | readNotReady c lk v hpc hsl hv =>
    obtain ⟨st, d, rfl⟩ := h.relocked hpc hsl
    exact absurd rfl (hv st d)
  | seeReady c lk st d hpc hsl => exact .give c st d rfl (value?_eq hsl) (value?_eq hsl).symm
  | drop c haw => exact .drop c haw rfl rfl

/-- A call that is over takes no step. -/
theorem Step.not_settled {name : String} {s s' : Cell ι S} {c : ι} {a : Act S} (hs : Step name s (c, a) s') :
    (s.pc c).settled = false := by
  cases hs with
  | drop _ haw => cases hp : s.pc c <;> simp_all [Pc.awaiting, Pc.settled]
  | _ => simp [*, Pc.settled]

/-! ## A value made once -/

/-- The labels of a call that a value made once shows. -/
def shown : ι × Act S → Option (OneShot.Event ι (S × Duration))
  | (c, .initStorage) => some (.start c)
  | (c, .initDone (.ok st d)) => some (.produce c (st, d))
  | _ => none

/-- The cell of a value made once that the slot is. -/
def Like (s : Cell ι S) : OneShot.Cell ι (S × Duration) → Prop
  | .fresh => ∀ v, s.value? = some v → ∃ scfg, v = .raw scfg
  | .busy k => s.value? = some (.initialising k) ∧ (s.pc k).Unmade
  | .made k r => s.value? = some (.initialising k) ∧ (s.pc k).Carries r
  | .ready _ r => s.value? = some (.ready r.1 r.2)

/-- A step that does not touch the value, by a call that neither makes nor publishes. -/
theorem Like.go {s s' : Cell ι S} {cell : OneShot.Cell ι (S × Duration)} (h : s.Like cell) {c : ι} {p : Pc ι S}
    (hpc : s'.pc = Function.update s.pc c p) (hv : s'.value? = s.value?) (hu : (s.pc c).Unmade → p.Unmade)
    (hc : ∀ r, (s.pc c).Carries r → p.Carries r) : s'.Like cell := by
  cases cell with
  | fresh => intro v hv'; exact h v (hv ▸ hv')
  | busy k =>
    refine ⟨hv ▸ h.1, ?_⟩
    by_cases hk : k = c
    · subst hk; rw [hpc, Function.update_self]; exact hu h.2
    · rw [hpc, Function.update_of_ne hk]; exact h.2
  | made k r =>
    refine ⟨hv ▸ h.1, ?_⟩
    by_cases hk : k = c
    · subst hk; rw [hpc, Function.update_self]; exact hc r h.2
    · rw [hpc, Function.update_of_ne hk]; exact h.2
  | ready k r => exact hv.trans h

/-- Whatever a call returned, it was given. -/
def Given (s : Cell ι S) (t : OneShot.State ι (S × Duration)) : Prop :=
  ∀ c r, s.pc c = .returned (.ok r) → t.got c = some r

theorem Given.go {s s' : Cell ι S} {t t' : OneShot.State ι (S × Duration)} (h : s.Given t) {c : ι} {p : Pc ι S}
    (hpc : s'.pc = Function.update s.pc c p) (hp : ∀ r, p ≠ .returned (.ok r)) (ht : t'.got = t.got) : s'.Given t' := by
  intro c' r hr
  rw [ht]
  by_cases hc : c' = c
  · subst hc; rw [hpc, Function.update_self] at hr; exact absurd hr (hp r)
  · rw [hpc, Function.update_of_ne hc] at hr; exact h c' r hr

/-- **`get_storage` is a value made once**: every step is a step of `OneShot.lts`, or none. -/
def oneShot (name : String) : Lts.Simulation (getStorage (ι := ι) (S := S) name) OneShot.lts shown
    OneShot.Label.event? where
  rel s t := s.Inv ∧ s.Like t.cell ∧ s.Given t
  step := by
    rintro s s' t l ⟨hi, hl, hg⟩ hs
    have hi' := step_inv hi hs
    cases step_effect hi hs with
    | silent c p hpc hv hp hu hc =>
      exact ⟨[], t, .nil t, ⟨hi', hl.go hpc hv hu hc, hg.go hpc (by rintro r rfl; cases hp) rfl⟩, rfl⟩
    | undefined c hpc₀ hpc hv hv' =>
      exact ⟨[], t, .nil t, ⟨hi', hl.go hpc hv' (fun _ => trivial) (by simp [hpc₀, Pc.Carries]),
        hg.go hpc (by simp [bail]) rfl⟩, rfl⟩
    | fail c scfg e hpc₀ hpc hv hv' =>
      exact ⟨[], t, .nil t, ⟨hi', hl.go hpc hv' (fun _ => trivial) (by simp [hpc₀, Pc.Carries]),
        hg.go hpc (by simp) rfl⟩, rfl⟩
    | panic c scfg hpc₀ hpc hv hv' =>
      exact ⟨[], t, .nil t, ⟨hi', hl.go hpc hv' (fun _ => trivial) (by simp [hpc₀, Pc.Carries]),
        hg.go hpc (by simp) rfl⟩, rfl⟩
    | drop c haw hpc hv =>
      exact ⟨[], t, .nil t, ⟨hi', hl.go hpc hv (fun _ => trivial) (fun _ _ => trivial), hg.go hpc (by simp) rfl⟩, rfl⟩
    | start c scfg hpc hv hv' =>
      rcases hcell : t.cell with _ | k | ⟨k, r⟩ | ⟨k, r⟩ <;> rw [hcell] at hl
      · refine ⟨[.event (.start c)], _, Lts.Run.single (.start t c hcell), ⟨hi', ⟨hv', ?_⟩, ?_⟩, rfl⟩
        · rw [hpc, Function.update_self]; trivial
        · exact hg.go hpc (by simp) rfl
      · exact absurd (hv.symm.trans hl.1) (by simp)
      · exact absurd (hv.symm.trans hl.1) (by simp)
      · exact absurd (hv.symm.trans hl) (by simp)
    | produce c scfg st d hpc₀ hpc hv hv' =>
      rcases hcell : t.cell with _ | k | ⟨k, r⟩ | ⟨k, r⟩ <;> rw [hcell] at hl
      · obtain ⟨_, h⟩ := hl _ hv; cases h
      · obtain rfl : k = c := by simpa [hv, eq_comm] using hl.1
        refine ⟨[.event (.produce k (st, d))], _, Lts.Run.single (.produce t k (st, d) hcell),
          ⟨hi', ⟨hv'.trans hv, ?_⟩, ?_⟩, rfl⟩
        · rw [hpc, Function.update_self]; exact rfl
        · exact hg.go hpc (by simp) rfl
      · obtain rfl : k = c := by simpa [hv, eq_comm] using hl.1
        have hk := hl.2
        rw [hpc₀] at hk; exact hk.elim
      · exact absurd (hv.symm.trans hl) (by simp)
    | publish c st d hpc₀ hpc hv hv' =>
      rcases hcell : t.cell with _ | k | ⟨k, r⟩ | ⟨k, r⟩ <;> rw [hcell] at hl
      · obtain ⟨_, h⟩ := hl _ hv; cases h
      · obtain rfl : k = c := by simpa [hv, eq_comm] using hl.1
        have hk := hl.2
        rw [hpc₀] at hk; exact hk.elim
      · obtain rfl : k = c := by simpa [hv, eq_comm] using hl.1
        have hk := hl.2
        rw [hpc₀] at hk
        obtain rfl : (st, d) = r := hk
        exact ⟨[.publish], _, Lts.Run.single (.publish t k (st, d) hcell), ⟨hi', hv', hg.go hpc (by simp) rfl⟩, rfl⟩
      · exact absurd (hv.symm.trans hl) (by simp)
    | give c st d hpc hv hv' =>
      rcases hcell : t.cell with _ | k | ⟨k, r⟩ | ⟨k, r⟩ <;> rw [hcell] at hl
      · obtain ⟨_, h⟩ := hl _ hv; cases h
      · exact absurd (hv.symm.trans hl.1) (by simp)
      · exact absurd (hv.symm.trans hl.1) (by simp)
      · obtain ⟨st', d'⟩ := r
        obtain ⟨rfl, rfl⟩ : st = st' ∧ d = d' := by simpa using hv.symm.trans hl
        refine ⟨[.give c], _, Lts.Run.single (.give t c k (st, d) hcell), ⟨hi', ?_, fun c' r' hr => ?_⟩, rfl⟩
        · show Like s' t.cell
          rw [hcell]; exact hv'.trans hl
        · by_cases hc : c' = c
          · subst hc
            rw [hpc, Function.update_self] at hr
            cases hr
            exact Function.update_self ..
          · rw [hpc, Function.update_of_ne hc] at hr
            exact (Function.update_of_ne hc ..).trans (hg c' r' hr)

theorem run_inv {name : String} {raw : Option Scfg} {ok : Cell ι S → ι × Act S → Prop} {tr : List (ι × Act S)}
    {s : Cell ι S} (hr : (getStorage name).RunWith ok (initial raw) tr s) : s.Inv :=
  hr.invariant (inv_initial raw) fun _ _ _ h _ hs => step_inv h hs

/-- What the slot may become in one step. -/
def SlotMove (v v' : Option (LazyStorage ι S)) : Prop :=
  v' = v ∨ (∃ scfg k, v = some (.raw scfg) ∧ v' = some (.initialising k)) ∨
    ∃ k st d, v = some (.initialising k) ∧ v' = some (.ready st d)

theorem step_slotMove {name : String} {s s' : Cell ι S} {l : ι × Act S} (h : s.Inv) (hs : Step name s l s') :
    SlotMove s.value? s'.value? := by
  cases step_effect h hs with
  | silent _ _ _ hv | undefined _ _ _ _ hv | produce _ _ _ _ _ _ _ hv | fail _ _ _ _ _ _ hv | panic _ _ _ _ _ hv
  | give _ _ _ _ _ hv | drop _ _ _ hv => exact .inl hv
  | start c scfg _ hv hv' => exact .inr (.inl ⟨scfg, c, hv, hv'⟩)
  | publish c st d _ _ hv hv' => exact .inr (.inr ⟨c, st, d, hv, hv'⟩)

/-- No `unreachable!` is reached. -/
theorem Inv.not_unreachable {s : Cell ι S} (h : s.Inv) (c : ι) (msg : String) : s.pc c ≠ .unreachable msg := by
  intro hpc
  rcases hsl : s.slot with _ | sl
  · have := h.lost hsl c
    rw [hpc] at this; exact this
  · rcases (h.phase sl hsl).at c with ⟨_, -, hc⟩ | ⟨_, -, ⟨-, hc⟩ | hc⟩ | ⟨_, _, _, -, ⟨-, hc⟩ | hc, -⟩ <;>
      rw [hpc] at hc <;> exact hc

/-- What the calls of a run show of the making, and what they returned. -/
theorem run_shown {name : String} {raw : Option Scfg} {tr : List (ι × Act S)} {s : Cell ι S}
    (hr : (getStorage name).Run (initial raw) tr s) :
    ∃ cell : OneShot.Cell ι (S × Duration), tr.filterMap shown = cell.past ∧
      ∀ c r, s.pc c = .returned (.ok r) → ∃ k, cell = .ready k r := by
  have h₀ : (oneShot name).rel (initial raw : Cell ι S) OneShot.initial := by
    refine ⟨inv_initial raw, fun v hv => ?_, fun c r h => by cases h⟩
    cases raw with
    | none => cases hv
    | some scfg => exact ⟨scfg, (Option.some.inj hv).symm⟩
  obtain ⟨ms, t, hm, ⟨-, -, hg⟩, hv⟩ := (oneShot name).run h₀ hr
  exact ⟨t.cell, by rw [← hv, OneShot.run_past hm], fun c r h => OneShot.run_got hm c r (hg c r h)⟩

end Cell

end Pimsync
