import Pimsync.Config.NamedPairs

/-!
# The invariant of `into_named_pairs`

The calls in a run are a run of the `StorageBuilder` (`run_calls`) in which every `init_storage` ends as it does
(`Cell.Fixed`). `PairsInv` says what else is true of the tasks: each of them runs, with a call that `try_join!` may leave
aside, or has ended as the pair does in the reference (`TaskOk`).
-/

namespace Pimsync

variable {S : Type}

/-! ## How the calls for one storage end -/

section Fixed

variable {ι : Type}

/-- A call is at a point that the outcome `out` of the storage goes with. -/
def Pc.Fixed (raw : Option Scfg) (out : Except Fault (S × Duration)) : Pc ι S → Prop
  | .init scfg => raw = some scfg
  | .publish st d | .publishing st d | .notify _ st d => out = .ok (st, d)
  | .returned (.ok r) => out = .ok r
  | .returned (.error e) => out = .error (.err e)
  | .panicked => ∃ msg, out = .error (.panic msg)
  | _ => True

def LazyStorage.Fixed (raw : Option Scfg) (out : Except Fault (S × Duration)) : LazyStorage ι S → Prop
  | .raw scfg => raw = some scfg
  | .initialising _ => True
  | .ready st d => out = .ok (st, d)

namespace Cell

/-- The storage is the one of the configuration, and its outcome is `out`. -/
structure Fixed (raw : Option Scfg) (out : Except Fault (S × Duration)) (s : Cell ι S) : Prop where
  none : s.slot = none → raw = none
  value : ∀ lk v, s.slot = some ⟨lk, v⟩ → v.Fixed raw out
  pc : ∀ c, (s.pc c).Fixed raw out

variable {raw : Option Scfg} {out : Except Fault (S × Duration)} {s s' : Cell ι S}

theorem fixed_initial (raw : Option Scfg) (out : Except Fault (S × Duration)) : (initial raw : Cell ι S).Fixed raw out where
  none h := by simpa [initial] using h
  value lk v h := by
    obtain ⟨scfg, hraw, h⟩ := Option.map_eq_some_iff.mp h
    cases h
    exact hraw
  pc _ := trivial

theorem Fixed.put (h : s.Fixed raw out) {lk : Option ι} {v : LazyStorage ι S} (hv : v.Fixed raw out) :
    (s.put ⟨lk, v⟩).Fixed raw out where
  none h' := by cases h'
  value lk v h' := by cases h'; exact hv
  pc := h.pc

variable [DecidableEq ι]

theorem Fixed.go (h : s.Fixed raw out) {c : ι} {p : Pc ι S} (hp : p.Fixed raw out) : (s.go c p).Fixed raw out :=
  ⟨h.none, h.value, forall_go (P := fun _ p => p.Fixed raw out) hp fun c' _ => h.pc c'⟩

/-- A step by which `init_storage` ends, if at all, as it does. -/
theorem step_fixed {env : PairsOutside S} {raw : String → Option Scfg} {name : String} {l : ι × Act S} (hi : s.Inv)
    (h : s.Fixed (raw name) (storageOutcome env raw name)) (ha : env.Allows name s l) (hs : Step name s l s') :
    s'.Fixed (raw name) (storageOutcome env raw name) := by
  cases hs with
  | undefined c hpc hsl => exact h.go (by simp [Pc.Fixed, bail, storageOutcome, h.none hsl])
  | enter c sl hpc hsl => exact h.go trivial
  | lock c v hpc hsl => exact (h.put (h.value _ v hsl)).go trivial
  | seeRaw c lk scfg hpc hsl => exact h.go trivial
  | swapRaw c lk scfg hpc hsl => exact (h.put (v := .initialising c) trivial).go (h.value _ _ hsl)
  | swapNotRaw c lk v hpc hsl hv =>
    obtain ⟨scfg, rfl⟩ := hi.sawRaw hpc hsl
    exact absurd rfl (hv scfg)
  | initOk c scfg st d hpc =>
    have hraw : raw name = some scfg := by have := h.pc c; rwa [hpc] at this
    exact h.go (by simp [Pc.Fixed, storageOutcome, hraw, ← ha scfg hpc])
  | initErr c scfg e hpc =>
    have hraw : raw name = some scfg := by have := h.pc c; rwa [hpc] at this
    exact h.go (by simp [Pc.Fixed, storageOutcome, hraw, ← ha scfg hpc])
  | initPanic c scfg hpc =>
    have hraw : raw name = some scfg := by have := h.pc c; rwa [hpc] at this
    exact h.go (by simp [Pc.Fixed, storageOutcome, hraw, ← ha scfg hpc])
  | lockPublish c v st d hpc hsl =>
    have hout := h.pc c
    rw [hpc] at hout
    exact (h.put (h.value _ v hsl)).go hout
  | swapReady c k lk st d hpc hsl =>
    have hout := h.pc c
    rw [hpc] at hout
    exact (h.put (v := .ready st d) hout).go hout
  | swapNotInitialising c lk v st d hpc hsl hv =>
    obtain rfl := hi.maker (by rw [hpc]; rfl) hsl
    exact absurd rfl (hv c)
  | notify c k st d hpc =>
    have hout := h.pc c
    rw [hpc] at hout
    exact Fixed.go (s := s.wake k) ⟨h.none, h.value, h.pc⟩ hout
  | seeInitialising c k lk hpc hsl => exact (h.put (v := .initialising k) trivial).go trivial
  | woken c k calls hpc hlt => exact h.go trivial
  | relock c v hpc hsl => exact (h.put (h.value _ v hsl)).go trivial
  | readReady c lk st d hpc hsl => exact (h.put (h.value _ _ hsl)).go (h.value _ _ hsl)
  | readNotReady c lk v hpc hsl hv =>
    obtain ⟨st, d, rfl⟩ := hi.relocked hpc hsl
    exact absurd rfl (hv st d)
  | seeReady c lk st d hpc hsl => exact (h.put (h.value _ _ hsl)).go (h.value _ _ hsl)
  | drop c haw => exact h.go trivial

/-- A step moves the call that takes it, and drops it only if it says so. -/
theorem step_moves {name : String} {c : ι} {a : Act S} (hi : s.Inv) (hs : Step name s (c, a) s') :
    ∃ p, s'.pc = Function.update s.pc c p ∧ (a ≠ .drop → p ≠ .dropped) := by
  cases step_effect hi hs with
  | silent _ p hpc _ hp => exact ⟨p, hpc, fun _ e => by rw [e] at hp; cases hp⟩
  | undefined _ _ hpc | start _ _ hpc | produce _ _ _ _ _ hpc | fail _ _ _ _ hpc | panic _ _ _ hpc
  | publish _ _ _ _ hpc | give _ _ _ hpc => exact ⟨_, hpc, fun _ => by simp⟩
  | drop _ _ hpc => exact ⟨_, hpc, fun h => absurd rfl h⟩

end Cell

end Fixed

/-! ## The calls -/

section Calls

variable {env : PairsOutside S} {statusPath : String} {order : List (String × Scfg)} {raw : String → Option Scfg}

/-- What is cancelled was dropped, or was over. -/
theorem cancel_calls (env : PairsOutside S) (cells : String → Cell PairCall S) (name : String) (c : PairCall) :
    ∃ cs, StorageBuilder.calls.RunWith (fun s l => env.Allows l.1 (s l.1) l.2) cells cs
      (Function.update cells name ((cells name).cancel c)) := by
  by_cases haw : ((cells name).pc c).awaiting = true
  · have hs : StorageBuilder.calls.step cells (name, c, .drop) (Function.update cells name ((cells name).go c .dropped)) :=
      ⟨_, .drop _ c haw, rfl⟩
    rw [Cell.cancel, if_pos haw]
    exact ⟨[(name, c, .drop)], .single trivial hs⟩
  · rw [Cell.cancel, if_neg haw, Function.update_eq_self]
    exact ⟨_, .nil _⟩

/-- **The calls in a run** are a run of the `StorageBuilder`, in which every `init_storage` ends as it does. -/
theorem run_calls {s₀ s : PairsState S} {tr : List (PairsLabel S)} (hr : (intoNamedPairs env statusPath order).Run s₀ tr s) :
    ∃ cs, StorageBuilder.calls.RunWith (fun s l => env.Allows l.1 (s l.1) l.2) s₀.cells cs s.cells := by
  refine hr.invariant
    (I := fun s => ∃ cs, StorageBuilder.calls.RunWith (fun s l => env.Allows l.1 (s l.1) l.2) s₀.cells cs s.cells)
    ⟨[], .nil _⟩ fun s l s' ⟨cs, hcs⟩ _ hs => ?_
  cases hs with
  | call main cells tasks i task side act cell hi hrest hcell hdrop hallow =>
    have hs' : StorageBuilder.calls.step cells (task.storage side, task.call side, act)
      (Function.update cells (task.storage side) cell) := ⟨cell, hcell, rfl⟩
    exact ⟨_, hcs.snoc hallow hs'⟩
  | failed main cells tasks i task side fault hi hf =>
    obtain ⟨cs', hcs'⟩ := cancel_calls env cells (task.storage side.other) (task.call side.other)
    exact ⟨_, hcs.append hcs'⟩
  | _ => exact ⟨cs, hcs⟩

/-- What is known of the calls for one storage after any run. -/
structure CellOk (env : PairsOutside S) (raw : String → Option Scfg) (name : String) (cell : Cell PairCall S) : Prop where
  inv : cell.Inv
  fixed : cell.Fixed (raw name) (storageOutcome env raw name)

theorem run_cellOk {s₀ s : PairsState S} {tr : List (PairsLabel S)} (h₀ : s₀.cells = StorageBuilder.new raw)
    (hr : (intoNamedPairs env statusPath order).Run s₀ tr s) (name : String) : CellOk env raw name (s.cells name) := by
  obtain ⟨cs, hcs⟩ := run_calls hr
  have hcell := Lts.RunWith.component (L := getStorage) (fun name => env.Allows name) hcs name
  rw [h₀] at hcell
  exact hcell.invariant (I := fun s => CellOk env raw name s) ⟨Cell.inv_initial _, Cell.fixed_initial _ _⟩
    fun t l u h ha hs => ⟨Cell.step_inv h.inv hs, Cell.step_fixed h.inv h.fixed ha hs⟩

end Calls

/-! ## The tasks -/

/-- Where the call on one side of a pair is. -/
def callPc (cells : String → Cell PairCall S) (task : PairTask) (side : Side) : Pc PairCall S :=
  (cells (task.storage side)).pc (task.call side)

section Outcome

variable (env : PairsOutside S) (raw : String → Option Scfg)

/-- What a task makes if nothing else runs. -/
def taskOutcome (task : PairTask) : Except Fault (NamedPair S) := do
  let a ← storageOutcome env raw task.nameA
  let b ← storageOutcome env raw task.nameB
  task.build env a b

def pairOutcome (dir : String) (pair : String × Scfg) : Except Fault (NamedPair S) := do
  let task ← (PairTask.new dir pair).mapError .err
  taskOutcome env raw task

end Outcome

/-- Both calls have returned, and the pair was built from what they returned. -/
def Built (env : PairsOutside S) (cells : String → Cell PairCall S) (task : PairTask) (pair : NamedPair S) : Prop :=
  ∃ a b, callPc cells task .a = .returned (.ok a) ∧ callPc cells task .b = .returned (.ok b) ∧ task.build env a b = .ok pair

/-- What is true of a task. -/
def TaskOk (env : PairsOutside S) (raw : String → Option Scfg) (cells : String → Cell PairCall S) :
    PairTask × JoinSet.Phase Unit (Except Fault (NamedPair S)) → Prop
  | (task, .running _) => (∀ side, callPc cells task side ≠ .dropped) ∧ ∃ side, (callPc cells task side).rests = true
  | (task, .ended (.ok pair)) => Built env cells task pair
  | (task, .ended (.error _)) =>
    (∀ side, (callPc cells task side).settled = true) ∧ ∃ fault, taskOutcome env raw task = .error fault
  | (task, .joined) => ∃ pair, Built env cells task pair
  | (_, .aborted) => True

/-- What is true of `into_named_pairs` once it knows its directory. -/
structure PairsInv (env : PairsOutside S) (raw : String → Option Scfg) (order : List (String × Scfg)) (dir : String)
    (s : PairsState S) : Prop where
  started : s.main ≠ .start ∧ ∀ msg, s.main ≠ .panicked msg
  spawned : ∃ done rest, order = done ++ rest ∧ (s.tasks.map Prod.fst).map .ok = done.map (PairTask.new dir) ∧
    (∀ dir' rest', s.main = .spawning dir' rest' → dir' = dir ∧ rest' = rest) ∧ ∀ pairs, s.main = .joining pairs → rest = []
  tasks : ∀ (i : ℕ) t, s.tasks[i]? = some t → TaskOk env raw s.cells t
  calls : ∀ name c, (s.cells name).pc c ≠ .idle →
    ∃ (i : ℕ) (t : _) (side : Side), s.tasks[i]? = some t ∧ c = t.1.call side ∧ name = t.1.storage side
  aborted : ∀ (i : ℕ) task, s.tasks[i]? = some (task, .aborted) → ∃ r, s.main = .returned r
  spawning : ∀ dir' rest, s.main = .spawning dir' rest → JoinSet.joined s.tasks = []
  joining : ∀ pairs, s.main = .joining pairs → (pairs.map .ok).Perm ((JoinSet.joined s.tasks).map (taskOutcome env raw))
  failed : ∀ e, s.main = .returned (.error e) → ∃ pair ∈ order, ∃ fault, pairOutcome env raw dir pair = .error fault
  returned : ∀ pairs, s.main = .returned (.ok pairs) → (pairs.map .ok).Perm (order.map (pairOutcome env raw dir))

section Tasks

variable {env : PairsOutside S} {raw : String → Option Scfg} {cells cells' : String → Cell PairCall S}

/-- What is true of a task depends on its own calls only. -/
theorem TaskOk.congr {t : PairTask × JoinSet.Phase Unit (Except Fault (NamedPair S))} (h : TaskOk env raw cells t)
    (he : ∀ side, callPc cells' t.1 side = callPc cells t.1 side) : TaskOk env raw cells' t := by
  obtain ⟨task, phase⟩ := t
  have he' : callPc cells' task = callPc cells task := funext he
  rcases phase with _ | (_ | _) | _ | _
  case aborted => trivial
  all_goals simpa only [TaskOk, Built, he'] using h

/-- A step of one call leaves the calls of other pairs where they are. -/
theorem callPc_update_ne (cells : String → Cell PairCall S) {name : String} {cell : Cell PairCall S} {c : PairCall}
    {p : Pc PairCall S}
    (hpc : cell.pc = Function.update (cells name).pc c p) {task : PairTask} {side : Side} (h : task.call side ≠ c) :
    callPc (Function.update cells name cell) task side = callPc cells task side := by
  unfold callPc
  by_cases hn : task.storage side = name
  · subst hn; rw [Function.update_self, hpc, Function.update_of_ne h]
  · rw [Function.update_of_ne hn]

theorem callPc_update_self (cells : String → Cell PairCall S) {task : PairTask} {side : Side} {cell : Cell PairCall S}
    {p : Pc PairCall S}
    (hpc : cell.pc = Function.update (cells (task.storage side)).pc (task.call side) p) :
    callPc (Function.update cells (task.storage side) cell) task side = p := by
  rw [callPc, Function.update_self, hpc, Function.update_self]

theorem PairTask.call_other_ne (task : PairTask) (side : Side) : task.call side.other ≠ task.call side := by
  intro he
  have := congrArg Prod.snd he
  cases side <;> cases this

theorem Side.forall_iff {P : Side → Prop} (side : Side) : (∀ side, P side) ↔ P side ∧ P side.other := by
  refine ⟨fun h => ⟨h _, h _⟩, fun h side' => ?_⟩
  cases side <;> cases side' <;> first | exact h.1 | exact h.2

/-- The call after it was cancelled. -/
theorem cancel_pc (s : Cell PairCall S) (c : PairCall) :
    (s.cancel c).pc = Function.update s.pc c (if (s.pc c).awaiting then .dropped else s.pc c) := by
  unfold Cell.cancel
  split
  · rfl
  · rw [Function.update_eq_self]

/-- A step of one call moves no other. -/
theorem update_frame {name : String} {cell : Cell PairCall S} {c : PairCall} {p : Pc PairCall S}
    (hpc : cell.pc = Function.update (cells name).pc c p) (name' : String) (c' : PairCall) :
    (Function.update cells name cell name').pc c' = (cells name').pc c' ∨ c' = c ∧ name' = name := by
  by_cases hn : name' = name
  · subst hn
    by_cases hc : c' = c
    · exact .inr ⟨hc, rfl⟩
    · exact .inl (by rw [Function.update_self, hpc, Function.update_of_ne hc])
  · exact .inl (by rw [Function.update_of_ne hn])

end Tasks

/-! ## Steps -/

section Steps

variable {env : PairsOutside S} {raw : String → Option Scfg} {order : List (String × Scfg)} {dir statusPath : String}
  {main main' : PairsMain S} {cells cells' : String → Cell PairCall S} {tasks tasks' : PairTasks S} {s s' : PairsState S}
  {l : PairsLabel S} {i : ℕ} {task : PairTask} {phase phase' : JoinSet.Phase Unit (Except Fault (NamedPair S))}

theorem PairTask.new_name {pair : String × Scfg} (h : PairTask.new dir pair = .ok task) : task.name = pair.1 := by
  obtain ⟨_, -, h⟩ := bind_eq_ok.mp h
  obtain ⟨_, -, h⟩ := bind_eq_ok.mp h
  cases h; rfl

theorem map_name_of_new : ∀ {tasks : List PairTask} {pairs : List (String × Scfg)},
    tasks.map .ok = pairs.map (PairTask.new dir) → tasks.map PairTask.name = pairs.map Prod.fst
  | [], [], _ => rfl
  | [], _ :: _, h => by cases h
  | _ :: _, [], h => by cases h
  | t :: tasks, pair :: pairs, h => by
    simp only [List.map_cons, List.cons.injEq] at h ⊢
    exact ⟨PairTask.new_name h.1.symm, map_name_of_new h.2⟩

/-- Different tasks are for different pairs. -/
theorem PairsInv.name_ne (hn : (order.map Prod.fst).Nodup) (h : PairsInv env raw order dir s) {i j : ℕ}
    {t t' : PairTask × JoinSet.Phase Unit (Except Fault (NamedPair S))} (hi : s.tasks[i]? = some t)
    (hj : s.tasks[j]? = some t') (hij : i ≠ j) : t.1.name ≠ t'.1.name := by
  obtain ⟨done, rest, rfl, htasks, -⟩ := h.spawned
  have hnames : ((s.tasks.map Prod.fst).map PairTask.name).Nodup := by
    rw [map_name_of_new htasks]
    exact (List.nodup_append.mp (by rwa [List.map_append] at hn)).1
  intro he
  have hlt : i < ((s.tasks.map Prod.fst).map PairTask.name).length := by simpa using (List.getElem?_eq_some_iff.mp hi).1
  exact hij ((List.getElem?_inj hlt hnames).mp (by simp [hi, hj, he]))

section Set

variable (hi : tasks[i]? = some (task, phase))
  (hframe : ∀ name c, (cells' name).pc c = (cells name).pc c ∨ ∃ side, c = task.call side ∧ name = task.storage side)

include hi hframe

/-- A task and its own calls move: what is true of the others stays true. -/
theorem PairsInv.tasks_set (hn : (order.map Prod.fst).Nodup) (h : PairsInv env raw order dir ⟨main, cells, tasks⟩)
    (hok : TaskOk env raw cells' (task, phase')) (j : ℕ) (t : PairTask × JoinSet.Phase Unit (Except Fault (NamedPair S)))
    (ht : (tasks.set i (task, phase'))[j]? = some t) : TaskOk env raw cells' t := by
  rcases JoinSet.get_set ht with rfl | ⟨hij, ht⟩
  · exact hok
  · refine (h.tasks j t ht).congr fun side => ?_
    rcases hframe (t.1.storage side) (t.1.call side) with he | ⟨side', hc, -⟩
    · exact he
    · exact absurd (congrArg Prod.fst hc).symm (h.name_ne hn hi ht hij)

theorem PairsInv.calls_set (h : PairsInv env raw order dir ⟨main, cells, tasks⟩) (name : String) (c : PairCall)
    (hc : (cells' name).pc c ≠ .idle) : ∃ (j : ℕ) (t : _) (side : Side), (tasks.set i (task, phase'))[j]? = some t ∧
      c = t.1.call side ∧ name = t.1.storage side := by
  rcases hframe name c with he | ⟨side, hcall, hname⟩
  · obtain ⟨j, t, side, ht, hcall, hname⟩ := h.calls name c (he ▸ hc)
    obtain ⟨t', ht', htask⟩ := JoinSet.exists_set hi ht
    exact ⟨j, t', side, ht', by rwa [htask], by rwa [htask]⟩
  · obtain ⟨t', ht', htask⟩ : ∃ t', (tasks.set i (task, phase'))[i]? = some t' ∧ t'.1 = task := JoinSet.exists_set hi hi
    exact ⟨i, t', side, ht', by rwa [htask], by rwa [htask]⟩

/-- A task that is not joined moves, with its own calls. -/
theorem PairsInv.set (hn : (order.map Prod.fst).Nodup) (h : PairsInv env raw order dir ⟨main, cells, tasks⟩)
    (hp : phase ≠ .joined) (hp' : phase' ≠ .joined) (ha : phase' ≠ .aborted) (hok : TaskOk env raw cells' (task, phase')) :
    PairsInv env raw order dir ⟨main, cells', tasks.set i (task, phase')⟩ where
  started := h.started
  spawned := by
    obtain ⟨done, rest, horder, htasks, hmain⟩ := h.spawned
    exact ⟨done, rest, horder, by rwa [JoinSet.map_fst_set hi], hmain⟩
  tasks := h.tasks_set hi hframe hn hok
  calls := h.calls_set hi hframe
  aborted j task' ht := by
    rcases JoinSet.get_set ht with he | ⟨-, ht⟩
    · exact absurd (congrArg Prod.snd he).symm ha
    · exact h.aborted j task' ht
  spawning := by rw [JoinSet.joined_set_ne hp hp' hi]; exact h.spawning
  joining := by rw [JoinSet.joined_set_ne hp hp' hi]; exact h.joining
  failed := h.failed
  returned := h.returned

end Set

/-- The task of a pair whose name no other has is spawned: its calls have not begun. -/
theorem PairsInv.spawn {dir' : String} {pair : String × Scfg} {rest : List (String × Scfg)}
    (hn : (order.map Prod.fst).Nodup) (h : PairsInv env raw order dir ⟨.spawning dir' (pair :: rest), cells, tasks⟩)
    (hnew : PairTask.new dir' pair = .ok task) :
    PairsInv env raw order dir ⟨.spawning dir' rest, cells, tasks ++ [(task, .running ())]⟩ := by
  obtain ⟨done, rest', horder, htasks, hmain, -⟩ := h.spawned
  obtain ⟨rfl, rfl⟩ := hmain _ _ rfl
  have hnotin : pair.1 ∉ done.map Prod.fst := by
    rw [horder, List.map_append, List.map_cons] at hn
    intro hmem
    exact (List.nodup_append.mp hn).2.2 pair.1 hmem pair.1 (List.mem_cons_self ..) rfl
  have hidle : ∀ side, callPc cells task side = .idle := by
    intro side
    by_contra hne
    obtain ⟨j, t, side', ht, hcall, -⟩ := h.calls (task.storage side) (task.call side) hne
    have hname : t.1.name = pair.1 := (congrArg Prod.fst hcall).symm.trans (PairTask.new_name hnew)
    refine hnotin ?_
    rw [← map_name_of_new htasks, ← hname]
    exact List.mem_map_of_mem (List.mem_map_of_mem (List.mem_of_getElem? ht))
  -- a task is an old one, or the new one
  have hget : ∀ {j : ℕ} {t : _}, (tasks ++ [(task, .running ())])[j]? = some t →
      tasks[j]? = some t ∨ t = (task, .running ()) := by
    intro j t ht
    rcases lt_or_ge j tasks.length with hlt | hge
    · rw [List.getElem?_append_left hlt] at ht
      exact .inl ht
    · rw [List.getElem?_append_right hge] at ht
      exact .inr (List.mem_singleton.mp (List.mem_of_getElem? ht))
  have hjoined : JoinSet.joined (tasks ++ [(task, .running ())]) = JoinSet.joined tasks :=
    JoinSet.joined_spawn tasks [task] ()
  constructor
  case started => simp
  case spawned =>
    refine ⟨done ++ [pair], rest, by simp [horder], ?_, fun _ _ he => ?_, by simp⟩
    · rw [List.map_append, List.map_append, List.map_append, htasks]
      simp [hnew]
    · cases he
      exact ⟨rfl, rfl⟩
  case tasks =>
    intro j t ht
    rcases hget ht with ht | rfl
    · exact h.tasks j t ht
    · exact ⟨fun side => by simp [hidle], .a, by rw [hidle]; rfl⟩
  case calls =>
    intro name c hc
    obtain ⟨j, t, side, ht, hcall⟩ := h.calls name c hc
    exact ⟨j, t, side, by rw [List.getElem?_append_left (List.getElem?_eq_some_iff.mp ht).1]; exact ht, hcall⟩
  case aborted =>
    intro j task' ht
    rcases hget ht with ht | he
    · obtain ⟨r, hr⟩ := h.aborted j task' ht
      cases hr
    · cases he
  case spawning => intro _ _ _; rw [hjoined]; exact h.spawning _ _ rfl
  all_goals simp

/-- `into_named_pairs` fails, and its tasks are dropped. -/
theorem PairsInv.abort (h : PairsInv env raw order dir ⟨main, cells, tasks⟩) {e : Error}
    (he : ∃ pair ∈ order, ∃ fault, pairOutcome env raw dir pair = .error fault) :
    PairsInv env raw order dir ⟨.returned (.error e), cells, JoinSet.abort tasks⟩ where
  started := by simp
  spawned := by
    obtain ⟨done, rest, horder, htasks, -⟩ := h.spawned
    exact ⟨done, rest, horder, by rwa [JoinSet.map_fst_abort], by simp, by simp⟩
  tasks i t ht := by
    obtain ⟨⟨task, phase⟩, ht₀, rfl⟩ := JoinSet.get_abort.mp ht
    have hok := h.tasks i _ ht₀
    cases phase with
    | running => trivial
    | _ => exact hok
  calls name c hc := by
    obtain ⟨i, t, side, ht, hcall, hname⟩ := h.calls name c hc
    exact ⟨i, _, side, JoinSet.get_abort.mpr ⟨t, ht, rfl⟩, hcall, hname⟩
  aborted _ _ _ := ⟨_, rfl⟩
  spawning := by simp
  joining := by simp
  failed _ _ := he
  returned := by simp

/-- The pair of a task that was spawned. -/
theorem PairsInv.pair_of_task (h : PairsInv env raw order dir s)
    {t : PairTask × JoinSet.Phase Unit (Except Fault (NamedPair S))}
    (ht : s.tasks[i]? = some t) : ∃ pair ∈ order, pairOutcome env raw dir pair = taskOutcome env raw t.1 := by
  obtain ⟨done, rest, rfl, htasks, -⟩ := h.spawned
  have hi : ((s.tasks.map Prod.fst).map .ok)[i]? = some (Except.ok (ε := Error) t.1) := by simp [ht]
  rw [htasks, List.getElem?_map, Option.map_eq_some_iff] at hi
  obtain ⟨pair, hpair, hnew⟩ := hi
  refine ⟨pair, List.mem_append_left _ (List.mem_of_getElem? hpair), ?_⟩
  rw [pairOutcome, hnew]
  rfl

/-- What the tasks make is what their pairs do. -/
theorem map_pairOutcome {tasks : List PairTask} {pairs : List (String × Scfg)}
    (h : tasks.map .ok = pairs.map (PairTask.new dir)) :
    pairs.map (pairOutcome env raw dir) = tasks.map (taskOutcome env raw) := by
  let after : Except Error PairTask → Except Fault (NamedPair S) := fun task => do
    taskOutcome env raw (← task.mapError .err)
  calc pairs.map (pairOutcome env raw dir) = (pairs.map (PairTask.new dir)).map after := by rw [List.map_map]; rfl
    _ = (tasks.map .ok).map after := by rw [h]
    _ = tasks.map (taskOutcome env raw) := by rw [List.map_map]; rfl

section Outcomes

variable (hc : ∀ name, CellOk env raw name (cells name))

include hc

theorem storageOutcome_of_ok {side : Side} {r : S × Duration} (h : callPc cells task side = .returned (.ok r)) :
    storageOutcome env raw (task.storage side) = .ok r := by
  have hfix : (callPc cells task side).Fixed _ _ := (hc (task.storage side)).fixed.pc (task.call side)
  rwa [h] at hfix

theorem storageOutcome_of_fault {side : Side} {fault : Fault} (h : (callPc cells task side).fault = some fault) :
    ∃ fault', storageOutcome env raw (task.storage side) = .error fault' := by
  have hfix : (callPc cells task side).Fixed _ _ := (hc (task.storage side)).fixed.pc (task.call side)
  have hunr : ∀ msg, callPc cells task side ≠ _ := (hc (task.storage side)).inv.not_unreachable (task.call side)
  cases hpc : callPc cells task side with
  | returned r => cases r with
    | error e => rw [hpc] at hfix; exact ⟨_, hfix⟩
    | ok r => rw [hpc] at h; cases h
  | panicked =>
    rw [hpc] at hfix
    obtain ⟨msg, hmsg⟩ := hfix
    exact ⟨.panic msg, hmsg⟩
  | unreachable msg => exact absurd hpc (hunr msg)
  | _ => rw [hpc] at h; cases h

/-- A pair that was built is what the task makes alone. -/
theorem taskOutcome_of_calls {a b : S × Duration} (ha : callPc cells task .a = .returned (.ok a))
    (hb : callPc cells task .b = .returned (.ok b)) : taskOutcome env raw task = task.build env a b := by
  have ha' : storageOutcome env raw task.nameA = .ok a := storageOutcome_of_ok hc ha
  have hb' : storageOutcome env raw task.nameB = .ok b := storageOutcome_of_ok hc hb
  rw [taskOutcome, ha', hb']
  rfl

/-- A task one of whose calls has gone wrong goes wrong alone, too. -/
theorem taskOutcome_of_fault {side : Side} {fault : Fault} (h : (callPc cells task side).fault = some fault) :
    ∃ fault', taskOutcome env raw task = .error fault' := by
  obtain ⟨f, hf⟩ := storageOutcome_of_fault hc h
  cases side with
  | a => exact ⟨f, by rw [taskOutcome, show storageOutcome env raw task.nameA = _ from hf]; rfl⟩
  | b =>
    cases ha : storageOutcome env raw task.nameA with
    | error f' => exact ⟨f', by rw [taskOutcome, ha]; rfl⟩
    | ok a => exact ⟨f, by rw [taskOutcome, ha, show storageOutcome env raw task.nameB = _ from hf]; rfl⟩

end Outcomes

namespace Pc

theorem rests_of_fault {ι : Type} {p : Pc ι S} {fault : Fault} (h : p.fault = some fault) : p.rests = false := by
  rcases p with _ | _ | _ | _ | _ | _ | _ | _ | _ | _ | _ | (_ | _) | _ | _ | _ <;> first | rfl | cases h

theorem settled_of_fault {ι : Type} {p : Pc ι S} {fault : Fault} (h : p.fault = some fault) : p.settled = true := by
  rcases p with _ | _ | _ | _ | _ | _ | _ | _ | _ | _ | _ | (_ | _) | _ | _ | _ <;> first | rfl | cases h

/-- A call that rests is over once it is dropped. -/
theorem settled_of_rests {ι : Type} {p : Pc ι S} (h : p.rests = true) :
    (if p.awaiting then Pc.dropped else p : Pc ι S).settled = true := by
  rcases p with _ | _ | _ | _ | _ | _ | _ | _ | _ | _ | _ | (_ | _) | _ | _ | _ <;> first | rfl | cases h

end Pc

/-- All pairs are spawned: nothing is joined yet. -/
theorem PairsInv.spawnEnd {dir' : String} (h : PairsInv env raw order dir ⟨.spawning dir' [], cells, tasks⟩) :
    PairsInv env raw order dir ⟨.joining [], cells, tasks⟩ where
  started := by simp
  spawned := by
    obtain ⟨done, rest, horder, htasks, hmain, -⟩ := h.spawned
    exact ⟨done, rest, horder, htasks, by simp, fun _ _ => (hmain _ _ rfl).2.symm⟩
  tasks := h.tasks
  calls := h.calls
  aborted i task ht := by
    obtain ⟨r, hr⟩ := h.aborted i task ht
    cases hr
  spawning := by simp
  joining pairs hp := by
    cases hp
    rw [h.spawning _ _ rfl]
    exact .nil
  failed := by simp
  returned := by simp

section Task

variable (hn : (order.map Prod.fst).Nodup) (hc : ∀ name, CellOk env raw name (cells name))
  (h : PairsInv env raw order dir ⟨main, cells, tasks⟩) {side : Side}

include hn hc h

/-- A call of a task takes a step, while the other call of the task rests. -/
theorem PairsInv.call {act : Act S} {cell : Cell PairCall S} (hi : tasks[i]? = some (task, .running ()))
    (hrest : (callPc cells task side.other).rests = true)
    (hcell : Cell.Step (task.storage side) (cells (task.storage side)) (task.call side, act) cell) (hdrop : act ≠ .drop) :
    PairsInv env raw order dir ⟨main, Function.update cells (task.storage side) cell, tasks⟩ := by
  obtain ⟨p, hp, hpdrop⟩ := Cell.step_moves (hc (task.storage side)).inv hcell
  have hself := callPc_update_self cells hp
  have hother := callPc_update_ne cells hp (task.call_other_ne side)
  have hok : TaskOk env raw (Function.update cells (task.storage side) cell) (task, .running ()) := by
    refine ⟨(Side.forall_iff side).mpr ⟨?_, ?_⟩, side.other, ?_⟩
    · rw [hself]; exact hpdrop hdrop
    · rw [hother]; exact (h.tasks i _ hi).1 side.other
    · rw [hother]; exact hrest
  have hset := h.set hi (fun name c => (update_frame hp name c).imp id fun h => ⟨side, h.1, h.2⟩) hn (by simp) (by simp)
    (by simp) hok
  rwa [JoinSet.set_self hi] at hset

/-- Both storages are there: the task builds its pair, or finds that it cannot. -/
theorem PairsInv.build {a b : S × Duration} (hi : tasks[i]? = some (task, .running ()))
    (ha : callPc cells task .a = .returned (.ok a)) (hb : callPc cells task .b = .returned (.ok b)) :
    PairsInv env raw order dir ⟨main, cells, tasks.set i (task, .ended (task.build env a b))⟩ := by
  have hok : TaskOk env raw cells (task, .ended (task.build env a b)) := by
    cases hb' : task.build env a b with
    | ok pair => exact ⟨a, b, ha, hb, hb'⟩
    | error fault =>
      refine ⟨fun side => ?_, fault, (taskOutcome_of_calls hc ha hb).trans hb'⟩
      cases side with
      | a => rw [ha]; rfl
      | b => rw [hb]; rfl
  exact h.set hi (fun _ _ => .inl rfl) hn (by simp) (by simp) (by simp) hok

/-- A call has gone wrong: the task ends, and its other call, which rests, is cancelled. -/
theorem PairsInv.fail {fault : Fault} (hi : tasks[i]? = some (task, .running ()))
    (hf : (callPc cells task side).fault = some fault) :
    PairsInv env raw order dir ⟨main, Function.update cells (task.storage side.other)
      ((cells (task.storage side.other)).cancel (task.call side.other)), tasks.set i (task, .ended (.error fault))⟩ := by
  have hp := cancel_pc (cells (task.storage side.other)) (task.call side.other)
  have hself := callPc_update_self cells hp
  have hother := callPc_update_ne cells hp (task.call_other_ne side).symm
  have hrests : (callPc cells task side.other).rests = true := by
    obtain ⟨-, side', hrest⟩ := h.tasks i _ hi
    by_cases hside : side' = side
    · subst hside
      exact absurd hrest (Bool.eq_false_iff.mp (Pc.rests_of_fault hf))
    · obtain rfl : side' = side.other := by cases side <;> cases side' <;> first | rfl | exact absurd rfl hside
      exact hrest
  have hok : TaskOk env raw (Function.update cells (task.storage side.other)
      ((cells (task.storage side.other)).cancel (task.call side.other))) (task, .ended (.error fault)) := by
    refine ⟨(Side.forall_iff side).mpr ⟨?_, ?_⟩, taskOutcome_of_fault hc hf⟩
    · rw [hother]; exact Pc.settled_of_fault hf
    · rw [hself]; exact Pc.settled_of_rests hrests
  exact h.set hi (fun name c => (update_frame hp name c).imp id fun h => ⟨side.other, h.1, h.2⟩) hn (by simp) (by simp)
    (by simp) hok

end Task

/-- A task that has built its pair is joined. -/
theorem PairsInv.join {pairs : List (NamedPair S)} {pair : NamedPair S} (hn : (order.map Prod.fst).Nodup)
    (hc : ∀ name, CellOk env raw name (cells name)) (h : PairsInv env raw order dir ⟨.joining pairs, cells, tasks⟩)
    (hi : tasks[i]? = some (task, .ended (.ok pair))) :
    PairsInv env raw order dir ⟨.joining (pairs ++ [pair]), cells, tasks.set i (task, .joined)⟩ := by
  have hbuilt : Built env cells task pair := h.tasks i _ hi
  have hout : taskOutcome env raw task = .ok pair := by
    obtain ⟨a, b, ha, hb, he⟩ := hbuilt
    exact (taskOutcome_of_calls hc ha hb).trans he
  obtain ⟨done, rest, horder, htasks, -, hrest⟩ := h.spawned
  constructor
  case started => simp
  case spawned => exact ⟨done, rest, horder, by rwa [JoinSet.map_fst_set hi], by simp, fun _ _ => hrest _ rfl⟩
  case tasks => exact h.tasks_set hi (fun _ _ => .inl rfl) hn ⟨pair, hbuilt⟩
  case calls => exact h.calls_set hi fun _ _ => .inl rfl
  case aborted =>
    intro j task' ht
    rcases JoinSet.get_set ht with he | ⟨-, ht⟩
    · cases he
    · obtain ⟨r, hr⟩ := h.aborted j task' ht
      cases hr
  case joining =>
    intro pairs' hp
    cases hp
    have hperm := (JoinSet.joined_set (by simp) hi).map (taskOutcome env raw)
    rw [List.map_append, List.map_singleton, hout] at hperm
    rw [List.map_append]
    exact ((h.joining _ rfl).append_right _).trans hperm.symm
  all_goals simp

/-- All tasks are joined: the pairs are those of the tasks. -/
theorem PairsInv.ret {pairs : List (NamedPair S)} (h : PairsInv env raw order dir ⟨.joining pairs, cells, tasks⟩)
    (hall : ∀ t ∈ tasks, t.2 = .joined) : PairsInv env raw order dir ⟨.returned (.ok pairs), cells, tasks⟩ := by
  obtain ⟨done, rest, horder, htasks, -, hrest⟩ := h.spawned
  obtain rfl := hrest _ rfl
  constructor
  case spawned => exact ⟨done, [], horder, htasks, by simp, by simp⟩
  case tasks => exact h.tasks
  case calls => exact h.calls
  case aborted => exact fun _ _ _ => ⟨_, rfl⟩
  case returned =>
    intro pairs' hp
    cases hp
    have hperm := h.joining _ rfl
    rw [JoinSet.joined_of_all hall] at hperm
    rw [horder, List.append_nil, map_pairOutcome htasks]
    exact hperm
  all_goals simp

/-- One step keeps the invariant. -/
theorem step_pairsInv (hn : (order.map Prod.fst).Nodup) (hc : ∀ name, CellOk env raw name (s.cells name))
    (h : PairsInv env raw order dir s) (hs : PairsStep env statusPath order s l s') : PairsInv env raw order dir s' := by
  cases hs with
  | start | startErr | startPanic => exact absurd rfl h.started.1
  | spawn cells tasks dir' pair rest task hnew => exact h.spawn hn hnew
  | spawnErr cells tasks dir' pair rest e hnew =>
    obtain ⟨done, rest', horder, -, hmain, -⟩ := h.spawned
    obtain ⟨rfl, rfl⟩ := hmain _ _ rfl
    refine h.abort ⟨pair, by simp [horder], .err e, ?_⟩
    rw [pairOutcome, hnew]
    rfl
  | spawned cells tasks dir' => exact h.spawnEnd
  | call main cells tasks i task side act cell hi hrest hcell hdrop hallow => exact h.call hn hc hi hrest hcell hdrop
  | built main cells tasks i task a b hi ha hb => exact h.build hn hc hi ha hb
  | failed main cells tasks i task side fault hi hf => exact h.fail hn hc hi hf
  | join pairs cells tasks i task pair hi => exact h.join hn hc hi
  | joinErr pairs cells tasks i task e hi =>
    obtain ⟨pair, hpair, he⟩ := h.pair_of_task hi
    obtain ⟨-, fault, hfault⟩ := h.tasks i _ hi
    exact h.abort ⟨pair, hpair, fault, he.trans hfault⟩
  | joinPanic pairs cells tasks i task msg hi =>
    obtain ⟨pair, hpair, he⟩ := h.pair_of_task hi
    obtain ⟨-, fault, hfault⟩ := h.tasks i _ hi
    exact h.abort ⟨pair, hpair, fault, he.trans hfault⟩
  | ret pairs cells tasks hall => exact h.ret hall

end Steps

end Pimsync
