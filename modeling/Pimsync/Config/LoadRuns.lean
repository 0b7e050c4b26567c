import Pimsync.Config.ParseStorages

/-!
# The order in which storages are initialised

The tasks of `parse_storages` run side by side, and are joined as they end. If each of them ends as `init` says, whenever
that is, then only the order of the storages and the choice of an error are left to the runtime.

- `OrderInv`, `run_orderInv`: what was joined so far;
- `exists_loadStep`: `parse_storages` waits for its tasks only;
- `parse_storages_order`: it can always return, and what it returns.
-/

namespace Pimsync

variable {σ S : Type}

/-- The tasks end as `init` says. -/
def LoadLabel.Fixed (init : ℕ → InitOutcome S) : LoadLabel S → Prop
  | .ended i outcome => outcome = init i
  | _ => True

def InitOutcome.storage? : InitOutcome S → Option S
  | .ok storage _ => some storage
  | _ => none

/-- What `parse_storages` returns for a task that has failed. -/
def InitOutcome.error? (task : Task) (i : ℕ) : InitOutcome S → Option Error
  | .ok _ _ => none
  | .err e => some (s!"initialising storage {task.name}" :: e)
  | .panic => some [s!"task {i} panicked"]

/-- The storage of a task. -/
def storageOf (init : ℕ → InitOutcome S) (task : Task × ℕ) : Option (NamedStorage S) :=
  (init task.2).storage?.map (⟨task.1.name, ·, task.1.loaded⟩)

/-- The storages of all tasks, in the order in which the tasks were spawned. -/
def storagesOf (init : ℕ → InitOutcome S) (tasks : List Task) : List (NamedStorage S) :=
  tasks.zipIdx.filterMap (storageOf init)

variable {loop : Ran σ LoadEvent Error Unit} {init : ℕ → InitOutcome S} {tr : List (LoadLabel S)} {s s' : LoadState S}
  {l : LoadLabel S}

/-! ## What was joined -/

/-- A task ends as `init` says, and only one that has ended well is joined in its place. -/
def Kept (init : ℕ → InitOutcome S) (i : ℕ) : TaskPhase S → Prop
  | .ended outcome => outcome = init i
  | .joined => (init i).storage? ≠ none
  | .running _ | .aborted => True

/-- The storages are those of the tasks that were joined. -/
structure OrderInv (loop : Ran σ LoadEvent Error Unit) (init : ℕ → InitOutcome S) (s : LoadState S) : Prop where
  loading : ∀ rest, s.main = .loading rest → JoinSet.joined (JoinSet.number s.tasks) = []
  live : (∀ e, s.main ≠ .returned (.error e)) →
    ∀ i t, s.tasks[i]? = some t → Kept init i t.2 ∧ t.2 ≠ .aborted
  joining : ∀ storages, s.main = .joining storages →
    storages.Perm ((JoinSet.joined (JoinSet.number s.tasks)).filterMap (storageOf init))
  ok : ∀ storages, s.main = .returned (.ok storages) → (∀ t ∈ s.tasks, t.2 = .joined) ∧
    storages.Perm ((JoinSet.joined (JoinSet.number s.tasks)).filterMap (storageOf init))
  error : ∀ e, s.main = .returned (.error e) → loop.result = .error e ∨
    loop.result = .ok () ∧ ∃ i task, (s.tasks.map Prod.fst)[i]? = some task ∧ (init i).error? task i = some e

theorem orderInv_initial : OrderInv loop init (.initial S loop) := by
  constructor <;> simp [LoadState.initial, JoinSet.number, JoinSet.joined]

/-- A task moves, and is not joined by it. -/
theorem OrderInv.move {main : LoadMain S} {tasks : List (Task × TaskPhase S)} (h : OrderInv loop init ⟨main, tasks⟩)
    {i : ℕ} {task : Task} {phase phase' : TaskPhase S} (hi : tasks[i]? = some (task, phase)) (hp : phase ≠ .joined)
    (hp' : phase' ≠ .joined) (ha : phase' ≠ .aborted) (hk : Kept init i phase') :
    OrderInv loop init ⟨main, tasks.set i (task, phase')⟩ := by
  have hnumber : (JoinSet.number tasks)[i]? = some ((task, i), phase) := by rw [JoinSet.number_get, hi]; rfl
  have hjoined : JoinSet.joined (JoinSet.number (tasks.set i (task, phase'))) = JoinSet.joined (JoinSet.number tasks) := by
    rw [JoinSet.number_set, JoinSet.joined_set_ne hp hp' hnumber]
  constructor
  · intro rest hm
    rw [hjoined]
    exact h.loading rest hm
  · intro hm
    exact JoinSet.forall_set (h.live hm) ⟨hk, ha⟩
  · intro storages hm
    rw [hjoined]
    exact h.joining storages hm
  · intro storages hm
    obtain ⟨hall, -⟩ := h.ok storages hm
    exact absurd (hall _ (List.mem_of_getElem? hi)) hp
  · intro e hm
    rw [JoinSet.map_fst_set hi]
    exact h.error e hm

/-- `parse_storages` gives up, and drops its tasks. -/
theorem orderInv_failed {e : Error} {tasks : List (Task × TaskPhase S)}
    (he : loop.result = .error e ∨
      loop.result = .ok () ∧ ∃ i task, (tasks.map Prod.fst)[i]? = some task ∧ (init i).error? task i = some e) :
    OrderInv loop init ⟨.returned (.error e), JoinSet.abort tasks⟩ where
  loading _ hm := by cases hm
  live hm := absurd rfl (hm e)
  joining _ hm := by cases hm
  ok _ hm := by cases hm
  error e' hm := by
    cases hm
    rw [JoinSet.map_fst_abort]
    exact he

/-- A task that has failed is joined. -/
theorem OrderInv.fail {main : LoadMain S} {tasks : List (Task × TaskPhase S)} (h : OrderInv loop init ⟨main, tasks⟩)
    (hok : loop.result = .ok ()) (hm : ∀ e, main ≠ .returned (.error e)) {i : ℕ} {task : Task} {outcome : InitOutcome S}
    {e : Error} (hi : tasks[i]? = some (task, .ended outcome)) (he : outcome.error? task i = some e) :
    OrderInv loop init ⟨.returned (.error e), JoinSet.abort tasks⟩ := by
  have hkept : outcome = init i := (h.live hm i _ hi).1
  refine orderInv_failed (.inr ⟨hok, i, task, ?_, hkept ▸ he⟩)
  rw [List.getElem?_map, hi]
  rfl

/-- A task that has ended well is joined. -/
theorem OrderInv.join {storages : List (NamedStorage S)} {tasks : List (Task × TaskPhase S)}
    (h : OrderInv loop init ⟨.joining storages, tasks⟩) {i : ℕ} {task : Task} {storage : S} {interval : Duration}
    (hi : tasks[i]? = some (task, .ended (.ok storage interval))) :
    OrderInv loop init ⟨.joining (storages ++ [⟨task.name, storage, task.loaded⟩]), tasks.set i (task, .joined)⟩ := by
  have hlive := h.live nofun
  have hkept : .ok storage interval = init i := (hlive i _ hi).1
  have hnumber : (JoinSet.number tasks)[i]? = some ((task, i), .ended (.ok storage interval)) := by
    rw [JoinSet.number_get, hi]; rfl
  have hjoined := JoinSet.joined_set (by simp) hnumber
  rw [← JoinSet.number_set] at hjoined
  have hstorage : [(task, i)].filterMap (storageOf init) = [⟨task.name, storage, task.loaded⟩] := by
    simp [storageOf, ← hkept, InitOutcome.storage?]
  constructor
  · nofun
  · intro _
    refine JoinSet.forall_set hlive ⟨?_, nofun⟩
    simp [Kept, ← hkept, InitOutcome.storage?]
  · intro storages' hm
    cases hm
    have hperm := (h.joining storages rfl).append_right ([(task, i)].filterMap (storageOf init))
    rw [← List.filterMap_append, hstorage] at hperm
    exact hperm.trans (hjoined.filterMap _).symm
  · nofun
  · nofun

theorem step_orderInv (hload : LoadInv loop tr s) (h : OrderInv loop init s) (hl : l.Fixed init)
    (hs : LoadStep loop.result s l s') : OrderInv loop init s' := by
  cases hs with
  | load event rest tasks =>
    refine ⟨fun _ _ => ?_, fun _ => ?_, nofun, nofun, nofun⟩
    · exact (JoinSet.joined_number_spawn ..).trans (h.loading _ rfl)
    · exact JoinSet.forall_spawn (h.live nofun) fun _ _ => ⟨trivial, nofun⟩
  | loaded tasks hok =>
    have hnil := h.loading _ rfl
    refine ⟨nofun, fun _ => h.live nofun, fun storages hm => ?_, nofun, nofun⟩
    cases hm
    rw [hnil]
    exact .nil
  | fail e tasks hres => exact orderInv_failed (.inl hres)
  | init main tasks i task point hi => exact h.move hi nofun nofun nofun trivial
  | ended main tasks i task outcome hi => exact h.move hi nofun nofun nofun hl
  | join storages tasks i task storage interval hi => exact h.join hi
  | joinErr storages tasks i task e hi => exact h.fail (hload.joining _ rfl).1 nofun hi rfl
  | joinPanic storages tasks i task hi => exact h.fail (hload.joining _ rfl).1 nofun hi rfl
  | ret storages tasks hall =>
    refine ⟨nofun, fun _ => h.live nofun, nofun, fun storages' hm => ?_, nofun⟩
    cases hm
    exact ⟨hall, h.joining storages rfl⟩

theorem run_orderInv (hr : (parseStorages S loop).RunWith (fun _ => LoadLabel.Fixed init) (.initial S loop) tr s) :
    LoadInv loop tr s ∧ OrderInv loop init s :=
  hr.history (I := fun tr s => LoadInv loop tr s ∧ OrderInv loop init s) ⟨loadInv_initial, orderInv_initial⟩
    fun _ _ _ _ h hl hs => ⟨step_loadInv h.1 hs, step_orderInv h.1 h.2 hl hs⟩

/-! ## Progress -/

/-- What is left for a task to do. -/
def phaseLeft : TaskPhase S → ℕ
  | .running .ready => 3
  | .running .initialising => 2
  | .ended _ => 1
  | .joined | .aborted => 0

def tasksLeft (tasks : List (Task × TaskPhase S)) : ℕ := (tasks.map fun t => phaseLeft t.2).sum

/-- What is left for `parse_storages` and its tasks to do. -/
def LoadState.left (s : LoadState S) : ℕ :=
  match s.main with
  | .loading rest => 4 * rest.length + tasksLeft s.tasks + 2
  | .joining _ => tasksLeft s.tasks + 1
  | .returned _ => 0

/-- A move of a task that leaves less for it to do. -/
theorem tasksLeft_set {task : Task} {phase phase' : TaskPhase S} (hlt : phaseLeft phase' < phaseLeft phase) :
    ∀ {tasks : List (Task × TaskPhase S)} {i : ℕ}, tasks[i]? = some (task, phase) →
      tasksLeft (tasks.set i (task, phase')) < tasksLeft tasks
  | [], i, h => by simp at h
  | t :: tasks, 0, h => by
    obtain rfl : t = (task, phase) := by simpa using h
    simpa [tasksLeft] using hlt
  | t :: tasks, i + 1, h => by
    have ih := tasksLeft_set hlt (show tasks[i]? = some (task, phase) by simpa using h)
    simpa [tasksLeft] using ih

/-- A task that is not joined yet can go on. -/
theorem exists_taskStep {storages : List (NamedStorage S)} {tasks : List (Task × TaskPhase S)}
    (h : OrderInv loop init ⟨.joining storages, tasks⟩) {i : ℕ} {task : Task} {phase : TaskPhase S}
    (hi : tasks[i]? = some (task, phase)) (hp : phase ≠ .joined) : ∃ (l : LoadLabel S) (s' : LoadState S),
      LoadStep loop.result ⟨.joining storages, tasks⟩ l s' ∧ l.Fixed init ∧ s'.left < tasksLeft tasks + 1 := by
  obtain ⟨hkept, hlive⟩ := h.live nofun i _ hi
  have hset {phase' : TaskPhase S} (hlt : phaseLeft phase' < phaseLeft phase) :
      tasksLeft (tasks.set i (task, phase')) + 1 < tasksLeft tasks + 1 :=
    Nat.succ_lt_succ (tasksLeft_set hlt hi)
  match phase with
  | .running .ready => exact ⟨_, _, .init _ _ i task _ hi, trivial, hset (Nat.lt_succ_self 2)⟩
  | .running .initialising => exact ⟨_, _, .ended _ _ i task (init i) hi, rfl, hset Nat.one_lt_two⟩
  | .ended (.ok storage interval) => exact ⟨_, _, .join _ _ i task storage interval hi, trivial, hset Nat.zero_lt_one⟩
  | .ended (.err e) => exact ⟨_, _, .joinErr _ _ i task e hi, trivial, Nat.succ_pos _⟩
  | .ended .panic => exact ⟨_, _, .joinPanic _ _ i task hi, trivial, Nat.succ_pos _⟩
  | .joined => exact absurd rfl hp
  | .aborted => exact absurd rfl hlive

/-- Until `parse_storages` has returned, there is a step that brings it closer to that. -/
theorem exists_loadStep (h : OrderInv loop init s) (hm : ¬ ∃ result, s.main = .returned result) :
    ∃ (l : LoadLabel S) (s' : LoadState S), LoadStep loop.result s l s' ∧ l.Fixed init ∧ s'.left < s.left := by
  obtain ⟨main, tasks⟩ := s
  match main with
  | .loading (event :: rest) =>
    refine ⟨_, _, .load event rest tasks, trivial, ?_⟩
    have hspawned : tasksLeft (tasks ++ event.task?.toList.map (·, .running .ready)) ≤ tasksLeft tasks + 3 := by
      cases event <;> simp [tasksLeft, LoadEvent.task?, phaseLeft]
    simp only [LoadState.left, List.length_cons]
    omega
  | .loading [] =>
    rcases hres : loop.result with e | ⟨⟩
    · exact ⟨_, _, .fail e tasks rfl, trivial, Nat.succ_pos _⟩
    · refine ⟨_, _, .loaded tasks rfl, trivial, ?_⟩
      simp [LoadState.left]
  | .joining storages =>
    by_cases hall : ∀ t ∈ tasks, t.2 = .joined
    · exact ⟨_, _, .ret storages tasks hall, trivial, Nat.succ_pos _⟩
    · obtain ⟨⟨task, phase⟩, hmem, hphase⟩ : ∃ t ∈ tasks, t.2 ≠ .joined := by simpa using hall
      obtain ⟨i, hi⟩ := List.mem_iff_getElem?.mp hmem
      exact exists_taskStep h hi hphase
  | .returned result => exact absurd ⟨result, rfl⟩ hm

/-- From wherever a run has come, `parse_storages` can return. -/
theorem exists_returned (hr : (parseStorages S loop).RunWith (fun _ => LoadLabel.Fixed init) (.initial S loop) tr s) :
    ∃ tr' s', (parseStorages S loop).RunWith (fun _ => LoadLabel.Fixed init) s tr' s' ∧
      ∃ result, s'.main = .returned result := by
  refine Lts.exists_run_final (I := fun s => ∃ tr, LoadInv loop tr s ∧ OrderInv loop init s) LoadState.left
    (fun s hs hm => ?_) s ⟨tr, run_orderInv hr⟩
  obtain ⟨tr, hload, horder⟩ := hs
  obtain ⟨l, s', hstep, hl, hlt⟩ := exists_loadStep horder hm
  exact ⟨l, s', hl, hstep, ⟨_, step_loadInv hload hstep, step_orderInv hload horder hl hstep⟩, hlt⟩

/-! ## The result -/

/-- Tasks that were all joined have all ended well. -/
theorem OrderInv.all_ok (h : OrderInv loop init s) {storages : List (NamedStorage S)}
    (hm : s.main = .returned (.ok storages)) :
    (∀ i < s.tasks.length, (init i).storage? ≠ none) ∧ storages.Perm (storagesOf init (s.tasks.map Prod.fst)) := by
  obtain ⟨hall, hperm⟩ := h.ok storages hm
  constructor
  · intro i hi
    have hkept := (h.live (by simp [hm]) i _ (List.getElem?_eq_getElem hi)).1
    rw [hall _ (List.getElem_mem hi)] at hkept
    exact hkept
  · have hnumber : ∀ t ∈ JoinSet.number s.tasks, t.2 = .joined := by
      intro t ht
      obtain ⟨i, hi, rfl⟩ := List.mem_mapIdx.mp ht
      exact hall _ (List.getElem_mem hi)
    rwa [JoinSet.joined_of_all hnumber, JoinSet.number_map_fst] at hperm

/-- **The order in which its tasks run does not matter to `parse_storages`**: it waits for its tasks only, and what it
returns is the error of its loop, or one of a task that has failed, or else the storages of all its tasks. -/
theorem parse_storages_order (init : ℕ → InitOutcome S)
    (hr : (parseStorages S loop).RunWith (fun _ => LoadLabel.Fixed init) (.initial S loop) tr s) :
    (∃ tr' s', (parseStorages S loop).RunWith (fun _ => LoadLabel.Fixed init) s tr' s' ∧
      ∃ result, s'.main = .returned result) ∧
    ∀ result, s.main = .returned result →
      (∀ e, loop.result = .error e → result = .error e) ∧
      (loop.result = .ok () → (∀ i < (spawnedTasks loop.log).length, (init i).storage? ≠ none) →
        ∃ storages, result = .ok storages ∧ storages.Perm (storagesOf init (spawnedTasks loop.log))) ∧
      (loop.result = .ok () → (∃ i < (spawnedTasks loop.log).length, (init i).storage? = none) →
        ∃ i task e, result = .error e ∧ (spawnedTasks loop.log)[i]? = some task ∧ (init i).error? task i = some e) := by
  refine ⟨exists_returned hr, fun result hm => ?_⟩
  obtain ⟨hload, horder⟩ := run_orderInv hr
  have htasks : s.tasks.map Prod.fst = spawnedTasks loop.log := by rw [hload.tasks, hload.done (by simp [hm])]
  have hlength : s.tasks.length = (spawnedTasks loop.log).length := by rw [← htasks, List.length_map]
  cases result with
  | error e =>
    have herror := horder.error e hm
    rw [htasks] at herror
    refine ⟨fun e' he' => ?_, fun hok hall => ?_, fun hok _ => ?_⟩
    · obtain he | ⟨hok, -⟩ := herror
      · exact congrArg _ (Except.error.inj (he.symm.trans he'))
      · rw [hok] at he'
        cases he'
    · obtain he | ⟨-, i, task, hi, he⟩ := herror
      · rw [hok] at he
        cases he
      · have hstorage := hall i (List.getElem?_eq_some_iff.mp hi).1
        cases hinit : init i <;> simp [hinit, InitOutcome.storage?, InitOutcome.error?] at hstorage he
    · obtain he | ⟨-, i, task, hi, he⟩ := herror
      · rw [hok] at he
        cases he
      · exact ⟨i, task, e, rfl, hi, he⟩
  | ok storages =>
    obtain ⟨hok, -⟩ := hload.returned storages hm
    obtain ⟨hall, hperm⟩ := horder.all_ok hm
    rw [hlength] at hall
    rw [htasks] at hperm
    refine ⟨fun e he => ?_, fun _ _ => ⟨storages, rfl, hperm⟩, fun _ ⟨i, hi, hnone⟩ => absurd hnone (hall i hi)⟩
    rw [hok] at he
    cases he

/-- The loop has found two storages. -/
def twoBlocks : Ran Unit LoadEvent Error Unit :=
  ⟨.ok (), (), [.spawned ⟨"contacts", ⟨0, []⟩⟩, .spawned ⟨"calendars", ⟨1, []⟩⟩]⟩

/-- The task that was spawned last ends first, and is joined first. -/
theorem crossed_run : (parseStorages Unit twoBlocks).RunWith (fun _ => LoadLabel.Fixed fun _ => .ok () 300)
    (.initial Unit twoBlocks)
    [.load (.spawned ⟨"contacts", ⟨0, []⟩⟩), .load (.spawned ⟨"calendars", ⟨1, []⟩⟩), .loaded, .init 0, .init 1,
      .ended 1 (.ok () 300), .join 1, .ended 0 (.ok () 300), .join 0, .ret]
    ⟨.returned (.ok [⟨"calendars", (), ⟨1, []⟩⟩, ⟨"contacts", (), ⟨0, []⟩⟩]),
      [(⟨"contacts", ⟨0, []⟩⟩, .joined), (⟨"calendars", ⟨1, []⟩⟩, .joined)]⟩ := by
  refine .cons trivial (.load _ _ []) (.cons trivial (.load _ _ _) (.cons trivial (.loaded _ rfl) ?_))
  refine .cons trivial (.init _ _ 0 _ _ rfl) (.cons trivial (.init _ _ 1 _ _ rfl) ?_)
  refine .cons rfl (.ended _ _ 1 _ _ rfl) (.cons trivial (.join _ _ 1 _ _ _ rfl) ?_)
  refine .cons rfl (.ended _ _ 0 _ _ rfl) (.cons trivial (.join _ _ 0 _ _ _ rfl) ?_)
  exact .single trivial (.ret _ _ (by simp [LoadEvent.task?]))

theorem parse_storages_order_crossed : [⟨"calendars", (), ⟨1, []⟩⟩, ⟨"contacts", (), ⟨0, []⟩⟩].Perm
    (storagesOf (fun _ => .ok () 300) (spawnedTasks twoBlocks.log)) := by
  obtain ⟨-, hresult⟩ := parse_storages_order (fun _ => .ok () 300) crossed_run
  obtain ⟨storages, heq, hperm⟩ := (hresult _ rfl).2.1 rfl fun _ _ => nofun
  cases heq
  exact hperm

end Pimsync
