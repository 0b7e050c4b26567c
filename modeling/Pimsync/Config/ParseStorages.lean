import Pimsync.Base.JoinSet
import Pimsync.Base.Lts
import Pimsync.Config.SameBlock
import Pimsync.Config.StringFields

/-!
# `parse_storages` and its tasks

`parse_storages` spawns a task for each wanted storage while it still reads the blocks, so that any task may run between
two of its steps. `LoadState` is what is left for it to do, with the state of every task.

- `run_returned`: what it returns are the storages of all its tasks, in the order in which they ended;
- `step_loadInv`: its loop does what it does alone, and a task runs only after the loop has spawned one.
-/

namespace Pimsync

variable {σ S : Type}

/-- `NamedStorage`, and the block it was made from, which the source does not keep. -/
structure NamedStorage (S : Type) where
  name : String
  storage : S
  loaded : Loaded

/-- Where a task of `parse_storages` is while it runs. -/
inductive InitPoint
  | ready
  /-- In `init_storage`. -/
  | initialising

abbrev TaskPhase (S : Type) := JoinSet.Phase InitPoint (InitOutcome S)

/-- Where `parse_storages` is. -/
inductive LoadMain (S : Type)
  /-- In its loop, with this left to do. -/
  | loading (rest : List LoadEvent)
  /-- At `tasks.join_next().await`. -/
  | joining (storages : List (NamedStorage S))
  | returned (result : Except Error (List (NamedStorage S)))

structure LoadState (S : Type) where
  main : LoadMain S
  tasks : List (Task × TaskPhase S)

inductive LoadLabel (S : Type)
  | load (event : LoadEvent)
  /-- The loop has ended and no name is missing. -/
  | loaded
  /-- The loop has failed, or a name is missing. -/
  | fail (e : Error)
  /-- A step of `init_storage`. -/
  | init (task : ℕ)
  | ended (task : ℕ) (outcome : InitOutcome S)
  | join (task : ℕ)
  | ret

/-- One step of `parse_storages` or of a task; `loaded` is how the loop ends. -/
inductive LoadStep (loaded : Except Error Unit) : LoadState S → LoadLabel S → LoadState S → Prop
  | load (event : LoadEvent) (rest : List LoadEvent) (tasks : List (Task × TaskPhase S)) :
      LoadStep loaded ⟨.loading (event :: rest), tasks⟩ (.load event)
        ⟨.loading rest, tasks ++ event.task?.toList.map (·, .running .ready)⟩
  | loaded (tasks : List (Task × TaskPhase S)) : loaded = .ok () →
      LoadStep loaded ⟨.loading [], tasks⟩ .loaded ⟨.joining [], tasks⟩
  | fail (e : Error) (tasks : List (Task × TaskPhase S)) : loaded = .error e →
      LoadStep loaded ⟨.loading [], tasks⟩ (.fail e) ⟨.returned (.error e), JoinSet.abort tasks⟩
  | init (main : LoadMain S) (tasks : List (Task × TaskPhase S)) (i : ℕ) (task : Task) (point : InitPoint) :
      tasks[i]? = some (task, .running point) →
      LoadStep loaded ⟨main, tasks⟩ (.init i) ⟨main, tasks.set i (task, .running .initialising)⟩
  | ended (main : LoadMain S) (tasks : List (Task × TaskPhase S)) (i : ℕ) (task : Task) (outcome : InitOutcome S) :
      tasks[i]? = some (task, .running .initialising) →
      LoadStep loaded ⟨main, tasks⟩ (.ended i outcome) ⟨main, tasks.set i (task, .ended outcome)⟩
  | join (storages : List (NamedStorage S)) (tasks : List (Task × TaskPhase S)) (i : ℕ) (task : Task) (storage : S)
      (interval : Duration) : tasks[i]? = some (task, .ended (.ok storage interval)) →
      LoadStep loaded ⟨.joining storages, tasks⟩ (.join i)
        ⟨.joining (storages ++ [⟨task.name, storage, task.loaded⟩]), tasks.set i (task, .joined)⟩
  | joinErr (storages : List (NamedStorage S)) (tasks : List (Task × TaskPhase S)) (i : ℕ) (task : Task) (e : Error) :
      tasks[i]? = some (task, .ended (.err e)) → LoadStep loaded ⟨.joining storages, tasks⟩ (.join i)
        ⟨.returned (.error (s!"initialising storage {task.name}" :: e)), JoinSet.abort tasks⟩
  | joinPanic (storages : List (NamedStorage S)) (tasks : List (Task × TaskPhase S)) (i : ℕ) (task : Task) :
      tasks[i]? = some (task, .ended .panic) → LoadStep loaded ⟨.joining storages, tasks⟩ (.join i)
        ⟨.returned (.error [s!"task {i} panicked"]), JoinSet.abort tasks⟩
  | ret (storages : List (NamedStorage S)) (tasks : List (Task × TaskPhase S)) : (∀ t ∈ tasks, t.2 = .joined) →
      LoadStep loaded ⟨.joining storages, tasks⟩ .ret ⟨.returned (.ok storages), tasks⟩

/-- `parse_storages` and its tasks; `loop` is what its loop does. -/
def parseStorages (S : Type) (loop : Ran σ LoadEvent Error Unit) : Lts (LoadState S) (LoadLabel S) :=
  ⟨LoadStep loop.result⟩

/-- `parse_storages` is called. -/
def LoadState.initial (S : Type) (loop : Ran σ LoadEvent Error Unit) : LoadState S := ⟨.loading loop.log, []⟩

variable {loop : Ran σ LoadEvent Error Unit} {tr : List (LoadLabel S)} {s : LoadState S}

/-! ## The loop -/

def LoadLabel.load? : LoadLabel S → Option LoadEvent
  | .load event => some event
  | _ => none

/-- The steps of the loop in a run. -/
def loads (tr : List (LoadLabel S)) : List LoadEvent := tr.filterMap LoadLabel.load?

/-- The task that a storage comes from. -/
def NamedStorage.task (s : NamedStorage S) : Task := ⟨s.name, s.loaded⟩

/-- After the labels `tr`: how far the loop has come, and what became of the tasks that it spawned. -/
structure LoadInv (loop : Ran σ LoadEvent Error Unit) (tr : List (LoadLabel S)) (s : LoadState S) : Prop where
  loading : ∀ rest, s.main = .loading rest → loads tr ++ rest = loop.log ∧ JoinSet.joined s.tasks = []
  done : (∀ rest, s.main ≠ .loading rest) → loads tr = loop.log
  tasks : s.tasks.map Prod.fst = spawnedTasks (loads tr)
  joining : ∀ storages, s.main = .joining storages →
    loop.result = .ok () ∧ (storages.map NamedStorage.task).Perm (JoinSet.joined s.tasks)
  returned : ∀ storages, s.main = .returned (.ok storages) →
    loop.result = .ok () ∧ (storages.map NamedStorage.task).Perm (spawnedTasks loop.log)
  spawned : ∀ i, .init i ∈ tr → spawnedTasks (loads tr) ≠ []
  failed : ∀ e, .fail e ∈ tr → loop.result = .error e

theorem loadInv_initial : LoadInv loop [] (.initial S loop) := by
  constructor <;> simp [LoadState.initial, loads, spawnedTasks, JoinSet.joined]

/-- A step of a task keeps the invariant, if the task is not joined by it. -/
theorem LoadInv.set {main : LoadMain S} {tasks : List (Task × TaskPhase S)} (h : LoadInv loop tr ⟨main, tasks⟩)
    {i : ℕ} {task : Task} {phase phase' : TaskPhase S} (hi : tasks[i]? = some (task, phase)) (hp : phase ≠ .joined)
    (hp' : phase' ≠ .joined) {l : LoadLabel S} (hl : l.load? = none) (hf : ∀ e, l ≠ .fail e) :
    LoadInv loop (tr ++ [l]) ⟨main, tasks.set i (task, phase')⟩ := by
  have hloads : loads (tr ++ [l]) = loads tr := by simp [loads, hl]
  have hj := JoinSet.joined_set_ne hp hp' hi
  constructor
  · intro rest hr; rw [hloads, hj]; exact h.loading rest hr
  · intro hr; rw [hloads]; exact h.done hr
  · rw [hloads, JoinSet.map_fst_set hi]; exact h.tasks
  · intro storages hm; rw [hj]; exact h.joining storages hm
  · exact h.returned
  · intro j hj
    rw [hloads, ← h.tasks]
    rcases tasks with _ | ⟨t, tasks⟩
    · simp at hi
    · simp
  · intro e he
    rcases List.mem_append.mp he with he | he
    · exact h.failed e he
    · exact absurd (List.mem_singleton.mp he).symm (hf e)

/-- A step of `parse_storages` itself, after its loop. -/
theorem LoadInv.after {main' : LoadMain S} {tasks' : List (Task × TaskPhase S)} (h : LoadInv loop tr s)
    {l : LoadLabel S} (hl : l.load? = none) (hi : ∀ i, l ≠ .init i) (hf : ∀ e, l = .fail e → loop.result = .error e)
    (hdone : loads tr = loop.log) (hm : ∀ rest, main' ≠ .loading rest) (ht : tasks'.map Prod.fst = s.tasks.map Prod.fst)
    (hj : ∀ storages, main' = .joining storages →
      loop.result = .ok () ∧ (storages.map NamedStorage.task).Perm (JoinSet.joined tasks'))
    (hr : ∀ storages, main' = .returned (.ok storages) →
      loop.result = .ok () ∧ (storages.map NamedStorage.task).Perm (spawnedTasks loop.log)) :
    LoadInv loop (tr ++ [l]) ⟨main', tasks'⟩ := by
  have hloads : loads (tr ++ [l]) = loads tr := by simp [loads, hl]
  constructor
  · exact fun rest e => absurd e (hm rest)
  · exact fun _ => hloads.trans hdone
  · rw [hloads, ← h.tasks]; exact ht
  · exact hj
  · exact hr
  · intro i hmem
    rw [hloads]
    exact h.spawned i ((List.mem_append.mp hmem).resolve_right fun e => hi i (List.mem_singleton.mp e).symm)
  · intro e he
    rcases List.mem_append.mp he with he | he
    · exact h.failed e he
    · exact hf e (List.mem_singleton.mp he).symm

/-- A step of the loop, which may spawn a task. -/
theorem LoadInv.load {event : LoadEvent} {rest : List LoadEvent} {tasks : List (Task × TaskPhase S)}
    (h : LoadInv loop tr ⟨.loading (event :: rest), tasks⟩) : LoadInv loop (tr ++ [.load event])
      ⟨.loading rest, tasks ++ event.task?.toList.map (·, .running .ready)⟩ := by
  obtain ⟨hlog, hj⟩ := h.loading _ rfl
  have hloads : loads (tr ++ [.load event]) = loads tr ++ [event] := by simp [loads, LoadLabel.load?]
  have hjoined : JoinSet.joined (tasks ++ event.task?.toList.map (·, .running .ready)) = JoinSet.joined tasks :=
    JoinSet.joined_spawn ..
  constructor
  case loading =>
    intro rest' hr
    cases hr
    rw [hloads, hjoined, List.append_assoc]
    exact ⟨hlog, hj⟩
  case done => exact fun hm => absurd rfl (hm rest)
  case tasks =>
    rw [hloads, spawnedTasks_append, List.map_append, ← h.tasks]
    cases event <;> simp [LoadEvent.task?, spawnedTasks]
  case joining => exact fun _ hm => by cases hm
  case returned => exact fun _ hm => by cases hm
  case spawned =>
    intro i hi
    rw [hloads, spawnedTasks_append]
    have hspawned := h.spawned i (by simpa using hi)
    simp [hspawned]
  case failed => exact fun e he => h.failed e (by simpa using he)

theorem step_loadInv {s' : LoadState S} {l : LoadLabel S} (h : LoadInv loop tr s) (hs : LoadStep loop.result s l s') :
    LoadInv loop (tr ++ [l]) s' := by
  cases hs with
  | load event rest tasks => exact h.load
  | loaded tasks hok =>
    obtain ⟨hlog, hj⟩ := h.loading _ rfl
    refine h.after rfl (by simp) (by simp) (by simpa using hlog) (by simp) rfl ?_ (by simp)
    intro storages hm
    cases hm
    rw [hj]; exact ⟨hok, .nil⟩
  | fail e tasks hres =>
    obtain ⟨hlog, hj⟩ := h.loading _ rfl
    exact h.after rfl (by simp) (by simpa using hres) (by simpa using hlog) (by simp) (JoinSet.map_fst_abort tasks)
      (by simp) (by simp)
  | init main tasks i task point hi => exact h.set hi (by simp) (by simp) rfl (by simp)
  | ended main tasks i task outcome hi => exact h.set hi (by simp) (by simp) rfl (by simp)
  | join storages tasks i task storage interval hi =>
    refine h.after rfl (by simp) (by simp) (h.done (by simp)) (by simp) (JoinSet.map_fst_set hi) ?_ (by simp)
    intro storages' hm
    cases hm
    obtain ⟨hok, hj⟩ := h.joining _ rfl
    rw [List.map_append]
    exact ⟨hok, (hj.append_right _).trans (JoinSet.joined_set (by simp) hi).symm⟩
  | joinErr storages tasks i task e hi =>
    exact h.after rfl (by simp) (by simp) (h.done (by simp)) (by simp) (JoinSet.map_fst_abort tasks) (by simp) (by simp)
  | joinPanic storages tasks i task hi =>
    exact h.after rfl (by simp) (by simp) (h.done (by simp)) (by simp) (JoinSet.map_fst_abort tasks) (by simp) (by simp)
  | ret storages tasks hall =>
    refine h.after rfl (by simp) (by simp) (h.done (by simp)) (by simp) rfl (by simp) ?_
    intro storages' hm
    cases hm
    rw [← h.done (by simp), ← h.tasks, ← JoinSet.joined_of_all hall]
    exact h.joining _ rfl

theorem run_loadInv (hr : (parseStorages S loop).Run (.initial S loop) tr s) : LoadInv loop tr s :=
  hr.history loadInv_initial fun _ _ _ _ h _ hs => step_loadInv h hs

/-- **What `parse_storages` returns**: one storage for every task it spawned, in some order. -/
theorem run_returned {storages : List (NamedStorage S)} (hr : (parseStorages S loop).Run (.initial S loop) tr s)
    (hs : s.main = .returned (.ok storages)) :
    loop.result = .ok () ∧ (storages.map NamedStorage.task).Perm (spawnedTasks loop.log) :=
  (run_loadInv hr).returned storages hs

/-! ## Runs -/

/-- The loop alone. -/
theorem run_load (events rest : List LoadEvent) (tasks : List (Task × TaskPhase S)) :
    (parseStorages S loop).Run ⟨.loading (events ++ rest), tasks⟩ (events.map .load)
      ⟨.loading rest, tasks ++ (spawnedTasks events).map (·, .running .ready)⟩ := by
  induction events generalizing tasks with
  | nil => simpa [spawnedTasks] using Lts.RunWith.nil _
  | cons event events ih =>
    have h := ih (tasks ++ event.task?.toList.map (·, .running .ready))
    have hs : spawnedTasks (event :: events) = event.task?.toList ++ spawnedTasks events := by
      cases event <;> rfl
    rw [List.append_assoc, ← List.map_append, ← hs] at h
    exact Lts.Run.cons (L := parseStorages S loop) (.load event (events ++ rest) tasks) h

/-- A loop that spawned one task returns the storage that the task makes. -/
theorem run_single {task : Task} (hres : loop.result = .ok ()) (hlog : spawnedTasks loop.log = [task]) (storage : S) :
    ∃ tr s, (parseStorages S loop).Run (.initial S loop) tr s ∧
      s.main = .returned (.ok [⟨task.name, storage, task.loaded⟩]) := by
  have h₁ : (parseStorages S loop).Run _ _ _ := run_load loop.log [] []
  rw [hlog, List.append_nil] at h₁
  have h₂ : LoadStep (S := S) loop.result ⟨.loading [], [(task, .running .ready)]⟩ .loaded ⟨.joining [], _⟩ := .loaded _ hres
  have h₃ : LoadStep (S := S) loop.result ⟨.joining [], [(task, .running .ready)]⟩ (.init 0)
    ⟨.joining [], [(task, .running .initialising)]⟩ :=
    .init _ _ 0 task _ rfl
  have h₄ : LoadStep loop.result ⟨.joining [], [(task, .running .initialising)]⟩ (.ended 0 (.ok storage 300))
      ⟨.joining [], [(task, .ended (.ok storage 300))]⟩ := .ended _ _ 0 task _ rfl
  have h₅ : LoadStep loop.result ⟨.joining [], [(task, .ended (.ok storage 300))]⟩ (.join 0)
      ⟨.joining [⟨task.name, storage, task.loaded⟩], [(task, .joined)]⟩ := .join [] _ 0 task storage 300 rfl
  have h₆ : LoadStep loop.result ⟨.joining [⟨task.name, storage, task.loaded⟩], [(task, .joined)]⟩ .ret
      ⟨.returned (.ok [⟨task.name, storage, task.loaded⟩]), _⟩ := .ret _ _ (by simp)
  have h : (parseStorages S loop).Run ⟨.loading [], [(task, .running .ready)]⟩ [_, _, _, _, _] _ :=
    Lts.Run.cons h₂ (Lts.Run.cons h₃ (Lts.Run.cons h₄ (Lts.Run.cons h₅ (Lts.Run.single h₆))))
  exact ⟨_, _, h₁.append h, rfl⟩

/-- A loop that spawned two tasks returns the storages that they make, also when the second ends before the first. -/
theorem run_crossed {ok : LoadState S → LoadLabel S → Prop} {first second : Task} (hres : loop.result = .ok ())
    (hlog : spawnedTasks loop.log = [first, second]) {made made' : S}
    (hquiet : ∀ s l, (∀ i outcome, l ≠ .ended i outcome) → ok s l)
    (hmade : ∀ s : LoadState S, s.tasks[0]? = some (first, .running .initialising) → ok s (.ended 0 (.ok made 300)))
    (hmade' : ∀ s : LoadState S, s.tasks[1]? = some (second, .running .initialising) → ok s (.ended 1 (.ok made' 300))) :
    ∃ tr s, (parseStorages S loop).RunWith ok (.initial S loop) tr s ∧
      s.main = .returned (.ok [⟨second.name, made', second.loaded⟩, ⟨first.name, made, first.loaded⟩]) := by
  have hload : (parseStorages S loop).Run _ _ _ := run_load loop.log [] []
  rw [hlog, List.append_nil] at hload
  have h₁ : (parseStorages S loop).RunWith ok (.initial S loop) _
      ⟨.loading [], [(first, .running .ready), (second, .running .ready)]⟩ :=
    hload.runWith ok fun l hl s => hquiet s l fun i outcome heq => by
      obtain ⟨event, -, rfl⟩ := List.mem_map.mp hl
      cases heq
  have h₂ : LoadStep (S := S) loop.result ⟨.loading [], [(first, .running .ready), (second, .running .ready)]⟩ .loaded _ :=
    .loaded _ hres
  have hrest : (parseStorages S loop).RunWith ok
      ⟨.joining [], [(first, .running .ready), (second, .running .ready)]⟩
      [.init 0, .init 1, .ended 1 (.ok made' 300), .join 1, .ended 0 (.ok made 300), .join 0, .ret]
      ⟨.returned (.ok [⟨second.name, made', second.loaded⟩, ⟨first.name, made, first.loaded⟩]),
        [(first, .joined), (second, .joined)]⟩ := by
    refine .cons (hquiet _ _ nofun) (.init _ _ 0 first _ rfl) (.cons (hquiet _ _ nofun) (.init _ _ 1 second _ rfl) ?_)
    refine .cons (hmade' _ rfl) (.ended _ _ 1 second _ rfl) (.cons (hquiet _ _ nofun) (.join _ _ 1 second _ _ rfl) ?_)
    refine .cons (hmade _ rfl) (.ended _ _ 0 first _ rfl) (.cons (hquiet _ _ nofun) (.join _ _ 0 first _ _ rfl) ?_)
    exact .single (hquiet _ .ret nofun) (.ret _ _ (by simp))
  exact ⟨_, _, h₁.append (.cons (L := parseStorages S loop) (hquiet _ .loaded nofun) h₂ hrest), rfl⟩

end Pimsync
