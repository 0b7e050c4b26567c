import Pimsync.Base.JoinSet
import Pimsync.Config.Pair
import Pimsync.Config.Parse
import Pimsync.Config.StorageBuilder
import Pimsync.Plan

/-!
# `Config::into_named_pairs`

A task for every pair calls `get_storage` twice, under `try_join!`, and builds the pair. `PairsStep` is one step of
`into_named_pairs` itself or of one of its tasks, of which any number run at once; the calls share the cells of a
`StorageBuilder`.

- `intoNamedPairs`: the steps;
- `reference`: the pairs one after the other, each storage having been initialised once.
-/

namespace Pimsync

variable {S : Type}

/-- What `into_named_pairs` finds outside: the home directory, the crates, and how `init_storage` ends. -/
structure PairsOutside (S : Type) where
  home : Home
  collectionId : String → Except Error Unit
  itemKind : S → ItemKind
  initStorage : Scfg → String → InitOutcome S

/-! ## Tasks -/

/-- A call of `get_storage`: its pair, and the side it is for. -/
abbrev PairCall := String × Side

/-- What the task of a pair has taken over. -/
structure PairTask where
  name : String
  nameA : String
  nameB : String
  config : Scfg
  statusDir : String

namespace PairTask

/-- The storage on one side. -/
def storage (task : PairTask) : Side → String
  | .a => task.nameA
  | .b => task.nameB

def call (task : PairTask) (side : Side) : PairCall := (task.name, side)

/-- The task for a pair, as it is spawned. -/
def new (statusDir : String) (pair : String × Scfg) : Except Error PairTask := do
  let a ← takeSingleParamFromDirective pair.2 "storage_a"
  let b ← takeSingleParamFromDirective a.2 "storage_b"
  return ⟨pair.1, a.1, b.1, b.2, statusDir⟩

/-- What the task does once it has both storages. -/
def build (env : PairsOutside S) (task : PairTask) (a b : S × Duration) : Except Fault (NamedPair S) :=
  (buildPair env.collectionId env.itemKind task.statusDir task.name (task.nameA, task.nameB) a b task.config).result

end PairTask

namespace Pc

variable {ι : Type}

/-- What `try_join!` makes of a call that has gone wrong. -/
def fault : Pc ι S → Option Fault
  | .returned (.error e) => some (.err e)
  | .panicked => some (.panic "init_storage panicked")
  | .unreachable msg => some (.panic msg)
  | _ => none

/-- The call waits, or has its storage: `try_join!` may poll the other. -/
def rests : Pc ι S → Bool
  | .returned (.ok _) => true
  | p => p.awaiting

end Pc

/-- A call that is not over is dropped. -/
def Cell.cancel {ι : Type} [DecidableEq ι] (s : Cell ι S) (c : ι) : Cell ι S :=
  if (s.pc c).awaiting then s.go c .dropped else s

/-! ## The system -/

/-- Where `into_named_pairs` is. -/
inductive PairsMain (S : Type)
  /-- Before `expand_tilde`. -/
  | start
  /-- In its loop, with these pairs left to spawn. -/
  | spawning (statusDir : String) (rest : List (String × Scfg))
  /-- At `tasks.join_next().await`. -/
  | joining (pairs : List (NamedPair S))
  | returned (result : Except Error (List (NamedPair S)))
  | panicked (msg : String)

/-- The tasks that were spawned. -/
abbrev PairTasks (S : Type) := List (PairTask × JoinSet.Phase Unit (Except Fault (NamedPair S)))

structure PairsState (S : Type) where
  main : PairsMain S
  cells : String → Cell PairCall S
  tasks : PairTasks S

inductive PairsLabel (S : Type)
  | start
  | spawn (name : String)
  | spawned
  /-- A step of a call of `get_storage`. -/
  | call (task : ℕ) (side : Side) (act : Act S)
  /-- `try_join!` returns, and the task goes on to its end. -/
  | ended (task : ℕ)
  | join (task : ℕ)
  | ret

/-- The call `c` does not make `init_storage` end in another way than it does. -/
def PairsOutside.Allows {ι : Type} (env : PairsOutside S) (name : String) (s : Cell ι S) : ι × Act S → Prop
  | (c, .initDone outcome) => ∀ scfg, s.pc c = .init scfg → outcome = env.initStorage scfg name
  | _ => True

section System

variable (env : PairsOutside S) (statusPath : String) (order : List (String × Scfg))

/-- One step of `into_named_pairs` or of a task; `order` is the order in which the map of pairs is gone through. -/
inductive PairsStep : PairsState S → PairsLabel S → PairsState S → Prop
  | start (cells : String → Cell PairCall S) (tasks : PairTasks S) (dir : String) :
      expandTilde env.home statusPath = .ok dir →
      PairsStep ⟨.start, cells, tasks⟩ .start ⟨.spawning dir order, cells, tasks⟩
  | startErr (cells : String → Cell PairCall S) (tasks : PairTasks S) (e : Error) :
      expandTilde env.home statusPath = .error (.err e) →
      PairsStep ⟨.start, cells, tasks⟩ .start ⟨.returned (.error ("Expanding tilde for status_dir" :: e)), cells, tasks⟩
  | startPanic (cells : String → Cell PairCall S) (tasks : PairTasks S) (msg : String) :
      expandTilde env.home statusPath = .error (.panic msg) →
      PairsStep ⟨.start, cells, tasks⟩ .start ⟨.panicked msg, cells, tasks⟩
  | spawn (cells : String → Cell PairCall S) (tasks : PairTasks S) (dir : String) (pair : String × Scfg)
      (rest : List (String × Scfg)) (task : PairTask) : PairTask.new dir pair = .ok task →
      PairsStep ⟨.spawning dir (pair :: rest), cells, tasks⟩ (.spawn pair.1)
        ⟨.spawning dir rest, cells, tasks ++ [(task, .running ())]⟩
  | spawnErr (cells : String → Cell PairCall S) (tasks : PairTasks S) (dir : String) (pair : String × Scfg)
      (rest : List (String × Scfg)) (e : Error) : PairTask.new dir pair = .error e →
      PairsStep ⟨.spawning dir (pair :: rest), cells, tasks⟩ (.spawn pair.1)
        ⟨.returned (.error e), cells, JoinSet.abort tasks⟩
  | spawned (cells : String → Cell PairCall S) (tasks : PairTasks S) (dir : String) :
      PairsStep ⟨.spawning dir [], cells, tasks⟩ .spawned ⟨.joining [], cells, tasks⟩
  -- `try_join!` polls one of its calls while the other rests
  | call (main : PairsMain S) (cells : String → Cell PairCall S) (tasks : PairTasks S) (i : ℕ) (task : PairTask)
      (side : Side) (act : Act S) (cell : Cell PairCall S) : tasks[i]? = some (task, .running ()) →
      ((cells (task.storage side.other)).pc (task.call side.other)).rests = true →
      Cell.Step (task.storage side) (cells (task.storage side)) (task.call side, act) cell → act ≠ .drop →
      env.Allows (task.storage side) (cells (task.storage side)) (task.call side, act) →
      PairsStep ⟨main, cells, tasks⟩ (.call i side act) ⟨main, Function.update cells (task.storage side) cell, tasks⟩
  | built (main : PairsMain S) (cells : String → Cell PairCall S) (tasks : PairTasks S) (i : ℕ) (task : PairTask)
      (a b : S × Duration) : tasks[i]? = some (task, .running ()) →
      (cells task.nameA).pc (task.call .a) = .returned (.ok a) → (cells task.nameB).pc (task.call .b) = .returned (.ok b) →
      PairsStep ⟨main, cells, tasks⟩ (.ended i) ⟨main, cells, tasks.set i (task, .ended (task.build env a b))⟩
  -- the other call is cancelled
  | failed (main : PairsMain S) (cells : String → Cell PairCall S) (tasks : PairTasks S) (i : ℕ) (task : PairTask)
      (side : Side) (fault : Fault) : tasks[i]? = some (task, .running ()) →
      ((cells (task.storage side)).pc (task.call side)).fault = some fault →
      PairsStep ⟨main, cells, tasks⟩ (.ended i)
        ⟨main, Function.update cells (task.storage side.other)
          ((cells (task.storage side.other)).cancel (task.call side.other)), tasks.set i (task, .ended (.error fault))⟩
  | join (pairs : List (NamedPair S)) (cells : String → Cell PairCall S) (tasks : PairTasks S) (i : ℕ) (task : PairTask)
      (pair : NamedPair S) : tasks[i]? = some (task, .ended (.ok pair)) →
      PairsStep ⟨.joining pairs, cells, tasks⟩ (.join i) ⟨.joining (pairs ++ [pair]), cells, tasks.set i (task, .joined)⟩
  | joinErr (pairs : List (NamedPair S)) (cells : String → Cell PairCall S) (tasks : PairTasks S) (i : ℕ)
      (task : PairTask) (e : Error) : tasks[i]? = some (task, .ended (.error (.err e))) →
      PairsStep ⟨.joining pairs, cells, tasks⟩ (.join i) ⟨.returned (.error e), cells, JoinSet.abort tasks⟩
  | joinPanic (pairs : List (NamedPair S)) (cells : String → Cell PairCall S) (tasks : PairTasks S) (i : ℕ)
      (task : PairTask) (msg : String) : tasks[i]? = some (task, .ended (.error (.panic msg))) →
      PairsStep ⟨.joining pairs, cells, tasks⟩ (.join i)
        ⟨.returned (.error [s!"task {i} panicked with message {msg}"]), cells, JoinSet.abort tasks⟩
  | ret (pairs : List (NamedPair S)) (cells : String → Cell PairCall S) (tasks : PairTasks S) :
      (∀ t ∈ tasks, t.2 = .joined) →
      PairsStep ⟨.joining pairs, cells, tasks⟩ .ret ⟨.returned (.ok pairs), cells, tasks⟩

/-- `into_named_pairs` and its tasks. -/
def intoNamedPairs : Lts (PairsState S) (PairsLabel S) := ⟨PairsStep env statusPath order⟩

end System

/-- What the configuration says of a storage. -/
def Config.storage (config : Config) (name : String) : Option Scfg := (config.storages.lookup name).map (·.config)

/-- The pairs of a configuration, in some order. -/
def Config.pairList (config : Config) : List (String × Scfg) := config.pairs.entries.map fun p => (p.1, p.2)

/-- `into_named_pairs` is called. -/
def PairsState.initial (S : Type) (config : Config) : PairsState S := ⟨.start, StorageBuilder.new config.storage, []⟩

/-! ## The sequential reference -/

/-- How `get_storage` ends when it is the only call. -/
def storageOutcome (env : PairsOutside S) (raw : String → Option Scfg) (name : String) : Except Fault (S × Duration) :=
  match raw name with
  | none => .error (.err [s!"Storage {name} is not defined."])
  | some scfg =>
    match env.initStorage scfg name with
    | .ok storage interval => .ok (storage, interval)
    | .err e => .error (.err (s!"Initialising storage {name}" :: e))
    | .panic => .error (.panic "init_storage panicked")

/-- The storages that the pairs need, each of them once. -/
def neededStorages (dir : String) (pairs : List (String × Scfg)) : List String :=
  (pairs.flatMap fun pair =>
    match PairTask.new dir pair with
    | .ok task => [task.nameA, task.nameB]
    | .error _ => []).dedup

/-- A pair, built from storages that were initialised before. -/
def referencePair (env : PairsOutside S) (storages : List (String × Except Fault (S × Duration))) (dir : String)
    (pair : String × Scfg) : Except Fault (NamedPair S) := do
  let task ← (PairTask.new dir pair).mapError .err
  let a ← (storages.lookup task.nameA).getD (.error (.err []))
  let b ← (storages.lookup task.nameB).getD (.error (.err []))
  task.build env a b

/-- **The reference**: each storage that is needed is initialised once, then every pair is built. -/
def reference (env : PairsOutside S) (config : Config) (dir : String) : List (Except Fault (NamedPair S)) :=
  let storages := (neededStorages dir config.pairList).map fun name => (name, storageOutcome env config.storage name)
  config.pairList.map (referencePair env storages dir)

end Pimsync
