import Pimsync.Base.OneShot
import Pimsync.Config.Storage

/-!
# `StorageBuilder::get_storage`

The calls of `get_storage` for one storage share a `Mutex<LazyStorage>`. A `Cell` is that mutex, the notifiers made under
it and the program point of every call; `Step` is one piece of one call between two points where another call may run.
-/

namespace Pimsync

/-- `LazyStorage`. A `Notify` is known by the call that made it: a call makes at most one. -/
inductive LazyStorage (ι S : Type)
  | raw (scfg : Scfg)
  | initialising (notify : ι)
  | ready (storage : S) (interval : Duration)

/-- A `Mutex<LazyStorage>`: the call that holds its guard, and the value. -/
structure Slot (ι S : Type) where
  lock : Option ι
  value : LazyStorage ι S

/-- Where a call of `get_storage` is. -/
inductive Pc (ι S : Type)
  /-- Not called yet. -/
  | idle
  /-- At `value.lock().await`. -/
  | lock
  /-- Holds the guard, before the `match`. -/
  | locked
  /-- In the `Raw` branch, before the `swap`. -/
  | sawRaw
  /-- At `init_storage(scfg, storage_name).await`. -/
  | init (scfg : Scfg)
  /-- At the second `value.lock().await`, with the storage made. -/
  | publish (storage : S) (interval : Duration)
  /-- Holds the guard, before the second `swap`. -/
  | publishing (storage : S) (interval : Duration)
  /-- Has released the guard, before `notify_waiters` on what it swapped out. -/
  | notify (notify : ι) (storage : S) (interval : Duration)
  /-- At `notify.await`; the future was made after `calls` calls of `notify_waiters`. -/
  | waiting (notify : ι) (calls : ℕ)
  /-- Woken, at the third `value.lock().await`. -/
  | relock
  /-- Holds the guard, before the value is read. -/
  | relocked
  | returned (result : Except Error (S × Duration))
  /-- The future was dropped at an await point. -/
  | dropped
  /-- `init_storage` panicked. -/
  | panicked
  /-- An `unreachable!` was reached. -/
  | unreachable (msg : String)

namespace Pc

variable {ι S : Type}

/-- The call holds the guard of the mutex. -/
def holds : Pc ι S → Bool
  | .locked | .sawRaw | .publishing _ _ | .relocked => true
  | _ => false

/-- The call has taken the configuration and has not published a storage. -/
def makes : Pc ι S → Bool
  | .init _ | .publish _ _ | .publishing _ _ => true
  | _ => false

/-- The call is at an await point, or was never polled. -/
def awaiting : Pc ι S → Bool
  | .idle | .lock | .init _ | .publish _ _ | .waiting _ _ | .relock => true
  | _ => false

/-- The call is over. -/
def settled : Pc ι S → Bool
  | .returned _ | .dropped | .panicked | .unreachable _ => true
  | _ => false

/-- The call has begun and is not over. -/
def engaged : Pc ι S → Bool
  | .idle => false
  | p => !p.settled

/-- The call is over without having published a storage. -/
def dead : Pc ι S → Bool
  | .returned (.error _) | .dropped | .panicked => true
  | _ => false

end Pc

/-- What a call does next, or what happens to it. -/
inductive Act (S : Type)
  | poll
  /-- Take the configuration out and call `init_storage`. -/
  | initStorage
  /-- `init_storage` ends. -/
  | initDone (outcome : InitOutcome S)
  | drop

/-- The calls for one storage. -/
structure Cell (ι S : Type) where
  /-- What `self.raw.get(storage_name)` finds. -/
  slot : Option (Slot ι S)
  /-- The calls of `notify_waiters` so far. -/
  notified : ι → ℕ
  pc : ι → Pc ι S

namespace Cell

variable {ι S : Type}

/-- The builder as `StorageBuilder::new` makes it; `raw` is the storage's entry in the configuration. -/
def initial (raw : Option Scfg) : Cell ι S := ⟨raw.map fun scfg => ⟨none, .raw scfg⟩, fun _ => 0, fun _ => .idle⟩

def put (s : Cell ι S) (slot : Slot ι S) : Cell ι S := { s with slot := some slot }

variable [DecidableEq ι]

def go (s : Cell ι S) (c : ι) (p : Pc ι S) : Cell ι S := { s with pc := Function.update s.pc c p }

/-- `notify_waiters` on the notifier `k`. -/
def wake (s : Cell ι S) (k : ι) : Cell ι S := { s with notified := Function.update s.notified k (s.notified k + 1) }

/-- One step of the call `c` of `get_storage(name)`. -/
inductive Step (name : String) : Cell ι S → ι × Act S → Cell ι S → Prop
  | undefined (s : Cell ι S) (c : ι) : s.pc c = .idle → s.slot = none →
      Step name s (c, .poll) (s.go c (.returned (bail s!"Storage {name} is not defined.")))
  | enter (s : Cell ι S) (c : ι) (sl : Slot ι S) : s.pc c = .idle → s.slot = some sl → Step name s (c, .poll) (s.go c .lock)
  | lock (s : Cell ι S) (c : ι) (v : LazyStorage ι S) : s.pc c = .lock → s.slot = some ⟨none, v⟩ →
      Step name s (c, .poll) ((s.put ⟨some c, v⟩).go c .locked)
  -- `LazyStorage::Raw(_) =>`
  | seeRaw (s : Cell ι S) (c : ι) (h : Option ι) (scfg : Scfg) : s.pc c = .locked → s.slot = some ⟨h, .raw scfg⟩ →
      Step name s (c, .poll) (s.go c .sawRaw)
  | swapRaw (s : Cell ι S) (c : ι) (h : Option ι) (scfg : Scfg) : s.pc c = .sawRaw → s.slot = some ⟨h, .raw scfg⟩ →
      Step name s (c, .initStorage) ((s.put ⟨none, .initialising c⟩).go c (.init scfg))
  | swapNotRaw (s : Cell ι S) (c : ι) (h : Option ι) (v : LazyStorage ι S) : s.pc c = .sawRaw → s.slot = some ⟨h, v⟩ →
      (∀ scfg, v ≠ .raw scfg) → Step name s (c, .poll)
        ((s.put ⟨none, .initialising c⟩).go c (.unreachable "Data was mutated while we held a lock."))
  | initOk (s : Cell ι S) (c : ι) (scfg : Scfg) (st : S) (d : Duration) : s.pc c = .init scfg →
      Step name s (c, .initDone (.ok st d)) (s.go c (.publish st d))
  -- the `?` after `init_storage`: the slot keeps its notifier
  | initErr (s : Cell ι S) (c : ι) (scfg : Scfg) (e : Error) : s.pc c = .init scfg →
      Step name s (c, .initDone (.err e)) (s.go c (.returned (.error (s!"Initialising storage {name}" :: e))))
  | initPanic (s : Cell ι S) (c : ι) (scfg : Scfg) : s.pc c = .init scfg →
      Step name s (c, .initDone .panic) (s.go c .panicked)
  | lockPublish (s : Cell ι S) (c : ι) (v : LazyStorage ι S) (st : S) (d : Duration) : s.pc c = .publish st d →
      s.slot = some ⟨none, v⟩ → Step name s (c, .poll) ((s.put ⟨some c, v⟩).go c (.publishing st d))
  | swapReady (s : Cell ι S) (c k : ι) (h : Option ι) (st : S) (d : Duration) : s.pc c = .publishing st d →
      s.slot = some ⟨h, .initialising k⟩ → Step name s (c, .poll) ((s.put ⟨none, .ready st d⟩).go c (.notify k st d))
  | swapNotInitialising (s : Cell ι S) (c : ι) (h : Option ι) (v : LazyStorage ι S) (st : S) (d : Duration) :
      s.pc c = .publishing st d → s.slot = some ⟨h, v⟩ → (∀ k, v ≠ .initialising k) → Step name s (c, .poll)
        ((s.put ⟨none, .ready st d⟩).go c (.unreachable "Value was mutated while initialising."))
  | notify (s : Cell ι S) (c k : ι) (st : S) (d : Duration) : s.pc c = .notify k st d →
      Step name s (c, .poll) ((s.wake k).go c (.returned (.ok (st, d))))
  -- `LazyStorage::Initialising(notify) =>`
  | seeInitialising (s : Cell ι S) (c k : ι) (h : Option ι) : s.pc c = .locked → s.slot = some ⟨h, .initialising k⟩ →
      Step name s (c, .poll) ((s.put ⟨none, .initialising k⟩).go c (.waiting k (s.notified k)))
  | woken (s : Cell ι S) (c k : ι) (calls : ℕ) : s.pc c = .waiting k calls → calls < s.notified k →
      Step name s (c, .poll) (s.go c .relock)
  | relock (s : Cell ι S) (c : ι) (v : LazyStorage ι S) : s.pc c = .relock → s.slot = some ⟨none, v⟩ →
      Step name s (c, .poll) ((s.put ⟨some c, v⟩).go c .relocked)
  | readReady (s : Cell ι S) (c : ι) (h : Option ι) (st : S) (d : Duration) : s.pc c = .relocked →
      s.slot = some ⟨h, .ready st d⟩ →
      Step name s (c, .poll) ((s.put ⟨none, .ready st d⟩).go c (.returned (.ok (st, d))))
  | readNotReady (s : Cell ι S) (c : ι) (h : Option ι) (v : LazyStorage ι S) : s.pc c = .relocked →
      s.slot = some ⟨h, v⟩ → (∀ st d, v ≠ .ready st d) → Step name s (c, .poll)
        ((s.put ⟨none, v⟩).go c (.unreachable "Received notification for non-ready storage."))
  -- `LazyStorage::Ready(either_storage, duration) =>`
  | seeReady (s : Cell ι S) (c : ι) (h : Option ι) (st : S) (d : Duration) : s.pc c = .locked →
      s.slot = some ⟨h, .ready st d⟩ →
      Step name s (c, .poll) ((s.put ⟨none, .ready st d⟩).go c (.returned (.ok (st, d))))
  | drop (s : Cell ι S) (c : ι) : (s.pc c).awaiting → Step name s (c, .drop) (s.go c .dropped)

end Cell

/-- The calls of `get_storage(name)`. -/
def getStorage {ι S : Type} [DecidableEq ι] (name : String) : Lts (Cell ι S) (ι × Act S) := ⟨Cell.Step name⟩

/-- `StorageBuilder`: the mutexes of different storages have nothing to do with each other. -/
def StorageBuilder.calls {ι S : Type} [DecidableEq ι] : Lts (String → Cell ι S) (String × ι × Act S) := Lts.pi getStorage

/-- `StorageBuilder::new`. -/
def StorageBuilder.new {ι S : Type} (raw : String → Option Scfg) : String → Cell ι S := fun name => .initial (raw name)

end Pimsync
