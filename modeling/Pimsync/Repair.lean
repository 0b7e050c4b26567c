import Pimsync.Base.Job
import Pimsync.Base.JoinSet
import Pimsync.Base.Lts
import Pimsync.Config.ParseStorages
import Pimsync.Plan

/-!
# Repairing storages

`repair_storages` spawns a job for each storage. The jobs run side by side and share one counter of failures.

- `repairCollection`, `repairStorage`: what a job does, call by call;
- `RepairStep`: a call of some job, and how `repair_storages` joins them.
-/

namespace Pimsync

/-- `FetchedItem`, as far as it is read. -/
structure FetchedItem where
  href : String
  etag : String
  item : Item

/-- How `Item` reads and writes its UID, and its hash. -/
structure ItemUids where
  uid : Item → Option String
  hash : Item → String
  withUid : Item → String → Item

/-- Items of one line, which is that of the UID: none is read from a line with a parameter, such as `UID;X=1:`, but writing a
UID replaces the line. -/
def bareItems : ItemUids where
  uid item := if item.text.toList.take 4 = ['U', 'I', 'D', ':'] then some (String.ofList (item.text.toList.drop 4)) else none
  hash _ := "e3b0"
  withUid _ uid := ⟨"UID:" ++ uid⟩

theorem bareItems_uid_withUid (item : Item) (uid : String) : bareItems.uid (bareItems.withUid item uid) = some uid := by
  simp [bareItems]

inductive RepairCall
  | discoverCollections
  | getAllItems (collection : String)
  /-- `SystemTime::now` -/
  | now
  | updateItem (href etag : String) (item : Item)
  /-- `failed.fetch_add(1)` -/
  | addFailed

def RepairCall.Answer : RepairCall → Type
  -- the hrefs of the collections
  | .discoverCollections => Except Error (List String)
  | .getAllItems _ => Except Error (List FetchedItem)
  -- nanoseconds since the epoch, unless it is still to come
  | .now => Option ℕ
  | .updateItem .. => Except Error Unit
  | .addFailed => Unit

abbrev RepairJob := Job RepairCall RepairCall.Answer

abbrev RepairEvent := Job.Event RepairCall.Answer

/-- The UID that is tried, and another one if it is taken. -/
def candidateUid (ops : ItemUids) (allUids : List String) (item : Item) : RepairJob String :=
  if ops.hash item ∈ allUids then
    .call .now fun
      | some now => pure (ops.hash item ++ "." ++ toString (now : ℕ))
      | none => .panic
  else pure (ops.hash item)

/-- The body of the loop of `repair_collection`, with the set `all_uids` before and after it. -/
def repairItem (ops : ItemUids) (allUids : List String) (fetched : FetchedItem) : RepairJob (List String) :=
  match ops.uid fetched.item with
  | some _ => pure allUids
  | none => do
    let uid ← candidateUid ops allUids fetched.item
    if uid ∈ allUids then .call .addFailed fun _ => pure allUids
    else
      .call (.updateItem fetched.href fetched.etag (ops.withUid fetched.item uid)) fun
        | .error _ => .call .addFailed fun _ => pure (uid :: allUids)
        | .ok () => pure (uid :: allUids)

def repairItems (ops : ItemUids) : List String → List FetchedItem → RepairJob Unit
  | _, [] => pure ()
  | allUids, fetched :: rest => do
    let allUids ← repairItem ops allUids fetched
    repairItems ops allUids rest

def repairCollection (ops : ItemUids) (collection : String) : RepairJob Unit :=
  .call (.getAllItems collection) fun
    | .error _ => .call .addFailed fun _ => pure ()
    | .ok allFetched => repairItems ops (allFetched.filterMap fun fetched => ops.uid fetched.item) allFetched

def repairStorage (ops : ItemUids) : RepairJob Unit :=
  .call .discoverCollections fun
    | .error _ => .call .addFailed fun _ => pure ()
    | .ok collections => Job.forEach (repairCollection ops) collections

/-! ## The tasks of `repair_storages` -/

/-- How a task ends. -/
inductive RepairEnd
  | returned
  | panicked

abbrev RepairPhase := JoinSet.Phase (RepairJob Unit) RepairEnd

structure RepairState (S : Type) where
  tasks : List (NamedStorage S × RepairPhase)
  failed : UInt32
  /-- What `repair_storages` returned, once it has. -/
  result : Option (Except Error Unit)

inductive RepairLabel
  | call (task : ℕ) (event : RepairEvent)
  | ended (task : ℕ)
  | panicked (task : ℕ)
  /-- `join_next` hands a task over that has ended or panicked. -/
  | joined (task : ℕ)
  | returned

/-- The counter after a call. -/
def failedAfter (failed : UInt32) : RepairEvent → UInt32
  | ⟨.addFailed, _⟩ => failed + 1
  | _ => failed

/-- What `repair_storages` returns. -/
def repairResult (failed : UInt32) : Except Error Unit :=
  if failed = 0 then .ok () else .error [s!"A total of {failed} operations failed."]

/-- One step of `repair_storages` or of a task. A task that panics is joined as any other. -/
inductive RepairStep {S : Type} : RepairState S → RepairLabel → RepairState S → Prop
  | call (tasks : List (NamedStorage S × RepairPhase)) (failed : UInt32) (i : ℕ) (storage : NamedStorage S) (c : RepairCall)
      (next : c.Answer → RepairJob Unit) (answer : c.Answer) : tasks[i]? = some (storage, .running (.call c next)) →
      RepairStep ⟨tasks, failed, none⟩ (.call i ⟨c, answer⟩)
        ⟨tasks.set i (storage, .running (next answer)), failedAfter failed ⟨c, answer⟩, none⟩
  | ended (tasks : List (NamedStorage S × RepairPhase)) (failed : UInt32) (i : ℕ) (storage : NamedStorage S) :
      tasks[i]? = some (storage, .running (.done ())) →
      RepairStep ⟨tasks, failed, none⟩ (.ended i) ⟨tasks.set i (storage, .ended .returned), failed, none⟩
  | panicked (tasks : List (NamedStorage S × RepairPhase)) (failed : UInt32) (i : ℕ) (storage : NamedStorage S)
      (job : RepairJob Unit) : tasks[i]? = some (storage, .running job) →
      RepairStep ⟨tasks, failed, none⟩ (.panicked i) ⟨tasks.set i (storage, .ended .panicked), failed, none⟩
  | joined (tasks : List (NamedStorage S × RepairPhase)) (failed : UInt32) (i : ℕ) (storage : NamedStorage S)
      (end_ : RepairEnd) : tasks[i]? = some (storage, .ended end_) →
      RepairStep ⟨tasks, failed, none⟩ (.joined i) ⟨tasks.set i (storage, .joined), failed, none⟩
  | returned (tasks : List (NamedStorage S × RepairPhase)) (failed : UInt32) : (∀ t ∈ tasks, t.2 = .joined) →
      RepairStep ⟨tasks, failed, none⟩ .returned ⟨tasks, failed, some (repairResult failed)⟩

/-- `repair_storages` and its tasks. -/
def repairStorages (S : Type) : Lts (RepairState S) RepairLabel := ⟨RepairStep⟩

/-- `repair_storages` has spawned its tasks. -/
def RepairState.initial {S : Type} (ops : ItemUids) (storages : List (NamedStorage S)) : RepairState S :=
  ⟨storages.map (·, .running (repairStorage ops)), 0, none⟩

end Pimsync
