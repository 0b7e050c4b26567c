import Pimsync.Config.Pair
import Pimsync.Plan
import Pimsync.Terminal

/-!
# `sync`

`syncOnce` plans one pair, shows the plan, asks for consent and hands the plan to the executor; `sync` does so for one pair
after the other and counts the errors. The crate's part (`PlanOutside`) is a parameter: the plans, the status database and
the executor.
-/

namespace Pimsync

variable {σ S D : Type}

/-- `.context(msg)`. -/
def Stop.context (msg : String) : Stop → Stop
  | .err e => .err (msg :: e)
  | .hang => .hang

/-- What `execute_stream` does: the errors it reports to its callback, and its result. -/
structure ExecOutcome where
  reported : List Error
  /-- An error of the status database, or of the execution. -/
  result : Except Error (Except Error Unit)

/-- The `vstorage` crate; `D` are its status databases. -/
structure PlanOutside (σ S D : Type) where
  /-- `StatusDatabase::open`. -/
  openStatus : String → σ → Except Error (Option D) × σ
  /-- `StatusDatabase::open_or_create`. -/
  openOrCreate : String → σ → Except Error D × σ
  /-- `Plan::new`, and the stream that it is. -/
  newPlan : StoragePair S → Option D → σ → Except Error (List PlanItem) × σ
  /-- `apply_conflict_resolution`, with a `KeepSideResolver`. -/
  keepSide : Side → List PlanItem → List PlanItem
  /-- `Executor::execute_stream`. -/
  execute : S → S → List PlanItem → D → σ → ExecOutcome × σ

/-- `NamedPair::create_plan`. -/
def createPlan {ε : Type} (env : PlanOutside σ S D) (pair : NamedPair S) : Prog (World σ) ε Error (List PlanItem) := do
  let status ← Prog.outside (env.openStatus pair.statusPath)
  let status ← Prog.lift (context s!"openstatus db for {pair.name}" status)
  let plan ← Prog.outside (env.newPlan pair.inner status)
  Prog.lift plan

theorem createPlan_log {ε : Type} (env : PlanOutside σ S D) (pair : NamedPair S) (w : World σ) :
    (createPlan (ε := ε) env pair w).log = [] := by
  simp only [createPlan, Prog.bind_run, Prog.outside_run, Prog.lift_run]
  split <;> simp_all

/-- `NamedPair::apply_conflict_resolution_to_plan`, without what it logs. -/
def applyConflictResolutionToPlan (env : PlanOutside σ S D) (pair : NamedPair S) (plan : List PlanItem) : List PlanItem :=
  match pair.conflictResolution with
  | some .keepA => env.keepSide .a plan
  | some .keepB => env.keepSide .b plan
  | _ => plan

/-! ## Showing a plan -/

structure PlanCounts where
  collection : ℕ
  item : ℕ
  property : ℕ
  conflict : ℕ
  stale : ℕ

def PlanCounts.zero : PlanCounts := ⟨0, 0, 0, 0, 0⟩

/-- The counts after one more item of a plan. -/
def PlanCounts.add (counts : PlanCounts) : PlanItem → PlanCounts
  | .ok operation =>
    let conflict := counts.conflict + if operation.isConflict then 1 else 0
    match operation with
    | .flushStaleMappings staleUids => { counts with stale := counts.stale + staleUids.length }
    | .collection _ => { counts with collection := counts.collection + 1 }
    | .item _ => { counts with item := counts.item + 1, conflict }
    | .property _ => { counts with property := counts.property + 1, conflict }
  | .error _ => counts

/-- What is shown of an item of a plan. -/
def itemShown : PlanItem → List TermEvent
  | .ok (.flushStaleMappings _) => []
  | .ok (.collection op) => [.print s!"-> Collection {op}"]
  | .ok (.item op) =>
    match op.uid with
    | some uid => [.print s!"-> Item {uid}: {op.display}"]
    | none => [.print s!"-> Item: {op.display}"]
  | .ok (.property op) => [.print s!"-> Property {op.property.display}: {op.display}"]
  | .error e => [.error "Error in plan" e]

def PlanCounts.shown (counts : PlanCounts) : List TermEvent :=
  [.print s!"{counts.collection} collection operations, {counts.item} item operations, {counts.property} property operations",
    .print s!"{counts.conflict} conflicts detected", .print s!"{counts.stale} stale mappings to flush", .print ""]

/-- The loop of `print_and_collect_plan`, with what it has counted and collected. -/
def collectPlan : List PlanItem → PlanCounts → List PlanItem → Prog (World σ) TermEvent Stop (List PlanItem)
  | [], counts, operations => do
    Prog.emitAll counts.shown
    return operations
  | item :: plan, counts, operations => do
    Prog.emitAll (itemShown item)
    collectPlan plan (counts.add item) (operations ++ [item])

/-- `NamedPair::print_and_collect_plan`. -/
def printAndCollectPlan (pair : NamedPair S) (plan : List PlanItem) : Prog (World σ) TermEvent Stop (List PlanItem) := do
  Prog.emit (.print s!">> Storage: {pair.name}")
  collectPlan plan .zero []

/-- All that is shown of a plan. -/
def planShown (name : String) (plan : List PlanItem) : List TermEvent :=
  [.print s!">> Storage: {name}"] ++ plan.flatMap itemShown ++ (plan.foldl PlanCounts.add .zero).shown

theorem collectPlan_run : ∀ (plan : List PlanItem) (counts : PlanCounts) (operations : List PlanItem) (w : World σ),
    collectPlan plan counts operations w =
      ⟨.ok (operations ++ plan), w, plan.flatMap itemShown ++ (plan.foldl PlanCounts.add counts).shown⟩
  | [], counts, operations, w => by simp [collectPlan, Prog.bind_run]
  | item :: plan, counts, operations, w => by
    simp [collectPlan, Prog.bind_run, collectPlan_run plan]

/-- What is collected is the plan, and all of it is shown. -/
theorem printAndCollectPlan_run (pair : NamedPair S) (plan : List PlanItem) (w : World σ) :
    printAndCollectPlan pair plan w = ⟨.ok plan, w, planShown pair.name plan⟩ := by
  simp [printAndCollectPlan, Prog.bind_run, collectPlan_run, planShown]

/-! ## One pair -/

/-- What `sync` does. -/
inductive SyncEvent (S : Type)
  | term (event : TermEvent)
  /-- `create_plan`, and what comes of it. -/
  | planned (pair : NamedPair S) (plan : Except Error (List PlanItem))
  /-- The plan as it was collected. -/
  | collected (pair : NamedPair S) (operations : List PlanItem)
  /-- `open_or_create`, and its error. -/
  | opened (path : String) (error : Option Error)
  | executed (pair : NamedPair S) (operations : List PlanItem) (outcome : ExecOutcome)

/-- The world, and the `error_count` of `sync`. -/
structure SyncWorld (σ : Type) where
  world : World σ
  errorCount : UInt32

section OnWorld

variable {ε E α : Type}

def onWorld (p : Prog (World σ) ε E α) : Prog (SyncWorld σ) ε E α := fun w =>
  ⟨(p w.world).result, { w with world := (p w.world).world }, (p w.world).log⟩

@[simp] theorem onWorld_run (p : Prog (World σ) ε E α) (w : SyncWorld σ) :
    onWorld p w = ⟨(p w.world).result, { w with world := (p w.world).world }, (p w.world).log⟩ := rfl

/-- `error_count.fetch_add(1)`: the counter wraps around. -/
def fetchAdd : Prog (SyncWorld σ) ε E Unit := fun w => ⟨.ok (), { w with errorCount := w.errorCount + 1 }, []⟩

@[simp] theorem fetchAdd_run (w : SyncWorld σ) :
    (fetchAdd : Prog (SyncWorld σ) ε E Unit) w = ⟨.ok (), { w with errorCount := w.errorCount + 1 }, []⟩ := rfl

/-- A program with a counter of its own. -/
def withCounter (p : Prog (SyncWorld σ) ε E α) : Prog (World σ) ε E α := fun w =>
  ⟨(p ⟨w, 0⟩).result, (p ⟨w, 0⟩).world.world, (p ⟨w, 0⟩).log⟩

end OnWorld

/-- The callback of the executor. -/
def countErrors : List Error → Prog (SyncWorld σ) (SyncEvent S) Stop Unit
  | [] => return ()
  | e :: errors => do
    fetchAdd
    Prog.emit (.term (.error "" e))
    countErrors errors

section Sync

variable (env : PlanOutside σ S D)

/-- The prompt of `sync_once`: what it returns early, if it does. -/
def confirm (pair : NamedPair S) (interactive : Bool) : Prog (World σ) TermEvent Stop (Option Bool) :=
  if interactive then do
    match ← continueSkipOrQuit "Execute plan?" with
    | .yes => return none
    | .no =>
      Prog.emit (.print s!"Sync skipped for pair '{pair.name}'.")
      return some true
    | .quit =>
      Prog.emit (.print "Sync cancelled.")
      return some false
  else return none

/-- The plan of a pair, with conflicts resolved, as it is shown. -/
def planPair (pair : NamedPair S) : Prog (World σ) (SyncEvent S) Stop (List PlanItem) := do
  let plan ← Prog.attempt (createPlan env pair)
  match plan with
  | .error e =>
    Prog.emit (.planned pair (.error e))
    Prog.fail (.err ("Creating plan" :: e))
  | .ok plan =>
    Prog.emit (.planned pair (.ok plan))
    let operations ← Prog.mapLog .term (printAndCollectPlan pair (applyConflictResolutionToPlan env pair plan))
    Prog.emit (.collected pair operations)
    return operations

/-- The end of `sync_once`. -/
def executePlan (pair : NamedPair S) (operations : List PlanItem) : Prog (SyncWorld σ) (SyncEvent S) Stop Unit := do
  let status ← onWorld (Prog.outside (env.openOrCreate pair.statusPath))
  match status with
  | .error e =>
    Prog.emit (.opened pair.statusPath (some e))
    Prog.fail (.err (s!"open_or_create status db for {pair.name}" :: e))
  | .ok status =>
    Prog.emit (.opened pair.statusPath none)
    let outcome ← onWorld (Prog.outside (env.execute pair.inner.storageA pair.inner.storageB operations status))
    Prog.emit (.executed pair operations outcome)
    countErrors outcome.reported
    match outcome.result with
    | .error e => Prog.fail (.err ("executing plan" :: e))
    | .ok (.error e) => Prog.fail (.err ("execution failed" :: e))
    | .ok (.ok ()) => return ()

/-- `NamedPair::sync_once`. -/
def syncOnce (dryRun interactive : Bool) (pair : NamedPair S) : Prog (SyncWorld σ) (SyncEvent S) Stop Bool := do
  let operations ← onWorld (planPair env pair)
  match ← Prog.mapLog .term (onWorld (confirm pair interactive)) with
  | some go => return go
  | none =>
    if dryRun then return true else
      executePlan env pair operations
      return true

/-- The loop of `sync`. -/
def syncPairs (dryRun interactive : Bool) : List (NamedPair S) → Prog (SyncWorld σ) (SyncEvent S) Stop Unit
  | [] => return ()
  | pair :: pairs => do
    let result : Except Stop Bool ← Prog.attempt <|
      (syncOnce env dryRun interactive pair).mapError (.context s!"Synchronising pair {pair.name}")
    match result with
    | .ok true => syncPairs dryRun interactive pairs
    | .ok false => return ()
    | .error (.err e) =>
      fetchAdd
      Prog.emit (.term (.error "" e))
      syncPairs dryRun interactive pairs
    | .error .hang => Prog.fail .hang

/-- The end of `sync`. -/
def checkErrors : Prog (SyncWorld σ) (SyncEvent S) Stop Unit := do
  let totalErrors ← Prog.ask fun w => (w.errorCount, w)
  if 0 < totalErrors then Prog.fail (.err [s!"{totalErrors} sync operations failed"]) else return ()

/-- `sync`. -/
def sync (pairs : List (NamedPair S)) (dryRun interactive : Bool) : Prog (World σ) (SyncEvent S) Stop Unit :=
  withCounter do
    syncPairs env dryRun interactive pairs
    checkErrors

end Sync

end Pimsync
