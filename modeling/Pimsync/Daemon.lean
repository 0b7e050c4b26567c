import Pimsync.Base.Lts
import Pimsync.Sync

/-!
# The daemon

`NamedPair::daemon` as a transition system, together with the storages that change and the monitors that see it. What a
monitor holds is a number of events; what they say is only logged.

- `DaemonStep`: the steps of the daemon, and what happens around it;
- `Waiting`: it waits for an event, and there is none;
- `lastFailed`: the last attempt to synchronise has failed.
-/

namespace Pimsync

variable {σ S D : Type}

inductive DaemonError
  | status (e : Error)
  | monitor (e : Error)

/-- Where the daemon is. -/
inductive DaemonPc
  | monitorA
  | monitorB
  | openStatus
  /-- In `select`. -/
  | select
  /-- An event was taken. -/
  | woken
  /-- In `Plan::new`. -/
  | planning
  /-- In `execute_stream`, with the errors that `log_error` was called for. -/
  | executing (operations : List PlanItem) (reported : List Error)
  | ended (e : DaemonError)

/-- The daemon, and the events that its monitors hold once they are there. -/
structure DaemonState where
  pc : DaemonPc
  pending : Side → Option ℕ

inductive DaemonLabel
  /-- A storage changes, and its monitor, if there is one, queues events. -/
  | change (side : Side) (events : ℕ)
  /-- A monitor yields an event for no change. -/
  | event (side : Side)
  | monitor (side : Side)
  | monitorFailed (side : Side) (e : Error)
  | opened
  | openFailed (e : Error)
  /-- `select` takes an event, and drops the other `next_event`, with events that are lost by that. -/
  | took (side : Side) (lost : ℕ)
  /-- `Plan::new` is called. -/
  | plan
  | planned (plan : List PlanItem)
  | planFailed (e : Error)
  /-- `log_error` is called. -/
  | reported (e : Error)
  /-- What `execute_stream` returns. -/
  | executed
  | execFailed (e : Error)
  | statusFailed (e : Error)

/-- More events on one side. -/
def queue (pending : Side → Option ℕ) (side : Side) (events : ℕ) : Side → Option ℕ :=
  Function.update pending side ((pending side).map (· + events))

/-- The step relation of a daemon. The future of A is polled first, but an event may come before B is polled: either side
may be taken when both have one. -/
inductive DaemonStep (env : PlanOutside σ S D) (pair : NamedPair S) : DaemonState → DaemonLabel → DaemonState → Prop
  | change (s : DaemonState) (side : Side) (events : ℕ) :
      DaemonStep env pair s (.change side events) { s with pending := queue s.pending side events }
  | event (s : DaemonState) (side : Side) : DaemonStep env pair s (.event side) { s with pending := queue s.pending side 1 }
  | monitorA (pending : Side → Option ℕ) :
      DaemonStep env pair ⟨.monitorA, pending⟩ (.monitor .a) ⟨.monitorB, Function.update pending .a (some 0)⟩
  | monitorAFailed (pending : Side → Option ℕ) (e : Error) :
      DaemonStep env pair ⟨.monitorA, pending⟩ (.monitorFailed .a e) ⟨.ended (.monitor e), pending⟩
  | monitorB (pending : Side → Option ℕ) :
      DaemonStep env pair ⟨.monitorB, pending⟩ (.monitor .b) ⟨.openStatus, Function.update pending .b (some 0)⟩
  | monitorBFailed (pending : Side → Option ℕ) (e : Error) :
      DaemonStep env pair ⟨.monitorB, pending⟩ (.monitorFailed .b e) ⟨.ended (.monitor e), pending⟩
  | opened (pending : Side → Option ℕ) : DaemonStep env pair ⟨.openStatus, pending⟩ .opened ⟨.select, pending⟩
  | openFailed (pending : Side → Option ℕ) (e : Error) :
      DaemonStep env pair ⟨.openStatus, pending⟩ (.openFailed e) ⟨.ended (.status e), pending⟩
  | took (pending : Side → Option ℕ) (side : Side) (events lost : ℕ) : pending side = some (events + 1) →
      DaemonStep env pair ⟨.select, pending⟩ (.took side lost)
        ⟨.woken, Function.update (Function.update pending side (some events)) side.other
          ((pending side.other).map (· - lost))⟩
  | plan (pending : Side → Option ℕ) : DaemonStep env pair ⟨.woken, pending⟩ .plan ⟨.planning, pending⟩
  | planned (pending : Side → Option ℕ) (plan : List PlanItem) : DaemonStep env pair ⟨.planning, pending⟩ (.planned plan)
      ⟨.executing (applyConflictResolutionToPlan env pair plan) [], pending⟩
  | planFailed (pending : Side → Option ℕ) (e : Error) :
      DaemonStep env pair ⟨.planning, pending⟩ (.planFailed e) ⟨.select, pending⟩
  | reported (pending : Side → Option ℕ) (operations : List PlanItem) (reported : List Error) (e : Error) :
      DaemonStep env pair ⟨.executing operations reported, pending⟩ (.reported e)
        ⟨.executing operations (reported ++ [e]), pending⟩
  | executed (pending : Side → Option ℕ) (operations : List PlanItem) (reported : List Error) :
      DaemonStep env pair ⟨.executing operations reported, pending⟩ .executed ⟨.select, pending⟩
  | execFailed (pending : Side → Option ℕ) (operations : List PlanItem) (reported : List Error) (e : Error) :
      DaemonStep env pair ⟨.executing operations reported, pending⟩ (.execFailed e) ⟨.select, pending⟩
  | statusFailed (pending : Side → Option ℕ) (operations : List PlanItem) (reported : List Error) (e : Error) :
      DaemonStep env pair ⟨.executing operations reported, pending⟩ (.statusFailed e) ⟨.ended (.status e), pending⟩

/-- `NamedPair::daemon`. -/
def daemon (env : PlanOutside σ S D) (pair : NamedPair S) : Lts DaemonState DaemonLabel := ⟨DaemonStep env pair⟩

def DaemonState.initial : DaemonState := ⟨.monitorA, fun _ => none⟩

/-- A monitor holds an event. -/
def DaemonState.Due (s : DaemonState) : Prop := ∃ side n, s.pending side = some (n + 1)

/-- The daemon waits for an event, and there is none. -/
def DaemonState.Waiting (s : DaemonState) : Prop := s.pc = .select ∧ ¬ s.Due

/-- Whether the last attempt of a run to synchronise has failed so far. -/
def lastFailed (tr : List DaemonLabel) : Bool :=
  tr.foldl (fun failed label =>
    match label with
    | .plan => false
    | .planFailed _ | .reported _ | .execFailed _ => true
    | _ => failed) false

end Pimsync
