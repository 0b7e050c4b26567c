import Pimsync.Base.Lts

/-!
# A value made once and shared

A cell that any number of clients `ι` ask for a value of type `α`: the first client makes the value, publishes it, and
every client is given what was published. The order of the cell's states is fixed, so a run starts at most one making
(`run_past`), and two clients are never given different values (`run_got`).
-/

namespace OneShot

variable {ι α : Type*}

/-- What the cell holds; once somebody has begun to make the value, also who. -/
inductive Cell (ι α : Type*)
  | fresh
  | busy (maker : ι)
  | made (maker : ι) (value : α)
  | ready (maker : ι) (value : α)

/-- What a run of the cell shows of the making. -/
inductive Event (ι α : Type*)
  | start (maker : ι)
  | produce (maker : ι) (value : α)
  deriving DecidableEq

inductive Label (ι α : Type*)
  | event (e : Event ι α)
  | publish
  | give (client : ι)

def Label.event? : Label ι α → Option (Event ι α)
  | .event e => some e
  | _ => none

structure State (ι α : Type*) where
  cell : Cell ι α
  got : ι → Option α

/-- Nobody has asked yet. -/
def initial : State ι α := ⟨.fresh, fun _ => none⟩

variable [DecidableEq ι]

inductive Step : State ι α → Label ι α → State ι α → Prop
  | start (s : State ι α) (c : ι) : s.cell = .fresh → Step s (.event (.start c)) { s with cell := .busy c }
  | produce (s : State ι α) (c : ι) (a : α) : s.cell = .busy c →
      Step s (.event (.produce c a)) { s with cell := .made c a }
  | publish (s : State ι α) (c : ι) (a : α) : s.cell = .made c a → Step s .publish { s with cell := .ready c a }
  | give (s : State ι α) (c k : ι) (a : α) : s.cell = .ready k a →
      Step s (.give c) { s with got := Function.update s.got c (some a) }

def lts : Lts (State ι α) (Label ι α) := ⟨Step⟩

/-- The events that have led to the cell's state. -/
def Cell.past : Cell ι α → List (Event ι α)
  | .fresh => []
  | .busy c => [.start c]
  | .made c a | .ready c a => [.start c, .produce c a]

/-- The events of a run are those its last state tells of. -/
theorem run_past {tr : List (Label ι α)} {s : State ι α} (hr : lts.Run initial tr s) :
    tr.filterMap Label.event? = s.cell.past := by
  refine hr.history (I := fun tr s => tr.filterMap Label.event? = s.cell.past) rfl fun tr s l u ih _ hs => ?_
  rw [List.filterMap_append, ih]
  cases hs with
  | start _ h | produce _ _ h | publish _ _ h => simp [h, Cell.past, Label.event?]
  | give => simp [Label.event?]

/-- Whatever a client has been given is what the cell holds. -/
theorem run_got {tr : List (Label ι α)} {s : State ι α} (hr : lts.Run initial tr s) :
    ∀ c a, s.got c = some a → ∃ k, s.cell = .ready k a := by
  refine hr.invariant (I := fun s => ∀ c a, s.got c = some a → ∃ k, s.cell = .ready k a)
    (fun c a h => by cases h) fun s l u ih _ hs c a h => ?_
  cases hs with
  | start _ hc | produce _ _ hc | publish _ _ hc =>
    obtain ⟨k, hk⟩ := ih c a h
    rw [hc] at hk; cases hk
  | give c' k b hc =>
    by_cases hcc : c = c'
    · subst hcc
      simp only [Function.update_self, Option.some.injEq] at h
      exact ⟨k, h ▸ hc⟩
    · simp only [Function.update_of_ne hcc] at h
      exact ih c a h

end OneShot
