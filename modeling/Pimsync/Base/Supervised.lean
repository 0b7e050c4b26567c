import Pimsync.Base.JoinSet
import Pimsync.Base.Lts

/-!
# Tasks under a supervisor

A supervisor spawns tasks, each with a transition system of its own, and takes them over as they end, until none is left.
Something may happen around them at any time, and each running task hears its part of it.

- `run_supInv`: where each task is after a run, and what was taken over of it;
- `run_running`: a task that has not ended runs, and has done what its system does alone;
- `run_returned`: a supervisor that has returned has taken over every task, once;
- `supervisor_goes_on`: it waits for nothing but tasks that run;
- `supervisor_not_stuck`: and can go on, unless all of these wait.
-/

namespace JoinSet

variable {τ ρ α ℓ e : Type*}

/-- The tasks of a supervisor: `τ` are their names, `ρ` their states, `α` what they return, and `e` is what happens around
them. -/
structure Tasks (τ ρ α ℓ e : Type*) where
  lts : τ → Lts ρ ℓ
  start : ρ
  /-- A task in the state may return. -/
  returns : ρ → α → Prop
  /-- The labels that a task takes by itself. -/
  own : ℓ → Prop
  /-- What the task with a number hears. -/
  hears : ℕ → τ → e → List ℓ

inductive SupLabel (α ℓ e : Type*)
  | around (event : e)
  | own (i : ℕ) (l : ℓ)
  | ended (i : ℕ)
  | panicked (i : ℕ)
  /-- A task is taken over with what it returned, unless it panicked. -/
  | joined (i : ℕ) (outcome : Option α)
  | returned

structure Supervisor (τ ρ α : Type*) where
  tasks : List (τ × Phase ρ (Option α))
  returned : Bool

/-- The supervisor has spawned its tasks. -/
def Supervisor.initial (T : Tasks τ ρ α ℓ e) (names : List τ) : Supervisor τ ρ α :=
  ⟨names.map (·, .running T.start), false⟩

section System

variable (T : Tasks τ ρ α ℓ e)

/-- A task that runs hears an event; others do not. -/
inductive Hears (i : ℕ) (name : τ) (event : e) : Phase ρ (Option α) → Phase ρ (Option α) → Prop
  | running {s s' : ρ} : (T.lts name).Run s (T.hears i name event) s' → Hears i name event (.running s) (.running s')
  | deaf {phase : Phase ρ (Option α)} : (∀ s, phase ≠ .running s) → Hears i name event phase phase

inductive SupStep : Supervisor τ ρ α → SupLabel α ℓ e → Supervisor τ ρ α → Prop
  | around (tasks tasks' : List (τ × Phase ρ (Option α))) (event : e) : tasks'.length = tasks.length →
      (∀ i name phase, tasks[i]? = some (name, phase) →
        ∃ phase', tasks'[i]? = some (name, phase') ∧ Hears T i name event phase phase') →
      SupStep ⟨tasks, false⟩ (.around event) ⟨tasks', false⟩
  | own (tasks : List (τ × Phase ρ (Option α))) (i : ℕ) (name : τ) (s s' : ρ) (l : ℓ) :
      tasks[i]? = some (name, .running s) → T.own l → (T.lts name).step s l s' →
      SupStep ⟨tasks, false⟩ (.own i l) ⟨tasks.set i (name, .running s'), false⟩
  | ended (tasks : List (τ × Phase ρ (Option α))) (i : ℕ) (name : τ) (s : ρ) (a : α) :
      tasks[i]? = some (name, .running s) → T.returns s a →
      SupStep ⟨tasks, false⟩ (.ended i) ⟨tasks.set i (name, .ended (some a)), false⟩
  | panicked (tasks : List (τ × Phase ρ (Option α))) (i : ℕ) (name : τ) (s : ρ) : tasks[i]? = some (name, .running s) →
      SupStep ⟨tasks, false⟩ (.panicked i) ⟨tasks.set i (name, .ended none), false⟩
  | joined (tasks : List (τ × Phase ρ (Option α))) (i : ℕ) (name : τ) (outcome : Option α) :
      tasks[i]? = some (name, .ended outcome) →
      SupStep ⟨tasks, false⟩ (.joined i outcome) ⟨tasks.set i (name, .joined), false⟩
  | returned (tasks : List (τ × Phase ρ (Option α))) : (∀ t ∈ tasks, t.2 = .joined) →
      SupStep ⟨tasks, false⟩ .returned ⟨tasks, true⟩

def supervised : Lts (Supervisor τ ρ α) (SupLabel α ℓ e) := ⟨SupStep T⟩

/-- The part that one task has in what happens. -/
def part (i : ℕ) (name : τ) : SupLabel α ℓ e → List ℓ
  | .around event => T.hears i name event
  | .own j l => if j = i then [l] else []
  | _ => []

/-- What one task has done and heard. -/
def parts (i : ℕ) (name : τ) (tr : List (SupLabel α ℓ e)) : List ℓ := tr.flatMap (part T i name)

/-- What was taken over of one task. -/
def outcomes (i : ℕ) (tr : List (SupLabel α ℓ e)) : List (Option α) :=
  tr.filterMap fun
    | .joined j outcome => if j = i then some outcome else none
    | _ => none

/-- The label ends one task. -/
def SupLabel.Ends (i : ℕ) : SupLabel α ℓ e → Prop
  | .ended j | .panicked j => j = i
  | _ => False

/-- One task has ended, and is taken over or not. -/
def Over (i : ℕ) (tr : List (SupLabel α ℓ e)) : Prop := ∃ label ∈ tr, label.Ends i

/-- How a task has ended: it returned from a state that it came to, or panicked. -/
def Ended (tr : List (SupLabel α ℓ e)) (i : ℕ) (name : τ) : Option α → Prop
  | some a => ∃ pre post s, tr = pre ++ .ended i :: post ∧ (T.lts name).Run T.start (parts T i name pre) s ∧ T.returns s a
  | none => .panicked i ∈ tr

/-- Where a task is. -/
def TaskAt (tr : List (SupLabel α ℓ e)) (i : ℕ) (name : τ) : Phase ρ (Option α) → Prop
  | .running s => (T.lts name).Run T.start (parts T i name tr) s ∧ outcomes i tr = [] ∧ ¬ Over i tr
  | .ended outcome => Ended T tr i name outcome ∧ outcomes i tr = []
  | .joined => ∃ outcome, Ended T tr i name outcome ∧ outcomes i tr = [outcome]
  | .aborted => False

end System

variable {T : Tasks τ ρ α ℓ e} {names : List τ} {tr : List (SupLabel α ℓ e)} {s s' : Supervisor τ ρ α}
  {label : SupLabel α ℓ e} {i j : ℕ} {name : τ} {phase : Phase ρ (Option α)}

/-! ## Where the tasks are -/

theorem parts_snoc (i : ℕ) (name : τ) (tr : List (SupLabel α ℓ e)) (label : SupLabel α ℓ e) :
    parts T i name (tr ++ [label]) = parts T i name tr ++ part T i name label := by
  simp [parts]

theorem outcomes_append (i : ℕ) (tr tr' : List (SupLabel α ℓ e)) :
    outcomes i (tr ++ tr') = outcomes i tr ++ outcomes i tr' := List.filterMap_append

theorem over_snoc : Over i (tr ++ [label]) ↔ Over i tr ∨ label.Ends i := by
  simp only [Over, List.mem_append, List.mem_singleton, or_and_right, exists_or, exists_eq_left]

/-- A task that has ended is over. -/
theorem Ended.over {outcome : Option α} (h : Ended T tr i name outcome) : Over i tr := by
  cases outcome with
  | none => exact ⟨_, h, rfl⟩
  | some a =>
    obtain ⟨pre, post, s, rfl, -, -⟩ := h
    exact ⟨.ended i, by simp, rfl⟩

/-- A task has ended as it had before. -/
theorem Ended.snoc {outcome : Option α} (h : Ended T tr i name outcome) : Ended T (tr ++ [label]) i name outcome := by
  cases outcome with
  | none => exact List.mem_append_left _ h
  | some a =>
    obtain ⟨pre, post, s, rfl, hrun, hreturns⟩ := h
    exact ⟨pre, post ++ [label], s, by simp, hrun, hreturns⟩

/-- A task stays where it is when others move. -/
theorem TaskAt.other (h : TaskAt T tr i name phase) (hpart : part T i name label = [])
    (houtcomes : outcomes i [label] = []) (hends : ¬ label.Ends i) : TaskAt T (tr ++ [label]) i name phase := by
  cases phase with
  | running s =>
    obtain ⟨hrun, hnone, hover⟩ := h
    refine ⟨?_, by rw [outcomes_append, hnone, houtcomes]; rfl, fun h => (over_snoc.mp h).elim hover hends⟩
    rw [parts_snoc, hpart, List.append_nil]
    exact hrun
  | ended outcome => exact ⟨h.1.snoc, by rw [outcomes_append, h.2, houtcomes]; rfl⟩
  | joined =>
    obtain ⟨outcome, hended, hjoined⟩ := h
    exact ⟨outcome, hended.snoc, by rw [outcomes_append, hjoined, houtcomes]; rfl⟩
  | aborted => exact h.elim

/-- A task that runs goes on with its part, and one that does not stays. -/
theorem TaskAt.hears {phase' : Phase ρ (Option α)} {event : e} (h : TaskAt T tr i name phase)
    (hhears : Hears T i name event phase phase') : TaskAt T (tr ++ [.around event]) i name phase' := by
  have houtcomes : outcomes (α := α) i [SupLabel.around (ℓ := ℓ) event] = [] := rfl
  cases hhears with
  | running hrun =>
    obtain ⟨hbefore, hnone, hover⟩ := h
    refine ⟨?_, by rw [outcomes_append, hnone]; rfl, fun h => (over_snoc.mp h).elim hover id⟩
    rw [parts_snoc]
    exact hbefore.append hrun
  | deaf hover =>
    cases phase with
    | running s => exact absurd rfl (hover s)
    | ended outcome => exact ⟨h.1.snoc, by rw [outcomes_append, h.2, houtcomes]; rfl⟩
    | joined =>
      obtain ⟨outcome, hended, hjoined⟩ := h
      exact ⟨outcome, hended.snoc, by rw [outcomes_append, hjoined, houtcomes]; rfl⟩
    | aborted => exact h.elim

/-- The invariant of a supervisor. -/
structure SupInv (T : Tasks τ ρ α ℓ e) (names : List τ) (tr : List (SupLabel α ℓ e)) (s : Supervisor τ ρ α) : Prop where
  names : s.tasks.map Prod.fst = names
  task : ∀ i name phase, s.tasks[i]? = some (name, phase) → TaskAt T tr i name phase
  returned : s.returned = true → ∀ t ∈ s.tasks, t.2 = .joined

theorem supInv_initial (T : Tasks τ ρ α ℓ e) (names : List τ) : SupInv T names [] (.initial T names) where
  names := by simp [Supervisor.initial, Function.comp_def]
  task i name phase h := by
    obtain ⟨name', -, heq⟩ : ∃ name', names[i]? = some name' ∧ (name', Phase.running T.start) = (name, phase) := by
      simpa [Supervisor.initial] using h
    cases heq
    exact ⟨.nil _, rfl, fun ⟨_, hmem, _⟩ => List.not_mem_nil hmem⟩
  returned h := by cases h

/-- One task moves. -/
theorem SupInv.move {tasks : List (τ × Phase ρ (Option α))} {phase' : Phase ρ (Option α)}
    (h : SupInv T names tr ⟨tasks, false⟩) (hi : tasks[i]? = some (name, phase))
    (hat : TaskAt T (tr ++ [label]) i name phase')
    (hothers : ∀ j, i ≠ j → (∀ name, part T j name label = []) ∧ outcomes j [label] = [] ∧ ¬ label.Ends j) :
    SupInv T names (tr ++ [label]) ⟨tasks.set i (name, phase'), false⟩ where
  names := (map_fst_set hi).trans h.names
  task j name' phase'' hj := by
    by_cases hij : i = j
    · subst hij
      obtain heq | ⟨hne, -⟩ := get_set hj
      · cases heq
        exact hat
      · exact absurd rfl hne
    · rw [List.getElem?_set_ne hij] at hj
      obtain ⟨hpart, houtcomes, hends⟩ := hothers j hij
      exact (h.task j name' phase'' hj).other (hpart name') houtcomes hends
  returned h := by cases h

theorem step_supInv (h : SupInv T names tr s) (hs : (supervised T).step s label s') :
    SupInv T names (tr ++ [label]) s' := by
  cases hs with
  | around tasks tasks' event hlength hheard =>
    refine ⟨?_, fun i name phase' hi' => ?_, fun hreturned => by cases hreturned⟩
    · rw [← h.names]
      refine List.ext_getElem? fun i => ?_
      rw [List.getElem?_map, List.getElem?_map]
      cases hi : tasks[i]? with
      | none =>
        have hi' : tasks'[i]? = none := by
          rw [List.getElem?_eq_none_iff] at hi ⊢
          omega
        rw [hi']
      | some t =>
        obtain ⟨phase', hi', -⟩ := hheard i t.1 t.2 hi
        rw [hi']
        rfl
    · have hlt : i < tasks.length := by
        rw [← hlength]
        exact (List.getElem?_eq_some_iff.mp hi').1
      obtain ⟨phase'', hi'', hhears⟩ := hheard i _ _ (List.getElem?_eq_getElem hlt)
      have hat := (h.task i _ _ (List.getElem?_eq_getElem hlt)).hears hhears
      rw [hi'] at hi''
      cases hi''
      exact hat
  | own tasks i name s s' l hi hown hstep =>
    obtain ⟨hrun, houtcomes, hover⟩ := h.task i _ _ hi
    refine h.move hi ⟨?_, by rw [outcomes_append, houtcomes]; rfl, fun h => (over_snoc.mp h).elim hover id⟩
      fun j hij => ⟨fun name' => if_neg hij, rfl, id⟩
    have hpart : part T i name (.own i l) = [l] := if_pos rfl
    rw [parts_snoc, hpart]
    exact .snoc hrun trivial hstep
  | ended tasks i name s a hi hreturns =>
    obtain ⟨hrun, houtcomes, -⟩ := h.task i _ _ hi
    refine h.move hi ⟨⟨tr, [], s, rfl, hrun, hreturns⟩, ?_⟩ fun j hij => ⟨fun name' => rfl, rfl, hij⟩
    rw [outcomes_append, houtcomes]
    rfl
  | panicked tasks i name s hi =>
    obtain ⟨-, houtcomes, -⟩ := h.task i _ _ hi
    refine h.move hi ⟨List.mem_append_right _ (List.mem_singleton_self _), ?_⟩ fun j hij => ⟨fun name' => rfl, rfl, hij⟩
    rw [outcomes_append, houtcomes]
    rfl
  | joined tasks i name outcome hi =>
    obtain ⟨hended, houtcomes⟩ := h.task i _ _ hi
    refine h.move hi ⟨outcome, hended.snoc, ?_⟩ fun j hij => ⟨fun name' => rfl, ?_, id⟩
    · rw [outcomes_append, houtcomes]
      simp [outcomes]
    · simp [outcomes, hij]
  | returned tasks hall =>
    refine ⟨h.names, fun i name phase hi => ?_, fun _ => hall⟩
    exact (h.task i name phase hi).other rfl rfl id

/-- **Where each task is after a run.** -/
theorem run_supInv (hr : (supervised T).Run (.initial T names) tr s) : SupInv T names tr s :=
  hr.history (I := SupInv T names) (supInv_initial T names) fun _ _ _ _ h _ hs => step_supInv h hs

/-- **A task that has not ended** runs, and has done what it does alone, whatever came of the others. -/
theorem run_running (hr : (supervised T).Run (.initial T names) tr s) (hi : names[i]? = some name) (hover : ¬ Over i tr) :
    ∃ point, s.tasks[i]? = some (name, .running point) ∧ (T.lts name).Run T.start (parts T i name tr) point := by
  have h := run_supInv hr
  rw [← h.names, List.getElem?_map, Option.map_eq_some_iff] at hi
  obtain ⟨⟨name', phase⟩, hi, rfl⟩ := hi
  have hat := h.task i name' phase hi
  cases phase with
  | running point => exact ⟨point, hi, hat.1⟩
  | ended outcome => exact absurd hat.1.over hover
  | joined =>
    obtain ⟨outcome, hended, -⟩ := hat
    exact absurd hended.over hover
  | aborted => exact hat.elim

/-- **A supervisor that has returned** has taken over every task once, with what the task ended with. -/
theorem run_returned (hr : (supervised T).Run (.initial T names) tr s) (hreturned : s.returned = true)
    (hi : names[i]? = some name) : ∃ outcome, outcomes i tr = [outcome] ∧ Ended T tr i name outcome := by
  have h := run_supInv hr
  rw [← h.names, List.getElem?_map, Option.map_eq_some_iff] at hi
  obtain ⟨⟨name', phase⟩, hi, rfl⟩ := hi
  have hat := h.task i name' phase hi
  obtain rfl : phase = .joined := h.returned hreturned _ (List.mem_of_getElem? hi)
  obtain ⟨outcome, hended, houtcomes⟩ := hat
  exact ⟨outcome, houtcomes, hended⟩

/-- **A supervisor waits for tasks that run**, and for nothing else. -/
theorem supervisor_goes_on (hr : (supervised T).Run (.initial T names) tr s) (hreturned : s.returned = false)
    (hover : ∀ i < names.length, Over i tr) :
    (∃ i outcome s', (supervised T).step s (.joined i outcome) s') ∨ ∃ s', (supervised T).step s .returned s' := by
  have h := run_supInv hr
  obtain ⟨tasks, returned⟩ := s
  obtain rfl : returned = false := hreturned
  by_cases hall : ∀ t ∈ tasks, t.2 = .joined
  · exact .inr ⟨_, .returned tasks hall⟩
  · simp only [not_forall] at hall
    obtain ⟨⟨name, phase⟩, hmem, hphase⟩ := hall
    obtain ⟨i, hi⟩ := List.mem_iff_getElem?.mp hmem
    have hat := h.task i name phase hi
    cases phase with
    | running point =>
      have hlt : i < names.length := by
        rw [← h.names, List.length_map]
        exact (List.getElem?_eq_some_iff.mp hi).1
      exact absurd (hover i hlt) hat.2.2
    | ended outcome => exact .inl ⟨i, outcome, _, .joined tasks i name outcome hi⟩
    | joined => exact absurd rfl hphase
    | aborted => exact hat.elim

/-- The supervisor goes on, or a task by a label of its own that is `good`: no task panics, and nothing happens around them. -/
def SupLabel.Goes (good : ℓ → Prop) : SupLabel α ℓ e → Prop
  | .around _ | .panicked _ => False
  | .own _ l => good l
  | .ended _ | .joined _ _ | .returned => True

/-- If every task can return, go on by itself or else waits, so the supervisor can go on, or all tasks that are left wait. -/
theorem supervisor_not_stuck {good : ℓ → Prop} {Waits : ρ → Prop}
    (hgo : ∀ name s, (∃ a, T.returns s a) ∨ (∃ l s', (T.lts name).step s l s' ∧ T.own l ∧ good l) ∨ Waits s)
    (hr : (supervised T).Run (.initial T names) tr s) (hreturned : s.returned = false) :
    (∃ label s', (supervised T).step s label s' ∧ label.Goes good) ∨
      (∃ t ∈ s.tasks, t.2 ≠ .joined) ∧ ∀ t ∈ s.tasks, t.2 = .joined ∨ ∃ point, t.2 = .running point ∧ Waits point := by
  have h := run_supInv hr
  obtain ⟨tasks, returned⟩ := s
  obtain rfl : returned = false := hreturned
  by_cases hstep : ∃ label s', (supervised T).step ⟨tasks, false⟩ label s' ∧ label.Goes good
  · exact .inl hstep
  refine .inr ⟨?_, ?_⟩
  · by_contra hnone
    simp only [not_exists, not_and, not_not] at hnone
    exact hstep ⟨_, _, .returned tasks hnone, trivial⟩
  · rintro ⟨name, phase⟩ hmem
    obtain ⟨i, hi⟩ := List.mem_iff_getElem?.mp hmem
    cases phase with
    | running point =>
      obtain ⟨a, ha⟩ | ⟨l, point', hl, hown, hgood⟩ | hwaits := hgo name point
      · exact absurd ⟨_, _, .ended tasks i name point a hi ha, trivial⟩ hstep
      · exact absurd ⟨_, _, .own tasks i name point point' l hi hown hl, hgood⟩ hstep
      · exact .inr ⟨point, rfl, hwaits⟩
    | ended outcome => exact absurd ⟨_, _, .joined tasks i name outcome hi, trivial⟩ hstep
    | joined => exact .inl rfl
    | aborted => exact (h.task i name _ hi).elim

/-- What a task does by itself, it does under a supervisor. -/
theorem run_own {tasks : List (τ × Phase ρ (Option α))} {point point' : ρ} {ls : List ℓ}
    (hi : tasks[i]? = some (name, .running point)) (hown : ∀ l ∈ ls, T.own l)
    (hr : (T.lts name).Run point ls point') :
    (supervised T).Run ⟨tasks, false⟩ (ls.map (.own i)) ⟨tasks.set i (name, .running point'), false⟩ := by
  have hlt := (List.getElem?_eq_some_iff.mp hi).1
  induction hr with
  | nil => rw [set_self hi]; exact .nil _
  | @snoc t u tr l _ _ hstep ih =>
    rw [List.map_append]
    refine .snoc (ih fun l hl => hown l (List.mem_append_left _ hl)) trivial ?_
    have hset := SupStep.own (T := T) (tasks.set i (name, .running t)) i name t u l (List.getElem?_set_self hlt)
      (hown l (by simp)) hstep
    rwa [List.set_set] at hset

end JoinSet
