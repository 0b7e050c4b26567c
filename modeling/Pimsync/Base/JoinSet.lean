import Mathlib.Data.List.Basic

/-!
# Tasks that are spawned and joined

Tasks run side by side; whoever spawned them takes those that have ended, one after the other and in any order, or drops
them all at once.

- `map_fst_set`, `get_set`, `forall_set`, `exists_set`, `map_fst_abort`: no task is lost, and a move of one leaves the
  others;
- `joined_set`, `joined_set_ne`, `joined_of_all`: which tasks were taken;
- `number_set`, `number_map_fst`: the tasks with their places.
-/

namespace JoinSet

variable {τ ρ α : Type*}

/-- Where a task is; `ρ` are the points of one that runs. -/
inductive Phase (ρ α : Type*)
  | running (point : ρ)
  | ended (outcome : α)
  | joined
  | aborted

/-- The task is dropped, unless it is over. -/
def Phase.abort : Phase ρ α → Phase ρ α
  | .running _ => .aborted
  | p => p

/-- All tasks are dropped. -/
def abort (tasks : List (τ × Phase ρ α)) : List (τ × Phase ρ α) := tasks.map fun t => (t.1, t.2.abort)

/-- The tasks that were joined. -/
def joined (tasks : List (τ × Phase ρ α)) : List τ :=
  tasks.filterMap fun
    | (task, .joined) => some task
    | _ => none

/-- A move of one task leaves the list of tasks as it is. -/
theorem map_fst_set {i : ℕ} {task : τ} {phase phase' : Phase ρ α} {tasks : List (τ × Phase ρ α)}
    (h : tasks[i]? = some (task, phase)) : (tasks.set i (task, phase')).map Prod.fst = tasks.map Prod.fst := by
  refine List.ext_getElem? fun j => ?_
  rw [List.getElem?_map, List.getElem?_map, List.getElem?_set]
  split
  · next hij => subst hij; rw [h]; split <;> simp_all
  · rfl

/-- After a move of one task, it is where it moved to, and the others are where they were. -/
theorem get_set {x t : τ × Phase ρ α} {tasks : List (τ × Phase ρ α)} {i j : ℕ} (h : (tasks.set i x)[j]? = some t) :
    t = x ∨ i ≠ j ∧ tasks[j]? = some t := by
  rw [List.getElem?_set] at h
  split at h
  · split at h
    · exact .inl (Option.some.inj h).symm
    · cases h
  · exact .inr ⟨by assumption, h⟩

/-- What holds of each task at its place still does after a move of one, if it does there. -/
theorem forall_set {P : ℕ → τ × Phase ρ α → Prop} {tasks : List (τ × Phase ρ α)} {i : ℕ} {x : τ × Phase ρ α}
    (h : ∀ j t, tasks[j]? = some t → P j t) (hx : P i x) (j : ℕ) (t : τ × Phase ρ α)
    (ht : (tasks.set i x)[j]? = some t) : P j t := by
  rw [List.getElem?_set] at ht
  split at ht
  · next hij =>
    subst hij
    split at ht
    · exact Option.some.inj ht ▸ hx
    · cases ht
  · exact h j t ht

/-- What holds of each task at its place still does when more are spawned. -/
theorem forall_spawn {P : ℕ → τ × Phase ρ α → Prop} {tasks : List (τ × Phase ρ α)} {spawned : List τ} {point : ρ}
    (h : ∀ j t, tasks[j]? = some t → P j t) (hs : ∀ j task, P j (task, .running point)) (j : ℕ) (t : τ × Phase ρ α)
    (ht : (tasks ++ spawned.map (·, .running point))[j]? = some t) : P j t := by
  rw [List.getElem?_append] at ht
  split at ht
  · exact h j t ht
  · obtain ⟨task, -, rfl⟩ := List.mem_map.mp (List.mem_of_getElem? ht)
    exact hs j task

theorem set_self {t : τ × Phase ρ α} {tasks : List (τ × Phase ρ α)} {i : ℕ} (h : tasks[i]? = some t) :
    tasks.set i t = tasks := by
  obtain ⟨hlt, rfl⟩ := List.getElem?_eq_some_iff.mp h
  exact List.set_getElem_self hlt

/-- A move of one task loses none. -/
theorem exists_set {task : τ} {phase phase' : Phase ρ α} {t : τ × Phase ρ α} {tasks : List (τ × Phase ρ α)} {i j : ℕ}
    (hi : tasks[i]? = some (task, phase)) (hj : tasks[j]? = some t) :
    ∃ t', (tasks.set i (task, phase'))[j]? = some t' ∧ t'.1 = t.1 := by
  have hlt := (List.getElem?_eq_some_iff.mp hi).1
  by_cases hij : i = j
  · subst hij
    rw [hi] at hj
    cases hj
    exact ⟨_, List.getElem?_set_self hlt, rfl⟩
  · exact ⟨t, by rwa [List.getElem?_set_ne hij], rfl⟩

theorem get_abort {t : τ × Phase ρ α} {tasks : List (τ × Phase ρ α)} {i : ℕ} :
    (abort tasks)[i]? = some t ↔ ∃ t₀, tasks[i]? = some t₀ ∧ (t₀.1, t₀.2.abort) = t := by
  rw [abort, List.getElem?_map, Option.map_eq_some_iff]

theorem map_fst_abort (tasks : List (τ × Phase ρ α)) : (abort tasks).map Prod.fst = tasks.map Prod.fst := by
  simp [abort, Function.comp_def]

/-- Tasks that are spawned are not joined yet. -/
theorem joined_spawn (tasks : List (τ × Phase ρ α)) (spawned : List τ) (point : ρ) :
    joined (tasks ++ spawned.map (·, .running point)) = joined tasks := by
  simp [joined, List.filterMap_append, List.filterMap_map]

/-- A task that is joined joins the others. -/
theorem joined_set {task : τ} {phase : Phase ρ α} (hp : phase ≠ .joined) :
    ∀ {tasks : List (τ × Phase ρ α)} {i : ℕ}, tasks[i]? = some (task, phase) →
      (joined (tasks.set i (task, .joined))).Perm (joined tasks ++ [task])
  | [], i, h => by simp at h
  | t :: tasks, 0, h => by
    obtain rfl : t = (task, phase) := by simpa using h
    have : joined ((task, phase) :: tasks) = joined tasks := by
      cases phase <;> first | rfl | exact absurd rfl hp
    rw [this]
    exact (List.perm_append_singleton task (joined tasks)).symm
  | t :: tasks, i + 1, h => by
    have ih := joined_set hp (show tasks[i]? = some (task, phase) by simpa using h)
    obtain ⟨task', phase'⟩ := t
    cases phase' with
    | joined => exact ih.cons task'
    | _ => exact ih

/-- A move of a task that is not joined, neither before nor after. -/
theorem joined_set_ne {task : τ} {phase phase' : Phase ρ α} (hp : phase ≠ .joined) (hp' : phase' ≠ .joined) :
    ∀ {tasks : List (τ × Phase ρ α)} {i : ℕ}, tasks[i]? = some (task, phase) →
      joined (tasks.set i (task, phase')) = joined tasks
  | [], i, h => by simp at h
  | t :: tasks, 0, h => by
    obtain rfl : t = (task, phase) := by simpa using h
    cases phase <;> cases phase' <;> first | rfl | exact absurd rfl hp | exact absurd rfl hp'
  | t :: tasks, i + 1, h => by
    have ih := joined_set_ne hp hp' (show tasks[i]? = some (task, phase) by simpa using h)
    obtain ⟨task', phase'⟩ := t
    cases phase' with
    | joined => exact congrArg (task' :: ·) ih
    | _ => exact ih

/-- The tasks, each with its place. -/
def number (tasks : List (τ × Phase ρ α)) : List ((τ × ℕ) × Phase ρ α) := tasks.mapIdx fun i t => ((t.1, i), t.2)

theorem number_get (tasks : List (τ × Phase ρ α)) (i : ℕ) :
    (number tasks)[i]? = tasks[i]?.map fun t => ((t.1, i), t.2) := by
  rw [number, List.getElem?_mapIdx]

/-- A move of a numbered task. -/
theorem number_set (tasks : List (τ × Phase ρ α)) (i : ℕ) (task : τ) (phase : Phase ρ α) :
    number (tasks.set i (task, phase)) = (number tasks).set i ((task, i), phase) := by
  refine List.ext_getElem? fun j => ?_
  rw [number_get, List.getElem?_set, List.getElem?_set, number_get, number, List.length_mapIdx]
  split
  · next hij => subst hij; split <;> rfl
  · rfl

/-- Tasks that are spawned are not joined yet. -/
theorem joined_number_spawn (tasks : List (τ × Phase ρ α)) (spawned : List τ) (point : ρ) :
    joined (number (tasks ++ spawned.map (·, .running point))) = joined (number tasks) := by
  rw [number, List.mapIdx_append, joined, List.filterMap_append]
  refine (congrArg _ (List.filterMap_eq_nil_iff.mpr fun t ht => ?_)).trans (List.append_nil _)
  obtain ⟨i, hi, rfl⟩ := List.mem_mapIdx.mp ht
  simp

theorem number_map_fst (tasks : List (τ × Phase ρ α)) :
    (number tasks).map Prod.fst = (tasks.map Prod.fst).zipIdx := by
  refine List.ext_getElem? fun i => ?_
  rw [List.getElem?_map, number_get, List.getElem?_zipIdx, List.getElem?_map, Nat.zero_add, Option.map_map, Option.map_map]
  rfl

theorem joined_of_all {tasks : List (τ × Phase ρ α)} (h : ∀ t ∈ tasks, t.2 = .joined) :
    joined tasks = tasks.map Prod.fst := by
  induction tasks with
  | nil => rfl
  | cons t tasks ih =>
    obtain ⟨task, phase⟩ := t
    obtain rfl : phase = .joined := h _ (List.mem_cons_self ..)
    exact congrArg (task :: ·) (ih fun t ht => h t (List.mem_cons_of_mem _ ht))

end JoinSet
