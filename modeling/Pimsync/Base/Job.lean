import Mathlib.Data.List.Basic

/-!
# Jobs

A job calls the outside, one call after the other, and goes on with each answer, until it ends or panics. It is a tree: no
job calls for ever.

- `Path`: the calls and answers that lead from one job to another;
- `path_done`, `path_call`, `path_bind`, `path_bind_panic`, `Path.into_call`, `Path.into_bind`: what a path has to be, for each
  operation;
- `Path.unique`: the answers decide where a job is;
- `Under.bind`, `under_forEach`, `Under.path`: what all calls of a job are, as long as the answers are what they should be.
-/

/-- A job with the calls `C`, answered by `R`. -/
inductive Job (C : Type) (R : C → Type) (α : Type)
  | done (a : α)
  | panic
  | call (c : C) (next : R c → Job C R α)

namespace Job

variable {C : Type} {R : C → Type} {α β ι : Type}

/-- A call with its answer. -/
abbrev Event (R : C → Type) := (c : C) × R c

protected def bind : Job C R α → (α → Job C R β) → Job C R β
  | .done a, f => f a
  | .panic, _ => .panic
  | .call c next, f => .call c fun r => (next r).bind f

instance : Monad (Job C R) where
  pure := .done
  bind := Job.bind

def ask (c : C) : Job C R (R c) := .call c .done

def forEach (f : ι → Job C R Unit) : List ι → Job C R Unit
  | [] => pure ()
  | x :: xs => f x >>= fun _ => forEach f xs

/-- The calls and answers `tr` lead from one job to another. -/
inductive Path : Job C R α → List (Event R) → Job C R α → Prop
  | nil (j : Job C R α) : Path j [] j
  | cons {c : C} {next : R c → Job C R α} {r : R c} {tr : List (Event R)} {j : Job C R α} :
      Path (next r) tr j → Path (.call c next) (⟨c, r⟩ :: tr) j

/-! ## Paths -/

section Path

variable {j k : Job C R α} {f : α → Job C R β} {tr : List (Event R)}

theorem Path.append {l : Job C R α} {tr' : List (Event R)} (h : Path j tr k) (h' : Path k tr' l) : Path j (tr ++ tr') l := by
  induction h with
  | nil => exact h'
  | cons _ ih => exact .cons (ih h')

/-- One more call. -/
theorem Path.snoc {c : C} {next : R c → Job C R α} (h : Path j tr (.call c next)) (r : R c) :
    Path j (tr ++ [⟨c, r⟩]) (next r) := h.append (.cons (.nil _))

theorem Path.unique {k' : Job C R α} (h : Path j tr k) (h' : Path j tr k') : k = k' := by
  induction h with
  | nil => cases h'; rfl
  | cons _ ih => cases h' with | cons h' => exact ih h'

theorem path_done {a : α} : Path (.done a) tr k ↔ tr = [] ∧ k = .done a := by
  constructor
  · intro h
    cases h
    exact ⟨rfl, rfl⟩
  · rintro ⟨rfl, rfl⟩
    exact .nil _

theorem path_panic : Path .panic tr k ↔ tr = [] ∧ k = .panic := by
  constructor
  · intro h
    cases h
    exact ⟨rfl, rfl⟩
  · rintro ⟨rfl, rfl⟩
    exact .nil _

theorem done_ne_call (a : α) : ∀ (c : C) (next : R c → Job C R α), Job.done a ≠ .call c next := nofun

theorem panic_ne_call : ∀ (c : C) (next : R c → Job C R α), Job.panic ≠ .call c next := nofun

/-- A call that leads to where no call is made was answered. -/
theorem path_call {c : C} {next : R c → Job C R α} (hk : ∀ c next, k ≠ .call c next) :
    Path (.call c next) tr k ↔ ∃ r tr', tr = ⟨c, r⟩ :: tr' ∧ Path (next r) tr' k := by
  constructor
  · intro h
    cases h with
    | nil => exact absurd rfl (hk _ _)
    | cons h => exact ⟨_, _, rfl, h⟩
  · rintro ⟨r, tr', rfl, h⟩
    exact .cons h

@[simp] theorem pure_eq_done (a : α) : (pure a : Job C R α) = .done a := rfl

@[simp] theorem done_bind (a : α) : (Job.done a >>= f) = f a := rfl

@[simp] theorem panic_bind : (Job.panic >>= f) = .panic := rfl

@[simp] theorem call_bind {c : C} {next : R c → Job C R α} : (Job.call c next >>= f) = .call c fun r => next r >>= f := rfl

@[simp] theorem ask_bind {c : C} {f : R c → Job C R β} : (ask c >>= f) = .call c f := rfl

/-- A sequence ends where its second part ends. -/
theorem path_bind {b : β} : Path (j >>= f) tr (.done b) ↔
    ∃ a tr₁ tr₂, tr = tr₁ ++ tr₂ ∧ Path j tr₁ (.done a) ∧ Path (f a) tr₂ (.done b) := by
  induction j generalizing tr with
  | done a =>
    rw [done_bind]
    constructor
    · intro h
      exact ⟨a, [], tr, rfl, .nil _, h⟩
    · rintro ⟨a', tr₁, tr₂, rfl, h, h'⟩
      obtain ⟨rfl, ha⟩ := path_done.mp h
      cases ha
      exact h'
  | panic => simp [path_panic]
  | call c next ih =>
    rw [call_bind, path_call (by simp)]
    constructor
    · rintro ⟨r, tr', rfl, h⟩
      obtain ⟨a, tr₁, tr₂, rfl, h₁, h₂⟩ := (ih r).mp h
      exact ⟨a, _, tr₂, rfl, .cons h₁, h₂⟩
    · rintro ⟨a, tr₁, tr₂, rfl, h₁, h₂⟩
      cases h₁ with
      | cons h₁ => exact ⟨_, _, rfl, (ih _).mpr ⟨a, _, tr₂, rfl, h₁, h₂⟩⟩

/-- A call is yet to be answered, or it was. -/
theorem Path.into_call {c : C} {next : R c → Job C R α} (h : Path (.call c next) tr k) :
    tr = [] ∨ ∃ r tr', tr = ⟨c, r⟩ :: tr' ∧ Path (next r) tr' k := by
  cases h with
  | nil => exact .inl rfl
  | cons h => exact .inr ⟨_, _, rfl, h⟩

/-- A sequence is in its first part, or in its second. -/
theorem Path.into_bind {l : Job C R β} (h : Path (j >>= f) tr l) :
    (∃ k, Path j tr k ∧ k >>= f = l) ∨ ∃ a tr₁ tr₂, tr = tr₁ ++ tr₂ ∧ Path j tr₁ (.done a) ∧ Path (f a) tr₂ l := by
  induction j generalizing tr with
  | done a => exact .inr ⟨a, [], tr, rfl, .nil _, h⟩
  | panic => exact .inl ⟨.panic, by obtain ⟨rfl, rfl⟩ := path_panic.mp h; exact ⟨.nil _, rfl⟩⟩
  | call c next ih =>
    cases h with
    | nil => exact .inl ⟨.call c next, .nil _, rfl⟩
    | cons h =>
      obtain ⟨k, hk, rfl⟩ | ⟨a, tr₁, tr₂, rfl, h₁, h₂⟩ := ih _ h
      · exact .inl ⟨k, .cons hk, rfl⟩
      · exact .inr ⟨a, _, tr₂, rfl, .cons h₁, h₂⟩

/-- A sequence panics in its first part, or in its second. -/
theorem path_bind_panic : Path (j >>= f) tr .panic ↔
    Path j tr .panic ∨ ∃ a tr₁ tr₂, tr = tr₁ ++ tr₂ ∧ Path j tr₁ (.done a) ∧ Path (f a) tr₂ .panic := by
  induction j generalizing tr with
  | done a =>
    rw [done_bind]
    constructor
    · intro h
      exact .inr ⟨a, [], tr, rfl, .nil _, h⟩
    · rintro (h | ⟨a', tr₁, tr₂, rfl, h, h'⟩)
      · cases (path_done.mp h).2
      · obtain ⟨rfl, ha⟩ := path_done.mp h
        cases ha
        exact h'
  | panic => simp [path_panic]
  | call c next ih =>
    rw [call_bind, path_call (by simp), path_call (by simp)]
    constructor
    · rintro ⟨r, tr', rfl, h⟩
      obtain h | ⟨a, tr₁, tr₂, rfl, h₁, h₂⟩ := (ih r).mp h
      · exact .inl ⟨r, tr', rfl, h⟩
      · exact .inr ⟨a, _, tr₂, rfl, .cons h₁, h₂⟩
    · rintro (⟨r, tr', rfl, h⟩ | ⟨a, tr₁, tr₂, rfl, h₁, h₂⟩)
      · exact ⟨r, tr', rfl, (ih r).mpr (.inl h)⟩
      · cases h₁ with
        | cons h₁ => exact ⟨_, _, rfl, (ih _).mpr (.inr ⟨a, _, tr₂, rfl, h₁, h₂⟩)⟩

end Path

/-! ## Calls -/

section Under

variable {ok : Event R → Prop} {P : C → Prop} {j k : Job C R α} {f : α → Job C R β} {tr : List (Event R)}

/-- All calls of a job are `P`, as long as the answers are `ok`. -/
inductive Under (ok : Event R → Prop) (P : C → Prop) : Job C R α → Prop
  | done (a : α) : Under ok P (.done a)
  | panic : Under ok P .panic
  | call {c : C} {next : R c → Job C R α} : P c → (∀ r, ok ⟨c, r⟩ → Under ok P (next r)) → Under ok P (.call c next)

theorem Under.bind (h : Under ok P j) (hf : ∀ a, Under ok P (f a)) : Under ok P (j >>= f) := by
  induction h with
  | done a => exact hf a
  | panic => exact .panic
  | call hc _ ih => exact .call hc ih

theorem under_forEach {f : ι → Job C R Unit} : ∀ {xs : List ι}, (∀ x ∈ xs, Under ok P (f x)) → Under ok P (forEach f xs)
  | [], _ => .done ()
  | _ :: _, h => (h _ List.mem_cons_self).bind fun _ => under_forEach fun x hx => h x (List.mem_cons_of_mem _ hx)

/-- The calls on a path, and those that are still to come. -/
theorem Under.path (h : Under ok P j) (hpath : Path j tr k) (hok : ∀ event ∈ tr, ok event) :
    (∀ event ∈ tr, P event.1) ∧ Under ok P k := by
  induction hpath with
  | nil => exact ⟨by simp, h⟩
  | cons _ ih =>
    cases h with
    | call hc hnext =>
      obtain ⟨hfirst, hrest⟩ := List.forall_mem_cons.mp hok
      obtain ⟨hcalls, hk⟩ := ih (hnext _ hfirst) hrest
      exact ⟨List.forall_mem_cons.mpr ⟨hc, hcalls⟩, hk⟩

end Under

end Job
