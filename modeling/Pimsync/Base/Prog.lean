import Mathlib.Data.List.Basic

/-!
# Programs that act, record and fail

A `Prog σ ε E α` acts on a world `σ`, records events `ε` and ends in an `α` or an error `E`; what was done and recorded
before a failure stays. `bind_result_ok` and `bind_log` read a sequence backwards from its result; `Prog.Emits` bounds what
a program records, `Prog.Returns` what it returns and `Prog.Uniform` how both depend on the world, with rules for the
operations.
-/

/-- What a program leaves: its result, the world after it, and its events, oldest first. -/
structure Ran (σ ε E α : Type) where
  result : Except E α
  world : σ
  log : List ε

/-- A program on a world `σ` that records events `ε` and may fail with an `E`. -/
def Prog (σ ε E α : Type) : Type := σ → Ran σ ε E α

namespace Prog

variable {σ ε ε' E E' α β γ : Type}

/-! ## Operations -/

protected def pure (a : α) : Prog σ ε E α := fun s => ⟨.ok a, s, []⟩

protected def bind (p : Prog σ ε E α) (f : α → Prog σ ε E β) : Prog σ ε E β := fun s =>
  match p s with
  | ⟨.ok a, t, l⟩ => ⟨(f a t).result, (f a t).world, l ++ (f a t).log⟩
  | ⟨.error e, t, l⟩ => ⟨.error e, t, l⟩

instance : Monad (Prog σ ε E) where
  pure := Prog.pure
  bind := Prog.bind

def fail (e : E) : Prog σ ε E α := fun s => ⟨.error e, s, []⟩

def emit (e : ε) : Prog σ ε E Unit := fun s => ⟨.ok (), s, [e]⟩

def emitAll (l : List ε) : Prog σ ε E Unit := fun s => ⟨.ok (), s, l⟩

/-- A query to the world, which may change by being asked. -/
def ask (f : σ → α × σ) : Prog σ ε E α := fun s => ⟨.ok (f s).1, (f s).2, []⟩

/-- A computation that neither acts nor records. -/
def lift (r : Except E α) : Prog σ ε E α := fun s => ⟨r, s, []⟩

def mapError (f : E → E') (p : Prog σ ε E α) : Prog σ ε E' α := fun s =>
  ⟨(p s).result.mapError f, (p s).world, (p s).log⟩

/-- Run `p` and hand its failure back as a value. -/
def attempt (p : Prog σ ε E α) : Prog σ ε E' (Except E α) := fun s => ⟨.ok (p s).result, (p s).world, (p s).log⟩

/-- The same program, with its events renamed. -/
def mapLog (f : ε → ε') (p : Prog σ ε E α) : Prog σ ε' E α := fun s => ⟨(p s).result, (p s).world, (p s).log.map f⟩

/-! ## Running -/

section Run

variable {s t : σ} {l : List ε} {p : Prog σ ε E α} {f : α → Prog σ ε E β}

@[simp] theorem pure_run (a : α) : (pure a : Prog σ ε E α) s = ⟨.ok a, s, []⟩ := rfl

@[simp] theorem fail_run (e : E) : (fail e : Prog σ ε E α) s = ⟨.error e, s, []⟩ := rfl

@[simp] theorem emit_run (e : ε) : (emit e : Prog σ ε E Unit) s = ⟨.ok (), s, [e]⟩ := rfl

@[simp] theorem emitAll_run (l : List ε) : (emitAll l : Prog σ ε E Unit) s = ⟨.ok (), s, l⟩ := rfl

@[simp] theorem ask_run (g : σ → α × σ) : (ask g : Prog σ ε E α) s = ⟨.ok (g s).1, (g s).2, []⟩ := rfl

@[simp] theorem lift_run (r : Except E α) : (lift r : Prog σ ε E α) s = ⟨r, s, []⟩ := rfl

@[simp] theorem mapError_run (g : E → E') :
    mapError g p s = ⟨(p s).result.mapError g, (p s).world, (p s).log⟩ := rfl

@[simp] theorem attempt_run :
    (attempt p : Prog σ ε E' (Except E α)) s = ⟨.ok (p s).result, (p s).world, (p s).log⟩ := rfl

@[simp] theorem mapLog_run (g : ε → ε') : mapLog g p s = ⟨(p s).result, (p s).world, (p s).log.map g⟩ := rfl

theorem bind_run : (p >>= f) s = match p s with
    | ⟨.ok a, t, l⟩ => ⟨(f a t).result, (f a t).world, l ++ (f a t).log⟩
    | ⟨.error e, t, l⟩ => ⟨.error e, t, l⟩ := rfl

/-- A sequence depends on its first part only through its run. -/
theorem bind_congr_run {q : Prog σ ε E α} (h : p s = q s) : (p >>= f) s = (q >>= f) s := by rw [bind_run, bind_run, h]

theorem bind_run_ok {a : α} (h : p s = ⟨.ok a, t, l⟩) :
    (p >>= f) s = ⟨(f a t).result, (f a t).world, l ++ (f a t).log⟩ := by rw [bind_run, h]

theorem bind_result_run {a : α} (h : p s = ⟨.ok a, t, l⟩) : ((p >>= f) s).result = (f a t).result := by
  rw [bind_run_ok h]

theorem bind_run_error {e : E} (h : p s = ⟨.error e, t, l⟩) : (p >>= f) s = ⟨.error e, t, l⟩ := by
  rw [bind_run, h]

/-- What one program does as another does after the events `k`, it still does with more to follow. -/
theorem bind_run_after {q : Prog σ ε E α} {k : List ε} (h : p s = ⟨(q t).result, (q t).world, k ++ (q t).log⟩) :
    (p >>= f) s = ⟨((q >>= f) t).result, ((q >>= f) t).world, k ++ ((q >>= f) t).log⟩ := by
  rw [bind_run, bind_run, h]
  rcases q t with ⟨_ | a, u, l⟩ <;> simp

/-- The result of a sequence is that of its second part, if the first ends well. -/
theorem bind_result_ok {b : β} :
    ((p >>= f) s).result = .ok b ↔ ∃ a, (p s).result = .ok a ∧ (f a (p s).world).result = .ok b := by
  rw [bind_run]
  rcases p s with ⟨_ | a, u, k⟩ <;> simp

/-- What a sequence records, by the result of its first part. -/
theorem bind_log {a : α} (h : (p s).result = .ok a) :
    ((p >>= f) s).log = (p s).log ++ (f a (p s).world).log := by
  rw [bind_run]
  rcases hp : p s with ⟨_ | b, u, k⟩
  · rw [hp] at h; cases h
  · rw [hp] at h; cases h; rfl

theorem bind_log_error {e : E} (h : (p s).result = .error e) : ((p >>= f) s).log = (p s).log := by
  rw [bind_run]
  rcases hp : p s with ⟨_ | b, u, k⟩
  · rfl
  · rw [hp] at h; cases h

/-- A computation that ends well hands its result on. -/
theorem lift_bind_run {r : Except E α} {a : α} (h : r = .ok a) : ((lift r : Prog σ ε E α) >>= f) s = f a s := by
  rw [bind_run, h]; rfl

end Run

instance : LawfulMonad (Prog σ ε E) := LawfulMonad.mk' _
  (fun p => by
    funext s
    show (p >>= fun a => pure a) s = p s
    rw [bind_run]
    rcases h : p s with ⟨_ | a, u, k⟩ <;> simp)
  (fun a f => by funext s; rw [bind_run]; simp)
  (fun p f g => by
    funext s
    rw [bind_run, bind_run, bind_run]
    rcases p s with ⟨_ | a, u, k⟩
    · rfl
    · simp only [bind_run]
      rcases f a u with ⟨_ | b, v, k'⟩ <;> simp)

@[simp] theorem map_run (f : α → β) (p : Prog σ ε E α) (s : σ) :
    (f <$> p) s = ⟨(p s).result.map f, (p s).world, (p s).log⟩ := by
  rw [map_eq_pure_bind, bind_run]
  rcases p s with ⟨_ | a, t, l⟩ <;> simp [Except.map]

/-! ## What a program records -/

/-- Everything `p` records satisfies `P`. -/
def Emits (p : Prog σ ε E α) (P : ε → Prop) : Prop := ∀ s, ∀ e ∈ (p s).log, P e

section Emits

variable {P : ε → Prop} {p : Prog σ ε E α} {f : α → Prog σ ε E β}

theorem emits_pure (a : α) : (pure a : Prog σ ε E α).Emits P := fun _ _ h => by simp at h

theorem emits_fail (e : E) : (fail e : Prog σ ε E α).Emits P := fun _ _ h => by simp at h

theorem emits_lift (r : Except E α) : (lift r : Prog σ ε E α).Emits P := fun _ _ h => by simp at h

theorem emits_emit {e : ε} (h : P e) : (emit e : Prog σ ε E Unit).Emits P := fun _ _ he => by
  simp at he; exact he ▸ h

theorem Emits.bind (hp : p.Emits P) (hf : ∀ a, (f a).Emits P) : (p >>= f).Emits P := by
  intro s e he
  rw [bind_run] at he
  have hs := hp s
  rcases h : p s with ⟨_ | a, u, k⟩
  · rw [h] at he hs; exact hs e he
  · rw [h] at he hs
    rcases List.mem_append.mp he with he | he
    · exact hs e he
    · exact hf a u e he

theorem emits_emitAll {l : List ε} (h : ∀ e ∈ l, P e) : (emitAll l : Prog σ ε E Unit).Emits P := fun _ => h

theorem Emits.mapError (hp : p.Emits P) (g : E → E') : (p.mapError g).Emits P := hp

theorem Emits.attempt (hp : p.Emits P) : (p.attempt : Prog σ ε E' (Except E α)).Emits P := hp

theorem Emits.mapLog {Q : ε' → Prop} {g : ε → ε'} (hp : p.Emits fun e => Q (g e)) : (p.mapLog g).Emits Q := by
  intro s e he
  obtain ⟨e', he', rfl⟩ := List.mem_map.mp he
  exact hp s e' he'

end Emits

/-! ## What a program returns -/

/-- Everything `p` returns satisfies `Q`. -/
def Returns (p : Prog σ ε E α) (Q : α → Prop) : Prop := ∀ s a, (p s).result = .ok a → Q a

section Returns

variable {P : α → Prop} {Q : β → Prop} {p : Prog σ ε E α} {f : α → Prog σ ε E β}

theorem returns_pure {a : α} (h : P a) : (pure a : Prog σ ε E α).Returns P := fun _ _ ha => by cases ha; exact h

theorem returns_fail (e : E) : (fail e : Prog σ ε E α).Returns P := fun _ _ ha => by cases ha

theorem returns_lift (r : Except E α) : (lift r : Prog σ ε E α).Returns fun a => r = .ok a := fun _ _ ha => ha

theorem Returns.bind (hp : p.Returns P) (hf : ∀ a, P a → (f a).Returns Q) : (p >>= f).Returns Q := by
  intro s b hb
  obtain ⟨a, ha, hb⟩ := bind_result_ok.mp hb
  exact hf a (hp s a ha) _ _ hb

/-- What the second part returns is returned. -/
theorem returns_bind (hf : ∀ a, (f a).Returns Q) : (p >>= f).Returns Q := fun s b hb => by
  obtain ⟨a, -, hb⟩ := bind_result_ok.mp hb
  exact hf a _ _ hb

end Returns

/-! ## Programs that do the same in every world -/

/-- The result of `p` does not depend on the world it runs in. -/
def Steady (p : Prog σ ε E α) : Prop := ∀ s t, (p s).result = (p t).result

/-- Neither the result of `p` nor what it records depends on the world it runs in. -/
def Uniform (p : Prog σ ε E α) : Prop := ∀ s t, (p s).result = (p t).result ∧ (p s).log = (p t).log

section Uniform

variable {p : Prog σ ε E α} {f : α → Prog σ ε E β}

theorem Uniform.steady (h : p.Uniform) : p.Steady := fun s t => (h s t).1

theorem uniform_pure (a : α) : (pure a : Prog σ ε E α).Uniform := fun _ _ => ⟨rfl, rfl⟩

theorem uniform_fail (e : E) : (fail e : Prog σ ε E α).Uniform := fun _ _ => ⟨rfl, rfl⟩

theorem uniform_emit (e : ε) : (emit e : Prog σ ε E Unit).Uniform := fun _ _ => ⟨rfl, rfl⟩

theorem uniform_lift (r : Except E α) : (lift r : Prog σ ε E α).Uniform := fun _ _ => ⟨rfl, rfl⟩

/-- A query is uniform if its answer does not depend on the world. -/
theorem uniform_ask {g : σ → α × σ} (h : ∀ s t, (g s).1 = (g t).1) : (ask g : Prog σ ε E α).Uniform := fun s t => by
  simp [h s t]

theorem Uniform.bind (hp : p.Uniform) (hf : ∀ a, (f a).Uniform) : (p >>= f).Uniform := by
  intro s t
  obtain ⟨hr, hl⟩ := hp s t
  rw [bind_run, bind_run]
  rcases hs : p s with ⟨_ | a, u, k⟩ <;> rcases ht : p t with ⟨_ | b, v, k'⟩ <;> rw [hs, ht] at hr hl <;> cases hr <;>
    cases hl
  · exact ⟨rfl, rfl⟩
  · exact ⟨(hf a u v).1, congrArg (k ++ ·) (hf a u v).2⟩

theorem Uniform.mapError (hp : p.Uniform) (g : E → E') : (p.mapError g).Uniform := fun s t => by
  simp only [mapError_run, hp s t, and_self]

end Uniform

/-! ## Splitting a log -/

/-- An event of a log that is not one of the first ones comes after them. -/
theorem mem_of_split {before rest pre post : List ε} {event : ε} (h : before ++ rest = pre ++ event :: post)
    (hb : event ∉ before) : event ∈ rest ∧ ∃ mid, pre = before ++ mid := by
  have hmem : event ∈ before ++ rest := by rw [h]; simp
  refine ⟨(List.mem_append.mp hmem).resolve_left hb, ?_⟩
  rw [List.append_eq_append_iff] at h
  obtain ⟨mid, hpre, -⟩ | ⟨mid, hpre, hrest⟩ := h
  · exact ⟨mid, hpre⟩
  · cases mid with
    | nil => exact ⟨[], by simpa using hpre.symm⟩
    | cons head mid =>
      obtain ⟨rfl, -⟩ := List.cons.inj hrest
      exact absurd (by rw [hpre]; simp) hb

end Prog
