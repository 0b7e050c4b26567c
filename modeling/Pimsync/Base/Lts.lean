import Mathlib.Data.List.Basic
import Mathlib.Logic.Function.Basic

/-!
# Labelled transition systems

- runs with their labels (`RunWith`, `Run`), where every step is taken in a state that allows it;
- a run divided at one of its labels (`RunWith.at_label`), and inside a larger system (`Run.embed`);
- the invariant rule (`RunWith.invariant`) and its form over the labels so far (`RunWith.history`); the variant rule
  (`exists_run_final`);
- simulation with hidden labels, and the inclusion of visible traces it gives (`Simulation.run`);
- a family of systems side by side (`Lts.pi`), whose runs are runs of each member (`RunWith.component`).
-/

/-- A labelled transition system on states `σ` with labels `ℓ`. -/
structure Lts (σ ℓ : Type*) where
  /-- `step s l s'`: the label `l` leads from `s` to `s'`. -/
  step : σ → ℓ → σ → Prop

namespace Lts

variable {σ ℓ τ m v : Type*} {L : Lts σ ℓ} {M : Lts τ m}

/-! ## Runs -/

/-- `L.RunWith ok s tr t`: the labels `tr` lead from `s` to `t`, each of them taken where `ok` allows it. -/
inductive RunWith (L : Lts σ ℓ) (ok : σ → ℓ → Prop) : σ → List ℓ → σ → Prop
  | nil (s : σ) : RunWith L ok s [] s
  | snoc {s t u : σ} {tr : List ℓ} {l : ℓ} : RunWith L ok s tr t → ok t l → L.step t l u →
      RunWith L ok s (tr ++ [l]) u

/-- A run with no condition on its steps. -/
abbrev Run (L : Lts σ ℓ) : σ → List ℓ → σ → Prop := L.RunWith fun _ _ => True

variable {ok : σ → ℓ → Prop}

/-- A run is one under a condition that all its labels meet in every state. -/
theorem Run.runWith {s t : σ} {tr : List ℓ} (hr : L.Run s tr t) (P : σ → ℓ → Prop)
    (h : ∀ l ∈ tr, ∀ s, P s l) : L.RunWith P s tr t := by
  induction hr with
  | nil => exact .nil _
  | snoc _ _ hs ih =>
    exact .snoc (ih fun l hl => h l (List.mem_append_left _ hl)) (h _ (by simp) _) hs

theorem RunWith.single {s t : σ} {l : ℓ} (hok : ok s l) (hs : L.step s l t) : L.RunWith ok s [l] t :=
  (RunWith.nil s).snoc hok hs

theorem Run.single {s t : σ} {l : ℓ} (hs : L.step s l t) : L.Run s [l] t := RunWith.single trivial hs

theorem RunWith.append {s t u : σ} {tr tr' : List ℓ} (h : L.RunWith ok s tr t) (h' : L.RunWith ok t tr' u) :
    L.RunWith ok s (tr ++ tr') u := by
  induction h' with
  | nil => simpa using h
  | snoc _ hok hs ih => rw [← List.append_assoc]; exact .snoc ih hok hs

theorem RunWith.cons {s t u : σ} {l : ℓ} {tr : List ℓ} (hok : ok s l) (hs : L.step s l t)
    (h : L.RunWith ok t tr u) : L.RunWith ok s (l :: tr) u := (RunWith.single hok hs).append h

theorem Run.cons {s t u : σ} {l : ℓ} {tr : List ℓ} (hs : L.step s l t) (h : L.Run t tr u) :
    L.Run s (l :: tr) u := RunWith.cons trivial hs h

/-- Each label of a run was taken in some state that allowed it. -/
theorem RunWith.step_of_mem {s t : σ} {tr : List ℓ} {l : ℓ} (hr : L.RunWith ok s tr t) (hl : l ∈ tr) :
    ∃ u u', ok u l ∧ L.step u l u' := by
  induction hr with
  | nil => cases hl
  | snoc _ hok hs ih =>
    rcases List.mem_append.mp hl with hl | hl
    · exact ih hl
    · obtain rfl := List.mem_singleton.mp hl
      exact ⟨_, _, hok, hs⟩

/-- A run is one after another, wherever its labels are divided. -/
theorem RunWith.split {s u : σ} {tr tr' : List ℓ} (hr : L.RunWith ok s (tr ++ tr') u) :
    ∃ t, L.RunWith ok s tr t ∧ L.RunWith ok t tr' u := by
  generalize htr : tr ++ tr' = labels at hr
  induction hr generalizing tr' with
  | nil =>
    obtain ⟨rfl, rfl⟩ := List.append_eq_nil_iff.mp htr
    exact ⟨_, .nil _, .nil _⟩
  | @snoc t u labels l hr hok hs ih =>
    obtain rfl | ⟨post, last, rfl⟩ := List.eq_nil_or_concat' tr'
    · rw [List.append_nil] at htr
      exact ⟨u, htr ▸ hr.snoc hok hs, .nil u⟩
    · rw [← List.append_assoc] at htr
      obtain ⟨hlabels, hlast⟩ := List.append_inj' htr rfl
      obtain rfl := List.singleton_inj.mp hlast
      obtain ⟨t', hpre, hpost⟩ := ih hlabels
      exact ⟨t', hpre, hpost.snoc hok hs⟩

theorem RunWith.nil_eq {s t : σ} (hr : L.RunWith ok s [] t) : s = t := by
  generalize htr : ([] : List ℓ) = labels at hr
  cases hr with
  | nil => rfl
  | snoc => simp at htr

/-- The first step of a run. -/
theorem RunWith.uncons {s u : σ} {l : ℓ} {tr : List ℓ} (hr : L.RunWith ok s (l :: tr) u) :
    ∃ t, ok s l ∧ L.step s l t ∧ L.RunWith ok t tr u := by
  rw [← List.singleton_append] at hr
  obtain ⟨t, hl, hrest⟩ := hr.split
  generalize hlabels : [l] = labels at hl
  cases hl with
  | nil => cases hlabels
  | snoc hr hok hs =>
    rw [← List.nil_append [l]] at hlabels
    obtain ⟨rfl, hlast⟩ := List.append_inj' hlabels rfl
    obtain rfl := List.singleton_inj.mp hlast
    obtain rfl := hr.nil_eq
    exact ⟨t, hok, hs, hrest⟩

/-- The step of a run that a label was taken by. -/
theorem RunWith.at_label {s u : σ} {pre post : List ℓ} {l : ℓ} (hr : L.RunWith ok s (pre ++ l :: post) u) :
    ∃ t t', L.RunWith ok s pre t ∧ ok t l ∧ L.step t l t' ∧ L.RunWith ok t' post u := by
  obtain ⟨t, hpre, hpost⟩ := hr.split
  obtain ⟨t', hok, hs, hpost⟩ := hpost.uncons
  exact ⟨t, t', hpre, hok, hs, hpost⟩

/-- A run of a system that takes part in another. -/
theorem Run.embed {f : σ → τ} {g : ℓ → m} (h : ∀ s l s', L.step s l s' → M.step (f s) (g l) (f s')) {s t : σ}
    {tr : List ℓ} (hr : L.Run s tr t) : M.Run (f s) (tr.map g) (f t) := by
  induction hr with
  | nil => exact .nil _
  | snoc _ _ hs ih =>
    rw [List.map_append]
    exact ih.snoc trivial (h _ _ _ hs)

/-- A run under a condition is one without it. -/
theorem RunWith.run {s t : σ} {tr : List ℓ} (hr : L.RunWith ok s tr t) : L.Run s tr t := by
  induction hr with
  | nil => exact .nil _
  | snoc _ _ hs ih => exact .snoc ih trivial hs

/-- **The invariant rule, with the labels so far.** -/
theorem RunWith.history {I : List ℓ → σ → Prop} {s t : σ} {tr : List ℓ} (hr : L.RunWith ok s tr t) (h₀ : I [] s)
    (hstep : ∀ tr t l u, I tr t → ok t l → L.step t l u → I (tr ++ [l]) u) : I tr t := by
  induction hr with
  | nil => exact h₀
  | snoc _ hok hs ih => exact hstep _ _ _ _ ih hok hs

/-- **The invariant rule.** -/
theorem RunWith.invariant {I : σ → Prop} {s t : σ} {tr : List ℓ} (hr : L.RunWith ok s tr t) (h₀ : I s)
    (hstep : ∀ t l u, I t → ok t l → L.step t l u → I u) : I t :=
  hr.history (I := fun _ t => I t) h₀ fun _ => hstep

/-- **The variant rule**: if in every state that is not final some allowed step keeps the invariant and lowers the
measure, then a final state can be reached. -/
theorem exists_run_final {I final : σ → Prop} (μ : σ → ℕ)
    (h : ∀ s, I s → ¬ final s → ∃ l t, ok s l ∧ L.step s l t ∧ I t ∧ μ t < μ s) (s : σ) (hs : I s) :
    ∃ tr t, L.RunWith ok s tr t ∧ final t := by
  induction hn : μ s using Nat.strongRecOn generalizing s with
  | _ n ih =>
    by_cases hf : final s
    · exact ⟨[], s, .nil s, hf⟩
    · obtain ⟨l, t, hok, hstep, ht, hlt⟩ := h s hs hf
      obtain ⟨tr, u, hr, hu⟩ := ih (μ t) (hn ▸ hlt) t ht rfl
      exact ⟨l :: tr, u, .cons hok hstep hr, hu⟩

/-- No label leads out of `s`. -/
def Stuck (L : Lts σ ℓ) (s : σ) : Prop := ∀ l t, ¬ L.step s l t

/-! ## Simulation -/

/-- Every step of `L` is matched by steps of `M` with the same visible labels; `vis` and `vis'` say what of a label
is visible. -/
structure Simulation (L : Lts σ ℓ) (M : Lts τ m) (vis : ℓ → Option v) (vis' : m → Option v) where
  rel : σ → τ → Prop
  step : ∀ {s s' : σ} {t : τ} {l : ℓ}, rel s t → L.step s l s' →
    ∃ ms t', M.Run t ms t' ∧ rel s' t' ∧ ms.filterMap vis' = (vis l).toList

/-- **Trace inclusion**: a run of the simulated system has a matching run with the same visible labels. -/
theorem Simulation.run {vis : ℓ → Option v} {vis' : m → Option v} (S : Simulation L M vis vis') {s s' : σ} {t : τ}
    {tr : List ℓ} (h : S.rel s t) (hr : L.RunWith ok s tr s') :
    ∃ ms t', M.Run t ms t' ∧ S.rel s' t' ∧ ms.filterMap vis' = tr.filterMap vis := by
  induction hr with
  | nil => exact ⟨[], t, .nil t, h, rfl⟩
  | snoc _ _ hs ih =>
    obtain ⟨ms, t', hm, hrel, hv⟩ := ih
    obtain ⟨ns, u, hn, hrel', hv'⟩ := S.step hrel hs
    refine ⟨ms ++ ns, u, hm.append hn, hrel', ?_⟩
    rw [List.filterMap_append, List.filterMap_append, hv, hv']
    cases hl : vis _ <;> simp [hl]

/-! ## Families -/

section Pi

variable {κ : Type*} [DecidableEq κ]

/-- Systems side by side: a label names the member that moves. -/
def pi (L : κ → Lts σ ℓ) : Lts (κ → σ) (κ × ℓ) where
  step s l s' := ∃ u, (L l.1).step (s l.1) l.2 u ∧ s' = Function.update s l.1 u

/-- The labels of member `k`. -/
def only (k : κ) (tr : List (κ × ℓ)) : List ℓ := tr.filterMap fun l => if l.1 = k then some l.2 else none

theorem only_snoc_self (k : κ) (tr : List (κ × ℓ)) (l : ℓ) : only k (tr ++ [(k, l)]) = only k tr ++ [l] := by
  simp [only]

theorem only_snoc_ne {k k' : κ} (h : k' ≠ k) (tr : List (κ × ℓ)) (l : ℓ) : only k (tr ++ [(k', l)]) = only k tr := by
  simp [only, h]

/-- A run of the family is a run of each member. -/
theorem RunWith.component {L : κ → Lts σ ℓ} (ok : κ → σ → ℓ → Prop) {s t : κ → σ} {tr : List (κ × ℓ)}
    (hr : (pi L).RunWith (fun s l => ok l.1 (s l.1) l.2) s tr t) (k : κ) :
    (L k).RunWith (ok k) (s k) (only k tr) (t k) := by
  induction hr with
  | nil => exact .nil _
  | snoc _ hok hs ih =>
    rename_i l _
    obtain ⟨k', l⟩ := l
    obtain ⟨u, hu, rfl⟩ := hs
    by_cases hk : k' = k
    · subst hk
      rw [only_snoc_self, Function.update_self]
      exact .snoc ih hok hu
    · rw [only_snoc_ne hk, Function.update_of_ne (Ne.symm hk)]
      exact ih

/-- A run of one member is a run of the family in which the others rest. -/
theorem Run.pi {L : κ → Lts σ ℓ} {s : κ → σ} {k : κ} {tr : List ℓ} {t : σ} (hr : (L k).Run (s k) tr t) :
    (pi L).Run s (tr.map (k, ·)) (Function.update s k t) := by
  induction hr with
  | nil => rw [Function.update_eq_self]; exact .nil s
  | @snoc t' u' tr' l _ _ hstep ih =>
    rw [List.map_append]
    exact .snoc ih trivial ⟨u', by simpa using hstep, by simp⟩

end Pi

end Lts
