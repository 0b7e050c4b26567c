import Pimsync.DaemonRuns

/-!
# A round of the daemon and one of `sync`

What `NamedPair::daemon` does from one event to the next is what `sync_once` does without prompts, but for what that shows,
and for the status database, which the daemon has open already.

- `daemonRound_iff`: the rounds of a daemon, label by label;
- `daemon_rounds_sync`: they are those of `sync_once`, with the same operations and the same failures.
-/

namespace Pimsync

variable {σ S D : Type}

/-! ## Rounds -/

/-- The daemon waits, or has returned. -/
def DaemonPc.Rests : DaemonPc → Prop
  | .select | .ended _ => True
  | _ => False

/-- What the daemon does by itself, once it was woken. -/
def DaemonLabel.Inner : DaemonLabel → Prop
  | .change _ _ | .event _ | .took _ _ => False
  | _ => True

/-- What `execute_stream` returns. -/
def ExecOutcome.label (outcome : ExecOutcome) : DaemonLabel :=
  match outcome.result with
  | .ok (.ok ()) => .executed
  | .ok (.error e) => .execFailed e
  | .error e => .statusFailed e

/-- Where the daemon is then. -/
def ExecOutcome.next (outcome : ExecOutcome) : DaemonPc :=
  match outcome.result with
  | .ok _ => .select
  | .error e => .ended (.status e)

/-- What `execute_stream` reports and returns. -/
def ExecOutcome.labels (outcome : ExecOutcome) : List DaemonLabel := outcome.reported.map .reported ++ [outcome.label]

/-- What the daemon does from an event on, until it rests. -/
inductive DaemonRound : List DaemonLabel → DaemonPc → Prop
  | planFailed (e : Error) : DaemonRound [.plan, .planFailed e] .select
  | executed (plan : List PlanItem) (outcome : ExecOutcome) :
      DaemonRound (.plan :: .planned plan :: outcome.labels) outcome.next

section Rounds

variable {env : PlanOutside σ S D} {pair : NamedPair S} {pending : Side → Option ℕ} {labels : List DaemonLabel}
  {operations : List PlanItem} {reported : List Error} {s t : DaemonState} {next : DaemonPc}

/-- A daemon that rests does nothing until an event is taken. -/
theorem rests_run (hr : (daemon env pair).RunWith (fun _ => DaemonLabel.Inner) s labels t) (hs : s.pc.Rests) :
    labels = [] ∧ s = t := by
  cases labels with
  | nil => exact ⟨rfl, hr.nil_eq⟩
  | cons l labels =>
    obtain ⟨u, hinner, hstep, -⟩ := hr.uncons
    cases hstep <;> first | exact hinner.elim | exact hs.elim

/-- The errors that are reported, and the end of the execution. -/
theorem executing_run (hr : (daemon env pair).RunWith (fun _ => DaemonLabel.Inner) ⟨.executing operations reported, pending⟩
    labels ⟨next, pending⟩) (hnext : next.Rests) : ∃ outcome : ExecOutcome, labels = outcome.labels ∧ next = outcome.next := by
  induction labels generalizing reported with
  | nil =>
    cases hr.nil_eq
    exact hnext.elim
  | cons l labels ih =>
    obtain ⟨u, hinner, hstep, hrest⟩ := hr.uncons
    cases hstep with
    | change | event => exact hinner.elim
    | reported _ _ _ e =>
      obtain ⟨outcome, rfl, rfl⟩ := ih hrest
      exact ⟨⟨e :: outcome.reported, outcome.result⟩, rfl, rfl⟩
    | executed =>
      obtain ⟨rfl, hpc⟩ := rests_run hrest trivial
      cases hpc
      exact ⟨⟨[], .ok (.ok ())⟩, rfl, rfl⟩
    | execFailed _ _ _ e =>
      obtain ⟨rfl, hpc⟩ := rests_run hrest trivial
      cases hpc
      exact ⟨⟨[], .ok (.error e)⟩, rfl, rfl⟩
    | statusFailed _ _ _ e =>
      obtain ⟨rfl, hpc⟩ := rests_run hrest trivial
      cases hpc
      exact ⟨⟨[], .error e⟩, rfl, rfl⟩

/-- An execution can report any errors and return anything. -/
theorem run_executing (outcome : ExecOutcome) :
    (daemon env pair).RunWith (fun _ => DaemonLabel.Inner) ⟨.executing operations reported, pending⟩ outcome.labels
      ⟨outcome.next, pending⟩ := by
  obtain ⟨errors, result⟩ := outcome
  induction errors generalizing reported with
  | nil =>
    rcases result with e | e | ⟨⟩
    · exact .single trivial (.statusFailed pending operations reported e)
    · exact .single trivial (.execFailed pending operations reported e)
    · exact .single trivial (.executed pending operations reported)
  | cons e errors ih => exact .cons trivial (.reported pending operations reported e) ih

/-- **The rounds of a daemon**, label by label. -/
theorem daemonRound_iff : next.Rests ∧
    (daemon env pair).RunWith (fun _ => DaemonLabel.Inner) ⟨.woken, pending⟩ labels ⟨next, pending⟩ ↔
      DaemonRound labels next := by
  constructor
  · rintro ⟨hnext, hr⟩
    cases labels with
    | nil =>
      cases hr.nil_eq
      exact hnext.elim
    | cons l labels =>
      obtain ⟨u, hinner, hstep, hr⟩ := hr.uncons
      cases hstep with
      | change | event => exact hinner.elim
      | plan =>
        cases labels with
        | nil =>
          cases hr.nil_eq
          exact hnext.elim
        | cons l labels =>
          obtain ⟨u, hinner, hstep, hr⟩ := hr.uncons
          cases hstep with
          | change | event => exact hinner.elim
          | planFailed _ e =>
            obtain ⟨rfl, hpc⟩ := rests_run hr trivial
            cases hpc
            exact .planFailed e
          | planned _ plan =>
            obtain ⟨outcome, rfl, rfl⟩ := executing_run hr hnext
            exact .executed plan outcome
  · rintro (e | ⟨plan, outcome⟩)
    · exact ⟨trivial, .cons trivial (.plan pending) (.single trivial (.planFailed pending e))⟩
    · refine ⟨?_, .cons trivial (.plan pending) (.cons trivial (.planned pending plan) (run_executing outcome))⟩
      obtain ⟨errors, _ | _⟩ := outcome <;> trivial

end Rounds

/-! ## Rounds of `sync` -/

/-- What a daemon does for an event of `sync`. -/
def SyncEvent.labels : SyncEvent S → List DaemonLabel
  | .planned _ (.ok plan) => [.planned plan]
  | .planned _ (.error e) => [.planFailed e]
  | .executed _ _ outcome => outcome.labels
  | _ => []

/-- What a daemon does for a `sync_once`. -/
def roundOf (log : List (SyncEvent S)) : List DaemonLabel := .plan :: log.flatMap SyncEvent.labels

@[simp] theorem term_labels (log : List TermEvent) : (log.map (SyncEvent.term (S := S))).flatMap SyncEvent.labels = [] := by
  simp [List.flatMap_map, SyncEvent.labels]

/-- What `sync_once` does without prompts, if it can open the status database. -/
theorem PairTrace.round_cases {env : PlanOutside σ S D} {pair : NamedPair S} {trace : List (SyncEvent S)} {ended : PairEnd}
    (h : PairTrace env false false pair trace ended) (hopened : ∀ path e, .opened path (some e) ∉ trace) :
    (∃ e, trace = [.planned pair (.error e)] ∧ ended = .failed ("Creating plan" :: e)) ∨
      ∃ plan outcome, ended = outcome.ended ∧ trace = shownPair env pair plan ++
        ([.opened pair.statusPath none, .executed pair (applyConflictResolutionToPlan env pair plan) outcome] ++
          outcome.reported.map (.term <| .error "" ·)) := by
  cases h with
  | planFailed e => exact .inl ⟨e, rfl, rfl⟩
  | promptFailed _ _ _ _ hconfirm | declined _ _ _ _ hconfirm => cases hconfirm <;> contradiction
  | dryRun _ _ _ hdry => cases hdry
  | executed plan log trace ended _ _ hconfirm hexec =>
    cases hconfirm with
    | yes _ hinteractive => cases hinteractive
    | unasked =>
      cases hexec with
      | openFailed e => exact absurd (List.mem_append_right _ (List.mem_singleton_self _)) (hopened pair.statusPath e)
      | executed status s outcome =>
        exact .inr ⟨plan, outcome, rfl, by simp⟩

/-- An attempt has failed if an error was reported, or the execution returned one. -/
theorem lastFailed_labels (tr : List DaemonLabel) (h : lastFailed tr = false) (outcome : ExecOutcome) :
    lastFailed (tr ++ outcome.labels) = true ↔ outcome.reported ≠ [] ∨ ∃ e, outcome.result = .ok (.error e) := by
  obtain ⟨errors, result⟩ := outcome
  have herrors : lastFailed (tr ++ errors.map .reported) = true ↔ errors ≠ [] := by
    induction errors using List.reverseRecOn with
    | nil => simp [h]
    | append_singleton errors e _ => simp [List.map_append, ← List.append_assoc, lastFailed_snoc]
  rw [ExecOutcome.labels, ← List.append_assoc, lastFailed_snoc]
  rcases result with e | e | ⟨⟩ <;> simp [ExecOutcome.label, herrors]

/-- A plan that fails, and a status database that can be opened. -/
def failingPlan (keepSide : Side → List PlanItem → List PlanItem) (e : Error) : PlanOutside Unit S Unit where
  openStatus _ s := (.ok none, s)
  openOrCreate _ s := (.ok (), s)
  newPlan _ _ s := (.error e, s)
  keepSide
  execute _ _ _ _ s := (⟨[], .ok (.ok ())⟩, s)

/-- A plan, and what becomes of it. -/
def plannedAs (keepSide : Side → List PlanItem → List PlanItem) (plan : List PlanItem) (outcome : ExecOutcome) :
    PlanOutside Unit S Unit :=
  { (failingPlan keepSide [] : PlanOutside Unit S Unit) with
    newPlan := fun _ _ s => (.ok plan, s)
    execute := fun _ _ _ _ s => (outcome, s) }

/-- The daemon takes a round for failed when `sync_once` does. -/
theorem ExecOutcome.failed_iff (outcome : ExecOutcome) (plan : List PlanItem) :
    (lastFailed (.plan :: .planned plan :: outcome.labels) = true ∨ ∃ e, outcome.next = .ended e) ↔
      outcome.reported.length ≠ 0 ∨ ∃ stop, outcome.ended.result = .error stop := by
  have h := lastFailed_labels [.plan, .planned plan] rfl outcome
  rw [show DaemonLabel.plan :: .planned plan :: outcome.labels = [.plan, .planned plan] ++ outcome.labels from rfl, h]
  obtain ⟨errors, result⟩ := outcome
  rcases result with e | e | ⟨⟩ <;> simp [ExecOutcome.next, ExecOutcome.ended, PairEnd.result]

/-- What the daemon does for a round of `sync_once` that was planned. -/
theorem roundOf_executed (env : PlanOutside σ S D) (pair : NamedPair S) (plan : List PlanItem) (outcome : ExecOutcome) :
    roundOf (shownPair env pair plan ++
      ([.opened pair.statusPath none, .executed pair (applyConflictResolutionToPlan env pair plan) outcome] ++
        outcome.reported.map (.term <| .error "" ·))) = .plan :: .planned plan :: outcome.labels := by
  have hreported : (outcome.reported.map (SyncEvent.term (S := S) <| .error "" ·)).flatMap SyncEvent.labels = [] := by
    simp [List.flatMap_map, SyncEvent.labels]
  rw [roundOf, List.flatMap_append, List.flatMap_append, hreported]
  simp [shownPair, SyncEvent.labels]

/-- A `sync_once` that can open the status database is a round, with the operations that it executes. -/
theorem DaemonRound.of_sync {env : PlanOutside σ S D} {pair : NamedPair S} {w : SyncWorld σ}
    {ran : Ran (SyncWorld σ) (SyncEvent S) Stop Bool} (hran : syncOnce env false false pair w = ran)
    (hopened : ∀ path e, .opened path (some e) ∉ ran.log) :
    ∃ next, DaemonRound (roundOf ran.log) next ∧
      (∀ operations outcome, .executed pair operations outcome ∈ ran.log → ∃ plan,
        operations = applyConflictResolutionToPlan env pair plan ∧
          roundOf ran.log = .plan :: .planned plan :: outcome.labels) ∧
      ((lastFailed (roundOf ran.log) = true ∨ ∃ e, next = .ended e) ↔
        reported ran.log ≠ 0 ∨ ∃ stop, ran.result = .error stop) := by
  subst hran
  obtain ⟨ended, htrace, hresult, -⟩ := syncOnce_run env false false pair w
  rw [hresult]
  obtain ⟨e, hlog, rfl⟩ | ⟨plan, outcome, rfl, hlog⟩ := htrace.round_cases hopened <;> rw [hlog]
  · exact ⟨.select, .planFailed e, by simp, by simp [roundOf, SyncEvent.labels, lastFailed, PairEnd.result]⟩
  · have hround := roundOf_executed env pair plan outcome
    refine ⟨outcome.next, hround ▸ .executed plan outcome, fun operations outcome' hmem => ⟨plan, ?_⟩, ?_⟩
    · have heq : operations = applyConflictResolutionToPlan env pair plan ∧ outcome' = outcome := by
        simpa [shownPair] using hmem
      exact ⟨heq.1, heq.2 ▸ hround⟩
    · rw [hround, outcome.failed_iff plan, reported_append, shownPair_reported, executed_reported, Nat.zero_add]

/-- A round is a `sync_once`, with a plan and an outcome that it may have. -/
theorem DaemonRound.sync (env : PlanOutside σ S D) (pair : NamedPair S) {labels : List DaemonLabel} {next : DaemonPc}
    (h : DaemonRound labels next) : ∃ out : PlanOutside Unit S Unit, out.keepSide = env.keepSide ∧
      ∀ ran, syncOnce out false false pair ⟨⟨[], ()⟩, 0⟩ = ran →
        roundOf ran.log = labels ∧ ∀ path e, .opened path (some e) ∉ ran.log := by
  cases h with
  | planFailed e =>
    refine ⟨failingPlan env.keepSide e, rfl, ?_⟩
    rintro _ rfl
    have hcreate (w : World Unit) : createPlan (failingPlan env.keepSide e) pair w = ⟨.error e, w, ([] : List (SyncEvent S))⟩ :=
      rfl
    have hlog : (syncOnce (failingPlan env.keepSide e) false false pair ⟨⟨[], ()⟩, 0⟩).log = [.planned pair (.error e)] := by
      simp [syncOnce, planPair, Prog.bind_run, hcreate]
    rw [hlog]
    exact ⟨rfl, by simp⟩
  | executed plan outcome =>
    let out := plannedAs (S := S) env.keepSide plan outcome
    refine ⟨out, rfl, ?_⟩
    rintro _ rfl
    have hplan (w : World Unit) :
        planPair out pair w = ⟨.ok (applyConflictResolutionToPlan out pair plan), w, shownPair out pair plan⟩ := by
      have hcreate : createPlan out pair w = ⟨.ok plan, w, ([] : List (SyncEvent S))⟩ := rfl
      simp [planPair, Prog.bind_run, hcreate, printAndCollectPlan_run, shownPair, Except.map]
    have hexec (operations : List PlanItem) (w : SyncWorld Unit) : (executePlan out pair operations w).log =
        [.opened pair.statusPath none, .executed pair operations outcome] ++
          outcome.reported.map (.term <| .error "" ·) := by
      obtain ⟨errors, e | e | ⟨⟩⟩ := outcome <;>
        simp [executePlan, out, plannedAs, failingPlan, Prog.bind_run, countErrors_run]
    have hlog : (syncOnce out false false pair ⟨⟨[], ()⟩, 0⟩).log = shownPair out pair plan ++
        ([.opened pair.statusPath none, .executed pair (applyConflictResolutionToPlan out pair plan) outcome] ++
          outcome.reported.map (.term <| .error "" ·)) := by
      rw [← hexec _ ⟨⟨[], ()⟩, 0⟩]
      simp [syncOnce, Prog.bind_run, hplan, confirm, Except.map]
    rw [hlog, roundOf_executed]
    exact ⟨rfl, by simp [shownPair]⟩

/-- **A round of the daemon is a `sync_once`** without prompts: what one does the other does, with the same operations, and
one takes it for a failure if the other does. -/
theorem daemon_rounds_sync (env : PlanOutside σ S D) (pair : NamedPair S) (pending : Side → Option ℕ) :
    (∀ w : SyncWorld σ, ∀ ran, syncOnce env false false pair w = ran → (∀ path e, .opened path (some e) ∉ ran.log) →
      ∃ next, next.Rests ∧
        (daemon env pair).RunWith (fun _ => DaemonLabel.Inner) ⟨.woken, pending⟩ (roundOf ran.log) ⟨next, pending⟩ ∧
        (∀ operations outcome, .executed pair operations outcome ∈ ran.log → ∃ before,
          roundOf ran.log = before ++ outcome.labels ∧
          (daemon env pair).Run ⟨.woken, pending⟩ before ⟨.executing operations [], pending⟩) ∧
        ((lastFailed (roundOf ran.log) = true ∨ ∃ e, next = .ended e) ↔
          reported ran.log ≠ 0 ∨ ∃ stop, ran.result = .error stop)) ∧
    ∀ labels next, next.Rests →
      (daemon env pair).RunWith (fun _ => DaemonLabel.Inner) ⟨.woken, pending⟩ labels ⟨next, pending⟩ →
      ∃ out : PlanOutside Unit S Unit, out.keepSide = env.keepSide ∧
        ∀ ran, syncOnce out false false pair ⟨⟨[], ()⟩, 0⟩ = ran →
          roundOf ran.log = labels ∧ ∀ path e, .opened path (some e) ∉ ran.log := by
  constructor
  · intro w ran hran hopened
    obtain ⟨next, hround, hoperations, hfailed⟩ := DaemonRound.of_sync hran hopened
    obtain ⟨hrests, hr⟩ : next.Rests ∧
        (daemon env pair).RunWith (fun _ => DaemonLabel.Inner) ⟨.woken, pending⟩ (roundOf ran.log) ⟨next, pending⟩ :=
      daemonRound_iff.mpr hround
    refine ⟨next, hrests, hr, fun operations outcome hmem => ?_, hfailed⟩
    obtain ⟨plan, rfl, hlabels⟩ := hoperations operations outcome hmem
    exact ⟨[.plan, .planned plan], hlabels, .cons (.plan pending) (.single (.planned pending plan))⟩
  · intro labels next hnext hr
    exact (daemonRound_iff.mp ⟨hnext, hr⟩).sync env pair

end Pimsync
