import Mathlib.Algebra.GroupWithZero.Nat
import Pimsync.SyncShown

/-!
# The trace of `sync`

`PairTrace` is what `sync_once` does with a pair and how it ends, whatever the crate, the user and the executor do; a
`Visit` is one round of the loop of `sync`.

- `syncOnce_run`: `sync_once` does what `PairTrace` says, and counts the errors that the executor reports;
- `syncPairs_run`: the loop visits one pair after the other until the user quits, and counts what fails;
- `sync_trace`: what a run of `sync` does, as a whole (`Traced`).
-/

namespace Pimsync

variable {σ S D : Type}

/-! ## What one pair does -/

/-- How the round of a pair ends. -/
inductive PairEnd
  | failed (e : Error)
  | done
  | quit
  deriving DecidableEq

/-- What `sync_once` returns. -/
def PairEnd.result : PairEnd → Except Stop Bool
  | .failed e => .error (.err e)
  | .done => .ok true
  | .quit => .ok false

def ExecOutcome.ended (outcome : ExecOutcome) : PairEnd :=
  match outcome.result with
  | .ok (.ok ()) => .done
  | .ok (.error e) => .failed ("execution failed" :: e)
  | .error e => .failed ("executing plan" :: e)

section Grammar

variable (env : PlanOutside σ S D) (dryRun interactive : Bool) (pair : NamedPair S)

/-- A plan that is created, and shown and collected once its conflicts are resolved. -/
def shownPair (plan : List PlanItem) : List (SyncEvent S) :=
  [.planned pair (.ok plan)] ++ (planShown pair.name (applyConflictResolutionToPlan env pair plan)).map .term ++
    [.collected pair (applyConflictResolutionToPlan env pair plan)]

/-- What `confirm` shows, and what it makes of the answer. -/
inductive ConfirmTrace : List TermEvent → Except Stop (Option Bool) → Prop
  | unasked : interactive = false → ConfirmTrace [] (.ok none)
  | failed (log : List TermEvent) (e : Error) : interactive = true →
      PromptTrace "Execute plan?" log (.error (.err e)) → ConfirmTrace log (.error (.err e))
  | yes (log : List TermEvent) : interactive = true → PromptTrace "Execute plan?" log (.ok .yes) →
      ConfirmTrace log (.ok none)
  | no (log : List TermEvent) : interactive = true → PromptTrace "Execute plan?" log (.ok .no) →
      ConfirmTrace (log ++ [.print s!"Sync skipped for pair '{pair.name}'."]) (.ok (some true))
  | quit (log : List TermEvent) : interactive = true → PromptTrace "Execute plan?" log (.ok .quit) →
      ConfirmTrace (log ++ [.print "Sync cancelled."]) (.ok (some false))

/-- What `executePlan` does, and how it ends. -/
inductive ExecTrace (operations : List PlanItem) : List (SyncEvent S) → PairEnd → Prop
  | openFailed (e : Error) : (∃ s, (env.openOrCreate pair.statusPath s).1 = .error e) →
      ExecTrace operations [.opened pair.statusPath (some e)] (.failed (s!"open_or_create status db for {pair.name}" :: e))
  | executed (status : D) (s : σ) (outcome : ExecOutcome) : (∃ s', env.openOrCreate pair.statusPath s' = (.ok status, s)) →
      (env.execute pair.inner.storageA pair.inner.storageB operations status s).1 = outcome → ExecTrace operations
      ([.opened pair.statusPath none, .executed pair operations outcome] ++ outcome.reported.map (.term <| .error "" ·))
      outcome.ended

/-- **What `sync_once` does with a pair, and how it ends.** -/
inductive PairTrace : List (SyncEvent S) → PairEnd → Prop
  | planFailed (e : Error) : Creates env pair (.error e) → PairTrace [.planned pair (.error e)] (.failed ("Creating plan" :: e))
  | promptFailed (plan : List PlanItem) (log : List TermEvent) (e : Error) : Creates env pair (.ok plan) →
      ConfirmTrace interactive pair log (.error (.err e)) →
      PairTrace (shownPair env pair plan ++ log.map .term) (.failed e)
  | declined (plan : List PlanItem) (log : List TermEvent) (go : Bool) : Creates env pair (.ok plan) →
      ConfirmTrace interactive pair log (.ok (some go)) →
      PairTrace (shownPair env pair plan ++ log.map .term) (if go then .done else .quit)
  | dryRun (plan : List PlanItem) (log : List TermEvent) : Creates env pair (.ok plan) → dryRun = true →
      ConfirmTrace interactive pair log (.ok none) → PairTrace (shownPair env pair plan ++ log.map .term) .done
  | executed (plan : List PlanItem) (log : List TermEvent) (trace : List (SyncEvent S)) (ended : PairEnd) :
      Creates env pair (.ok plan) → dryRun = false → ConfirmTrace interactive pair log (.ok none) →
      ExecTrace env pair (applyConflictResolutionToPlan env pair plan) trace ended →
      PairTrace (shownPair env pair plan ++ log.map .term ++ trace) ended

end Grammar

/-- The errors that the executor reported. -/
def SyncEvent.reported : SyncEvent S → ℕ
  | .executed _ _ outcome => outcome.reported.length
  | _ => 0

def reported (log : List (SyncEvent S)) : ℕ := (log.map SyncEvent.reported).sum

@[simp] theorem reported_nil : reported ([] : List (SyncEvent S)) = 0 := rfl

@[simp] theorem reported_cons (event : SyncEvent S) (log : List (SyncEvent S)) :
    reported (event :: log) = event.reported + reported log := rfl

@[simp] theorem reported_append (log log' : List (SyncEvent S)) : reported (log ++ log') = reported log + reported log' := by
  simp [reported]

@[simp] theorem reported_term (log : List TermEvent) : reported (log.map (SyncEvent.term (S := S))) = 0 := by
  simp [reported, Function.comp_def, SyncEvent.reported]

/-! ## Running -/

section Run

variable (env : PlanOutside σ S D) (dryRun interactive : Bool) (pair : NamedPair S)

theorem planPair_run (w : World σ) :
    (∃ e w', Creates env pair (.error e) ∧
      planPair env pair w = ⟨.error (.err ("Creating plan" :: e)), w', [.planned pair (.error e)]⟩) ∨
    ∃ plan w', Creates env pair (.ok plan) ∧
      planPair env pair w = ⟨.ok (applyConflictResolutionToPlan env pair plan), w', shownPair env pair plan⟩ := by
  have hcreates := createPlan_creates (ε := SyncEvent S) env pair w
  have hlog := createPlan_log (ε := SyncEvent S) env pair w
  rcases hp : createPlan (ε := SyncEvent S) env pair w with ⟨e | plan, w', log⟩ <;> rw [hp] at hlog hcreates <;> cases hlog
  · exact .inl ⟨e, w', hcreates, by simp [planPair, Prog.bind_run, hp]⟩
  · exact .inr ⟨plan, w', hcreates, by
      simp [planPair, Prog.bind_run, hp, printAndCollectPlan_run, shownPair, Except.map]⟩

theorem confirm_run (w : World σ) :
    ConfirmTrace interactive pair (confirm pair interactive w).log (confirm pair interactive w).result := by
  cases interactive with
  | false => exact .unasked rfl
  | true =>
    have h := (continueSkipOrQuit_trace "Execute plan?" w).1
    rcases hp : continueSkipOrQuit "Execute plan?" w with ⟨stop | answer, w', log⟩ <;> rw [hp] at h
    · obtain ⟨e, rfl⟩ := h.error
      simpa [confirm, Prog.bind_run, hp] using ConfirmTrace.failed log e rfl h
    · cases answer with
      | yes => simpa [confirm, Prog.bind_run, hp] using ConfirmTrace.yes log rfl h
      | no => simpa [confirm, Prog.bind_run, hp, Except.map] using ConfirmTrace.no log rfl h
      | quit => simpa [confirm, Prog.bind_run, hp, Except.map] using ConfirmTrace.quit log rfl h

theorem shownPair_reported (plan : List PlanItem) : reported (shownPair env pair plan) = 0 := by
  simp [shownPair, SyncEvent.reported]

theorem countErrors_run : ∀ (errors : List Error) (w : SyncWorld σ),
    countErrors (S := S) errors w =
      ⟨.ok (), { w with errorCount := w.errorCount + .ofNat errors.length }, errors.map (.term <| .error "" ·)⟩
  | [], w => by simp [countErrors]
  | e :: errors, w => by
    simp [countErrors, Prog.bind_run, countErrors_run errors, UInt32.add_assoc, UInt32.add_comm]

theorem executed_reported (operations : List PlanItem) (outcome : ExecOutcome) (errors : List Error) :
    reported ([.opened pair.statusPath none, .executed pair operations outcome] ++
      errors.map (SyncEvent.term <| .error "" ·)) = outcome.reported.length := by
  have h : reported (errors.map (SyncEvent.term (S := S) <| .error "" ·)) = 0 := by
    simp [reported, Function.comp_def, SyncEvent.reported]
  rw [reported_append, h]
  simp [SyncEvent.reported]

/-- What the end of `sync_once` does, and what it counts. -/
theorem executePlan_run (operations : List PlanItem) (w : SyncWorld σ) :
    ∃ ended, ExecTrace env pair operations (executePlan env pair operations w).log ended ∧
      (executePlan env pair operations w).result.map (fun _ => true) = ended.result ∧
      (executePlan env pair operations w).world.errorCount =
        w.errorCount + .ofNat (reported (executePlan env pair operations w).log) := by
  rcases hs : env.openOrCreate pair.statusPath w.world.outside with ⟨e | status, outside⟩
  · have hrun : executePlan env pair operations w =
        ⟨.error (.err (s!"open_or_create status db for {pair.name}" :: e)), { w with world := { w.world with outside } },
          [.opened pair.statusPath (some e)]⟩ := by
      simp [executePlan, Prog.bind_run, hs]
    rw [hrun]
    exact ⟨_, .openFailed e ⟨_, congrArg Prod.fst hs⟩, rfl, by simp [reported, SyncEvent.reported]⟩
  · rcases he : env.execute pair.inner.storageA pair.inner.storageB operations status outside with ⟨outcome, outside'⟩
    have hrun : executePlan env pair operations w =
        ⟨outcome.ended.result.map (fun _ => ()),
          ⟨{ w.world with outside := outside' }, w.errorCount + .ofNat outcome.reported.length⟩,
          [.opened pair.statusPath none, .executed pair operations outcome] ++
            outcome.reported.map (.term <| .error "" ·)⟩ := by
      obtain ⟨errors, e | e | ⟨⟩⟩ := outcome <;>
        simp [executePlan, Prog.bind_run, hs, he, countErrors_run, ExecOutcome.ended, PairEnd.result, Except.map]
    rw [hrun]
    refine ⟨_, .executed status outside outcome ⟨_, hs⟩ (by rw [he]), ?_, by rw [executed_reported]⟩
    obtain ⟨errors, e | e | ⟨⟩⟩ := outcome <;> rfl

/-- **What `sync_once` does, what it returns, and what it counts.** -/
theorem syncOnce_run (w : SyncWorld σ) :
    ∃ ended, PairTrace env dryRun interactive pair (syncOnce env dryRun interactive pair w).log ended ∧
      (syncOnce env dryRun interactive pair w).result = ended.result ∧
      (syncOnce env dryRun interactive pair w).world.errorCount =
        w.errorCount + .ofNat (reported (syncOnce env dryRun interactive pair w).log) := by
  obtain ⟨e, w', hcreates, hp⟩ | ⟨plan, w', hcreates, hp⟩ := planPair_run env pair w.world
  · have hrun : syncOnce env dryRun interactive pair w =
        ⟨.error (.err ("Creating plan" :: e)), { w with world := w' }, [.planned pair (.error e)]⟩ := by
      simp [syncOnce, Prog.bind_run, hp]
    rw [hrun]
    exact ⟨_, .planFailed e hcreates, rfl, by simp [reported, SyncEvent.reported]⟩
  have hconfirm := confirm_run interactive pair w'
  rcases hc : confirm pair interactive w' with ⟨stop | _ | go, w'', log⟩ <;> rw [hc] at hconfirm
  · obtain ⟨e, rfl⟩ : ∃ e, stop = .err e := by cases hconfirm; exact ⟨_, rfl⟩
    have hrun : syncOnce env dryRun interactive pair w =
        ⟨.error (.err e), { w with world := w'' }, shownPair env pair plan ++ log.map .term⟩ := by
      simp [syncOnce, Prog.bind_run, hp, hc]
    rw [hrun]
    exact ⟨_, .promptFailed plan log e hcreates hconfirm, rfl, by simp [shownPair_reported]⟩
  · cases dryRun with
    | true =>
      have hrun : syncOnce env true interactive pair w =
          ⟨.ok true, { w with world := w'' }, shownPair env pair plan ++ log.map .term⟩ := by
        simp [syncOnce, Prog.bind_run, hp, hc]
      rw [hrun]
      exact ⟨_, .dryRun plan log hcreates rfl hconfirm, rfl, by simp [shownPair_reported]⟩
    | false =>
      obtain ⟨ended, htrace, hresult, hcount⟩ := executePlan_run env pair (applyConflictResolutionToPlan env pair plan)
        { w with world := w'' }
      rcases he : executePlan env pair (applyConflictResolutionToPlan env pair plan) { w with world := w'' }
        with ⟨result, v, trace⟩
      rw [he] at htrace hresult hcount
      have hrun : syncOnce env false interactive pair w =
          ⟨result.map (fun _ => true), v, shownPair env pair plan ++ log.map .term ++ trace⟩ := by
        cases result <;> simp [syncOnce, Prog.bind_run, hp, hc, he, Except.map]
      rw [hrun]
      exact ⟨ended, .executed plan log trace ended hcreates rfl hconfirm htrace, hresult, by
        simpa [shownPair_reported] using hcount⟩
  · have hrun : syncOnce env dryRun interactive pair w =
        ⟨.ok go, { w with world := w'' }, shownPair env pair plan ++ log.map .term⟩ := by
      simp [syncOnce, Prog.bind_run, hp, hc]
    rw [hrun]
    exact ⟨_, .declined plan log go hcreates hconfirm, by cases go <;> rfl, by simp [shownPair_reported]⟩

end Run

/-! ## The loop -/

/-- One round of the loop of `sync`. -/
structure Visit (S : Type) where
  pair : NamedPair S
  trace : List (SyncEvent S)
  ended : PairEnd

def PairEnd.error? : PairEnd → Option Error
  | .failed e => some e
  | _ => none

/-- All that a round does: what `sync_once` does, and the error that it failed with. -/
def Visit.log (visit : Visit S) : List (SyncEvent S) :=
  visit.trace ++ visit.ended.error?.toList.map fun e =>
    .term (.error "" (s!"Synchronising pair {visit.pair.name}" :: e))

/-- What a round adds to `error_count`. -/
def Visit.counted (visit : Visit S) : ℕ := reported visit.trace + visit.ended.error?.toList.length

section Loop

variable (env : PlanOutside σ S D) (dryRun interactive : Bool)

/-- The rounds of a run: one pair after the other, until the user quits. -/
inductive Visits : List (NamedPair S) → List (Visit S) → Prop
  | done : Visits [] []
  | quit (pair : NamedPair S) (pairs : List (NamedPair S)) (trace : List (SyncEvent S)) :
      PairTrace env dryRun interactive pair trace .quit → Visits (pair :: pairs) [⟨pair, trace, .quit⟩]
  | next (pair : NamedPair S) (pairs : List (NamedPair S)) (trace : List (SyncEvent S)) (ended : PairEnd)
      (visits : List (Visit S)) : PairTrace env dryRun interactive pair trace ended → ended ≠ .quit →
      Visits pairs visits → Visits (pair :: pairs) (⟨pair, trace, ended⟩ :: visits)

/-- **The loop of `sync`.** It does not fail, and it counts what every round reports and what fails. -/
theorem syncPairs_run : ∀ (pairs : List (NamedPair S)) (w : SyncWorld σ), ∃ visits w',
    Visits env dryRun interactive pairs visits ∧
      syncPairs env dryRun interactive pairs w = ⟨.ok (), w', visits.flatMap Visit.log⟩ ∧
      w'.errorCount = w.errorCount + .ofNat (visits.map Visit.counted).sum
  | [], w => ⟨[], w, .done, rfl, by simp⟩
  | pair :: pairs, w => by
    obtain ⟨ended, htrace, hresult, hcount⟩ := syncOnce_run env dryRun interactive pair w
    rcases hp : syncOnce env dryRun interactive pair w with ⟨result, v, trace⟩
    rw [hp] at htrace hresult hcount
    subst hresult
    cases ended with
    | quit =>
      refine ⟨[⟨pair, trace, .quit⟩], v, .quit pair pairs trace htrace, ?_,
        by simpa [Visit.counted, PairEnd.error?] using hcount⟩
      simp [syncPairs, Prog.bind_run, hp, PairEnd.result, Except.mapError, Visit.log, PairEnd.error?]
    | done =>
      obtain ⟨visits, w', hvisits, hrun, hcount'⟩ := syncPairs_run pairs v
      refine ⟨⟨pair, trace, .done⟩ :: visits, w', .next pair pairs trace .done visits htrace nofun hvisits, ?_, ?_⟩
      · simp [syncPairs, Prog.bind_run, hp, PairEnd.result, Except.mapError, hrun, Visit.log, PairEnd.error?]
      · rw [hcount', hcount]
        simp [Visit.counted, PairEnd.error?, UInt32.add_assoc]
    | failed e =>
      obtain ⟨visits, w', hvisits, hrun, hcount'⟩ := syncPairs_run pairs { v with errorCount := v.errorCount + 1 }
      refine ⟨⟨pair, trace, .failed e⟩ :: visits, w', .next pair pairs trace _ visits htrace nofun hvisits, ?_, ?_⟩
      · simp [syncPairs, Prog.bind_run, hp, PairEnd.result, Except.mapError, Stop.context, hrun, Visit.log, PairEnd.error?]
      · rw [hcount', hcount]
        simp [Visit.counted, PairEnd.error?, UInt32.add_assoc]

/-- What `sync` does and returns: only the number of errors that it has counted decides whether it fails. -/
theorem sync_run (pairs : List (NamedPair S)) (w : World σ) : ∃ visits,
    Visits env dryRun interactive pairs visits ∧
      (sync env pairs dryRun interactive w).log = visits.flatMap Visit.log ∧
      ((∃ e, (sync env pairs dryRun interactive w).result = .error e) ↔
        ¬ 2 ^ 32 ∣ (visits.map Visit.counted).sum) := by
  obtain ⟨visits, counted, hvisits, hrun, hcount⟩ := syncPairs_run env dryRun interactive pairs ⟨w, 0⟩
  have hcheck : checkErrors (S := S) counted =
      ⟨if 0 < counted.errorCount then .error (.err [s!"{counted.errorCount} sync operations failed"]) else .ok (),
        counted, []⟩ := by
    by_cases h : 0 < counted.errorCount <;> simp [checkErrors, Prog.bind_run, h]
  have hsync : sync env pairs dryRun interactive w = ⟨(checkErrors (S := S) counted).result, counted.world,
    visits.flatMap Visit.log⟩ := by
    simp [sync, withCounter, Prog.bind_run, hrun, hcheck]
  have hzero : counted.errorCount = 0 ↔ 2 ^ 32 ∣ (visits.map Visit.counted).sum := by
    rw [hcount, UInt32.zero_add, UInt32.ofNat_eq_iff_mod_eq_toNat, Nat.dvd_iff_mod_eq_zero]
    rfl
  rw [hsync, hcheck]
  refine ⟨visits, hvisits, rfl, ?_⟩
  rw [← hzero]
  by_cases h : 0 < counted.errorCount <;> simp_all [UInt32.pos_iff_ne_zero]

end Loop

/-! ## What a run shows -/

def SyncEvent.collection? : SyncEvent S → Option (List PlanItem)
  | .collected _ operations => some operations
  | _ => none

/-- An attempt to open the status database for writing, and its error. -/
def SyncEvent.opening? : SyncEvent S → Option (Option Error)
  | .opened _ e => some e
  | _ => none

def SyncEvent.execution? : SyncEvent S → Option (List PlanItem)
  | .executed _ operations _ => some operations
  | _ => none

def TermEvent.answer? : TermEvent → Option YesNoQuit
  | .answered answer => some answer
  | _ => none

def SyncEvent.answer? : SyncEvent S → Option YesNoQuit
  | .term event => event.answer?
  | _ => none

def SyncEvent.line? : SyncEvent S → Option String
  | .term event => event.line?
  | _ => none

/-- How the lines that were read answer a prompt. -/
def Visit.Answered (visit : Visit S) (answer : YesNoQuit) : Prop :=
  AnsweredBy answer (visit.trace.filterMap SyncEvent.line?)

section Shows

variable (env : PlanOutside σ S D) (dryRun interactive : Bool)

/-- What is opened is the status database of the pair, and what is executed is handed to the executor with that database and
the storages of the pair. -/
structure Executes (pair : NamedPair S) (trace : List (SyncEvent S)) : Prop where
  opened : ∀ path e, .opened path (some e) ∈ trace → path = pair.statusPath ∧ ∃ s, (env.openOrCreate path s).1 = .error e
  executed : ∀ pair' operations outcome, .executed pair' operations outcome ∈ trace → pair' = pair ∧
    ∃ s s' status, env.openOrCreate pair.statusPath s = (.ok status, s') ∧
      (env.execute pair.inner.storageA pair.inner.storageB operations status s').1 = outcome

/-- What a visit does with a pair whose plan was created. -/
structure Planned (plan operations : List PlanItem) (visit : Visit S) : Prop where
  created : Creates env visit.pair (.ok plan)
  resolved : Resolves env visit.pair plan operations
  /-- All of it is shown before anything else happens. -/
  shown : ∃ blocks rest, List.Forall₂ Shows operations blocks ∧
    visit.trace = [.planned visit.pair (.ok plan)] ++
      ([TermEvent.print s!">> Storage: {visit.pair.name}"] ++ blocks.flatten ++ summary (operationsOf operations)).map .term ++
      [.collected visit.pair operations] ++ rest
  collected : visit.trace.filterMap SyncEvent.collection? = [operations]
  opened : visit.trace.filterMap SyncEvent.opening? ≠ [] ↔ dryRun = false ∧ (interactive = true → visit.Answered .yes)
  openedOnce : (visit.trace.filterMap SyncEvent.opening?).length ≤ 1
  executed : visit.trace.filterMap SyncEvent.execution? =
    if visit.trace.filterMap SyncEvent.opening? = [none] then [operations] else []
  executes : Executes env visit.pair visit.trace

/-- What a visit does: the plan cannot be created, or what is to be done with it is done. -/
inductive Visited (visit : Visit S) : Prop
  | unplanned (e : Error) : Creates env visit.pair (.error e) → visit.trace = [.planned visit.pair (.error e)] →
      Visited visit
  | planned (plan operations : List PlanItem) : Planned env dryRun interactive plan operations visit → Visited visit

/-- **What the trace of `sync` is to be**: the pairs are visited in their order, and all of them unless the user quits. -/
structure Traced (pairs : List (NamedPair S)) (visits : List (Visit S)) (trace : List (SyncEvent S)) : Prop where
  trace_eq : trace = visits.flatMap Visit.log
  inOrder : visits.map Visit.pair <+: pairs
  all : (∀ visit ∈ visits, ¬ visit.Answered .quit) → visits.map Visit.pair = pairs
  quitLast : ∀ visit ∈ visits.dropLast, ¬ visit.Answered .quit
  visited : ∀ visit ∈ visits, PairTrace env dryRun interactive visit.pair visit.trace visit.ended ∧
    Visited env dryRun interactive visit

variable {env dryRun interactive}

theorem PromptTrace.answers {msg : String} {log : List TermEvent} {r : Except Stop YesNoQuit} (h : PromptTrace msg log r) :
    log.filterMap TermEvent.answer? = r.toOption.toList := by
  induction h with
  | flushErr e | readErr e | answered line answer h => rfl
  | again line log r h _ ih => exact ih

theorem ConfirmTrace.answers {pair : NamedPair S} {log : List TermEvent} {r : Except Stop (Option Bool)}
    (h : ConfirmTrace interactive pair log r) :
    r = .ok none ↔ (interactive = true → log.filterMap TermEvent.answer? = [.yes]) := by
  cases h with
  | unasked hi => simp [hi]
  | failed log e hi h | yes log hi h => simp [hi, h.answers, Except.toOption]
  | no log hi h | quit log hi h => simp [hi, h.answers, Except.toOption, List.filterMap_cons, TermEvent.answer?]

/-- The user is asked, and says yes, if and only if the lines that are read say so. -/
theorem ConfirmTrace.yes_iff {pair : NamedPair S} {log : List TermEvent} {r : Except Stop (Option Bool)}
    (h : ConfirmTrace interactive pair log r) :
    r = .ok none ↔ (interactive = true → AnsweredBy .yes (log.filterMap TermEvent.line?)) := by
  cases h with
  | unasked hi => simp [hi]
  | failed log e hi h | yes log hi h => simp [hi, ← h.lines_iff]
  | no log hi h | quit log hi h => simp [hi, ← h.lines_iff, List.filterMap_cons, TermEvent.line?]

theorem ConfirmTrace.quit_iff {pair : NamedPair S} {log : List TermEvent} {r : Except Stop (Option Bool)}
    (h : ConfirmTrace interactive pair log r) :
    r = .ok (some false) ↔ AnsweredBy .quit (log.filterMap TermEvent.line?) := by
  cases h with
  | unasked => simp [not_answeredBy_nil]
  | failed log e _ h | yes log _ h => simp [← h.lines_iff]
  | no log _ h | quit log _ h => simp [← h.lines_iff, List.filterMap_cons, TermEvent.line?]

theorem planShown_quiet {α : Type} {f : TermEvent → Option α} (hprint : ∀ text, f (.print text) = none)
    (herror : ∀ message e, f (.error message e) = none) (name : String) (plan : List PlanItem) :
    (planShown name plan).filterMap f = [] := by
  rw [List.filterMap_eq_nil_iff]
  intro event he
  obtain ⟨text, rfl⟩ | ⟨message, e, rfl⟩ := planShown_shown name plan event he
  · exact hprint text
  · exact herror message e

theorem planShown_lines (name : String) (plan : List PlanItem) : (planShown name plan).filterMap TermEvent.line? = [] :=
  planShown_quiet (fun _ => rfl) (fun _ _ => rfl) name plan

theorem planShown_answers (name : String) (plan : List PlanItem) :
    (planShown name plan).filterMap TermEvent.answer? = [] :=
  planShown_quiet (fun _ => rfl) (fun _ _ => rfl) name plan

section Terms

variable (event : TermEvent)

@[simp] theorem term_answer : (SyncEvent.term event : SyncEvent S).answer? = event.answer? := rfl

@[simp] theorem term_line : (SyncEvent.term event : SyncEvent S).line? = event.line? := rfl

@[simp] theorem term_collection : (SyncEvent.term event : SyncEvent S).collection? = none := rfl

@[simp] theorem term_opening : (SyncEvent.term event : SyncEvent S).opening? = none := rfl

@[simp] theorem term_execution : (SyncEvent.term event : SyncEvent S).execution? = none := rfl

end Terms

section ShownPair

variable (pair : NamedPair S) (plan : List PlanItem)

@[simp] theorem shownPair_answers : (shownPair env pair plan).filterMap SyncEvent.answer? = [] := by
  simp [shownPair, List.filterMap_cons, SyncEvent.answer?, planShown_answers, Function.comp_def]

@[simp] theorem shownPair_lines : (shownPair env pair plan).filterMap SyncEvent.line? = [] := by
  simp [shownPair, List.filterMap_cons, SyncEvent.line?, planShown_lines, Function.comp_def]

@[simp] theorem shownPair_collections :
    (shownPair env pair plan).filterMap SyncEvent.collection? = [applyConflictResolutionToPlan env pair plan] := by
  simp [shownPair, List.filterMap_cons, SyncEvent.collection?, Function.comp_def]

@[simp] theorem shownPair_openings : (shownPair env pair plan).filterMap SyncEvent.opening? = [] := by
  simp [shownPair, List.filterMap_cons, SyncEvent.opening?, Function.comp_def]

@[simp] theorem shownPair_executions : (shownPair env pair plan).filterMap SyncEvent.execution? = [] := by
  simp [shownPair, List.filterMap_cons, SyncEvent.execution?, Function.comp_def]

variable (env) in
/-- A plan is shown operation by operation. -/
theorem shownPair_eq : ∃ blocks, List.Forall₂ Shows (applyConflictResolutionToPlan env pair plan) blocks ∧
    shownPair env pair plan = [.planned pair (.ok plan)] ++
      ([TermEvent.print s!">> Storage: {pair.name}"] ++ blocks.flatten ++
        summary (operationsOf (applyConflictResolutionToPlan env pair plan))).map .term ++
      [.collected pair (applyConflictResolutionToPlan env pair plan)] := by
  obtain ⟨blocks, hblocks, hshown⟩ := planShown_eq pair.name (applyConflictResolutionToPlan env pair plan)
  exact ⟨blocks, hblocks, by rw [shownPair, hshown]⟩

variable (env) in
/-- Showing a plan opens and executes nothing. -/
theorem executes_shown (log : List TermEvent) : Executes env pair (shownPair env pair plan ++ log.map .term) where
  opened path e hmem := by simp [shownPair] at hmem
  executed pair' operations outcome hmem := by simp [shownPair] at hmem

end ShownPair

/-- A pair that is not executed was not to be. -/
theorem planned_of_unexecuted {pair : NamedPair S} {plan : List PlanItem} {log : List TermEvent} {ended : PairEnd}
    {r : Except Stop (Option Bool)} (hcreates : Creates env pair (.ok plan)) (h : ConfirmTrace interactive pair log r)
    (hr : dryRun = true ∨ r ≠ .ok none) :
    Planned env dryRun interactive plan (applyConflictResolutionToPlan env pair plan)
      ⟨pair, shownPair env pair plan ++ log.map .term, ended⟩ where
  created := hcreates
  resolved := resolves_apply env pair plan
  shown := by
    obtain ⟨blocks, hblocks, hshown⟩ := shownPair_eq env pair plan
    exact ⟨blocks, log.map .term, hblocks, by rw [hshown]⟩
  collected := by simp
  opened := by
    have hr' : ¬ (dryRun = false ∧ r = .ok none) := by
      rintro ⟨rfl, rfl⟩
      simp at hr
    simpa [Visit.Answered, h.yes_iff, Function.comp_def] using hr'
  openedOnce := by simp [Function.comp_def]
  executed := by simp [Function.comp_def]
  executes := executes_shown env pair plan log

section ExecTrace

variable {pair : NamedPair S} {operations : List PlanItem} {trace : List (SyncEvent S)} {ended : PairEnd}

theorem ExecTrace.lines (h : ExecTrace env pair operations trace ended) : trace.filterMap SyncEvent.line? = [] := by
  cases h with
  | openFailed e => rfl
  | executed status s outcome => simp [List.filterMap_cons, SyncEvent.line?, TermEvent.line?, Function.comp_def]

theorem ExecTrace.executes (h : ExecTrace env pair operations trace ended) : Executes env pair trace := by
  cases h with
  | openFailed e hopen =>
    refine ⟨fun path e' hmem => ?_, fun pair' operations outcome hmem => by simp at hmem⟩
    obtain ⟨rfl, rfl⟩ : path = pair.statusPath ∧ e' = e := by simpa using hmem
    exact ⟨rfl, hopen⟩
  | executed status s outcome hopen hexec =>
    refine ⟨fun path e' hmem => by simp at hmem, fun pair' operations' outcome' hmem => ?_⟩
    obtain ⟨rfl, rfl, rfl⟩ : pair' = pair ∧ operations' = operations ∧ outcome' = outcome := by simpa using hmem
    obtain ⟨s', hopen⟩ := hopen
    exact ⟨rfl, s', s, status, hopen, hexec⟩

theorem ExecTrace.collections (h : ExecTrace env pair operations trace ended) :
    trace.filterMap SyncEvent.collection? = [] := by
  cases h with
  | openFailed e => rfl
  | executed status s outcome => simp [List.filterMap_cons, SyncEvent.collection?, Function.comp_def]

/-- The status database is opened once, and the executor runs if that succeeds. -/
theorem ExecTrace.opened (h : ExecTrace env pair operations trace ended) :
    ∃ e, trace.filterMap SyncEvent.opening? = [e] ∧
      trace.filterMap SyncEvent.execution? = if e = none then [operations] else [] := by
  cases h with
  | openFailed e => exact ⟨some e, rfl, rfl⟩
  | executed status s outcome =>
    exact ⟨none, by simp [List.filterMap_cons, SyncEvent.opening?, Function.comp_def],
      by simp [List.filterMap_cons, SyncEvent.execution?, Function.comp_def]⟩

theorem ExecTrace.ended_ne_quit (h : ExecTrace env pair operations trace ended) : ended ≠ .quit := by
  cases h with
  | openFailed e => nofun
  | executed status s outcome =>
    obtain ⟨errors, e | e | ⟨⟩⟩ := outcome <;> nofun

end ExecTrace

/-- A pair that is executed is to be. -/
theorem planned_of_executed {pair : NamedPair S} {plan : List PlanItem} {log : List TermEvent} {trace : List (SyncEvent S)}
    {ended : PairEnd} (hcreates : Creates env pair (.ok plan)) (h : ConfirmTrace interactive pair log (.ok none))
    (hd : dryRun = false) (ht : ExecTrace env pair (applyConflictResolutionToPlan env pair plan) trace ended) :
    Planned env dryRun interactive plan (applyConflictResolutionToPlan env pair plan)
      ⟨pair, shownPair env pair plan ++ log.map .term ++ trace, ended⟩ := by
  have hyes := h.yes_iff.mp rfl
  have hshows := executes_shown env pair plan log
  obtain ⟨e, hopened, hexecuted⟩ := ht.opened
  obtain ⟨blocks, hblocks, hshown⟩ := shownPair_eq env pair plan
  exact {
    created := hcreates
    resolved := resolves_apply env pair plan
    shown := ⟨blocks, log.map .term ++ trace, hblocks, by rw [hshown]; simp⟩
    collected := by simp [ht.collections, Function.comp_def]
    opened := by simpa [Visit.Answered, hopened, ht.lines, hd, Function.comp_def] using hyes
    openedOnce := by simp [hopened, Function.comp_def]
    executed := by simp [hopened, hexecuted, Function.comp_def]
    executes :=
      ⟨fun path e hmem => (List.mem_append.mp hmem).elim (hshows.opened path e) (ht.executes.opened path e),
        fun pair' operations outcome hmem => (List.mem_append.mp hmem).elim (hshows.executed pair' operations outcome)
          (ht.executes.executed pair' operations outcome)⟩ }

theorem PairTrace.visited {pair : NamedPair S} {trace : List (SyncEvent S)} {ended : PairEnd}
    (h : PairTrace env dryRun interactive pair trace ended) : Visited env dryRun interactive ⟨pair, trace, ended⟩ := by
  cases h with
  | planFailed e hcreates => exact .unplanned e hcreates rfl
  | promptFailed plan log e hcreates h => exact .planned plan _ (planned_of_unexecuted hcreates h (.inr nofun))
  | declined plan log go hcreates h => exact .planned plan _ (planned_of_unexecuted hcreates h (.inr nofun))
  | dryRun plan log hcreates hd h => exact .planned plan _ (planned_of_unexecuted hcreates h (.inl hd))
  | executed plan log trace ended hcreates hd h ht => exact .planned plan _ (planned_of_executed hcreates h hd ht)

/-- A visit ends in `quit` if and only if the user answered so. -/
theorem PairTrace.quit_iff {pair : NamedPair S} {trace : List (SyncEvent S)} {ended : PairEnd}
    (h : PairTrace env dryRun interactive pair trace ended) :
    ended = .quit ↔ AnsweredBy .quit (trace.filterMap SyncEvent.line?) := by
  cases h with
  | planFailed e => exact iff_of_false nofun (not_answeredBy_nil .quit)
  | promptFailed plan log e _ h => simpa [Function.comp_def] using h.quit_iff
  | declined plan log go _ h => cases go <;> simpa [Function.comp_def] using h.quit_iff
  | dryRun plan log _ _ h => simpa [Function.comp_def] using h.quit_iff
  | executed plan log trace ended _ _ h ht => simpa [Function.comp_def, ht.lines, ht.ended_ne_quit] using h.quit_iff

end Shows

section Visits

variable {env : PlanOutside σ S D} {dryRun interactive : Bool} {pairs : List (NamedPair S)} {visits : List (Visit S)}

theorem Visits.prefix (h : Visits env dryRun interactive pairs visits) : visits.map Visit.pair <+: pairs := by
  induction h with
  | done => exact List.prefix_rfl
  | quit pair pairs trace _ => exact ⟨pairs, rfl⟩
  | next pair pairs trace ended visits _ _ _ ih => simpa using ih

/-- Only the user keeps the loop from visiting the pairs that are left. -/
theorem Visits.all (h : Visits env dryRun interactive pairs visits) (hquit : ∀ visit ∈ visits, visit.ended ≠ .quit) :
    visits.map Visit.pair = pairs := by
  induction h with
  | done => rfl
  | quit pair pairs trace _ => exact absurd rfl (hquit _ (List.mem_singleton_self _))
  | next pair pairs trace ended visits _ _ _ ih =>
    rw [List.map_cons, ih fun visit hv => hquit visit (List.mem_cons_of_mem _ hv)]

theorem Visits.quit_last (h : Visits env dryRun interactive pairs visits) :
    ∀ visit ∈ visits.dropLast, visit.ended ≠ .quit := by
  induction h with
  | done | quit => simp
  | next pair pairs trace ended visits _ hended hv ih =>
    cases visits with
    | nil => simp
    | cons visit visits =>
      rw [List.dropLast_cons_cons]
      exact List.forall_mem_cons.mpr ⟨hended, ih⟩

theorem Visits.trace (h : Visits env dryRun interactive pairs visits) :
    ∀ visit ∈ visits, PairTrace env dryRun interactive visit.pair visit.trace visit.ended := by
  induction h with
  | done => simp
  | quit pair pairs trace ht => simpa using ht
  | next pair pairs trace ended visits ht _ _ ih => exact List.forall_mem_cons.mpr ⟨ht, ih⟩

end Visits

/-- **The trace of `sync`.** -/
theorem sync_trace (env : PlanOutside σ S D) (dryRun interactive : Bool) (pairs : List (NamedPair S)) (w : World σ) :
    ∃ visits, Traced env dryRun interactive pairs visits (sync env pairs dryRun interactive w).log := by
  obtain ⟨visits, hvisits, hlog, -⟩ := sync_run env dryRun interactive pairs w
  have hquit : ∀ visit ∈ visits, visit.ended = .quit ↔ visit.Answered .quit :=
    fun visit hv => (hvisits.trace visit hv).quit_iff
  exact ⟨visits, {
    trace_eq := hlog
    inOrder := hvisits.prefix
    all := fun h => hvisits.all fun visit hv => (hquit visit hv).not.mpr (h visit hv)
    quitLast := fun visit hv => (hquit visit (List.dropLast_subset _ hv)).not.mp (hvisits.quit_last visit hv)
    visited := fun visit hv => ⟨hvisits.trace visit hv, (hvisits.trace visit hv).visited⟩ }⟩

/-! ### Two pairs -/

/-- What is left of a conflict when one side is kept. -/
def keptColour : PlanItem := .ok (.property ⟨.colour, ⟨"cards", "cards", "cards"⟩, "write red to B", none⟩)

/-- A property is in conflict, and a collection cannot be listed. -/
def colourPlan : List PlanItem :=
  [.ok (.flushStaleMappings ["1", "2"]),
    .ok (.property ⟨.colour, ⟨"cards", "cards", "cards"⟩, "conflict", some ("red", "blue")⟩), .error ["listing items"]]

/-- The executor reports an error. -/
def coloured : PlanOutside Unit Side Unit where
  openStatus _ s := (.ok none, s)
  openOrCreate _ s := (.ok (), s)
  newPlan _ _ s := (.ok colourPlan, s)
  keepSide _ plan := plan.set 1 keptColour
  execute _ _ _ _ s := (⟨[["listing items"]], .ok (.ok ())⟩, s)

def colouredPair (name : String) (resolution : Option ConflictResolution) : NamedPair Side :=
  ⟨name, ⟨.a, .b, [], none, none, .twoWaySync⟩, "/status/" ++ name, resolution, ("a", "b"), (0, 0)⟩

/-- A user who hesitates, consents to the first plan, and quits at the second: nothing is done for the third. -/
def hesitating : World Unit := ⟨[.read "maybe\n", .read "Y\n", .read "q\n"], ()⟩

/-- What is printed. -/
def SyncEvent.printed? : SyncEvent S → Option String
  | .term (.print text) => some text
  | _ => none

theorem sync_trace_coloured :
    let pairs := [colouredPair "one" (some .keepA), colouredPair "two" none, colouredPair "three" none]
    let trace := (sync coloured pairs false true hesitating).log
    (∃ visits, Traced coloured false true pairs visits trace) ∧
      trace.filterMap SyncEvent.collection? = [colourPlan.set 1 keptColour, colourPlan] ∧
      trace.filterMap SyncEvent.execution? = [colourPlan.set 1 keptColour] ∧
      trace.filterMap SyncEvent.printed? =
        [">> Storage: one", "-> Property colour: write red to B",
          "0 collection operations, 0 item operations, 1 property operations", "0 conflicts detected",
          "2 stale mappings to flush", "", "Execute plan? (Y)es, (N)o, or (Q)uit? ",
          "Execute plan? (Y)es, (N)o, or (Q)uit? ", ">> Storage: two", "-> Property colour: conflict",
          "0 collection operations, 0 item operations, 1 property operations", "1 conflicts detected",
          "2 stale mappings to flush", "", "Execute plan? (Y)es, (N)o, or (Q)uit? ", "Sync cancelled."] :=
  ⟨sync_trace coloured false true _ hesitating, by decide +kernel, by decide +kernel, by decide +kernel⟩

end Pimsync
