import Pimsync.SyncTrace

/-!
# The errors of `sync`

`SyncEvent.IsError` are the errors of a run, and `counted` is how many of them `error_count` is told of. An `Err` item of a
plan is only logged while the plan is shown: it is counted if the executor gets to see it.

- `PairTrace.isError_iff`, `PairTrace.counted_of_executed`: the errors of one pair, and those that are counted;
- `sync_fails_iff`: when a run fails if and only if there was an error;
- `dry_run_succeeds`: a dry run succeeds, whatever is wrong with the plan.
-/

namespace Pimsync

variable {σ S D : Type}

/-! ## Errors -/

def ExecOutcome.Failed (outcome : ExecOutcome) : Prop := outcome.reported ≠ [] ∨ outcome.result ≠ .ok (.ok ())

/-- The executor reports an `Err` item that it is given, to its callback or by its result. -/
def PlanOutside.ReportsErrors (env : PlanOutside σ S D) : Prop :=
  ∀ a b operations status s, (∃ e, Except.error e ∈ operations) → (env.execute a b operations status s).1.Failed

/-- A prompt that fails. -/
def TermEvent.IsError : TermEvent → Prop
  | .turn (.flushErr _) | .turn (.readErr _) => True
  | _ => False

/-- An error of a run. -/
def SyncEvent.IsError : SyncEvent S → Prop
  | .term event => event.IsError
  | .planned _ (.error _) => True
  | .collected _ operations => ∃ e, .error e ∈ operations
  | .opened _ (some _) => True
  | .executed _ _ outcome => outcome.Failed
  | _ => False

/-- The errors that `error_count` is told of. -/
def counted (visits : List (Visit S)) : ℕ := (visits.map Visit.counted).sum

/-! ## The errors of a pair -/

section Pair

variable {env : PlanOutside σ S D} {dryRun interactive : Bool} {pair : NamedPair S}

theorem itemShown_isError (item : PlanItem) : ∀ event ∈ itemShown item, ¬ event.IsError := by
  unfold itemShown
  split
  case h_3 op => split <;> simp [TermEvent.IsError]
  all_goals simp [TermEvent.IsError]

theorem planShown_isError (name : String) (plan : List PlanItem) : ∀ event ∈ planShown name plan, ¬ event.IsError := by
  intro event h
  simp only [planShown, List.mem_append, List.mem_singleton, List.mem_flatMap] at h
  obtain (rfl | ⟨item, -, h⟩) | h := h
  · exact id
  · exact itemShown_isError item event h
  · simp only [PlanCounts.shown, List.mem_cons, List.not_mem_nil, or_false] at h
    obtain rfl | rfl | rfl | rfl := h <;> exact id

theorem shownPair_isError (plan : List PlanItem) : (∃ event ∈ shownPair env pair plan, event.IsError) ↔
    ∃ e, Except.error e ∈ applyConflictResolutionToPlan env pair plan := by
  have hshown := planShown_isError pair.name (applyConflictResolutionToPlan env pair plan)
  simp only [shownPair, List.mem_append, List.mem_singleton, List.mem_map]
  constructor
  · rintro ⟨event, (rfl | ⟨event, h, rfl⟩) | rfl, he⟩
    · cases he
    · exact absurd he (hshown event h)
    · exact he
  · exact fun h => ⟨_, .inr rfl, h⟩

theorem PromptTrace.isError_iff {msg : String} {log : List TermEvent} {r : Except Stop YesNoQuit}
    (h : PromptTrace msg log r) : (∃ event ∈ log, event.IsError) ↔ ∃ stop, r = .error stop := by
  induction h with
  | flushErr e | readErr e | answered line answer _ => simp [asked, TermEvent.IsError]
  | again line log r _ _ ih => simpa [asked, TermEvent.IsError] using ih

theorem ConfirmTrace.isError_iff {log : List TermEvent} {r : Except Stop (Option Bool)}
    (h : ConfirmTrace interactive pair log r) : (∃ event ∈ log, event.IsError) ↔ ∃ stop, r = .error stop := by
  cases h with
  | unasked => simp
  | failed log e _ h | yes log _ h => rw [h.isError_iff]; simp
  | no log _ h | quit log _ h =>
    have hlog := h.isError_iff.not.mpr (by simp)
    simpa [TermEvent.IsError] using hlog

/-- The errors of the executor are counted. -/
theorem ExecTrace.isError_iff {operations : List PlanItem} {trace : List (SyncEvent S)} {ended : PairEnd}
    (h : ExecTrace env pair operations trace ended) :
    (∃ event ∈ trace, event.IsError) ↔ (⟨pair, trace, ended⟩ : Visit S).counted ≠ 0 := by
  cases h with
  | openFailed e => simp [SyncEvent.IsError, Visit.counted, PairEnd.error?]
  | executed status s outcome =>
    rw [Visit.counted, executed_reported]
    obtain ⟨errors, e | e | ⟨⟩⟩ := outcome <;>
      simp [SyncEvent.IsError, ExecOutcome.Failed, ExecOutcome.ended, PairEnd.error?, TermEvent.IsError]

theorem terms_isError (log : List TermEvent) :
    (∃ event ∈ log.map (SyncEvent.term (S := S)), event.IsError) ↔ ∃ event ∈ log, event.IsError := by
  simp [SyncEvent.IsError]

/-- The errors of a pair that is not executed. -/
theorem ConfirmTrace.pair_isError_iff {plan : List PlanItem} {log : List TermEvent} {r : Except Stop (Option Bool)}
    {ended : PairEnd} (h : ConfirmTrace interactive pair log r) (hr : (∃ stop, r = .error stop) ↔ ∃ e, ended = .failed e) :
    (∃ event ∈ shownPair env pair plan ++ log.map .term, event.IsError) ↔
      (⟨pair, shownPair env pair plan ++ log.map .term, ended⟩ : Visit S).counted ≠ 0 ∨
        ∃ operations ∈ (shownPair env pair plan ++ log.map SyncEvent.term).filterMap SyncEvent.collection?,
          ∃ e, Except.error e ∈ operations := by
  have hcounted : (⟨pair, shownPair env pair plan ++ log.map .term, ended⟩ : Visit S).counted ≠ 0 ↔
      ∃ e, ended = .failed e := by
    cases ended <;> simp [Visit.counted, shownPair_reported, PairEnd.error?]
  rw [hcounted, ← hr, ← h.isError_iff, ← terms_isError (S := S)]
  simp only [List.mem_append, or_and_right, exists_or, shownPair_isError, List.filterMap_append, shownPair_collections,
    List.mem_singleton, exists_eq_left]
  simp [or_comm]

/-- **The errors of a pair**: those that are counted, and those of its plan. -/
theorem PairTrace.isError_iff {trace : List (SyncEvent S)} {ended : PairEnd}
    (h : PairTrace env dryRun interactive pair trace ended) : (∃ event ∈ trace, event.IsError) ↔
      (⟨pair, trace, ended⟩ : Visit S).counted ≠ 0 ∨
        ∃ operations ∈ trace.filterMap SyncEvent.collection?, ∃ e, Except.error e ∈ operations := by
  cases h with
  | planFailed e => simp [SyncEvent.IsError, Visit.counted, PairEnd.error?]
  | promptFailed plan log e _ h =>
    refine h.pair_isError_iff ?_
    simp
  | declined plan log go _ h =>
    refine h.pair_isError_iff ?_
    cases go <;> simp
  | dryRun plan log _ _ h =>
    refine h.pair_isError_iff ?_
    simp
  | executed plan log trace ended _ _ h ht =>
    have hcounted : (⟨pair, shownPair env pair plan ++ log.map .term ++ trace, ended⟩ : Visit S).counted =
        (⟨pair, trace, ended⟩ : Visit S).counted := by
      simp [Visit.counted, shownPair_reported]
    have hlog := h.isError_iff.not.mpr (by simp)
    rw [hcounted, ← ht.isError_iff]
    simp only [List.mem_append, or_and_right, exists_or, shownPair_isError, List.filterMap_append, shownPair_collections,
      terms_isError, hlog, ht.collections]
    simp [or_comm]

/-- An `Err` item is counted if its plan is to be executed. -/
theorem PairTrace.counted_of_executed (henv : env.ReportsErrors) {trace : List (SyncEvent S)} {ended : PairEnd}
    (h : PairTrace env dryRun interactive pair trace ended) {operations : List PlanItem} {e : Error}
    (ho : operations ∈ trace.filterMap SyncEvent.collection?) (he : .error e ∈ operations) (hd : dryRun = false)
    (hi : interactive = true → trace.filterMap SyncEvent.answer? = [.yes]) :
    (⟨pair, trace, ended⟩ : Visit S).counted ≠ 0 := by
  cases h with
  | planFailed e => simp [Visit.counted, PairEnd.error?]
  | promptFailed plan log e _ h => simp [Visit.counted, PairEnd.error?]
  | declined plan log go _ h =>
    have hanswers := h.answers.mpr (by simpa [Function.comp_def] using hi)
    cases hanswers
  | dryRun plan log _ ht h => simp [ht] at hd
  | executed plan log trace ended _ _ h ht =>
    obtain rfl : operations = applyConflictResolutionToPlan env pair plan := by
      simpa [ht.collections, Function.comp_def] using ho
    have hcounted : (⟨pair, trace, ended⟩ : Visit S).counted ≠ 0 := by
      rw [← ht.isError_iff]
      cases ht with
      | openFailed e => exact ⟨_, List.mem_singleton_self _, trivial⟩
      | executed status s outcome _ houtcome =>
        exact ⟨.executed pair (applyConflictResolutionToPlan env pair plan) outcome,
          by simp, houtcome ▸ henv _ _ _ status s ⟨e, he⟩⟩
    simpa [Visit.counted, shownPair_reported] using hcounted

end Pair

/-! ## The errors of a run -/

section Run

variable {env : PlanOutside σ S D} {dryRun interactive : Bool}

theorem Visit.log_isError (visit : Visit S) : (∃ event ∈ visit.log, event.IsError) ↔
    ∃ event ∈ visit.trace, event.IsError := by
  simp [Visit.log, or_and_right, exists_or, SyncEvent.IsError, TermEvent.IsError]

theorem counted_eq_zero {visits : List (Visit S)} : counted visits = 0 ↔ ∀ visit ∈ visits, visit.counted = 0 := by
  simp [counted, List.sum_eq_zero_iff_forall_eq_nat]

/-- The errors of a run. -/
theorem Visits.isError_iff {pairs : List (NamedPair S)} {visits : List (Visit S)}
    (h : Visits env dryRun interactive pairs visits) : (∃ event ∈ visits.flatMap Visit.log, event.IsError) ↔
      counted visits ≠ 0 ∨ ∃ visit ∈ visits, ∃ operations ∈ visit.trace.filterMap SyncEvent.collection?,
        ∃ e, Except.error e ∈ operations := by
  have hvisit : (∃ event ∈ visits.flatMap Visit.log, event.IsError) ↔ ∃ visit ∈ visits, visit.counted ≠ 0 ∨
      ∃ operations ∈ visit.trace.filterMap SyncEvent.collection?, ∃ e, Except.error e ∈ operations := by
    simp only [List.mem_flatMap]
    constructor
    · rintro ⟨event, ⟨visit, hv, hevent⟩, he⟩
      exact ⟨visit, hv, (h.trace visit hv).isError_iff.mp (visit.log_isError.mp ⟨event, hevent, he⟩)⟩
    · rintro ⟨visit, hv, he⟩
      obtain ⟨event, hevent, he⟩ := visit.log_isError.mpr ((h.trace visit hv).isError_iff.mpr he)
      exact ⟨event, ⟨visit, hv, hevent⟩, he⟩
  rw [hvisit, ne_eq, counted_eq_zero]
  simp only [and_or_left, exists_or, not_forall, exists_prop]

/-- **When `sync` fails if and only if there was an error**: the errors that are counted are not a multiple of `2 ^ 32`,
unless there are none; and then every plan with an `Err` item is to be executed. -/
theorem sync_fails_iff (henv : env.ReportsErrors) (pairs : List (NamedPair S)) (w : World σ) :
    ∃ visits : List (Visit S), Visits env dryRun interactive pairs visits ∧
      (sync env pairs dryRun interactive w).log = visits.flatMap Visit.log ∧
      (((∃ e, (sync env pairs dryRun interactive w).result = .error e) ↔
          ∃ event ∈ (sync env pairs dryRun interactive w).log, event.IsError) ↔
        (2 ^ 32 ∣ counted visits → counted visits = 0) ∧
          (counted visits = 0 → ∀ visit ∈ visits, ∀ operations ∈ visit.trace.filterMap SyncEvent.collection?,
            (∃ e, Except.error e ∈ operations) →
              dryRun = false ∧ (interactive = true → visit.trace.filterMap SyncEvent.answer? = [.yes]))) := by
  obtain ⟨visits, hvisits, hlog, hresult⟩ := sync_run env dryRun interactive pairs w
  refine ⟨visits, hvisits, hlog, ?_⟩
  rw [hresult, hlog, hvisits.isError_iff, ← counted]
  -- An `Err` item of a plan that is to be executed would have been counted.
  have hbad : counted visits = 0 → ((∀ visit ∈ visits, ∀ operations ∈ visit.trace.filterMap SyncEvent.collection?,
      (∃ e, Except.error e ∈ operations) →
        dryRun = false ∧ (interactive = true → visit.trace.filterMap SyncEvent.answer? = [.yes])) ↔
      ¬ ∃ visit ∈ visits, ∃ operations ∈ visit.trace.filterMap SyncEvent.collection?, ∃ e, Except.error e ∈ operations) := by
    intro hzero
    constructor
    · rintro hall ⟨visit, hv, operations, ho, e, he⟩
      obtain ⟨hd, hi⟩ := hall visit hv operations ho ⟨e, he⟩
      exact (hvisits.trace visit hv).counted_of_executed henv ho he hd hi (counted_eq_zero.mp hzero visit hv)
    · exact fun hnone visit hv operations ho he => absurd ⟨visit, hv, operations, ho, he⟩ hnone
  rw [imp_congr_right hbad]
  generalize (∃ visit ∈ visits, ∃ operations ∈ visit.trace.filterMap SyncEvent.collection?,
    ∃ e, Except.error e ∈ operations) = bad
  by_cases hzero : counted visits = 0 <;> simp [hzero]

end Run

/-- A collection cannot be listed, and the executor reports what it cannot do. -/
def failingListing : PlanOutside Unit Unit Unit where
  openStatus _ s := (.ok none, s)
  openOrCreate _ s := (.ok (), s)
  newPlan _ _ s := (.ok [.error ["listing items"]], s)
  keepSide _ plan := plan
  execute _ _ operations _ s := (⟨operations.filterMap fun | .error e => some e | .ok _ => none, .ok (.ok ())⟩, s)

theorem failingListing_reports : failingListing.ReportsErrors := by
  rintro a b operations status s ⟨e, he⟩
  exact .inl (List.ne_nil_of_mem (List.mem_filterMap.mpr ⟨.error e, he, rfl⟩))

def localPair : NamedPair Unit := ⟨"local", ⟨(), (), [], none, none, .twoWaySync⟩, "/status/local", none, ("a", "b"), (0, 0)⟩

theorem sync_fails_failingListing : failingListing.ReportsErrors ∧ ∃ visits : List (Visit Unit),
    Visits failingListing false false [localPair] visits ∧
      (sync failingListing [localPair] false false ⟨[], ()⟩).log = visits.flatMap Visit.log ∧
      (((∃ e, (sync failingListing [localPair] false false ⟨[], ()⟩).result = .error e) ↔
          ∃ event ∈ (sync failingListing [localPair] false false ⟨[], ()⟩).log, event.IsError) ↔
        (2 ^ 32 ∣ counted visits → counted visits = 0) ∧
          (counted visits = 0 → ∀ visit ∈ visits, ∀ operations ∈ visit.trace.filterMap SyncEvent.collection?,
            (∃ e, Except.error e ∈ operations) →
              false = false ∧ (false = true → visit.trace.filterMap SyncEvent.answer? = [.yes]))) :=
  ⟨failingListing_reports, sync_fails_iff failingListing_reports [localPair] ⟨[], ()⟩⟩

/-- **A dry run succeeds**, although the plan has an error. -/
theorem dry_run_succeeds : failingListing.ReportsErrors ∧
    ¬ ((∃ e, (sync failingListing [localPair] true false ⟨[], ()⟩).result = .error e) ↔
      ∃ event ∈ (sync failingListing [localPair] true false ⟨[], ()⟩).log, event.IsError) := by
  have hlog : (sync failingListing [localPair] true false ⟨[], ()⟩).log =
      shownPair failingListing localPair [.error ["listing items"]] := rfl
  refine ⟨failingListing_reports, fun h => ?_⟩
  rw [hlog, shownPair_isError] at h
  obtain ⟨e, he⟩ := h.mpr ⟨["listing items"], List.mem_singleton_self _⟩
  cases he

end Pimsync
