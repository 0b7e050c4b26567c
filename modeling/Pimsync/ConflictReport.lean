import Pimsync.ConflictIsolation

/-!
# What a resolution reports

A resolution ends with a report: that no conflicts are left, or that there were none. It makes the first after the rounds
of a plan's conflicts unless an item is quit or something fails, whatever became of the conflicts and of the plan's errors.

- `Offer.round_emits`: a round reports nothing;
- `reports_iff`: when a resolution makes its reports;
- `interactiveResolution_truthful_iff`: when they are true.
-/

namespace Pimsync

variable {σ S D : Type}

/-! ## Reports -/

/-- The two reports start with `No`, and nothing else that a resolution says of a plan does. -/
def ResolveEvent.reports : ResolveEvent → Bool
  | .term (.print text) | .term (.info text) => text.toList.take 2 == ['N', 'o']
  | _ => false

/-- What is said in the middle of a resolution. -/
def ResolveEvent.Dull (event : ResolveEvent) : Prop := event.reports = false

theorem toString_string (s : String) : toString s = s := rfl

section Emits

variable {α : Type}

theorem emits_outside {ε E : Type} {P : ε → Prop} (f : σ → α × σ) : (Prog.outside f : Prog (World σ) ε E α).Emits P :=
  fun _ _ h => by simp at h

theorem emits_setTurns {ε E : Type} {P : ε → Prop} (turns : List Turn) :
    (Prog.setTurns turns : Prog (World σ) ε E Unit).Emits P := fun _ _ h => by simp at h

/-- A prompt says its question, and what its answers say. -/
theorem promptLoop_emits {ε : Type} {P : ε → Prop} {term : TermEvent → ε} {msg : String}
    {response : String → Prog (World σ) ε Stop (Option α)} (hmsg : P (term (.print msg)))
    (hturn : ∀ turn, P (term (.turn turn))) (hresponse : ∀ line, (response line).Emits P) (turns : List Turn) :
    (promptLoop term msg response turns).Emits P := by
  induction turns with
  | nil =>
    refine (Prog.emits_emit hmsg).bind fun _ => (Prog.emits_emit (hturn _)).bind fun _ => (hresponse _).bind fun answer => ?_
    cases answer with
    | none => exact Prog.emits_fail _
    | some answer => exact Prog.emits_pure _
  | cons turn turns ih =>
    refine (Prog.emits_emit hmsg).bind fun _ => (emits_setTurns _).bind fun _ => (Prog.emits_emit (hturn _)).bind fun _ => ?_
    cases turn with
    | flushErr e | readErr e => exact Prog.emits_fail _
    | read line =>
      refine (hresponse _).bind fun answer => ?_
      cases answer with
      | none => exact ih
      | some answer => exact Prog.emits_pure _

end Emits

section Rounds

variable (out : ResolveOutside σ S) (rawCmd : RawCommand) (pair : NamedPair S)

theorem continueSkipOrQuit_emits : (Prog.mapLog .term (continueSkipOrQuit "Resolve it manually?") :
    Prog (World σ) ResolveEvent Stop YesNoQuit).Emits ResolveEvent.Dull := by
  refine Prog.Emits.mapLog fun w => ?_
  refine Prog.Emits.bind (promptLoop_emits ?_ (fun turn => rfl) (fun line => Prog.emits_pure _) w.turns) (fun answer => ?_) w
  · simp [ResolveEvent.Dull, ResolveEvent.reports, toString_string]
  · exact Prog.Emits.bind (Prog.emits_emit rfl) fun _ => Prog.emits_pure _

theorem writeToTempFile_emits (data : String) : (writeToTempFile out data).Emits ResolveEvent.Dull :=
  (emits_outside _).bind fun _ => (Prog.emits_lift _).bind fun _ => Prog.emits_lift _

theorem runMergeCommand_emits (a b : String) : (runMergeCommand out rawCmd a b).Emits ResolveEvent.Dull := by
  refine (emits_outside _).bind fun run => Prog.Emits.bind (Prog.Emits.attempt fun w event he => ?_) fun result => ?_
  · rw [mergeResult_emits run w event he]
    rfl
  · exact Prog.Emits.bind (Prog.emits_emit rfl) fun _ => Prog.emits_lift _

theorem uploadBoth_emits {tasks : Side → Option (Prog (World σ) ResolveEvent Stop (Except Error Unit))}
    (h : ∀ side task, tasks side = some task → task.Emits ResolveEvent.Dull) :
    (uploadBoth out tasks).Emits ResolveEvent.Dull := by
  have htask : ∀ side, ((tasks side).getD (return .ok ())).Emits ResolveEvent.Dull := by
    intro side
    cases ht : tasks side with
    | none => exact Prog.emits_pure _
    | some task => exact h side task ht
  refine (emits_outside _).bind fun first => (htask _).bind fun result => (htask _).bind fun other => ?_
  exact (Prog.emits_lift _).bind fun _ => Prog.emits_lift _

theorem uploadResolvedItem_emits (ref : Side → ItemVersion) (orig : Side → Item) (new : Item) :
    (uploadResolvedItem out pair ref orig new).Emits ResolveEvent.Dull := by
  refine uploadBoth_emits out fun side task htask => ?_
  split at htask <;> cases htask
  refine (emits_outside _).bind fun result => ?_
  exact Prog.Emits.bind (Prog.emits_emit rfl) fun _ => Prog.emits_pure _

theorem uploadResolvedProperty_emits (property : Property) (mapping : ResolvedMapping) (orig : Side → String)
    (value : String) : (uploadResolvedProperty out pair property mapping orig value).Emits ResolveEvent.Dull := by
  refine uploadBoth_emits out fun side task htask => ?_
  split at htask <;> cases htask
  refine (emits_outside _).bind fun result => ?_
  exact Prog.Emits.bind (Prog.emits_emit rfl) fun _ => Prog.emits_pure _

theorem mergeItem_emits (info : ConflictInfo) : (mergeItem out pair rawCmd info).Emits ResolveEvent.Dull := by
  refine Prog.Emits.bind (Prog.emits_emit ?_) fun _ => ?_
  · simp [ResolveEvent.Dull, ResolveEvent.reports, toString_string]
  refine ((writeToTempFile_emits out _).mapError _ |>.mapError _).bind fun _ => ?_
  refine ((writeToTempFile_emits out _).mapError _ |>.mapError _).bind fun _ => ?_
  refine (runMergeCommand_emits out rawCmd _ _).attempt.bind fun merged => ?_
  cases merged with
  | error e => exact Prog.emits_emit rfl
  | ok data =>
    refine (uploadResolvedItem_emits out pair _ _ _).bind fun _ => Prog.emits_emit ?_
    simp [ResolveEvent.Dull, ResolveEvent.reports, toString_string]

theorem resolveItem_emits (total i : ℕ) (info : ConflictInfo) :
    (resolveItem out pair rawCmd total i info).Emits ResolveEvent.Dull := by
  refine Prog.Emits.bind (Prog.emits_emit ?_) fun _ => continueSkipOrQuit_emits.bind fun answer => ?_
  · simp [ResolveEvent.Dull, ResolveEvent.reports, toString_string]
  cases answer with
  | yes => exact (mergeItem_emits out rawCmd pair info).bind fun _ => Prog.emits_pure _
  | no => exact Prog.emits_pure _
  | quit =>
    refine Prog.Emits.bind (Prog.emits_emit ?_) fun _ => Prog.emits_pure _
    simp [ResolveEvent.Dull, ResolveEvent.reports, toString_string]

theorem chooseResponse_emits (valueA valueB line : String) :
    (chooseResponse out rawCmd valueA valueB line).Emits ResolveEvent.Dull := by
  by_cases he : toLowercase (trim line) = "e"
  · unfold chooseResponse
    rw [he]
    refine ((writeToTempFile_emits out _).mapError _).bind fun _ => ?_
    refine ((writeToTempFile_emits out _).mapError _).bind fun _ => ?_
    refine (runMergeCommand_emits out rawCmd _ _).attempt.bind fun merged => ?_
    cases merged with
    | ok value => exact Prog.emits_pure _
    | error e => exact Prog.Emits.bind (Prog.emits_emit rfl) fun _ => Prog.emits_pure _
  · intro w event hmem
    rw [chooseResponse_known out rawCmd valueA valueB he] at hmem
    cases hmem

theorem resolveTo_emits (conflict : PropertyConflict) (value : String) :
    (resolveTo out pair conflict value).Emits ResolveEvent.Dull := by
  refine Prog.Emits.bind (Prog.emits_emit ?_) fun _ => ?_
  · simp [ResolveEvent.Dull, ResolveEvent.reports, toString_string]
  · exact (uploadResolvedProperty_emits out pair _ _ _ _).bind fun _ => Prog.emits_pure _

theorem choosePropertyValue_emits (valueA valueB : String) :
    (choosePropertyValue out valueA valueB rawCmd).Emits ResolveEvent.Dull := by
  intro w
  refine Prog.Emits.bind (promptLoop_emits (by simp [ResolveEvent.Dull, ResolveEvent.reports]) (fun turn => rfl)
    (fun line => chooseResponse_emits out rawCmd valueA valueB line) w.turns) (fun choice => ?_) w
  exact Prog.Emits.bind (Prog.emits_emit rfl) fun _ => Prog.emits_pure _

theorem resolveProperty_emits (total i : ℕ) (conflict : PropertyConflict) :
    (resolveProperty out pair rawCmd total i conflict).Emits ResolveEvent.Dull := by
  refine Prog.Emits.bind (Prog.emits_emitAll ?_) fun _ =>
    (choosePropertyValue_emits out rawCmd conflict.valueA conflict.valueB).bind fun choice => ?_
  · simp [ResolveEvent.Dull, ResolveEvent.reports, toString_string]
  cases choice with
  | a | b | custom => exact resolveTo_emits out pair conflict _
  | skip => exact Prog.emits_pure _
  | quit =>
    refine Prog.Emits.bind (Prog.emits_emit ?_) fun _ => Prog.emits_pure _
    simp [ResolveEvent.Dull, ResolveEvent.reports, toString_string]

/-- **A round reports nothing.** -/
theorem Offer.round_emits (offer : Offer) : (offer.round out rawCmd pair).Emits ResolveEvent.Dull := by
  obtain ⟨info | conflict, total, i⟩ := offer
  · exact resolveItem_emits out rawCmd pair total i info
  · exact resolveProperty_emits out rawCmd pair total i conflict

end Rounds

/-! ## Runs -/

section Runs

variable {out : ResolveOutside σ S} {env : PlanOutside σ S D} {pair : NamedPair S} {rawCmd : RawCommand} {w w' : World σ}
  {plan : List PlanItem} {log : List ResolveEvent}

theorem noneLeft_reports (pair : NamedPair S) : (noneLeft pair).reports = true := by
  simp [noneLeft, ResolveEvent.reports, toString_string]

theorem noneToResolve_reports (pair : NamedPair S) : (noneToResolve pair).reports = true := by
  simp [noneToResolve, ResolveEvent.reports, toString_string]

/-- What is done before the conflicts of a plan are resolved. -/
theorem planConflicts_dull (hplan : planConflicts env pair w = ⟨.ok plan, w', log⟩) : ∀ event ∈ log, event.Dull := by
  obtain ⟨e, w'', hrun⟩ | ⟨plan', w'', hrun⟩ := planConflicts_run env pair w <;> rw [hplan] at hrun <;> cases hrun
  intro event he
  rcases List.mem_cons.mp he with rfl | he
  · rfl
  · obtain ⟨item, -, hitem⟩ := List.mem_filterMap.mp he
    rcases item with e | operation <;> cases hitem
    rfl

theorem reached_dull (offers : List Offer) (w : World σ) : ∀ event ∈ (reached out rawCmd pair offers w).flatMap
    (fun at_ => (at_.1.round out rawCmd pair at_.2).log), event.Dull := by
  intro event he
  obtain ⟨at_, -, he⟩ := List.mem_flatMap.mp he
  exact at_.1.round_emits out rawCmd pair at_.2 event he

theorem not_mem_of_dull {report : ResolveEvent} {events : List ResolveEvent} (hreport : report.reports = true)
    (hdull : ∀ event ∈ events, event.Dull) : report ∉ events := by
  intro hmem
  have hnot : report.reports = false := hdull report hmem
  rw [hreport] at hnot
  cases hnot

variable (out) in
/-- **The reports of a resolution**: that there were no conflicts if the plan has none, and that none are left if it has some
and no round keeps the resolution from saying so. -/
theorem reports_iff (hcmd : pair.conflictResolution = some (.cmd rawCmd))
    (hplan : planConflicts env pair w = ⟨.ok plan, w', log⟩) :
    (noneToResolve pair ∈ (interactiveResolution out env pair w).log ↔ offersOf plan = []) ∧
      (noneLeft pair ∈ (interactiveResolution out env pair w).log ↔
        offersOf plan ≠ [] ∧ anyCuts out rawCmd pair (reached out rawCmd pair (offersOf plan) w') = false) := by
  have hlog : ∀ report, ResolveEvent.reports report = true → report ∉ log := fun report hreport =>
    not_mem_of_dull hreport (planConflicts_dull hplan)
  have hne : noneLeft pair ≠ noneToResolve pair := by simp [noneLeft, noneToResolve]
  rw [interactiveResolution_log hcmd hplan]
  by_cases hnil : offersOf plan = []
  · rw [resolvePlan_nil out rawCmd pair hnil]
    simp [hlog _ (noneLeft_reports pair), hnil, hne]
  · have hrounds : ∀ report, ResolveEvent.reports report = true → report ∉
        (reached out rawCmd pair (offersOf plan) w').flatMap fun at_ => (at_.1.round out rawCmd pair at_.2).log :=
      fun report hreport => not_mem_of_dull hreport (reached_dull _ _)
    have hresolving : (resolving pair plan).reports = false := by
      simp [resolving, ResolveEvent.reports, toString_string]
    have hhead : ∀ report, ResolveEvent.reports report = true → report ≠ resolving pair plan := by
      intro report hreport heq
      rw [heq, hresolving] at hreport
      cases hreport
    rw [resolvePlan_log out rawCmd pair hnil]
    simp only [List.mem_append, List.mem_singleton, hlog _ (noneLeft_reports pair), hlog _ (noneToResolve_reports pair),
      hrounds _ (noneLeft_reports pair), hrounds _ (noneToResolve_reports pair), hhead _ (noneLeft_reports pair),
      hhead _ (noneToResolve_reports pair), hnil, false_or]
    cases anyCuts out rawCmd pair (reached out rawCmd pair (offersOf plan) w') <;> simp [hne.symm, hnil]

/-- Without a plan nothing is reported. -/
theorem interactiveResolution_dull (hnone : ∀ rawCmd plan w' log, pair.conflictResolution = some (.cmd rawCmd) →
    planConflicts env pair w ≠ ⟨.ok plan, w', log⟩) : ∀ event ∈ (interactiveResolution out env pair w).log, event.Dull := by
  intro event he
  unfold interactiveResolution at he
  cases hres : pair.conflictResolution with
  | none =>
    rw [hres] at he
    cases he
  | some resolution =>
    rw [hres] at he
    cases resolution with
    | cmd rawCmd =>
      obtain ⟨e, w', hrun⟩ | ⟨plan, w', hrun⟩ := planConflicts_run env pair w
      · simp only [Prog.bind_run, hrun, List.mem_singleton] at he
        rw [he]
        rfl
      · exact absurd hrun (hnone rawCmd plan w' _ hres)
    | keepA | keepB =>
      simp only [Prog.emit_run, List.mem_singleton] at he
      rw [he]
      simp [ResolveEvent.Dull, ResolveEvent.reports, toString_string]

/-- The reports of a resolution are true: if it says that no conflicts are left, the plan had no errors, and each of its
conflicts was resolved; if it says that there were none, the plan had neither conflicts nor errors. -/
structure Truthful (out : ResolveOutside σ S) (env : PlanOutside σ S D) (pair : NamedPair S) (w : World σ) : Prop where
  left : noneLeft pair ∈ (interactiveResolution out env pair w).log → ∃ rawCmd plan w' log,
    pair.conflictResolution = some (.cmd rawCmd) ∧ planConflicts env pair w = ⟨.ok plan, w', log⟩ ∧
      (∀ e, .error e ∉ plan) ∧
      (∃ items properties, HasConflicts plan items properties ∧ (reached out rawCmd pair (offersOf plan) w').map
        (fun at_ => at_.1.conflict) = items.map .item ++ properties.map .property) ∧
      ∀ at_ ∈ reached out rawCmd pair (offersOf plan) w',
        at_.1.conflict.Resolved out rawCmd (at_.1.round out rawCmd pair at_.2).log
  toResolve : noneToResolve pair ∈ (interactiveResolution out env pair w).log → ∃ plan w' log,
    planConflicts env pair w = ⟨.ok plan, w', log⟩ ∧ (∀ e, .error e ∉ plan) ∧ HasConflicts plan [] []

/-- What makes the reports true: a plan with no conflicts has no errors; if a plan has conflicts, something keeps the
resolution from its last step, or the plan has no errors and each conflict that is offered is resolved. -/
structure Candid (out : ResolveOutside σ S) (rawCmd : RawCommand) (pair : NamedPair S) (plan : List PlanItem)
    (w : World σ) : Prop where
  clean : HasConflicts plan [] [] → ∀ e, .error e ∉ plan
  resolved : ¬ HasConflicts plan [] [] → anyCuts out rawCmd pair (reached out rawCmd pair (offersOf plan) w) = true ∨
    (∀ e, .error e ∉ plan) ∧ ∀ at_ ∈ reached out rawCmd pair (offersOf plan) w,
      at_.1.conflict.outcome out rawCmd pair at_.2 = .resolved

theorem truthful_iff_candid (hcmd : pair.conflictResolution = some (.cmd rawCmd))
    (hplan : planConflicts env pair w = ⟨.ok plan, w', log⟩) :
    Truthful out env pair w ↔ Candid out rawCmd pair plan w' := by
  have hnil : offersOf plan = [] ↔ HasConflicts plan [] [] := by
    rw [← conflictsOf_eq_nil, ← offersOf_conflict, List.map_eq_nil_iff]
  obtain ⟨htoResolve, hleft⟩ := reports_iff out hcmd hplan
  rw [hnil] at htoResolve
  rw [Ne, hnil] at hleft
  have hplan_eq : ∀ {plan₁ w₁ log₁}, planConflicts env pair w = ⟨.ok plan₁, w₁, log₁⟩ → plan₁ = plan ∧ w₁ = w' := by
    intro plan₁ w₁ log₁ h
    rw [hplan] at h
    cases h
    exact ⟨rfl, rfl⟩
  constructor
  · intro h
    refine ⟨fun hnone => ?_, fun hsome => ?_⟩
    · obtain ⟨plan₁, w₁, log₁, hrun, herrors, -⟩ := h.toResolve (htoResolve.mpr hnone)
      obtain ⟨rfl, rfl⟩ := hplan_eq hrun
      exact herrors
    · rcases hcuts : anyCuts out rawCmd pair (reached out rawCmd pair (offersOf plan) w') with _ | _
      · obtain ⟨rawCmd₁, plan₁, w₁, log₁, hcmd₁, hrun, herrors, -, hresolved⟩ := h.left (hleft.mpr ⟨hsome, hcuts⟩)
        obtain ⟨rfl, rfl⟩ := hplan_eq hrun
        obtain rfl : rawCmd₁ = rawCmd := by
          rw [hcmd] at hcmd₁
          cases hcmd₁
          rfl
        exact .inr ⟨herrors, fun at_ hmem => (at_.1.round_outcome out rawCmd₁ pair at_.2).2.mpr (hresolved at_ hmem)⟩
      · exact .inl rfl
  · intro h
    refine ⟨fun hmem => ?_, fun hmem => ?_⟩
    · obtain ⟨hsome, hcuts⟩ := hleft.mp hmem
      obtain hcut | ⟨herrors, hresolved⟩ := h.resolved hsome
      · rw [hcuts] at hcut
        cases hcut
      · have hoffered := (offered_iff out rawCmd pair plan w').mpr fun at_ ht => by
          rw [(at_.1.round_outcome out rawCmd pair at_.2).1.ok_true]
          exact .inl (hresolved at_ (List.mem_of_mem_take ht))
        have hcollected := hasConflicts_collected plan
        exact ⟨rawCmd, plan, w', log, hcmd, hplan, herrors, ⟨_, _, hcollected, hcollected.conflicts ▸ hoffered⟩,
          fun at_ hr => (at_.1.round_outcome out rawCmd pair at_.2).2.mp (hresolved at_ hr)⟩
    · have hnone := htoResolve.mp hmem
      exact ⟨plan, w', log, hplan, h.clean hnone, hnone⟩

/-- **When the reports of a resolution are true.** -/
theorem interactiveResolution_truthful_iff (out : ResolveOutside σ S) (env : PlanOutside σ S D) (pair : NamedPair S)
    (w : World σ) : Truthful out env pair w ↔ ∀ rawCmd plan w' log, pair.conflictResolution = some (.cmd rawCmd) →
      planConflicts env pair w = ⟨.ok plan, w', log⟩ → Candid out rawCmd pair plan w' := by
  constructor
  · intro h rawCmd plan w' log hcmd hplan
    exact (truthful_iff_candid hcmd hplan).mp h
  · intro h
    by_cases hplanned : ∃ rawCmd plan w' log, pair.conflictResolution = some (.cmd rawCmd) ∧
        planConflicts env pair w = ⟨.ok plan, w', log⟩
    · obtain ⟨rawCmd, plan, w', log, hcmd, hplan⟩ := hplanned
      exact (truthful_iff_candid hcmd hplan).mpr (h rawCmd plan w' log hcmd hplan)
    · have hdull : ∀ event ∈ (interactiveResolution out env pair w).log, event.Dull :=
        interactiveResolution_dull fun rawCmd plan w' log hcmd hplan => hplanned ⟨rawCmd, plan, w', log, hcmd, hplan⟩
      exact ⟨fun hmem => absurd hmem (not_mem_of_dull (noneLeft_reports pair) hdull),
        fun hmem => absurd hmem (not_mem_of_dull (noneToResolve_reports pair) hdull)⟩

end Runs

/-- Both conflicts are skipped, and none are said to be left. -/
theorem interactiveResolution_not_truthful :
    ¬ Truthful readOnlyB (planning twoConflicts) mergedPair ⟨[.read "n\n", .read "n\n"], ()⟩ := by
  rw [truthful_iff_candid rfl rfl]
  intro h
  have hsome : ¬ HasConflicts twoConflicts [] [] := conflictsOf_eq_nil.not.mp (by decide)
  obtain hcuts | ⟨-, hresolved⟩ := h.resolved hsome
  · exact absurd hcuts (by decide)
  · exact absurd hresolved (by decide)

end Pimsync
