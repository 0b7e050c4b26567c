import Pimsync.Daemon
import Pimsync.SyncErrors

/-!
# Changes and failures in the daemon

- `Seen`, `run_seen`: a change has been planned for, or there is an event for it, or one was just taken;
- `daemon_misses_nothing`: when the daemon waits, every change was planned for;
- `Retried`, `run_retried`: after a failure an event is due, if one is due whenever an attempt fails;
- `daemon_retries`: exactly then the daemon does not rest after a failure; `daemon_rests_after_failure`: it does.
-/

namespace Pimsync

variable {σ S D : Type} {env : PlanOutside σ S D} {pair : NamedPair S}

/-! ## Events -/

section Queue

variable {pending : Side → Option ℕ} {side other : Side} {events n : ℕ}

/-- No event goes when others come. -/
theorem queue_due (h : pending side = some (n + 1)) : ∃ n, queue pending other events side = some (n + 1) := by
  by_cases hs : side = other
  · subst hs
    exact ⟨n + events, by simp [queue, h]; omega⟩
  · exact ⟨n, by rw [queue, Function.update_of_ne hs, h]⟩

/-- A monitor that is there holds an event after one has come. -/
theorem queue_new (h : pending side ≠ none) (hevents : 0 < events) : ∃ n, queue pending side events side = some (n + 1) := by
  obtain ⟨m, hm⟩ := Option.ne_none_iff_exists'.mp h
  exact ⟨m + events - 1, by simp [queue, hm]; omega⟩

theorem queue_ne_none : queue pending other events side ≠ none ↔ pending side ≠ none := by
  by_cases hs : side = other
  · subst hs
    simp [queue]
  · rw [queue, Function.update_of_ne hs]

/-- What is updated stays there. -/
theorem update_ne_none {held : Option ℕ} (hheld : side = other → held ≠ none) (h : pending side ≠ none ∨ other = side) :
    Function.update pending other held side ≠ none := by
  by_cases hs : side = other
  · subst hs
    simpa using hheld rfl
  · rw [Function.update_of_ne hs]
    exact h.resolve_right fun h => hs h.symm

end Queue

/-! ## No change is missed -/

/-- What a monitor does: it queues an event for every change, and loses none. -/
def Observed (_ : DaemonState) : DaemonLabel → Prop
  | .change _ events => 0 < events
  | .took _ lost => lost = 0
  | _ => True

/-- A change on a side, after which `post` happened, has been or will be planned for. -/
def DaemonState.Covered (s : DaemonState) (side : Side) (post : List DaemonLabel) : Prop :=
  .plan ∈ post ∨ (∃ n, s.pending side = some (n + 1)) ∨ s.pc = .woken

/-- The invariant of changes. -/
structure Seen (tr : List DaemonLabel) (s : DaemonState) : Prop where
  covered : ∀ pre side events post, tr = pre ++ .change side events :: post → .monitor side ∈ pre → s.Covered side post
  /-- A monitor is there once it was created. -/
  created : ∀ side, .monitor side ∈ tr → s.pending side ≠ none
  fresh : s.pc = .monitorA → .monitor .a ∉ tr
  fresh' : s.pc = .monitorA ∨ s.pc = .monitorB → .monitor .b ∉ tr

theorem DaemonState.Covered.step {s s' : DaemonState} {label : DaemonLabel} {side : Side} {post : List DaemonLabel}
    (h : s.Covered side post) (hok : Observed s label) (hs : (daemon env pair).step s label s')
    (hmonitor : label ≠ .monitor side) : s'.Covered side (post ++ [label]) := by
  obtain hplan | ⟨n, hn⟩ | hwoken := h
  · exact .inl (List.mem_append_left _ hplan)
  · refine .inr ?_
    cases hs with
    | change | event => exact .inl (queue_due hn)
    | monitorA | monitorB =>
      have hne : side ≠ _ := fun h => hmonitor (h ▸ rfl)
      exact .inl ⟨n, (Function.update_of_ne hne ..).trans hn⟩
    | took => exact .inr rfl
    | monitorAFailed | monitorBFailed | opened | openFailed | plan | planned | planFailed | reported | executed | execFailed
      | statusFailed => exact .inl ⟨n, hn⟩
  · cases hs with
    | change | event => exact .inr (.inr hwoken)
    | plan => exact .inl (by simp)
    | monitorA | monitorB | monitorAFailed | monitorBFailed | opened | openFailed | took | planned | planFailed | reported
      | executed | execFailed | statusFailed => cases hwoken

/-- A monitor stays once it is there. -/
theorem created_step {s s' : DaemonState} {label : DaemonLabel} (hs : (daemon env pair).step s label s') (side : Side)
    (h : s.pending side ≠ none ∨ label = .monitor side) : s'.pending side ≠ none := by
  cases hs with
  | change | event => exact queue_ne_none.mpr (h.resolve_right nofun)
  | monitorA | monitorB => exact update_ne_none (fun _ => nofun) (h.imp id fun hl => by cases hl; rfl)
  | took pending taken events lost htaken =>
    have hside := h.resolve_right nofun
    refine update_ne_none (fun hother => ?_) (.inl (update_ne_none (fun _ => nofun) (.inl hside)))
    rw [← hother]
    simpa using hside
  | monitorAFailed | monitorBFailed | opened | openFailed | plan | planned | planFailed | reported | executed | execFailed
    | statusFailed => exact h.resolve_right nofun

theorem seen_step {tr : List DaemonLabel} {s s' : DaemonState} {label : DaemonLabel} (h : Seen tr s) (hok : Observed s label)
    (hs : (daemon env pair).step s label s') : Seen (tr ++ [label]) s' where
  covered pre side events post hsplit hcreated := by
    obtain rfl | ⟨post, last, rfl⟩ := List.eq_nil_or_concat' post
    · obtain ⟨rfl, hlabel⟩ := List.append_inj' hsplit rfl
      obtain rfl : label = .change side events := by simpa using hlabel
      cases hs with
      | change => exact .inr (.inl (queue_new (h.created side hcreated) hok))
    · obtain ⟨rfl, hlabel⟩ := List.append_inj'
        (hsplit.trans (by simp : _ = (pre ++ .change side events :: post) ++ [last])) rfl
      obtain rfl : label = last := by simpa using hlabel
      refine (h.covered pre side events post rfl hcreated).step hok hs fun hmonitor => ?_
      subst hmonitor
      have hmem := List.mem_append_left (.change side events :: post) hcreated
      cases hs with
      | monitorA => exact h.fresh rfl hmem
      | monitorB => exact h.fresh' (.inr rfl) hmem
  created side hmem := by
    refine created_step hs side ((List.mem_append.mp hmem).imp (h.created side) fun hl => ?_)
    exact (List.mem_singleton.mp hl).symm
  fresh hpc := by
    cases hs with
    | change | event => simpa using h.fresh hpc
    | _ => cases hpc
  fresh' hpc := by
    cases hs with
    | change | event => simpa using h.fresh' hpc
    | monitorA => simpa using h.fresh' (.inl rfl)
    | _ => simp at hpc

/-- The invariant of changes holds in every run in which the monitors do their part. -/
theorem run_seen {tr : List DaemonLabel} {s : DaemonState}
    (hr : (daemon env pair).RunWith Observed .initial tr s) : Seen tr s := by
  refine hr.history (I := Seen) ⟨fun pre side events post h => ?_, by simp, by simp, by simp⟩
    fun tr t label u h hok hs => seen_step h hok hs
  simp at h

/-- **No change is missed**: when the daemon waits, every change that a monitor could see was followed by a plan. -/
theorem daemon_misses_nothing (env : PlanOutside σ S D) (pair : NamedPair S) {tr : List DaemonLabel} {s : DaemonState}
    (hr : (daemon env pair).RunWith Observed .initial tr s) (hwaiting : s.Waiting) :
    ∀ pre side events post, tr = pre ++ .change side events :: post → .monitor side ∈ pre → .plan ∈ post := by
  intro pre side events post hsplit hcreated
  obtain hplan | ⟨n, hn⟩ | hwoken := (run_seen hr).covered pre side events post hsplit hcreated
  · exact hplan
  · exact absurd ⟨side, n, hn⟩ hwaiting.2
  · rw [hwaiting.1] at hwoken
    cases hwoken

/-- Events of A that a monitor holds, while that of B holds none. -/
def held (events : ℕ) : Side → Option ℕ
  | .a => some events
  | .b => some 0

theorem held_zero_waiting : DaemonState.Waiting ⟨.select, held 0⟩ := by
  refine ⟨rfl, ?_⟩
  rintro ⟨side, n, h⟩
  cases side with
  | a | b => simp [held] at h

/-- A change of A that is seen at once and planned for, with events to spare. -/
def firstPlan (events : ℕ) : List DaemonLabel :=
  [.monitor .a, .monitor .b, .opened, .change .a (events + 1), .took .a 0, .plan]

theorem firstPlan_run (env : PlanOutside σ S D) (pair : NamedPair S) (events : ℕ) {ok : DaemonState → DaemonLabel → Prop}
    (hok : ∀ label ∈ firstPlan events, ∀ s, ok s label) :
    (daemon env pair).RunWith ok .initial (firstPlan events) ⟨.planning, held events⟩ := by
  have hheld : ∀ pending : Side → Option ℕ, pending .a = some events → pending .b = some 0 →
      (daemon env pair).RunWith ok ⟨.planning, pending⟩ [] ⟨.planning, held events⟩ := by
    intro pending ha hb
    have h : pending = held events := by
      funext side
      cases side with
      | a => exact ha
      | b => exact hb
    exact h ▸ .nil _
  refine .cons (hok _ (by simp [firstPlan]) _) (.monitorA _) ?_
  refine .cons (hok _ (by simp [firstPlan]) _) (.monitorB _) ?_
  refine .cons (hok _ (by simp [firstPlan]) _) (.opened _) ?_
  refine .cons (hok _ (by simp [firstPlan]) _) (.change _ .a (events + 1)) ?_
  refine .cons (hok _ (by simp [firstPlan]) _) (.took _ .a events 0 (by simp [queue])) ?_
  refine .cons (hok _ (by simp [firstPlan]) _) (.plan _) ?_
  exact hheld _ (by simp [Side.other]) (by simp [queue, Side.other])

/-- A change, and a plan that fails. -/
def failedAttempt : List DaemonLabel := firstPlan 0 ++ [.planFailed ["timeout"]]

theorem failedAttempt_run (env : PlanOutside σ S D) (pair : NamedPair S) {ok : DaemonState → DaemonLabel → Prop}
    (hok : ∀ label ∈ failedAttempt, ∀ s, ok s label) :
    (daemon env pair).RunWith ok .initial failedAttempt ⟨.select, held 0⟩ :=
  .snoc (firstPlan_run env pair 0 fun label hlabel => hok label (List.mem_append_left _ hlabel))
    (hok _ (by simp [failedAttempt]) _) (.planFailed _ _)

theorem daemon_misses_nothing_failedAttempt : ∃ pre post, .monitor .a ∈ pre ∧
    failedAttempt = pre ++ .change .a 1 :: post ∧ .plan ∈ post := by
  have hrun : (daemon failingListing localPair).RunWith Observed .initial failedAttempt ⟨.select, held 0⟩ :=
    failedAttempt_run _ _ (by simp [failedAttempt, firstPlan, Observed])
  have hcreated : .monitor .a ∈ [DaemonLabel.monitor .a, .monitor .b, .opened] := by simp
  exact ⟨_, [.took .a 0, .plan, .planFailed ["timeout"]], hcreated, rfl,
    daemon_misses_nothing failingListing localPair hrun held_zero_waiting _ _ _ _ rfl hcreated⟩

/-! ## Failures -/

/-- An attempt ends in an error that is not fatal. -/
def DaemonState.Fails (s : DaemonState) : DaemonLabel → Prop
  | .planFailed _ | .execFailed _ => True
  | .executed => ∃ operations reported, s.pc = .executing operations reported ∧ reported ≠ []
  | _ => False

/-- When an attempt fails, an event is due. -/
def Retried (s : DaemonState) (label : DaemonLabel) : Prop := s.Fails label → s.Due

theorem lastFailed_snoc (tr : List DaemonLabel) (label : DaemonLabel) : lastFailed (tr ++ [label]) =
    match label with
    | .plan => false
    | .planFailed _ | .reported _ | .execFailed _ => true
    | _ => lastFailed tr := by
  rw [lastFailed, List.foldl_append]
  rfl

/-- What the daemon knows of the last attempt. -/
def Reported (tr : List DaemonLabel) (s : DaemonState) : Prop :=
  match s.pc with
  | .monitorA | .monitorB | .openStatus | .planning => lastFailed tr = false
  | .executing _ reported => lastFailed tr = true ↔ reported ≠ []
  | .select | .woken | .ended _ => True

theorem reported_step {tr : List DaemonLabel} {s s' : DaemonState} {label : DaemonLabel} (h : Reported tr s)
    (hs : (daemon env pair).step s label s') : Reported (tr ++ [label]) s' := by
  cases hs with
  | change | event =>
    unfold Reported at h ⊢
    simpa only [lastFailed_snoc] using h
  | monitorA | monitorB => simpa only [Reported, lastFailed_snoc] using h
  | plan => simp only [Reported, lastFailed_snoc]
  | planned =>
    have hfailed : lastFailed tr = false := h
    simp [Reported, lastFailed_snoc, hfailed]
  | reported => simp [Reported, lastFailed_snoc]
  | opened | planFailed | executed | execFailed | monitorAFailed | monitorBFailed | openFailed | statusFailed | took => trivial

theorem run_reported {tr : List DaemonLabel} {s : DaemonState} (hr : (daemon env pair).Run .initial tr s) : Reported tr s :=
  hr.history (I := Reported) rfl fun _ _ _ _ h _ hs => reported_step h hs

/-- The invariant of failures. -/
structure AfterFailure (tr : List DaemonLabel) (s : DaemonState) : Prop where
  reported : Reported tr s
  due : s.pc = .select → lastFailed tr = true → s.Due

theorem Due.queue {s : DaemonState} (h : s.Due) (side : Side) (events : ℕ) :
    DaemonState.Due { s with pending := queue s.pending side events } := by
  obtain ⟨held, n, hn⟩ := h
  exact ⟨held, queue_due hn⟩

theorem afterFailure_step {tr : List DaemonLabel} {s s' : DaemonState} {label : DaemonLabel} (h : AfterFailure tr s)
    (hs : (daemon env pair).step s label s') (hok : Retried s label) : AfterFailure (tr ++ [label]) s' where
  reported := reported_step h.reported hs
  due hpc hfailed := by
    rw [lastFailed_snoc] at hfailed
    cases hs with
    | change _ side events => exact Due.queue (h.due hpc hfailed) side events
    | event _ side => exact Due.queue (h.due hpc hfailed) side 1
    | opened =>
      have hno : lastFailed tr = false := h.reported
      cases hno.symm.trans hfailed
    | planFailed | execFailed => exact hok trivial
    | executed _ operations reported => exact hok ⟨operations, reported, rfl, (h.reported : _ ↔ _).mp hfailed⟩
    | _ => cases hpc

/-- The invariant of failures holds in every run in which an event is due when an attempt fails. -/
theorem run_retried {tr : List DaemonLabel} {s : DaemonState} (hr : (daemon env pair).RunWith Retried .initial tr s) :
    AfterFailure tr s :=
  hr.history (I := AfterFailure) ⟨rfl, nofun⟩ fun _ _ _ _ h hok hs => afterFailure_step h hs hok

/-- **Failed work is retried** as long as an event is due whenever an attempt fails; otherwise the daemon rests. -/
theorem daemon_retries (env : PlanOutside σ S D) (pair : NamedPair S) (tr : List DaemonLabel) (s : DaemonState) :
    ((daemon env pair).RunWith Retried .initial tr s → s.Waiting → lastFailed tr = false) ∧
      ((daemon env pair).Run .initial tr s → ∀ label s', ¬ Retried s label → (daemon env pair).step s label s' →
        s'.Waiting ∧ lastFailed (tr ++ [label]) = true) := by
  constructor
  · intro hr hwaiting
    exact Bool.eq_false_iff.mpr fun hfailed => hwaiting.2 ((run_retried hr).due hwaiting.1 hfailed)
  · intro hr label s' hretried hs
    obtain ⟨hfails, hdue⟩ := Classical.not_imp.mp hretried
    rw [lastFailed_snoc]
    cases hs with
    | planFailed | execFailed => exact ⟨⟨rfl, hdue⟩, rfl⟩
    | executed =>
      obtain ⟨_, _, hpc, hne⟩ := hfails
      cases hpc
      exact ⟨⟨rfl, hdue⟩, (run_reported hr : _ ↔ _).mpr hne⟩
    | _ => exact hfails.elim

/-- Two events of one change: the second brings the next attempt. -/
def secondAttempt : List DaemonLabel :=
  firstPlan 1 ++ [.planFailed ["timeout"], .took .a 0, .plan, .planned [], .executed]

theorem secondAttempt_run (env : PlanOutside σ S D) (pair : NamedPair S) :
    (daemon env pair).RunWith Retried .initial secondAttempt ⟨.select, held 0⟩ := by
  have hheld : Function.update (Function.update (held 1) .a (some 0)) Side.b ((held 1 .b).map (· - 0)) = held 0 := by
    funext side
    cases side with
    | a | b => rfl
  refine (firstPlan_run env pair 1 (by simp [firstPlan, Retried, DaemonState.Fails])).append ?_
  refine .cons (fun _ => ⟨.a, 0, rfl⟩) (.planFailed _ _) ?_
  refine .cons nofun (.took _ .a 0 0 rfl) ?_
  refine .cons nofun (.plan _) ?_
  refine .cons nofun (.planned _ []) ?_
  rw [show Side.a.other = Side.b from rfl, hheld]
  exact .single (fun ⟨_, _, hpc, hne⟩ => by cases hpc; exact absurd rfl hne) (.executed _ _ _)

theorem daemon_retries_secondAttempt : lastFailed secondAttempt = false ∧
    (DaemonState.Waiting ⟨.select, held 0⟩ ∧ lastFailed failedAttempt = true) :=
  ⟨(daemon_retries failingListing localPair _ _).1 (secondAttempt_run _ _) held_zero_waiting,
    (daemon_retries failingListing localPair _ _).2 (firstPlan_run _ _ 0 (by simp)) _ _
      (fun h => held_zero_waiting.2 (h trivial)) (.planFailed _ _)⟩

/-- **A daemon rests after a failure**: a plan fails, and no event is due. -/
theorem daemon_rests_after_failure : ¬ ∀ tr s, (daemon failingListing localPair).RunWith
    (fun _ label => ∀ side, label ≠ .event side) .initial tr s → ¬ (s.Waiting ∧ lastFailed tr = true) := by
  intro h
  exact h failedAttempt _ (failedAttempt_run _ _ (by simp [failedAttempt, firstPlan])) ⟨held_zero_waiting, rfl⟩

end Pimsync
