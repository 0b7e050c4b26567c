import Pimsync.Base.Supervised
import Pimsync.Conflict
import Pimsync.DaemonRuns

/-!
# The daemons of all pairs

`daemon` spawns `NamedPair::daemon` for each pair and returns when none is left. Pairs may share storages: a change of a
storage is seen by every monitor that a pair has for it, on whichever side.

- `daemons_outlive`: the end of one pair's daemon leaves the others running, and `daemon` returns after the last;
- `daemons_miss_nothing`: a pair that waits has planned for every change of its storages, also of those it shares;
- `daemon_plans_le`: a pair is planned no more often than events arrive for it.
-/

namespace Pimsync

open JoinSet

variable {σ S D : Type} [DecidableEq S]

/-! ## `daemon` -/

/-- A storage changes, and each monitor for it queues events: a pair is given by its place in the list. -/
structure StorageChange (S : Type) where
  storage : S
  events : ℕ → Side → ℕ

/-- What the monitors of a pair see of a change. -/
def seenChange (i : ℕ) (pair : NamedPair S) (change : StorageChange S) : List DaemonLabel :=
  ([.a, .b].filter fun side => pair.inner.on side = change.storage).map fun side => .change side (change.events i side)

/-- The tasks of `daemon`. -/
def daemonTasks (env : PlanOutside σ S D) : Tasks (NamedPair S) DaemonState DaemonError DaemonLabel (StorageChange S) where
  lts := daemon env
  start := .initial
  returns s e := s.pc = .ended e
  own label := ∀ side events, label ≠ .change side events
  hears := seenChange

/-- `daemon`. What it logs is what it takes over: the error of a task, or that it panicked. -/
def daemons (env : PlanOutside σ S D) :
    Lts (Supervisor (NamedPair S) DaemonState DaemonError) (SupLabel DaemonError DaemonLabel (StorageChange S)) :=
  supervised (daemonTasks env)

/-- `daemon` has spawned its tasks. -/
def Daemons.initial (env : PlanOutside σ S D) (pairs : List (NamedPair S)) :
    Supervisor (NamedPair S) DaemonState DaemonError := .initial (daemonTasks env) pairs

/-- What one pair has done, and what its monitors have seen. -/
def daemonPart (env : PlanOutside σ S D) (i : ℕ) (pair : NamedPair S)
    (tr : List (SupLabel DaemonError DaemonLabel (StorageChange S))) : List DaemonLabel := parts (daemonTasks env) i pair tr

variable {env : PlanOutside σ S D} {pairs : List (NamedPair S)} {pair : NamedPair S} {i : ℕ}
  {tr : List (SupLabel DaemonError DaemonLabel (StorageChange S))} {s : Supervisor (NamedPair S) DaemonState DaemonError}

theorem daemonPart_append (tr tr' : List (SupLabel DaemonError DaemonLabel (StorageChange S))) :
    daemonPart env i pair (tr ++ tr') = daemonPart env i pair tr ++ daemonPart env i pair tr' := List.flatMap_append

/-- A label of a pair that is no change is one that its own daemon took. -/
theorem mem_daemonPart {label : DaemonLabel} (h : ∀ side events, label ≠ .change side events) :
    label ∈ daemonPart env i pair tr ↔ .own i label ∈ tr := by
  rw [daemonPart, parts, List.mem_flatMap]
  constructor
  · rintro ⟨l, hl, hmem⟩
    cases l with
    | around change =>
      obtain ⟨side, -, rfl⟩ := List.mem_map.mp (show label ∈ seenChange i pair change from hmem)
      exact absurd rfl (h _ _)
    | own j l =>
      have hown : label ∈ if j = i then [l] else [] := hmem
      split at hown
      · next hij =>
        subst hij
        rwa [List.mem_singleton.mp hown]
      · cases hown
    | ended | panicked | joined | returned => cases hmem
  · intro hmem
    exact ⟨_, hmem, by simp [part]⟩

/-! ## The end of the daemons -/

/-- **A pair's daemon outlives the others**: until it has ended itself it runs, as it would alone. `daemon` returns when it
has taken over every task, and waits for nothing but tasks that run. -/
theorem daemons_outlive (hr : (daemons env).Run (Daemons.initial env pairs) tr s) :
    (∀ i pair, pairs[i]? = some pair → ¬ Over i tr → ∃ point, s.tasks[i]? = some (pair, .running point) ∧
      (daemon env pair).Run .initial (daemonPart env i pair tr) point) ∧
    (s.returned = true → ∀ i pair, pairs[i]? = some pair → ∃ outcome, outcomes i tr = [outcome] ∧
      match outcome with
      | some e => ∃ pre post pending, tr = pre ++ .ended i :: post ∧
        (daemon env pair).Run .initial (daemonPart env i pair pre) ⟨.ended e, pending⟩
      | none => .panicked i ∈ tr) ∧
    (s.returned = false → (∀ i < pairs.length, Over i tr) →
      (∃ i outcome s', (daemons env).step s (.joined i outcome) s') ∨ ∃ s', (daemons env).step s .returned s') := by
  refine ⟨fun i pair hi hover => run_running hr hi hover, fun hreturned i pair hi => ?_, supervisor_goes_on hr⟩
  obtain ⟨outcome, houtcomes, hended⟩ := JoinSet.run_returned hr hreturned hi
  refine ⟨outcome, houtcomes, ?_⟩
  cases outcome with
  | none => exact hended
  | some e =>
    obtain ⟨pre, post, ⟨pc, pending⟩, htr, hrun, hpc⟩ := hended
    obtain rfl : pc = .ended e := hpc
    exact ⟨pre, post, pending, htr, hrun⟩

/-! ## Changes of storages -/

/-- What the monitors of all pairs do: they queue an event for every change of their storage, and lose none. -/
def AllObserved (pairs : List (NamedPair S)) : SupLabel DaemonError DaemonLabel (StorageChange S) → Prop
  | .around change => ∀ i pair side, pairs[i]? = some pair → pair.inner.on side = change.storage → 0 < change.events i side
  | .own _ (.took _ lost) => lost = 0
  | _ => True

/-- Monitors that do their part do it for each pair. -/
theorem AllObserved.part (hr : (daemons env).RunWith (fun _ => AllObserved pairs) (Daemons.initial env pairs) tr s)
    (hi : pairs[i]? = some pair) : ∀ label ∈ daemonPart env i pair tr, ∀ s, Observed s label := by
  intro label hmem s
  cases label with
  | change side events =>
    obtain ⟨l, hl, hmem⟩ := List.mem_flatMap.mp hmem
    obtain ⟨_, _, hok, hs⟩ := hr.step_of_mem hl
    cases hs with
    | around _ _ change =>
      obtain ⟨side', hside, heq⟩ := List.mem_map.mp (show _ ∈ seenChange i pair change from hmem)
      cases heq
      exact hok i pair side hi (of_decide_eq_true (List.mem_filter.mp hside).2)
    | own _ j _ _ _ l _ hown =>
      have hpart : DaemonLabel.change side events ∈ if j = i then [l] else [] := hmem
      split at hpart
      · exact absurd (List.mem_singleton.mp hpart).symm (hown side events)
      · cases hpart
    | ended | panicked | joined | returned => cases hmem
  | took side lost =>
    obtain ⟨_, _, hok, -⟩ := hr.step_of_mem ((mem_daemonPart fun _ _ => by simp).mp hmem)
    exact hok
  | _ => trivial

/-- **No change of a storage is missed**, whichever pairs share it: when the daemon of a pair waits, every change of a
storage of that pair that its monitor could see was followed by a plan for the pair. -/
theorem daemons_miss_nothing
    (hr : (daemons env).RunWith (fun _ => AllObserved pairs) (Daemons.initial env pairs) tr s) {point : DaemonState}
    (hi : s.tasks[i]? = some (pair, .running point)) (hwaiting : point.Waiting) :
    ∀ pre change post side, tr = pre ++ .around change :: post → pair.inner.on side = change.storage →
      .own i (.monitor side) ∈ pre → .own i .plan ∈ post := by
  intro pre change post side htr hside hcreated
  have hinv := run_supInv hr.run
  have hname : pairs[i]? = some pair := by rw [← hinv.names, List.getElem?_map, hi]; rfl
  have hseen : Seen (daemonPart env i pair tr) point :=
    run_seen ((hinv.task i pair _ hi).1.runWith Observed (AllObserved.part hr hname))
  -- the change is a part of what the monitors of the pair saw then
  have hmem : .change side (change.events i side) ∈ seenChange i pair change := by
    refine List.mem_map.mpr ⟨side, List.mem_filter.mpr ⟨?_, decide_eq_true hside⟩, rfl⟩
    cases side <;> simp
  obtain ⟨before, after, hsplit⟩ := List.append_of_mem hmem
  have hpart : daemonPart env i pair tr = (daemonPart env i pair pre ++ before) ++
      .change side (change.events i side) :: (after ++ daemonPart env i pair post) := by
    have haround : daemonPart env i pair (.around change :: post) = seenChange i pair change ++ daemonPart env i pair post :=
      List.flatMap_cons
    rw [htr, daemonPart_append, haround, hsplit]
    simp
  have hmonitor : .monitor side ∈ daemonPart env i pair pre ++ before :=
    List.mem_append_left _ ((mem_daemonPart fun _ _ => by simp).mpr hcreated)
  obtain hplan | ⟨n, hn⟩ | hwoken := hseen.covered _ side _ _ hpart hmonitor
  · refine (mem_daemonPart fun _ _ => by simp).mp ((List.mem_append.mp hplan).resolve_left fun hafter => ?_)
    have hafter : .plan ∈ seenChange i pair change := by
      rw [hsplit]
      exact List.mem_append_right _ (List.mem_cons_of_mem _ hafter)
    obtain ⟨_, -, heq⟩ := List.mem_map.mp hafter
    cases heq
  · exact absurd ⟨side, n, hn⟩ hwaiting.2
  · rw [hwaiting.1] at hwoken
    cases hwoken

/-! ## Two pairs that share a storage -/

/-- The pair of a storage and the next one. -/
def nextTo (storage : ℕ) : NamedPair ℕ :=
  ⟨"next", ⟨storage, storage + 1, [], none, none, .twoWaySync⟩, "/status/next", none, ("a", "b"), (0, 0)⟩

def emptyPlans : PlanOutside Unit ℕ Unit where
  openStatus _ s := (.ok none, s)
  openOrCreate _ s := (.ok (), s)
  newPlan _ _ s := (.ok [], s)
  keepSide _ plan := plan
  execute _ _ _ _ s := (⟨[], .ok (.ok ())⟩, s)

/-- The second storage of the first pair, which is the first of the second, changes. -/
def sharedChange : StorageChange ℕ := ⟨1, fun _ _ => 1⟩

def started : List DaemonLabel := [.monitor .a, .monitor .b, .opened]

/-- An event of the second storage is taken and planned for. -/
def attempted : List DaemonLabel := [.took .b 0, .plan, .planned [], .executed]

/-- Both pairs wait, the storage that they share changes, and the first pair plans. -/
def sharedChangeRun : List (SupLabel DaemonError DaemonLabel (StorageChange ℕ)) :=
  started.map (.own 0) ++ started.map (.own 1) ++ [.around sharedChange] ++ attempted.map (.own 0)

theorem started_run {S : Type} (env : PlanOutside σ S D) (pair : NamedPair S) :
    (daemon env pair).Run .initial started ⟨.select, held 0⟩ := by
  have hheld : Function.update (Function.update (fun _ => none) .a (some 0)) Side.b (some 0) = held 0 := by
    funext side
    cases side <;> rfl
  have hrun : (daemon env pair).Run .initial started ⟨.select, _⟩ :=
    .cons (.monitorA _) (.cons (.monitorB _) (.single (.opened _)))
  rwa [hheld] at hrun

theorem attempted_run {S : Type} (env : PlanOutside σ S D) (pair : NamedPair S) :
    (daemon env pair).Run ⟨.select, queue (held 0) .b 1⟩ attempted ⟨.select, held 0⟩ := by
  have hheld : Function.update (Function.update (queue (held 0) .b 1) .b (some 0)) Side.b.other
      ((queue (held 0) .b 1 Side.b.other).map (· - 0)) = held 0 := by
    funext side
    cases side <;> rfl
  have hrun : (daemon env pair).Run ⟨.select, queue (held 0) .b 1⟩ attempted ⟨.select, _⟩ :=
    .cons (.took _ .b 0 0 rfl) (.cons (.plan _) (.cons (.planned _ []) (.single (.executed _ _ _))))
  rwa [hheld] at hrun

theorem sharedChangeRun_run : (daemons emptyPlans).Run (Daemons.initial emptyPlans [nextTo 0, nextTo 1]) sharedChangeRun
    ⟨[(nextTo 0, .running ⟨.select, held 0⟩), (nextTo 1, .running ⟨.select, queue (held 0) .a 1⟩)], false⟩ := by
  have hstarted : ∀ label ∈ started, (daemonTasks emptyPlans).own label := by
    intro label hmem side events h
    subst h
    simp [started] at hmem
  have hattempted : ∀ label ∈ attempted, (daemonTasks emptyPlans).own label := by
    intro label hmem side events h
    subst h
    simp [attempted] at hmem
  have h₁ : (daemons emptyPlans).Run (Daemons.initial emptyPlans [nextTo 0, nextTo 1]) _ _ :=
    run_own (i := 0) rfl hstarted (started_run emptyPlans (nextTo 0))
  have h₂ : (daemons emptyPlans).Run _ _
      ⟨[(nextTo 0, .running ⟨.select, held 0⟩), (nextTo 1, .running ⟨.select, held 0⟩)], false⟩ :=
    h₁.append (run_own (i := 1) rfl hstarted (started_run emptyPlans (nextTo 1)))
  have h₃ : SupStep (daemonTasks emptyPlans)
      ⟨[(nextTo 0, .running ⟨.select, held 0⟩), (nextTo 1, .running ⟨.select, held 0⟩)], false⟩ (.around sharedChange)
      ⟨[(nextTo 0, .running ⟨.select, queue (held 0) .b 1⟩), (nextTo 1, .running ⟨.select, queue (held 0) .a 1⟩)], false⟩ := by
    refine .around _ _ sharedChange rfl fun i pair phase hi => ?_
    match i with
    | 0 =>
      cases hi
      exact ⟨_, rfl, .running (.single (.change _ .b 1))⟩
    | 1 =>
      cases hi
      exact ⟨_, rfl, .running (.single (.change _ .a 1))⟩
  exact (h₂.append (.single trivial h₃)).append
    (run_own (i := 0) rfl hattempted (attempted_run emptyPlans (nextTo 0)))

theorem mem_sharedChangeRun {label : SupLabel DaemonError DaemonLabel (StorageChange ℕ)} (h : label ∈ sharedChangeRun) :
    label = .around sharedChange ∨ ∃ i, ∃ l ∈ started ++ attempted, label = .own i l := by
  simp only [sharedChangeRun, List.mem_append, List.mem_map, List.mem_singleton] at h
  rcases h with ((⟨l, hl, rfl⟩ | ⟨l, hl, rfl⟩) | rfl) | ⟨l, hl, rfl⟩
  · exact .inr ⟨0, l, List.mem_append_left _ hl, rfl⟩
  · exact .inr ⟨1, l, List.mem_append_left _ hl, rfl⟩
  · exact .inl rfl
  · exact .inr ⟨0, l, List.mem_append_right _ hl, rfl⟩

/-- The first daemon panics after that, and is taken over. -/
def panickedRun : List (SupLabel DaemonError DaemonLabel (StorageChange ℕ)) :=
  sharedChangeRun ++ [.panicked 0, .joined 0 none]

/-- What the second daemon does with the change, when it cannot open its status database again. -/
def attemptedLast : List DaemonLabel := [.took .a 0, .plan, .planned [], .statusFailed ["disk full"]]

/-- The second daemon goes on until it cannot, and `daemon` returns. -/
def returningRun : List (SupLabel DaemonError DaemonLabel (StorageChange ℕ)) :=
  panickedRun ++ attemptedLast.map (.own 1) ++ [.ended 1, .joined 1 (some (.status ["disk full"])), .returned]

theorem panickedRun_run : (daemons emptyPlans).Run (Daemons.initial emptyPlans [nextTo 0, nextTo 1]) panickedRun
    ⟨[(nextTo 0, .joined), (nextTo 1, .running ⟨.select, queue (held 0) .a 1⟩)], false⟩ :=
  sharedChangeRun_run.append <| Lts.Run.cons (SupStep.panicked _ 0 _ _ rfl) <| Lts.Run.single (SupStep.joined _ 0 _ none rfl)

theorem returningRun_run : (daemons emptyPlans).Run (Daemons.initial emptyPlans [nextTo 0, nextTo 1]) returningRun
    ⟨[(nextTo 0, .joined), (nextTo 1, .joined)], true⟩ := by
  have hown : ∀ label ∈ attemptedLast, (daemonTasks emptyPlans).own label := by
    intro label hmem side events h
    subst h
    simp [attemptedLast] at hmem
  have hlast : (daemon emptyPlans (nextTo 1)).Run ⟨.select, queue (held 0) .a 1⟩ attemptedLast
      ⟨.ended (.status ["disk full"]), _⟩ :=
    .cons (.took _ .a 0 0 rfl) (.cons (.plan _) (.cons (.planned _ []) (.single (.statusFailed _ _ _ _))))
  exact (panickedRun_run.append (run_own (i := 1) rfl hown hlast)).append <| Lts.Run.cons (SupStep.ended _ 1 _ _ _ rfl rfl) <|
    Lts.Run.cons (SupStep.joined _ 1 _ _ rfl) <| Lts.Run.single (SupStep.returned _ (by simp))

theorem daemons_outlive_returningRun :
    (∃ point, (daemon emptyPlans (nextTo 1)).Run .initial (daemonPart emptyPlans 1 (nextTo 1) panickedRun) point) ∧
    outcomes 0 returningRun = [none] ∧ .panicked 0 ∈ returningRun ∧
    outcomes 1 returningRun = [some (.status ["disk full"])] ∧
    ∃ pre post pending, returningRun = pre ++ .ended 1 :: post ∧ (daemon emptyPlans (nextTo 1)).Run .initial
      (daemonPart emptyPlans 1 (nextTo 1) pre) ⟨.ended (.status ["disk full"]), pending⟩ := by
  have hover : ¬ Over 1 panickedRun := by
    rintro ⟨label, hmem, hends⟩
    obtain hmem | hmem := List.mem_append.mp hmem
    · obtain rfl | ⟨i, l, -, rfl⟩ := mem_sharedChangeRun hmem <;> exact hends
    · simp only [List.mem_cons, List.not_mem_nil, or_false] at hmem
      rcases hmem with rfl | rfl
      · exact absurd hends (by decide : ¬ (0 : ℕ) = 1)
      · exact hends
  obtain ⟨point, -, hrun⟩ := (daemons_outlive panickedRun_run).1 1 (nextTo 1) rfl hover
  have hreturned := (daemons_outlive returningRun_run).2.1 rfl
  obtain ⟨outcome₀, houtcomes₀, hended₀⟩ := hreturned 0 (nextTo 0) rfl
  obtain ⟨outcome₁, houtcomes₁, hended₁⟩ := hreturned 1 (nextTo 1) rfl
  obtain rfl : none = outcome₀ := List.singleton_inj.mp houtcomes₀
  obtain rfl : some (.status ["disk full"]) = outcome₁ := List.singleton_inj.mp houtcomes₁
  exact ⟨⟨point, hrun⟩, houtcomes₀, hended₀, houtcomes₁, hended₁⟩

theorem daemons_miss_nothing_sharedChangeRun : .own 0 .plan ∈ (attempted.map (.own 0) :
    List (SupLabel DaemonError DaemonLabel (StorageChange ℕ))) := by
  have hobserved : ∀ label ∈ sharedChangeRun, ∀ s : Supervisor (NamedPair ℕ) DaemonState DaemonError,
      AllObserved [nextTo 0, nextTo 1] label := by
    intro label hmem _
    obtain rfl | ⟨i, l, hl, rfl⟩ := mem_sharedChangeRun hmem
    · exact fun _ _ _ _ _ => Nat.one_pos
    · simp only [started, attempted, List.cons_append, List.nil_append, List.mem_cons, List.not_mem_nil, or_false] at hl
      rcases hl with rfl | rfl | rfl | rfl | rfl | rfl | rfl <;> trivial
  have hcreated : .own 0 (.monitor .b) ∈ (started.map (.own 0) ++ started.map (.own 1) :
      List (SupLabel DaemonError DaemonLabel (StorageChange ℕ))) := by simp [started]
  have hsplit : sharedChangeRun =
      (started.map (.own 0) ++ started.map (.own 1)) ++ .around sharedChange :: attempted.map (.own 0) := by
    simp [sharedChangeRun]
  exact daemons_miss_nothing (sharedChangeRun_run.runWith (fun _ => AllObserved [nextTo 0, nextTo 1]) hobserved) (i := 0) rfl
    held_zero_waiting _ sharedChange _ .b hsplit rfl hcreated

/-! ## How often a pair is planned -/

/-- The plans that a daemon has asked for. -/
def planned (tr : List DaemonLabel) : ℕ := tr.countP fun | .plan => true | _ => false

/-- The events that may have come to the monitors of a pair. -/
def arrived (tr : List DaemonLabel) : ℕ := (tr.map fun | .change _ events => events | .event _ => 1 | _ => 0).sum

/-- The events that the monitors hold. -/
def heldEvents (pending : Side → Option ℕ) : ℕ := (pending .a).getD 0 + (pending .b).getD 0

/-- The event that was taken and not planned for yet. -/
def DaemonPc.taken : DaemonPc → ℕ
  | .woken => 1
  | _ => 0

theorem planned_snoc (tr : List DaemonLabel) (label : DaemonLabel) : planned (tr ++ [label]) =
    planned tr + match label with
    | .plan => 1
    | _ => 0 := by
  cases label <;> simp [planned, List.countP_append]

theorem arrived_snoc (tr : List DaemonLabel) (label : DaemonLabel) : arrived (tr ++ [label]) =
    arrived tr + match label with
    | .change _ events => events
    | .event _ => 1
    | _ => 0 := by
  cases label <;> simp [arrived]

section Held

variable {pending : Side → Option ℕ} {side : Side} {events : ℕ}

theorem heldEvents_queue (pending : Side → Option ℕ) (side : Side) (events : ℕ) :
    heldEvents (queue pending side events) ≤ heldEvents pending + events := by
  cases side with
  | a =>
    cases ha : pending .a <;> simp [heldEvents, queue, ha]
    omega
  | b =>
    cases hb : pending .b <;> simp [heldEvents, queue, hb]
    omega

/-- What `select` takes is gone. -/
theorem heldEvents_took (h : pending side = some (events + 1)) (lost : ℕ) :
    heldEvents (Function.update (Function.update pending side (some events)) side.other
      ((pending side.other).map (· - lost))) + 1 ≤ heldEvents pending := by
  cases side with
  | a =>
    cases hb : pending .b <;> simp [heldEvents, Side.other, h, hb]
    omega
  | b =>
    cases ha : pending .a <;> simp [heldEvents, Side.other, h, ha]
    omega

/-- A new monitor holds nothing. -/
theorem heldEvents_monitor (pending : Side → Option ℕ) (side : Side) :
    heldEvents (Function.update pending side (some 0)) ≤ heldEvents pending := by
  cases side with
  | a | b => simp [heldEvents]

end Held

section Plans

variable {σ S D : Type} {env : PlanOutside σ S D} {pair : NamedPair S} {tr : List DaemonLabel} {s s' : DaemonState}
  {label : DaemonLabel}

/-- Each plan costs an event. -/
theorem planned_step (h : planned tr + s.pc.taken + heldEvents s.pending ≤ arrived tr)
    (hs : (daemon env pair).step s label s') :
    planned (tr ++ [label]) + s'.pc.taken + heldEvents s'.pending ≤ arrived (tr ++ [label]) := by
  rw [planned_snoc, arrived_snoc]
  cases hs with
  | change _ side events =>
    have hqueue := heldEvents_queue s.pending side events
    show planned tr + 0 + s.pc.taken + heldEvents (queue s.pending side events) ≤ arrived tr + events
    omega
  | event _ side =>
    have hqueue := heldEvents_queue s.pending side 1
    show planned tr + 0 + s.pc.taken + heldEvents (queue s.pending side 1) ≤ arrived tr + 1
    omega
  | monitorA pending =>
    have hmonitor := heldEvents_monitor pending .a
    simp only [DaemonPc.taken] at h ⊢
    omega
  | monitorB pending =>
    have hmonitor := heldEvents_monitor pending .b
    simp only [DaemonPc.taken] at h ⊢
    omega
  | took pending side events lost hheld =>
    have htook := heldEvents_took hheld lost
    simp only [DaemonPc.taken] at h ⊢
    omega
  | plan | monitorAFailed | monitorBFailed | opened | openFailed | planned | planFailed | reported | executed | execFailed
    | statusFailed =>
    simp only [DaemonPc.taken] at h ⊢
    omega

/-- **A daemon does not spin**: it has planned no more often than events have come, less those that are still held. -/
theorem daemon_plans_le (env : PlanOutside σ S D) (pair : NamedPair S) (hr : (daemon env pair).Run .initial tr s) :
    planned tr + heldEvents s.pending ≤ arrived tr := by
  have h : planned tr + s.pc.taken + heldEvents s.pending ≤ arrived tr :=
    hr.history (I := fun tr s => planned tr + s.pc.taken + heldEvents s.pending ≤ arrived tr) (Nat.le_refl 0)
      fun _ _ _ _ h _ hs => planned_step h hs
  omega

end Plans

theorem daemon_plans_le_failedAttempt : planned failedAttempt + heldEvents (held 0) ≤ arrived failedAttempt :=
  daemon_plans_le failingListing localPair (failedAttempt_run _ _ fun _ _ _ => trivial)

end Pimsync
