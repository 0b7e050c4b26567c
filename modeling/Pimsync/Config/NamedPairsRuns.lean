import Mathlib.Data.List.Dedup
import Pimsync.Config.NamedPairsInv

/-!
# Runs of `into_named_pairs`

- `PairsInv.progress`: until `into_named_pairs` has returned, somebody can go on. A call that waits for an initialiser
  which is dead is cancelled with its task or, if its own task goes on, the task of the initialiser ends in an error;
- `into_named_pairs_sequential`: whatever the order of the steps, the outcome is that of the reference.
-/

namespace Pimsync

variable {S : Type}

namespace Pc

variable {ι : Type} {p : Pc ι S}

theorem settled_of_engaged (h : p.engaged = true) : p.settled = false := by
  cases p <;> first | rfl | cases h

theorem rests_of_dead (h : p.dead = true) : p.rests = false := by
  rcases p with _ | _ | _ | _ | _ | _ | _ | _ | _ | _ | _ | (_ | _) | _ | _ | _ <;> first | rfl | cases h

/-- A call that rests and is over has returned a storage. -/
theorem returned_of_rests (h : p.rests = true) (hs : p.settled = true) : ∃ r, p = .returned (.ok r) := by
  cases p with
  | returned r => cases r with
    | ok r => exact ⟨r, rfl⟩
    | error e => cases h
  | dropped | panicked | unreachable => cases h
  | _ => cases hs

end Pc

theorem Built.returned {env : PairsOutside S} {cells : String → Cell PairCall S} {task : PairTask} {pair : NamedPair S}
    (h : Built env cells task pair) (side : Side) : ∃ r, callPc cells task side = .returned (.ok r) := by
  obtain ⟨a, b, ha, hb, -⟩ := h
  cases side with
  | a => exact ⟨a, ha⟩
  | b => exact ⟨b, hb⟩

/-! ## Progress -/

section Progress

variable {env : PairsOutside S} {raw : String → Option Scfg} {order : List (String × Scfg)} {dir statusPath : String}
  {main : PairsMain S} {cells : String → Cell PairCall S} {tasks : PairTasks S} {s : PairsState S} {i : ℕ} {task : PairTask}
  {side : Side}

/-- A call that moves does so in a step, if the other call of its task rests. -/
theorem call_step (hi : tasks[i]? = some (task, .running ())) (hrest : (callPc cells task side.other).rests = true)
    (hm : Cell.Moves (task.storage side) (cells (task.storage side)) (task.call side)) :
    ∃ l s', PairsStep env statusPath order ⟨main, cells, tasks⟩ l s' := by
  rcases hm with ⟨cell, hs⟩ | ⟨cell, hs⟩ | ⟨scfg, hpc⟩
  · exact ⟨_, _, .call main cells tasks i task side _ cell hi hrest hs (by simp) trivial⟩
  · exact ⟨_, _, .call main cells tasks i task side _ cell hi hrest hs (by simp) trivial⟩
  · have hallow : env.Allows (task.storage side) (cells (task.storage side))
        (task.call side, .initDone (env.initStorage scfg (task.storage side))) := by
      intro scfg' hpc'
      rw [hpc] at hpc'
      cases hpc'; rfl
    cases ho : env.initStorage scfg (task.storage side) with
    | ok st d =>
      rw [ho] at hallow
      exact ⟨_, _, .call main cells tasks i task side _ _ hi hrest (.initOk _ _ scfg st d hpc) (by simp) hallow⟩
    | err e =>
      rw [ho] at hallow
      exact ⟨_, _, .call main cells tasks i task side _ _ hi hrest (.initErr _ _ scfg e hpc) (by simp) hallow⟩
    | panic =>
      rw [ho] at hallow
      exact ⟨_, _, .call main cells tasks i task side _ _ hi hrest (.initPanic _ _ scfg hpc) (by simp) hallow⟩

variable (hc : ∀ name, CellOk env raw name (cells name)) (h : PairsInv env raw order dir ⟨main, cells, tasks⟩)

include h hc

/-- A task one of whose calls does not rest can go on, or fail. -/
theorem PairsInv.restless (hi : tasks[i]? = some (task, .running ())) (hrest : (callPc cells task side).rests = false) :
    ∃ l s', PairsStep env statusPath order ⟨main, cells, tasks⟩ l s' := by
  obtain ⟨hdrop, side', hrest'⟩ := h.tasks i _ hi
  have hother : (callPc cells task side.other).rests = true := by
    obtain rfl : side' = side.other := by
      by_cases hside : side' = side
      · rw [hside] at hrest'
        exact absurd hrest' (by rw [hrest]; simp)
      · cases side <;> cases side' <;> first | rfl | exact absurd rfl hside
    exact hrest'
  have hinv := (hc (task.storage side)).inv
  have holds : (callPc cells task side).holds = true →
      ∃ l s', PairsStep env statusPath order ⟨main, cells, tasks⟩ l s' := by
    intro hh
    obtain ⟨lk, v, hsl⟩ := hinv.defined (c := task.call side) (by
      intro hlost
      change (callPc cells task side).Lost at hlost
      cases hpc : callPc cells task side <;> simp_all [Pc.holds, Pc.Lost])
    exact call_step hi hother (Cell.holder_moves _ hsl hh)
  have fails : ∀ fault, (callPc cells task side).fault = some fault →
      ∃ l s', PairsStep env statusPath order ⟨main, cells, tasks⟩ l s' :=
    fun fault hf => ⟨_, _, .failed main cells tasks i task side fault hi hf⟩
  cases hpc : callPc cells task side with
  | locked | sawRaw | publishing | relocked => exact holds (by rw [hpc]; rfl)
  | notify k st d => exact call_step hi hother (.inl ⟨_, .notify _ _ k st d hpc⟩)
  | dropped => exact absurd hpc (hdrop side)
  | panicked | unreachable => exact fails _ (by rw [hpc]; rfl)
  | returned r => cases r with
    | ok r => rw [hpc] at hrest; cases hrest
    | error e => exact fails _ (by rw [hpc]; rfl)
  | _ => rw [hpc] at hrest; cases hrest

/-- A call that moves does so in a step, or the other call of its task does. -/
theorem PairsInv.moves (hi : tasks[i]? = some (task, .running ()))
    (hm : Cell.Moves (task.storage side) (cells (task.storage side)) (task.call side)) :
    ∃ l s', PairsStep env statusPath order ⟨main, cells, tasks⟩ l s' := by
  cases hrest : (callPc cells task side.other).rests with
  | true => exact call_step hi hrest hm
  | false => exact h.restless hc hi hrest

omit hc in
/-- Until `into_named_pairs` has returned, a task runs, or has built its pair, or has failed and its calls are over. -/
theorem PairsInv.runs_or {t : PairTask × JoinSet.Phase Unit (Except Fault (NamedPair S))} (hmain : ∀ r, main ≠ .returned r)
    (hi : tasks[i]? = some t) : t.2 = .running () ∨ (∃ pair, Built env cells t.1 pair) ∨
      (∃ o, t.2 = .ended o) ∧ ∀ side, (callPc cells t.1 side).settled = true := by
  obtain ⟨task, phase⟩ := t
  have hok := h.tasks i _ hi
  rcases phase with _ | (fault | pair) | _ | _
  · exact .inl rfl
  · exact .inr (.inr ⟨⟨_, rfl⟩, hok.1⟩)
  · exact .inr (.inl ⟨pair, hok⟩)
  · exact .inr (.inl hok)
  · obtain ⟨r, hr⟩ := h.aborted i task hi
    exact absurd hr (hmain r)

omit hc in
/-- The task of a call that has begun and is not over. -/
theorem PairsInv.engaged (hmain : ∀ r, main ≠ .returned r) {name : String} {c : PairCall}
    (hp : ((cells name).pc c).engaged = true) : ∃ (j : ℕ) (task : PairTask) (side : Side),
      tasks[j]? = some (task, .running ()) ∧ c = task.call side ∧ name = task.storage side := by
  obtain ⟨j, ⟨task, phase⟩, side, ht, rfl, rfl⟩ := h.calls name c fun he => by rw [he] at hp; cases hp
  have hset : (callPc cells task side).settled = false := Pc.settled_of_engaged hp
  rcases h.runs_or hmain ht with hrun | ⟨pair, hbuilt⟩ | ⟨-, hover⟩
  · exact ⟨j, task, side, by rw [ht, show phase = _ from hrun], rfl, rfl⟩
  · obtain ⟨r, hr⟩ := hbuilt.returned side
    rw [hr] at hset; cases hset
  · rw [hover side] at hset; cases hset

/-- While a task runs and no task has ended, somebody can go on. -/
theorem PairsInv.running_progress (hmain : ∀ r, main ≠ .returned r) (hend : ∀ (j : ℕ) t o, tasks[j]? ≠ some (t, .ended o))
    (hi : tasks[i]? = some (task, .running ())) : ∃ l s', PairsStep env statusPath order ⟨main, cells, tasks⟩ l s' := by
  -- a call does not rest, or one waits, or both have returned
  by_cases hrest : ∃ side, (callPc cells task side).rests = false
  · obtain ⟨side, hrest⟩ := hrest
    exact h.restless hc hi hrest
  by_cases hset : ∃ side, (callPc cells task side).settled = false
  · obtain ⟨side, hset⟩ := hset
    rcases (hc (task.storage side)).inv.progress (task.storage side) (task.call side) with
      hs | ⟨c', hm, rfl | hengaged⟩ | ⟨k, lk, -, -, -, hdead⟩
    · exact absurd (hset.symm.trans hs) (by simp)
    · exact h.moves hc hi hm
    · obtain ⟨j, task', side', ht, rfl, hname⟩ := h.engaged hmain hengaged
      rw [hname] at hm
      exact h.moves hc ht hm
    -- the initialiser that it waits for is dead: it runs no more, or fails
    · obtain ⟨j, ⟨task', phase⟩, side', ht, rfl, hname⟩ :=
        h.calls (task.storage side) k fun he => by rw [he] at hdead; cases hdead
      rw [hname] at hdead
      rcases h.runs_or hmain ht with hrun | ⟨pair, hbuilt⟩ | ⟨⟨o, ho⟩, -⟩
      · exact h.restless hc (by rw [ht, show phase = _ from hrun]) (Pc.rests_of_dead hdead)
      · obtain ⟨r, hr⟩ := hbuilt.returned side'
        rw [show (cells (task'.storage side')).pc (task'.call side') = _ from hr] at hdead
        cases hdead
      · exact absurd (by rw [ht, show phase = _ from ho]) (hend j task' o)
  · have hreturned : ∀ side, ∃ r, callPc cells task side = .returned (.ok r) := fun side =>
      Pc.returned_of_rests (Bool.not_eq_false _ ▸ fun hr => hrest ⟨side, hr⟩)
        (Bool.not_eq_false _ ▸ fun hs => hset ⟨side, hs⟩)
    obtain ⟨a, ha⟩ := hreturned .a
    obtain ⟨b, hb⟩ := hreturned .b
    exact ⟨_, _, .built main cells tasks i task a b hi ha hb⟩

/-- **Progress**: until `into_named_pairs` has returned, it can go on, or a task can. -/
theorem PairsInv.progress : (∃ r, main = .returned r) ∨
    ∃ l s', PairsStep env statusPath order ⟨main, cells, tasks⟩ l s' := by
  cases hmain : main with
  | start => exact absurd hmain h.started.1
  | panicked msg => exact absurd hmain (h.started.2 msg)
  | returned r => exact .inl ⟨r, rfl⟩
  | spawning dir' rest => cases rest with
    | nil => exact .inr ⟨_, _, .spawned cells tasks dir'⟩
    | cons pair rest =>
      cases hnew : PairTask.new dir' pair with
      | error e => exact .inr ⟨_, _, .spawnErr cells tasks dir' pair rest e hnew⟩
      | ok task => exact .inr ⟨_, _, .spawn cells tasks dir' pair rest task hnew⟩
  | joining pairs =>
    subst hmain
    refine .inr ?_
    by_cases hend : ∃ (j : ℕ) (task : PairTask) (o : Except Fault (NamedPair S)), tasks[j]? = some (task, .ended o)
    · obtain ⟨j, task, o, hj⟩ := hend
      rcases o with (e | msg) | pair
      · exact ⟨_, _, .joinErr pairs cells tasks j task e hj⟩
      · exact ⟨_, _, .joinPanic pairs cells tasks j task msg hj⟩
      · exact ⟨_, _, .join pairs cells tasks j task pair hj⟩
    by_cases hrun : ∃ (j : ℕ) (task : PairTask), tasks[j]? = some (task, .running ())
    · obtain ⟨j, task, hj⟩ := hrun
      exact h.running_progress hc (by simp) (fun j t o ht => hend ⟨j, t, o, ht⟩) hj
    · refine ⟨_, _, .ret pairs cells tasks fun t ht => ?_⟩
      obtain ⟨j, hj⟩ := List.mem_iff_getElem?.mp ht
      obtain ⟨task, _ | o | _ | _⟩ := t
      · exact absurd ⟨j, task, hj⟩ hrun
      · exact absurd ⟨j, task, o, hj⟩ hend
      · rfl
      · obtain ⟨r, hr⟩ := h.aborted j task hj
        cases hr

end Progress

/-! ## The reference -/

theorem lookup_map_self {α β : Type} [DecidableEq α] {f : α → β} {a : α} : ∀ {l : List α}, a ∈ l →
    (l.map fun a => (a, f a)).lookup a = some (f a)
  | [], h => by cases h
  | b :: l, h => by
    by_cases hab : a = b
    · subst hab; simp
    · rw [List.map_cons, List.lookup_cons, beq_eq_false_iff_ne.mpr hab]
      exact lookup_map_self ((List.mem_cons.mp h).resolve_left hab)

section Reference

variable {env : PairsOutside S} {config : Config} {dir : String}

/-- The reference builds each pair from what its own storages come to. -/
theorem reference_eq : reference env config dir = config.pairList.map (pairOutcome env config.storage dir) := by
  refine List.map_congr_left fun pair hpair => ?_
  unfold referencePair pairOutcome
  cases hnew : PairTask.new dir pair with
  | error e => rfl
  | ok task =>
    have hneeded : task.nameA ∈ neededStorages dir config.pairList ∧ task.nameB ∈ neededStorages dir config.pairList := by
      constructor <;> rw [neededStorages, List.mem_dedup, List.mem_flatMap] <;> exact ⟨pair, hpair, by simp [hnew]⟩
    show (do
      let a ← (List.lookup task.nameA _).getD (.error (.err []))
      let b ← (List.lookup task.nameB _).getD (.error (.err []))
      task.build env a b) = taskOutcome env config.storage task
    rw [lookup_map_self hneeded.1, lookup_map_self hneeded.2]
    rfl

/-- The pair has the storages that the block of its name says, in their places, with their intervals. -/
def OwnStorages (env : PairsOutside S) (config : Config) (dir : String) (pair : NamedPair S) : Prop :=
  ∃ block task, (pair.name, block) ∈ config.pairList ∧ PairTask.new dir (pair.name, block) = .ok task ∧
    pair.names = (task.nameA, task.nameB) ∧
    storageOutcome env config.storage task.nameA = .ok (pair.inner.storageA, pair.intervals.1) ∧
    storageOutcome env config.storage task.nameB = .ok (pair.inner.storageB, pair.intervals.2)

/-- A pair was built by its task, from what its storages came to. -/
theorem pairOutcome_built {raw : String → Option Scfg} {p : String × Scfg} {pair : NamedPair S}
    (h : pairOutcome env raw dir p = .ok pair) : ∃ task a b, PairTask.new dir p = .ok task ∧
      storageOutcome env raw task.nameA = .ok a ∧ storageOutcome env raw task.nameB = .ok b ∧
      task.build env a b = .ok pair := by
  unfold pairOutcome taskOutcome at h
  cases hnew : PairTask.new dir p with
  | error e => rw [hnew] at h; cases h
  | ok task =>
    cases ha : storageOutcome env raw task.nameA with
    | error f => simp [hnew, ha, Except.mapError, bind, Except.bind] at h
    | ok a =>
      cases hb : storageOutcome env raw task.nameB with
      | error f => simp [hnew, ha, hb, Except.mapError, bind, Except.bind] at h
      | ok b => exact ⟨task, a, b, rfl, ha, hb, by simpa [hnew, ha, hb, Except.mapError, bind, Except.bind] using h⟩

theorem pairOutcome_ok {raw : String → Option Scfg} {p : String × Scfg} {pair : NamedPair S}
    (h : pairOutcome env raw dir p = .ok pair) : pair.name = p.1 ∧ ∃ task, PairTask.new dir p = .ok task ∧
      pair.names = (task.nameA, task.nameB) ∧
      storageOutcome env raw task.nameA = .ok (pair.inner.storageA, pair.intervals.1) ∧
      storageOutcome env raw task.nameB = .ok (pair.inner.storageB, pair.intervals.2) := by
  obtain ⟨task, a, b, hnew, ha, hb, hbuild⟩ := pairOutcome_built h
  obtain ⟨hname, hnames, hsa, hsb, hintervals, -⟩ := buildPair_ok hbuild
  exact ⟨hname.trans (PairTask.new_name hnew), task, hnew, hnames, by rw [hsa, hintervals]; exact ha,
    by rw [hsb, hintervals]; exact hb⟩

/-- A storage that `get_storage` hands out was made from its block. -/
theorem storageOutcome_ok {raw : String → Option Scfg} {name : String} {storage : S} {interval : Duration}
    (h : storageOutcome env raw name = .ok (storage, interval)) :
    ∃ block, raw name = some block ∧ env.initStorage block name = .ok storage interval := by
  unfold storageOutcome at h
  split at h
  · cases h
  · next block hraw =>
    split at h
    · next hinit =>
      cases h
      exact ⟨block, hraw, hinit⟩
    · cases h
    · cases h

/-- Pairs that were all built have the names they were configured under. -/
theorem names_of_perm {raw : String → Option Scfg} {pairs : List (NamedPair S)} {order : List (String × Scfg)}
    (h : (pairs.map .ok).Perm (order.map (pairOutcome env raw dir))) :
    (pairs.map NamedPair.name).Perm (order.map Prod.fst) := by
  let nameOf : Except Fault (NamedPair S) → Option String := fun r => r.toOption.map NamedPair.name
  have hname : ∀ p ∈ order, nameOf (pairOutcome env raw dir p) = some p.1 := by
    intro p hp
    obtain ⟨pair, -, hpair⟩ := List.mem_map.mp (h.mem_iff.mpr (List.mem_map_of_mem hp))
    simp [nameOf, ← hpair, Except.toOption, (pairOutcome_ok hpair.symm).1]
  have hperm := h.filterMap nameOf
  rw [List.filterMap_map, List.filterMap_map] at hperm
  have hleft : pairs.filterMap (nameOf ∘ .ok) = pairs.map NamedPair.name :=
    congrFun (List.filterMap_eq_map (f := NamedPair.name)) pairs
  have hright : order.filterMap (nameOf ∘ pairOutcome env raw dir) = order.map Prod.fst := by
    rw [← List.filterMap_eq_map]
    exact List.filterMap_congr hname
  rwa [hleft, hright] at hperm

end Reference

/-! ## Runs -/

section Runs

variable {env : PairsOutside S} {config : Config} {order : List (String × Scfg)} {tr : List (PairsLabel S)}
  {s : PairsState S}

/-- Where `into_named_pairs` is after `expand_tilde` has gone wrong. -/
def PairsMain.ofFault : Fault → PairsMain S
  | .err e => .returned (.error ("Expanding tilde for status_dir" :: e))
  | .panic msg => .panicked msg

/-- If `expand_tilde` goes wrong, nothing is spawned and no storage is touched. -/
theorem run_fault {fault : Fault} (hf : expandTilde env.home config.statusPath = .error fault)
    (hr : (intoNamedPairs env config.statusPath order).Run (.initial S config) tr s) :
    s = .initial S config ∨ s = ⟨.ofFault fault, StorageBuilder.new config.storage, []⟩ := by
  refine hr.invariant (I := fun s => s = .initial S config ∨ s = ⟨.ofFault fault, StorageBuilder.new config.storage, []⟩)
    (.inl rfl) ?_
  rintro s l s' (rfl | rfl) - hs
  · cases hs with
    | start _ _ dir hdir => rw [hf] at hdir; cases hdir
    | startErr _ _ e he => rw [hf] at he; cases he; exact .inr rfl
    | startPanic _ _ msg hmsg => rw [hf] at hmsg; cases hmsg; exact .inr rfl
    | call _ _ _ i _ _ _ _ hi => simp at hi
    | built _ _ _ i _ _ _ hi => simp at hi
    | failed _ _ _ i _ _ _ hi => simp at hi
  · cases fault <;> cases hs with
    | call _ _ _ i _ _ _ _ hi => simp at hi
    | built _ _ _ i _ _ _ hi => simp at hi
    | failed _ _ _ i _ _ _ hi => simp at hi

theorem keys_of_perm (horder : order.Perm config.pairList) : (order.map Prod.fst).Perm config.pairs.keys := by
  have := horder.map Prod.fst
  rwa [Config.pairList, List.map_map] at this

theorem run_pairsInv {dir : String} (hn : (order.map Prod.fst).Nodup)
    (hdir : expandTilde env.home config.statusPath = .ok dir)
    (hr : (intoNamedPairs env config.statusPath order).Run (.initial S config) tr s) :
    s = .initial S config ∨ PairsInv env config.storage order dir s := by
  refine (hr.history (I := fun tr s => (intoNamedPairs env config.statusPath order).Run (.initial S config) tr s ∧
    (s = .initial S config ∨ PairsInv env config.storage order dir s)) ⟨.nil _, .inl rfl⟩ ?_).2
  rintro tr s l s' ⟨hr, h⟩ - hs
  refine ⟨hr.snoc trivial hs, .inr ?_⟩
  rcases h with rfl | h
  · cases hs with
    | start _ _ dir' hdir' =>
      obtain rfl : dir = dir' := Except.ok.inj (hdir.symm.trans hdir')
      refine ⟨by simp, ⟨[], order, rfl, rfl, by simp, by simp⟩,
        by simp, fun _ _ hc => absurd rfl hc, by simp, by simp [JoinSet.joined],
        by simp, by simp, by simp⟩
    | startErr _ _ e he => rw [hdir] at he; cases he
    | startPanic _ _ msg hmsg => rw [hdir] at hmsg; cases hmsg
    | call _ _ _ i _ _ _ _ hi => simp at hi
    | built _ _ _ i _ _ _ hi => simp at hi
    | failed _ _ _ i _ _ _ hi => simp at hi
  · exact step_pairsInv hn (run_cellOk rfl hr) h hs

/-- The pairs that are returned have the names of the configuration, and each is what a configured pair comes to. -/
theorem run_pairs {dir : String} {pairs : List (NamedPair S)} (horder : order.Perm config.pairList)
    (hdir : expandTilde env.home config.statusPath = .ok dir)
    (hr : (intoNamedPairs env config.statusPath order).Run (.initial S config) tr s)
    (hmain : s.main = .returned (.ok pairs)) :
    (pairs.map NamedPair.name).Perm config.pairs.keys ∧
      ∀ pair ∈ pairs, ∃ p ∈ order, pairOutcome env config.storage dir p = .ok pair := by
  have hkeys := keys_of_perm horder
  obtain rfl | h := run_pairsInv (hkeys.nodup_iff.mpr config.pairs.nodupKeys) hdir hr
  · cases hmain
  · have hpairs := h.returned pairs hmain
    refine ⟨(names_of_perm hpairs).trans hkeys, fun pair hpair => ?_⟩
    exact List.mem_map.mp (hpairs.mem_iff.mp (List.mem_map_of_mem hpair))

/-- **The outcome does not depend on the order of the steps.** If the path of the status directory can be expanded, then,
until `into_named_pairs` has returned, somebody can go on; it returns an error if and only if a pair of the reference
fails; and if it returns pairs they are those of the reference, each with its own storages. Otherwise it fails before it
spawns a task. -/
theorem into_named_pairs_sequential (horder : order.Perm config.pairList)
    (hr : (intoNamedPairs env config.statusPath order).Run (.initial S config) tr s) :
    (∀ dir, expandTilde env.home config.statusPath = .ok dir →
      ((∃ r, s.main = .returned r) ∨ ∃ l s', (intoNamedPairs env config.statusPath order).step s l s') ∧
      (∀ r, s.main = .returned r → ((∃ e, r = .error e) ↔ ∃ fault, .error fault ∈ reference env config dir)) ∧
      ∀ pairs, s.main = .returned (.ok pairs) → (pairs.map .ok).Perm (reference env config dir) ∧
        (pairs.map NamedPair.name).Perm config.pairs.keys ∧ ∀ pair ∈ pairs, OwnStorages env config dir pair) ∧
    ∀ fault, expandTilde env.home config.statusPath = .error fault →
      s = .initial S config ∨ s = ⟨.ofFault fault, StorageBuilder.new config.storage, []⟩ := by
  refine ⟨fun dir hdir => ?_, fun fault hf => run_fault hf hr⟩
  have hkeys := keys_of_perm horder
  have hn : (order.map Prod.fst).Nodup := hkeys.nodup_iff.mpr config.pairs.nodupKeys
  rcases run_pairsInv hn hdir hr with rfl | h
  · exact ⟨.inr ⟨_, _, .start _ _ dir hdir⟩, by simp [PairsState.initial], by simp [PairsState.initial]⟩
  have hperm := horder.map (pairOutcome env config.storage dir)
  rw [← reference_eq] at hperm
  refine ⟨h.progress (run_cellOk rfl hr), fun r hmain => ?_, fun pairs hmain => ?_⟩
  · constructor
    · rintro ⟨e, rfl⟩
      obtain ⟨pair, hpair, fault, hfault⟩ := h.failed e hmain
      exact ⟨fault, hperm.mem_iff.mp (hfault ▸ List.mem_map_of_mem hpair)⟩
    · rintro ⟨fault, hfault⟩
      cases r with
      | error e => exact ⟨e, rfl⟩
      | ok pairs =>
        have := ((h.returned pairs hmain).trans hperm).mem_iff.mpr hfault
        simp at this
  · have hpairs := h.returned pairs hmain
    refine ⟨hpairs.trans hperm, (names_of_perm hpairs).trans hkeys, fun pair hpair => ?_⟩
    obtain ⟨p, hp, hout⟩ := List.mem_map.mp (hpairs.mem_iff.mp (List.mem_map_of_mem hpair))
    obtain ⟨hname, task, hnew, hown⟩ := pairOutcome_ok hout
    have hp' : (pair.name, p.2) = p := by rw [hname]
    exact ⟨p.2, task, by rw [hp']; exact horder.mem_iff.mp hp, by rw [hp']; exact hnew, hown⟩

end Runs

/-! ## Runs of one pair, and of two -/

section Alone

variable {env : PairsOutside S} {order : List (String × Scfg)} {statusPath : String} {main : PairsMain S}
  {cells : String → Cell PairCall S} {tasks : PairTasks S} {i : ℕ} {task : PairTask} {side : Side} {name : String}

/-- A call of a running task for the storage may take the step: the other call of the task rests. -/
def CallOk (env : PairsOutside S) (cells : String → Cell PairCall S) (tasks : PairTasks S) (name : String)
    (s : Cell PairCall S) (l : PairCall × Act S) : Prop :=
  ∃ (i : ℕ) (task : PairTask) (side : Side), tasks[i]? = some (task, .running ()) ∧ task.storage side = name ∧
    task.storage side.other ≠ name ∧ (callPc cells task side.other).rests = true ∧ l.1 = task.call side ∧ l.2 ≠ .drop ∧
    env.Allows name s l

/-- The calls for one storage run while the others rest. -/
theorem run_storage {cs : List (PairCall × Act S)} {cell : Cell PairCall S}
    (hr : (getStorage name).RunWith (CallOk env cells tasks name) (cells name) cs cell) :
    ∃ tr, (intoNamedPairs env statusPath order).Run ⟨main, cells, tasks⟩ tr
      ⟨main, Function.update cells name cell, tasks⟩ := by
  refine hr.invariant (I := fun cell => ∃ tr, (intoNamedPairs env statusPath order).Run ⟨main, cells, tasks⟩ tr
    ⟨main, Function.update cells name cell, tasks⟩) ⟨[], by rw [Function.update_eq_self]; exact .nil _⟩ ?_
  rintro s ⟨c, act⟩ s' ⟨tr, hr⟩ ⟨i, task, side, hi, rfl, hne, hrest, hc, hdrop, hallow⟩ hs
  obtain rfl : c = task.call side := hc
  have hself : Function.update cells (task.storage side) s (task.storage side) = s := Function.update_self ..
  have hother : Function.update cells (task.storage side) s (task.storage side.other) = cells (task.storage side.other) :=
    Function.update_of_ne hne ..
  have hstep : PairsStep env statusPath order ⟨main, Function.update cells (task.storage side) s, tasks⟩
    (.call i side act) _ :=
    .call main _ tasks i task side act s' hi (by rw [hother]; exact hrest) (by rw [hself]; exact hs) hdrop
      (by rw [hself]; exact hallow)
  rw [Function.update_idem] at hstep
  exact ⟨_, hr.snoc trivial hstep⟩

/-- A call that is the first for its storage initialises it. -/
theorem run_alone {s : Cell PairCall S} {c : PairCall} {scfg : Scfg} {st : S} {d : Duration} (hpc : s.pc c = .idle)
    (hsl : s.slot = some ⟨none, .raw scfg⟩) (hinit : env.initStorage scfg name = .ok st d)
    (hok : ∀ t act, act ≠ .drop → env.Allows name t (c, act) → CallOk env cells tasks name t (c, act)) :
    ∃ cs cell, (getStorage name).RunWith (CallOk env cells tasks name) s cs cell ∧
      cell.pc c = .returned (.ok (st, d)) := by
  let s₁ := (s.put ⟨none, .initialising c⟩).go c (.init scfg)
  let s₂ := s₁.go c (.publish st d)
  have h₁ : (getStorage name).Run s [_, _, _, _] s₁ := Cell.run_init hpc hsl
  have h₃ : (getStorage name).Run s₂ [_, _, _] _ := Cell.run_published (Cell.go_pc_self ..) rfl
  have hstep : Cell.Step name s₁ (c, .initDone (.ok st d)) s₂ := .initOk _ _ scfg st d (Cell.go_pc_self ..)
  have h₂ : (getStorage name).RunWith (CallOk env cells tasks name) s₁ [(c, .initDone (.ok st d))] s₂ := by
    refine .single (hok _ _ nofun fun scfg' hscfg' => ?_) hstep
    obtain rfl : scfg = scfg' := Pc.init.inj ((Cell.go_pc_self ..).symm.trans hscfg')
    exact hinit.symm
  have hpoll : ∀ t, CallOk env cells tasks name t (c, .poll) := fun t => hok t _ nofun trivial
  have hstart : ∀ t, CallOk env cells tasks name t (c, .initStorage) := fun t => hok t _ nofun trivial
  exact ⟨_, _, ((h₁.runWith _ (by simp [hpoll, hstart])).append h₂).append (h₃.runWith _ (by simp [hpoll])),
    Cell.go_pc_self ..⟩

/-- What a call of a task may do. -/
theorem CallOk.of_task (hi : tasks[i]? = some (task, .running ())) (hne : task.storage side.other ≠ task.storage side)
    (hrest : (callPc cells task side.other).rests = true) (t : Cell PairCall S) (act : Act S) (hact : act ≠ .drop)
    (hallow : env.Allows (task.storage side) t (task.call side, act)) :
    CallOk env cells tasks (task.storage side) t (task.call side, act) :=
  ⟨i, task, side, hi, rfl, hne, hrest, rfl, hact, hallow⟩

/-- A task initialises a storage that no other has asked for. -/
theorem run_side {scfg : Scfg} {st : S} {d : Duration} (hi : tasks[i]? = some (task, .running ()))
    (hne : task.storage side.other ≠ task.storage side) (hrest : (callPc cells task side.other).rests = true)
    (hpc : callPc cells task side = .idle) (hsl : (cells (task.storage side)).slot = some ⟨none, .raw scfg⟩)
    (hinit : env.initStorage scfg (task.storage side) = .ok st d) :
    ∃ tr cell, (intoNamedPairs env statusPath order).Run ⟨main, cells, tasks⟩ tr
        ⟨main, Function.update cells (task.storage side) cell, tasks⟩ ∧
      cell.pc (task.call side) = .returned (.ok (st, d)) := by
  have hok : ∀ t act, act ≠ .drop → env.Allows (task.storage side) t (task.call side, act) →
      CallOk env cells tasks (task.storage side) t (task.call side, act) := CallOk.of_task hi hne hrest
  obtain ⟨cs, cell, hr, hcell⟩ := run_alone hpc hsl hinit hok
  obtain ⟨tr, hrun⟩ := run_storage hr
  exact ⟨tr, cell, hrun, hcell⟩

/-- A run that returns the only pair of a configuration, from two storages that it initialises one after the other. -/
theorem pair_run {config : Config} {dir name : String} {c blockA blockB : Scfg} {a b : S × Duration} {pair : NamedPair S}
    (hpairs : config.pairList = [(name, c)]) (hdir : expandTilde env.home config.statusPath = .ok dir)
    (hnew : PairTask.new dir (name, c) = .ok task) (hne : task.nameA ≠ task.nameB)
    (hblockA : config.storage task.nameA = some blockA) (hblockB : config.storage task.nameB = some blockB)
    (hinitA : env.initStorage blockA task.nameA = .ok a.1 a.2) (hinitB : env.initStorage blockB task.nameB = .ok b.1 b.2)
    (hbuild : task.build env a b = .ok pair) : ∃ (tr : List (PairsLabel S)) (s : PairsState S),
      (intoNamedPairs env config.statusPath config.pairList).Run (.initial S config) tr s ∧
        s.main = .returned (.ok [pair]) := by
  let L := intoNamedPairs env config.statusPath config.pairList
  let cells := (PairsState.initial S config).cells
  let tasks : PairTasks S := [(task, .running ())]
  have hapart : ∀ side : Side, task.storage side.other ≠ task.storage side := by
    intro side
    cases side
    · exact hne.symm
    · exact hne
  have hraw : ∀ {name : String} {block : Scfg}, config.storage name = some block →
      (cells name).slot = some ⟨none, .raw block⟩ := fun h => congrArg (Option.map _) h
  obtain ⟨trA, cellA, h₂, ha⟩ : ∃ tr cell, L.Run ⟨.joining [], cells, tasks⟩ tr
      ⟨.joining [], Function.update cells task.nameA cell, tasks⟩ ∧ cell.pc (task.call .a) = .returned (.ok a) :=
    run_side (i := 0) rfl (hapart .a) rfl rfl (hraw hblockA) hinitA
  let cells' := Function.update cells task.nameA cellA
  have hself : cells' task.nameA = cellA := Function.update_self ..
  have hother : cells' task.nameB = cells task.nameB := Function.update_of_ne hne.symm ..
  have hrest : callPc cells' task .a = .returned (.ok a) := (congrArg (fun cell => cell.pc (task.call .a)) hself).trans ha
  obtain ⟨trB, cellB, h₃, hb⟩ : ∃ tr cell, L.Run ⟨.joining [], cells', tasks⟩ tr
      ⟨.joining [], Function.update cells' task.nameB cell, tasks⟩ ∧ cell.pc (task.call .b) = .returned (.ok b) :=
    run_side (i := 0) rfl (hapart .b) (congrArg Pc.rests hrest) (congrArg (fun cell => cell.pc (task.call .b)) hother)
      ((congrArg Cell.slot hother).trans (hraw hblockB)) hinitB
  let cells'' := Function.update cells' task.nameB cellB
  have hself' : cells'' task.nameB = cellB := Function.update_self ..
  have hother' : cells'' task.nameA = cellA := (Function.update_of_ne hne ..).trans hself
  have ha' : callPc cells'' task .a = .returned (.ok a) := (congrArg (fun cell => cell.pc (task.call .a)) hother').trans ha
  have hb' : callPc cells'' task .b = .returned (.ok b) := (congrArg (fun cell => cell.pc (task.call .b)) hself').trans hb
  have hspawn : L.step ⟨.spawning dir config.pairList, cells, []⟩ (.spawn name) ⟨.spawning dir [], cells, tasks⟩ := by
    rw [hpairs]
    exact .spawn _ _ _ _ _ task hnew
  have h₁ : L.Run (.initial S config) [_, _, _] ⟨.joining [], cells, tasks⟩ :=
    Lts.Run.cons (.start _ _ dir hdir) <| Lts.Run.cons hspawn <| Lts.Run.single (.spawned _ _ _)
  have h₄ : L.Run ⟨.joining [], cells'', tasks⟩ [_, _, _] ⟨.returned (.ok [pair]), _, _⟩ :=
    Lts.Run.cons (.built _ _ _ 0 task _ _ rfl ha' hb') <| Lts.Run.cons (.join _ _ _ 0 task pair (by simp [hbuild, tasks])) <|
      Lts.Run.single (.ret _ _ _ (by simp [tasks]))
  exact ⟨_, _, ((h₁.append h₂).append h₃).append h₄, rfl⟩

end Alone

/-- One pair of two storages, which have the same block. -/
def onePair (name : String) (block : Scfg) : Config :=
  ⟨"/status", (∅ : AList _).insert name [("storage_a", ⟨["home"], none⟩), ("storage_b", ⟨["work"], none⟩)],
    ((∅ : AList _).insert "home" ⟨0, block⟩).insert "work" ⟨1, block⟩⟩

/-- Every storage is a calendar, and is its own name. -/
def namesOnly : PairsOutside String := ⟨.unknown, fun _ => .ok (), fun _ => .calendar, fun _ name => .ok name 60⟩

/-- A run of `into_named_pairs` that returns the pair, whatever it is called. -/
theorem onePair_run (name : String) (block : Scfg) : ∃ (tr : List (PairsLabel String)) (s : PairsState String)
    (pair : NamedPair String),
    (intoNamedPairs namesOnly "/status" (onePair name block).pairList).Run (.initial String (onePair name block)) tr s ∧
      s.main = .returned (.ok [pair]) := by
  let task : PairTask := ⟨name, "home", "work", [], "/status"⟩
  obtain ⟨pair, hpair⟩ : ∃ pair, task.build namesOnly ("home", 60) ("work", 60) = .ok pair := ⟨_, rfl⟩
  have hnew : PairTask.new "/status" (name, [("storage_a", ⟨["home"], none⟩), ("storage_b", ⟨["work"], none⟩)]) = .ok task := rfl
  have hdir : expandTilde namesOnly.home (onePair name block).statusPath = .ok "/status" :=
    show expandTilde .unknown "/status" = .ok "/status" from rfl
  have hne : task.nameA ≠ task.nameB := show "home" ≠ "work" by decide
  have hblock : ∀ side, (onePair name block).storage (task.storage side) = some block := fun side => by cases side <;> rfl
  obtain ⟨tr, s, hr, hmain⟩ := pair_run rfl hdir hnew hne (hblock .a) (hblock .b) rfl rfl hpair
  exact ⟨tr, s, pair, hr, hmain⟩

/-- Two pairs that share a storage. -/
def sharingPairs (second : String) (h : "p" ≠ second) : Config :=
  ⟨"/status", ⟨[⟨"p", [("storage_a", ⟨["home"], none⟩), ("storage_b", ⟨["work"], none⟩)]⟩,
      ⟨second, [("storage_a", ⟨["home"], none⟩), ("storage_b", ⟨["away"], none⟩)]⟩],
      by simp [List.NodupKeys, List.keys, h]⟩,
    (((∅ : AList _).insert "home" ⟨0, []⟩).insert "work" ⟨1, []⟩).insert "away" ⟨2, []⟩⟩

/-- A run of `into_named_pairs` in which the second pair waits for the storage that the first is initialising, and ends
before it. -/
theorem sharingPairs_run (second : String) (h : "p" ≠ second) : ∃ (tr : List (PairsLabel String)) (s : PairsState String)
    (p q : NamedPair String),
    (intoNamedPairs namesOnly "/status" (sharingPairs second h).pairList).Run (.initial String (sharingPairs second h)) tr s ∧
      s.main = .returned (.ok [q, p]) := by
  let task₁ : PairTask := ⟨"p", "home", "work", [], "/status"⟩
  let task₂ : PairTask := ⟨second, "home", "away", [], "/status"⟩
  let tasks : PairTasks String := [(task₁, .running ()), (task₂, .running ())]
  let L := intoNamedPairs namesOnly "/status" (sharingPairs second h).pairList
  let cells₀ := (PairsState.initial String (sharingPairs second h)).cells
  obtain ⟨p, hp⟩ : ∃ p, task₁.build namesOnly ("home", 60) ("work", 60) = .ok p := ⟨_, rfl⟩
  obtain ⟨q, hq⟩ : ∃ q, task₂.build namesOnly ("home", 60) ("away", 60) = .ok q := ⟨_, rfl⟩
  have hwork : "work" ≠ "home" := by decide
  have haway : "away" ≠ "home" := by decide
  have hapart : "away" ≠ "work" := by decide
  have hne₁ : task₁.storage (Side.other .b) ≠ task₁.storage .b := hwork.symm
  have hne₂ : task₂.storage (Side.other .b) ≠ task₂.storage .b := haway.symm
  have h₁ : L.Run (.initial String (sharingPairs second h)) [_, _, _, _] ⟨.joining [], cells₀, tasks⟩ :=
    Lts.Run.cons (.start _ _ "/status" rfl) <| Lts.Run.cons (.spawn _ _ _ _ _ task₁ rfl) <|
      Lts.Run.cons (.spawn _ _ _ _ _ task₂ rfl) <| Lts.Run.single (.spawned _ _ _)
  -- both ask for `home`
  have hok₁ : ∀ t act, act ≠ .drop → namesOnly.Allows "home" t (task₁.call .a, act) →
      CallOk namesOnly cells₀ tasks "home" t (task₁.call .a, act) := CallOk.of_task (i := 0) rfl hwork rfl
  have hok₂ : ∀ t act, act ≠ .drop → namesOnly.Allows "home" t (task₂.call .a, act) →
      CallOk namesOnly cells₀ tasks "home" t (task₂.call .a, act) := CallOk.of_task (i := 1) rfl haway rfl
  obtain ⟨home, hhome, hp₁, hq₁⟩ : ∃ t, (getStorage "home").RunWith (CallOk namesOnly cells₀ tasks "home") (cells₀ "home")
      (Cell.sharedCalls (task₁.call .a) (task₂.call .a) "home" 60) t ∧ t.pc (task₁.call .a) = .returned (.ok ("home", 60)) ∧
        t.pc (task₂.call .a) = .returned (.ok ("home", 60)) := by
    refine Cell.run_shared (fun hcall => h (congrArg Prod.fst hcall)) rfl rfl rfl ?_ (fun t => hok₁ t _ nofun trivial)
      fun t ht => hok₁ t _ nofun fun scfg hscfg => ?_
    · rintro t _ (rfl | rfl)
      · exact hok₁ t _ nofun trivial
      · exact hok₂ t _ nofun trivial
    · rfl
  obtain ⟨tr₂, h₂⟩ : ∃ tr, L.Run ⟨.joining [], cells₀, tasks⟩ tr ⟨.joining [], Function.update cells₀ "home" home, tasks⟩ :=
    run_storage hhome
  let cells₁ := Function.update cells₀ "home" home
  have hhome₁ : cells₁ "home" = home := Function.update_self ..
  have hwork₁ : cells₁ "work" = cells₀ "work" := Function.update_of_ne hwork ..
  have haway₁ : cells₁ "away" = cells₀ "away" := Function.update_of_ne haway ..
  have hshared₁ : callPc cells₁ task₁ .a = .returned (.ok ("home", 60)) :=
    (congrArg (fun cell => cell.pc (task₁.call .a)) hhome₁).trans hp₁
  have hshared₂ : callPc cells₁ task₂ .a = .returned (.ok ("home", 60)) :=
    (congrArg (fun cell => cell.pc (task₂.call .a)) hhome₁).trans hq₁
  have hidle₁ : callPc cells₁ task₁ .b = .idle := congrArg (fun cell => cell.pc (task₁.call .b)) hwork₁
  -- each asks for the other storage of its pair
  obtain ⟨tr₃, work, h₃, hp₂⟩ : ∃ tr cell, L.Run ⟨.joining [], cells₁, tasks⟩ tr
      ⟨.joining [], Function.update cells₁ "work" cell, tasks⟩ ∧ cell.pc (task₁.call .b) = .returned (.ok ("work", 60)) :=
    run_side (i := 0) rfl hne₁ (congrArg Pc.rests hshared₁) hidle₁ (congrArg Cell.slot hwork₁) rfl
  let cells₂ := Function.update cells₁ "work" work
  have hcells₂ : ∀ {name}, name ≠ "work" → cells₂ name = cells₁ name := fun hname => Function.update_of_ne hname ..
  have hidle₂ : callPc cells₂ task₂ .b = .idle :=
    congrArg (fun cell => cell.pc (task₂.call .b)) ((hcells₂ hapart).trans haway₁)
  have hwaits₂ : callPc cells₂ task₂ .a = .returned (.ok ("home", 60)) :=
    (congrArg (fun cell => cell.pc (task₂.call .a)) (hcells₂ hwork.symm)).trans hshared₂
  obtain ⟨tr₄, away, h₄, hq₂⟩ : ∃ tr cell, L.Run ⟨.joining [], cells₂, tasks⟩ tr
      ⟨.joining [], Function.update cells₂ "away" cell, tasks⟩ ∧ cell.pc (task₂.call .b) = .returned (.ok ("away", 60)) :=
    run_side (i := 1) rfl hne₂ (congrArg Pc.rests hwaits₂) hidle₂
      (congrArg Cell.slot ((hcells₂ hapart).trans haway₁)) rfl
  let cells₃ := Function.update cells₂ "away" away
  have hcells₃ : ∀ {name}, name ≠ "away" → cells₃ name = cells₂ name := fun hname => Function.update_of_ne hname ..
  have hpA : (cells₃ "home").pc (task₁.call .a) = .returned (.ok ("home", 60)) := by
    rw [hcells₃ haway.symm, hcells₂ hwork.symm]; exact hshared₁
  have hpB : (cells₃ "work").pc (task₁.call .b) = .returned (.ok ("work", 60)) := by
    rw [hcells₃ hapart.symm, show cells₂ "work" = work from Function.update_self ..]; exact hp₂
  have hqA : (cells₃ "home").pc (task₂.call .a) = .returned (.ok ("home", 60)) := by
    rw [hcells₃ haway.symm]; exact hwaits₂
  have hqB : (cells₃ "away").pc (task₂.call .b) = .returned (.ok ("away", 60)) := by
    rw [show cells₃ "away" = away from Function.update_self ..]; exact hq₂
  have h₅ : L.Run ⟨.joining [], cells₃, tasks⟩ [_, _, _, _, _] ⟨.returned (.ok [q, p]), _, _⟩ :=
    Lts.Run.cons (.built _ _ _ 1 task₂ _ _ rfl hqA hqB) <| Lts.Run.cons (.built _ _ _ 0 task₁ _ _ rfl hpA hpB) <|
      Lts.Run.cons (.join _ _ _ 1 task₂ q (by simp [hq, tasks])) <|
        Lts.Run.cons (.join _ _ _ 0 task₁ p (by simp [hp, tasks])) <| Lts.Run.single (.ret _ _ _ (by simp [tasks]))
  exact ⟨_, _, p, q, (((h₁.append h₂).append h₃).append h₄).append h₅, rfl⟩

theorem p_ne_q : "p" ≠ "q" := by decide

theorem into_named_pairs_two : ∃ (tr : List (PairsLabel String)) (s : PairsState String) (p q : NamedPair String),
    (intoNamedPairs namesOnly "/status" (sharingPairs "q" p_ne_q).pairList).Run (.initial String (sharingPairs "q" p_ne_q)) tr s ∧
      s.main = .returned (.ok [q, p]) ∧ ([q, p].map NamedPair.name).Perm ["p", "q"] ∧
      ∀ pair ∈ [q, p], OwnStorages namesOnly (sharingPairs "q" p_ne_q) "/status" pair := by
  obtain ⟨tr, s, p, q, hrun, hmain⟩ := sharingPairs_run "q" p_ne_q
  have hdir : expandTilde namesOnly.home (sharingPairs "q" p_ne_q).statusPath = .ok "/status" := rfl
  have h := ((into_named_pairs_sequential (.refl _) hrun).1 "/status" hdir).2.2 _ hmain
  exact ⟨tr, s, p, q, hrun, hmain, h.2.1, h.2.2⟩

/-- **An error of which no pair is the cause**: the home directory is not UTF-8, and there are no pairs. -/
theorem into_named_pairs_fails_alone : ¬ ∀ (env : PairsOutside Unit) (config : Config) (order : List (String × Scfg))
    (tr : List (PairsLabel Unit)) (s : PairsState Unit) (r : Except Error (List (NamedPair Unit))),
    order.Perm config.pairList → (intoNamedPairs env config.statusPath order).Run (.initial Unit config) tr s →
    s.main = .returned r → ∀ dir, (∃ e, r = .error e) ↔ ∃ fault, .error fault ∈ reference env config dir := by
  intro h
  let env : PairsOutside Unit := ⟨.notUtf8 ["not UTF-8"], fun _ => .ok (), fun _ => .calendar, fun _ _ => .ok () 60⟩
  let config : Config := ⟨"~/status", ∅, ∅⟩
  have he : expandTilde (.notUtf8 ["not UTF-8"]) "~/status" = .error (.err ["not UTF-8"]) := rfl
  have hrun : (intoNamedPairs env config.statusPath []).Run (.initial Unit config) [.start] _ :=
    Lts.Run.single (.startErr _ _ ["not UTF-8"] he)
  obtain ⟨fault, hfault⟩ := (h env config [] _ _ _ (.refl _) hrun rfl "/status").mp ⟨_, rfl⟩
  cases hfault

end Pimsync
