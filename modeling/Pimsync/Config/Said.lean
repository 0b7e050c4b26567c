import Pimsync.Config.PairGrammar
import Pimsync.Config.ReadOnly

/-!
# The commands are given what the text says

- `storages_iff`: in every run, `parse_storages` returns storages if and only if its loop ends well and all blocks that it
  loaded say a storage, and then just the storages that they say;
- `named_pairs_iff`: in every run, `into_named_pairs` returns pairs if and only if all blocks say what they should, and
  then just the pairs that they say.
-/

namespace Pimsync

/-! ## `parse_storages` -/

section Storages

variable {σ S : Type} {outside : Outside S} {loop : Ran σ LoadEvent Error Unit} {tr : List (LoadLabel (DynStorage S))}
  {s s' : LoadState (DynStorage S)} {l : LoadLabel (DynStorage S)} {r : Except Error (List (NamedStorage (DynStorage S)))}

/-- The storage of a task is made from its block. -/
def Task.Inits (outside : Outside S) (task : Task) : Prop :=
  ∃ storage interval, initStorageOutcome outside task.loaded.config = .ok storage interval

/-- An error comes of the loop, or of a task. -/
def FailInv (loop : Ran σ LoadEvent Error Unit) (outside : Outside S) (s : LoadState (DynStorage S)) : Prop :=
  ∀ e, s.main = .returned (.error e) → loop.result = .error e ∨ ∃ task ∈ s.tasks.map Prod.fst, ¬ task.Inits outside

theorem step_failInv (hmade : MadeInv outside s) (h : FailInv loop outside s)
    (hs : (parseStorages (DynStorage S) loop).step s l s') : FailInv loop outside s' := by
  cases hs with
  | load | loaded | join | ret => exact fun e hm => by cases hm
  | fail e tasks hloop => exact fun _ hm => by cases hm; exact .inl hloop
  | init main tasks i task point hi | ended main tasks i task outcome hi =>
    intro e hm
    rw [JoinSet.map_fst_set hi]
    exact h e hm
  | joinErr storages tasks i task e hi =>
    refine fun _ _ => .inr ⟨task, ?_, ?_⟩
    · rw [JoinSet.map_fst_abort]
      exact List.mem_map_of_mem (List.mem_of_getElem? hi)
    · rintro ⟨storage, interval, hinit⟩
      cases (hmade.ended task _ (List.mem_of_getElem? hi)).trans hinit
  | joinPanic storages tasks i task hi =>
    refine fun _ _ => .inr ⟨task, ?_, ?_⟩
    · rw [JoinSet.map_fst_abort]
      exact List.mem_map_of_mem (List.mem_of_getElem? hi)
    · rintro ⟨storage, interval, hinit⟩
      cases (hmade.ended task _ (List.mem_of_getElem? hi)).trans hinit

theorem run_failInv (hr : (parseStorages (DynStorage S) loop).RunWith (TaskInits outside) (.initial _ loop) tr s) :
    FailInv loop outside s := by
  have hboth : MadeInv outside s ∧ FailInv loop outside s := by
    refine hr.invariant (I := fun s => MadeInv outside s ∧ FailInv loop outside s) ⟨?_, fun _ hm => by cases hm⟩ ?_
    · exact run_madeInv (.nil _)
    · exact fun _ _ _ h hok hs => ⟨step_madeInv h.1 hok hs, step_failInv h.1 h.2 hs⟩
  exact hboth.2

/-- **The storages that are repaired are those that the text says.** In every run, `parse_storages` returns storages if and
only if its loop ends well and each block that it loaded says a storage; and then it returns just those, under their names. -/
theorem storages_iff (hr : (parseStorages (DynStorage S) loop).RunWith (TaskInits outside) (.initial _ loop) tr s)
    (hmain : s.main = .returned r) : ((∃ storages, r = .ok storages) ↔ loop.result = .ok () ∧
      ∀ task ∈ spawnedTasks loop.log, ∃ storage interval, task.loaded.config.SaysStorage outside storage interval) ∧
    ∀ storages, r = .ok storages → (storages.map NamedStorage.task).Perm (spawnedTasks loop.log) ∧
      ∀ named ∈ storages, ∃ interval, named.loaded.config.SaysStorage outside named.storage interval := by
  have hmade := run_madeInv hr
  have hload := run_loadInv hr.run
  have hsaid : ∀ storages, r = .ok storages →
      ∀ named ∈ storages, ∃ interval, named.loaded.config.SaysStorage outside named.storage interval := by
    intro storages hstorages named hnamed
    obtain ⟨interval, hinit⟩ := hmade.returned storages (hstorages ▸ hmain) named hnamed
    exact ⟨interval, (initStorage_iff outside _).mp hinit⟩
  refine ⟨?_, fun storages hstorages => ⟨(hload.returned storages (hstorages ▸ hmain)).2, hsaid storages hstorages⟩⟩
  constructor
  · rintro ⟨storages, rfl⟩
    obtain ⟨hloop, hperm⟩ := hload.returned storages hmain
    refine ⟨hloop, fun task htask => ?_⟩
    obtain ⟨named, hnamed, rfl⟩ := List.mem_map.mp (hperm.mem_iff.mpr htask)
    exact ⟨named.storage, hsaid storages rfl named hnamed⟩
  · rintro ⟨hloop, hall⟩
    cases r with
    | ok storages => exact ⟨storages, rfl⟩
    | error e =>
      obtain herror | ⟨task, htask, hnot⟩ := run_failInv hr e hmain
      · rw [hloop] at herror
        cases herror
      · rw [hload.tasks, hload.done (by simp [hmain])] at htask
        obtain ⟨storage, interval, hstorage⟩ := hall task htask
        exact absurd ⟨storage, interval, (initStorage_iff outside _).mpr hstorage⟩ hnot

end Storages

/-- `repair` without names, of a text with two storages. -/
def repairBoth : Ran Unit LoadEvent Error Unit :=
  startStorages (fun _ => .ok [("storage", ⟨["home"], some (vdirBlock "/a")⟩), ("storage", ⟨["work"], some (vdirBlock "/b")⟩)])
    noExec "" .new ()

/-- The second block is made into a storage before the first. -/
theorem storages_iff_crossed : ∃ (tr : List (LoadLabel (DynStorage String))) (s : LoadState (DynStorage String)),
    (parseStorages (DynStorage String) repairBoth).RunWith (TaskInits ownPath) (.initial _ repairBoth) tr s ∧
      s.main = .returned (.ok [⟨"work", .plain "/b", ⟨1, vdirBlock "/b"⟩⟩, ⟨"home", .plain "/a", ⟨0, vdirBlock "/a"⟩⟩]) ∧
      (∃ interval, (vdirBlock "/a").SaysStorage ownPath (.plain "/a") interval) ∧
      ∃ interval, (vdirBlock "/b").SaysStorage ownPath (.plain "/b") interval := by
  have htasks : spawnedTasks repairBoth.log = [⟨"home", ⟨0, vdirBlock "/a"⟩⟩, ⟨"work", ⟨1, vdirBlock "/b"⟩⟩] := rfl
  obtain ⟨tr, s, hr, hmain⟩ : ∃ tr s, (parseStorages (DynStorage String) repairBoth).RunWith (TaskInits ownPath)
      (.initial _ repairBoth) tr s ∧ s.main = .returned (.ok [⟨"work", .plain "/b", ⟨1, vdirBlock "/b"⟩⟩,
        ⟨"home", .plain "/a", ⟨0, vdirBlock "/a"⟩⟩]) := by
    refine run_crossed rfl htasks (fun s l hl => ?_) (fun s hs task phase h => ?_) fun s hs task phase h => ?_
    · cases l with
      | ended i outcome => exact absurd rfl (hl i outcome)
      | _ => trivial
    all_goals
      rw [hs] at h
      cases h
      rfl
  have hsaid := ((storages_iff hr hmain).2 _ rfl).2
  exact ⟨tr, s, hr, hmain, hsaid _ (List.mem_cons_of_mem _ (List.mem_singleton_self _)), hsaid _ (List.mem_cons_self ..)⟩

/-! ## `into_named_pairs` -/

section NamedPairs

variable {S : Type} {outside : Outside S} {env : PairsOutside (DynStorage S)} {config : Config} {dir : String}

/-- A storage comes to what its block says. -/
theorem storageOutcome_iff (hinits : env.Inits outside) {raw : String → Option Scfg} {name : String}
    {made : DynStorage S × Duration} : storageOutcome env raw name = .ok made ↔
      ∃ block, raw name = some block ∧ block.SaysStorage outside made.1 made.2 := by
  obtain ⟨storage, interval⟩ := made
  simp only [← initStorage_iff, ← hinits _ name]
  refine ⟨storageOutcome_ok, ?_⟩
  rintro ⟨block, hraw, hinit⟩
  rw [storageOutcome, hraw]
  simp only [hinit]

/-- What a configuration says under the name of a pair: the pair that `pair` is, of two storages of one kind. -/
def Config.SaysNamedPair (env : PairsOutside (DynStorage S)) (outside : Outside S) (config : Config) (dir : String)
    (named : String × Scfg) (pair : NamedPair (DynStorage S)) : Prop :=
  ∃ (p : PairSettings) (blockA blockB : Scfg) (a b : DynStorage S × Duration), named.2.SaysPair env.collectionId p ∧
    config.storage p.nameA = some blockA ∧ blockA.SaysStorage outside a.1 a.2 ∧
    config.storage p.nameB = some blockB ∧ blockB.SaysStorage outside b.1 b.2 ∧
    env.itemKind a.1 = env.itemKind b.1 ∧ pair = p.pair dir named.1 a b

theorem pairOutcome_iff_said (hinits : env.Inits outside) {named : String × Scfg} {pair : NamedPair (DynStorage S)} :
    pairOutcome env config.storage dir named = .ok pair ↔ config.SaysNamedPair env outside dir named pair := by
  obtain ⟨name, c⟩ := named
  simp only [pairOutcome_iff, storageOutcome_iff hinits, Config.SaysNamedPair]
  constructor
  · rintro ⟨p, a, b, hp, ⟨blockA, hA, ha⟩, ⟨blockB, hB, hb⟩, hkind, rfl⟩
    exact ⟨p, blockA, blockB, a, b, hp, hA, ha, hB, hb, hkind, rfl⟩
  · rintro ⟨p, blockA, blockB, a, b, hp, hA, ha, hB, hb, hkind, rfl⟩
    exact ⟨p, a, b, hp, ⟨blockA, hA, ha⟩, ⟨blockB, hB, hb⟩, hkind, rfl⟩

theorem exists_forall₂ {α β : Type} {R : α → β → Prop} : ∀ {l : List α}, (∀ a ∈ l, ∃ b, R a b) → ∃ bs, List.Forall₂ R l bs
  | [], _ => ⟨[], .nil⟩
  | a :: _, h => by
    obtain ⟨b, hb⟩ := h a (List.mem_cons_self ..)
    obtain ⟨bs, hbs⟩ := exists_forall₂ fun a' ha' => h a' (List.mem_cons_of_mem _ ha')
    exact ⟨b :: bs, .cons hb hbs⟩

/-- What returned is what all outcomes are, if they are all good. -/
theorem ReturnsOf.ok_iff {outcomes : List (Except Fault (NamedPair S))} {r : Except Error (List (NamedPair S))}
    (h : ReturnsOf outcomes r) : (∃ pairs, r = .ok pairs) ↔ ∀ outcome ∈ outcomes, ∃ pair, outcome = .ok pair := by
  cases r with
  | ok pairs =>
    refine iff_of_true ⟨pairs, rfl⟩ fun outcome houtcome => ?_
    obtain ⟨pair, -, rfl⟩ := List.mem_map.mp ((List.Perm.mem_iff h).mpr houtcome)
    exact ⟨pair, rfl⟩
  | error e =>
    obtain ⟨fault, hfault⟩ := h
    exact iff_of_false (fun ⟨_, h⟩ => by cases h) fun hall => by
      obtain ⟨_, h⟩ := hall _ hfault
      cases h

/-- **The pairs of a configuration are those that it says.** In every run, `into_named_pairs` returns pairs if and only if
the status path can be expanded and the block of each pair, and those of its storages, say all that they have to; and then
it returns just the pairs that they say. -/
theorem named_pairs_iff {order : List (String × Scfg)} {tr : List (PairsLabel (DynStorage S))}
    {s : PairsState (DynStorage S)} {r : Except Error (List (NamedPair (DynStorage S)))} (hinits : env.Inits outside)
    (horder : order.Perm config.pairList)
    (hr : (intoNamedPairs env config.statusPath order).Run (.initial _ config) tr s) (hmain : s.main = .returned r) :
    ((∃ pairs, r = .ok pairs) ↔ ∃ dir, expandTilde env.home config.statusPath = .ok dir ∧
      ∀ named ∈ config.pairList, ∃ pair, config.SaysNamedPair env outside dir named pair) ∧
    ∀ pairs, r = .ok pairs → ∃ dir pairs', expandTilde env.home config.statusPath = .ok dir ∧ pairs.Perm pairs' ∧
      List.Forall₂ (config.SaysNamedPair env outside dir) config.pairList pairs' := by
  cases hdir : expandTilde env.home config.statusPath with
  | error fault =>
    obtain ⟨e, rfl⟩ := run_fault_returned hdir hr hmain
    simp
  | ok dir =>
    have hreturns := run_returnsOf horder hdir hr hmain
    have hok : (∃ pairs, r = .ok pairs) ↔
        ∀ named ∈ config.pairList, ∃ pair, config.SaysNamedPair env outside dir named pair := by
      simp only [hreturns.ok_iff, List.forall_mem_map, pairOutcome_iff_said hinits]
    refine ⟨by simpa using hok, fun pairs hpairs => ?_⟩
    obtain ⟨pairs', hsaid⟩ := exists_forall₂ (hok.mp ⟨pairs, hpairs⟩)
    refine ⟨dir, pairs', rfl, ?_, hsaid⟩
    subst hpairs
    -- the pairs that are said are what the outcomes are
    have houtcomes : config.pairList.map (pairOutcome env config.storage dir) = pairs'.map .ok := by
      have hmap : List.Forall₂ Eq (config.pairList.map (pairOutcome env config.storage dir)) (pairs'.map .ok) :=
        List.forall₂_map_left_iff.mpr <| List.forall₂_map_right_iff.mpr <| hsaid.imp fun _ _ h =>
          (pairOutcome_iff_said hinits).mpr h
      rwa [List.forall₂_eq_eq_eq] at hmap
    rw [houtcomes] at hreturns
    exact (List.map_perm_map_iff fun _ _ h => Except.ok.inj h).mp hreturns

end NamedPairs

/-- One pair of two directories. -/
def cards : Config := onePair "p" (vdirBlock "/cards")

theorem named_pairs_iff_cards : ∃ (tr : List (PairsLabel (DynStorage String))) (s : PairsState (DynStorage String))
    (pair : NamedPair (DynStorage String)) (pairs' : List (NamedPair (DynStorage String))),
    (intoNamedPairs addressBooks "/status" cards.pairList).Run (.initial _ cards) tr s ∧
      s.main = .returned (.ok [pair]) ∧ [pair].Perm pairs' ∧
      List.Forall₂ (cards.SaysNamedPair addressBooks ownPath "/status") cards.pairList
        pairs' := by
  let task : PairTask := ⟨"p", "home", "work", [], "/status"⟩
  let made : DynStorage String × Duration := (.plain "/cards", 300)
  obtain ⟨pair, hpair⟩ : ∃ pair, task.build addressBooks made made = .ok pair := ⟨_, rfl⟩
  have hnew : PairTask.new "/status" ("p", [("storage_a", ⟨["home"], none⟩), ("storage_b", ⟨["work"], none⟩)]) = .ok task := rfl
  have hinits : addressBooks.Inits ownPath := fun _ _ => rfl
  have hdir : expandTilde addressBooks.home cards.statusPath = .ok "/status" :=
    show expandTilde (.dir "/home") "/status" = .ok "/status" from rfl
  have hblock : ∀ side, cards.storage (task.storage side) = some (vdirBlock "/cards") := fun side => by
    cases side <;> rfl
  obtain ⟨tr, s, hr, hmain⟩ := pair_run rfl hdir hnew (show "home" ≠ "work" by decide) (hblock .a) (hblock .b) rfl rfl hpair
  obtain ⟨dir, pairs', hdir', hperm, hsaid⟩ := (named_pairs_iff hinits (.refl _) hr hmain).2 [pair] rfl
  obtain rfl := Except.ok.inj (hdir.symm.trans hdir')
  exact ⟨tr, s, pair, pairs', hr, hmain, hperm, hsaid⟩

end Pimsync
