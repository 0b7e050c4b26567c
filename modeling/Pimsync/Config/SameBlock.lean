import Pimsync.Config.Parse

/-!
# Which block a storage is loaded from

Several storage blocks of a text may have one name. `places` lists them: `parseStorageBlocks` keeps the last one
(`parseStorageBlocks_ok`), `loadStorages` spawns a task for each or, given names to look for, for the first one
(`loadStorages_ok`).
-/

namespace Pimsync

variable {σ : Type} {exec : Exec σ}

/-- The places of the blocks called `name`, where the first block has place `block`. -/
def places (name : String) : ℕ → List Directive → List ℕ
  | _, [] => []
  | block, directive :: directives =>
    if directive.params = [name] then block :: places name (block + 1) directives
    else places name (block + 1) directives

/-- `loaded` is one of the blocks, resolved. -/
def LoadedFrom (exec : Exec σ) : ℕ → List Directive → Loaded → Prop
  | _, [], _ => False
  | block, directive :: directives, loaded =>
    (loaded.block = block ∧ ∃ child s, directive.child = some child ∧
      (resolveStorageCmds exec child s).result = .ok loaded.config) ∨
    LoadedFrom exec (block + 1) directives loaded

theorem mem_places {name : String} : ∀ {block : ℕ} {directives : List Directive} {place : ℕ},
    place ∈ places name block directives → block ≤ place
  | _, [], _, h => by cases h
  | block, directive :: directives, place, h => by
    unfold places at h
    split at h
    · rcases List.mem_cons.mp h with rfl | h
      · exact le_rfl
      · exact Nat.le_of_succ_le (mem_places h)
    · exact Nat.le_of_succ_le (mem_places h)

theorem length_places (name : String) : ∀ (block : ℕ) (directives : List Directive),
    (places name block directives).length = directives.countP (·.params = [name])
  | _, [] => rfl
  | block, directive :: directives => by
    unfold places
    by_cases h : directive.params = [name] <;> simp [h, length_places name (block + 1) directives]

theorem places_nodup (name : String) : ∀ (block : ℕ) (directives : List Directive),
    (places name block directives).Nodup
  | _, [] => List.nodup_nil
  | block, directive :: directives => by
    unfold places
    split
    · exact List.nodup_cons.mpr ⟨fun h => Nat.not_succ_le_self _ (mem_places h), places_nodup name _ _⟩
    · exact places_nodup name _ _

theorem LoadedFrom.le : ∀ {block : ℕ} {directives : List Directive} {loaded : Loaded},
    LoadedFrom exec block directives loaded → block ≤ loaded.block
  | _, _ :: _, _, .inl h => h.1.ge
  | _, _ :: _, _, .inr h => Nat.le_of_succ_le h.le

theorem uniform_resolveFields (hexec : exec.Pure) : ∀ (names : List String) (storage : Scfg),
    (resolveFields exec names storage).Uniform
  | [], _ => Prog.uniform_pure _
  | _ :: names, _ => ((uniform_resolveCmdInplace hexec).mapError _).bind fun _ => uniform_resolveFields hexec names _

theorem uniform_resolveStorageCmds (hexec : exec.Pure) (storage : Scfg) : (resolveStorageCmds exec storage).Uniform := by
  refine (Prog.uniform_lift _).bind fun type_ => ?_
  cases dynamicFields type_ with
  | none => exact Prog.uniform_fail _
  | some fields => exact uniform_resolveFields hexec fields storage

/-- Where commands depend on their command line only, a block is resolved to one thing. -/
theorem LoadedFrom.unique (hexec : exec.Pure) :
    ∀ {block : ℕ} {directives : List Directive} {l l' : Loaded}, LoadedFrom exec block directives l →
      LoadedFrom exec block directives l' → l.block = l'.block → l = l'
  | block, directive :: directives, l, l', .inl ⟨hb, child, s, hc, hr⟩, .inl ⟨hb', child', s', hc', hr'⟩, _ => by
    obtain rfl : child = child' := Option.some.inj (hc.symm.trans hc')
    obtain ⟨b, c⟩ := l
    obtain ⟨b', c'⟩ := l'
    obtain rfl : c = c' := Except.ok.inj (hr.symm.trans (((uniform_resolveStorageCmds hexec child).steady s s').trans hr'))
    cases hb; cases hb'; rfl
  | block, directive :: directives, l, l', .inl ⟨hb, _⟩, .inr h', e => absurd h'.le (by omega)
  | block, directive :: directives, l, l', .inr h, .inl ⟨hb', _⟩, e => absurd h.le (by omega)
  | block, directive :: directives, l, l', .inr h, .inr h', e => LoadedFrom.unique hexec h h' e

section StorageLoop

variable {enabled : List String} {block : ℕ} {directive : Directive} {directives : List Directive}
  {storages storages' : AList fun _ : String => Loaded} {s : σ} {name : String}

/-- The storage loop ends well only if each directive has one name. -/
theorem parseStorageBlocks_name
    (h : (parseStorageBlocks exec enabled block (directive :: directives) storages s).result = .ok storages') :
    ∃ name, directive.params = [name] := by
  obtain ⟨name, hn, -⟩ := Prog.bind_result_ok.mp h
  exact ⟨name, takeSingleParam_eq_ok.mp (context_eq_ok.mp hn)⟩

/-- A block that is not enabled is skipped. -/
theorem parseStorageBlocks_skip (hn : directive.params = [name]) (hen : name ∉ enabled) :
    parseStorageBlocks exec enabled block (directive :: directives) storages s =
      parseStorageBlocks exec enabled (block + 1) directives storages s := by
  rw [parseStorageBlocks, Prog.lift_bind_run (context_eq_ok.mpr (takeSingleParam_eq_ok.mpr hn)), if_pos hen]

/-- A block that is enabled is resolved, and kept in place of one of its name. -/
theorem parseStorageBlocks_load (hn : directive.params = [name]) (hen : name ∈ enabled) :
    (parseStorageBlocks exec enabled block (directive :: directives) storages s).result = .ok storages' ↔
      ∃ child config, directive.child = some child ∧ (resolveStorageCmds exec child s).result = .ok config ∧
        (parseStorageBlocks exec enabled (block + 1) directives (storages.insert name ⟨block, config⟩)
          (resolveStorageCmds exec child s).world).result = .ok storages' := by
  rw [parseStorageBlocks, Prog.lift_bind_run (context_eq_ok.mpr (takeSingleParam_eq_ok.mpr hn)), if_neg (not_not.mpr hen)]
  simp only [Prog.bind_result_ok, Prog.lift_run, orContext_eq_ok, Prog.context_run, context_eq_ok]
  exact exists_congr fun child => exists_and_left.symm

/-- The commands that were run for the block come before those of the next ones. -/
theorem parseStorageBlocks_load_log {child : Scfg} {config : Scfg} (hn : directive.params = [name])
    (hen : name ∈ enabled) (hc : directive.child = some child) (hr : (resolveStorageCmds exec child s).result = .ok config) :
    (parseStorageBlocks exec enabled block (directive :: directives) storages s).log =
      (resolveStorageCmds exec child s).log ++
        (parseStorageBlocks exec enabled (block + 1) directives (storages.insert name ⟨block, config⟩)
          (resolveStorageCmds exec child s).world).log := by
  have hr' : (Prog.context s!"resolving commands for storage {name}" (resolveStorageCmds exec child) s).result =
      .ok config := context_eq_ok.mpr hr
  rw [parseStorageBlocks, Prog.lift_bind_run (context_eq_ok.mpr (takeSingleParam_eq_ok.mpr hn)),
    if_neg (not_not.mpr hen), Prog.lift_bind_run (orContext_eq_ok.mpr hc), Prog.bind_log hr', Prog.context_run]

end StorageLoop

/-- What `parse_config` keeps under a name that is enabled: the last block of that name. -/
theorem parseStorageBlocks_ok {enabled : List String} (name : String) :
    ∀ (directives : List Directive) {block : ℕ} {storages storages' : AList fun _ : String => Loaded} {s : σ},
      (parseStorageBlocks exec enabled block directives storages s).result = .ok storages' →
      (name ∉ enabled ∨ places name block directives = [] → storages'.lookup name = storages.lookup name) ∧
        ∀ place, name ∈ enabled → (places name block directives).getLast? = some place →
          ∃ l, storages'.lookup name = some l ∧ l.block = place ∧ LoadedFrom exec block directives l
  | [], block, storages, storages', s, h => by
    cases h
    exact ⟨fun _ => rfl, by simp [places]⟩
  | directive :: directives, block, storages, storages', s, h => by
    obtain ⟨n, hn⟩ := parseStorageBlocks_name h
    by_cases hen : n ∈ enabled
    · obtain ⟨child, config, hc, hr, h₄⟩ := (parseStorageBlocks_load hn hen).mp h
      obtain ⟨hnil, hlast⟩ := parseStorageBlocks_ok name directives h₄
      have hhead : LoadedFrom exec block (directive :: directives) ⟨block, config⟩ := .inl ⟨rfl, child, _, hc, hr⟩
      by_cases hnn : n = name
      · subst hnn
        rw [places, if_pos hn]
        refine ⟨by simp [hen], fun place _ hp => ?_⟩
        cases hrest : places n (block + 1) directives with
        | nil =>
          rw [hrest] at hp
          cases hp
          exact ⟨_, (hnil (.inr hrest)).trans (AList.lookup_insert _), rfl, hhead⟩
        | cons p ps =>
          rw [hrest, List.getLast?_cons_cons] at hp
          obtain ⟨l, hl, hb, hf⟩ := hlast place hen (by rw [hrest, hp])
          exact ⟨l, hl, hb, .inr hf⟩
      · rw [places, if_neg (by simp [hn, hnn])]
        refine ⟨fun he => (hnil he).trans (AList.lookup_insert_ne (Ne.symm hnn)), fun place hname hp => ?_⟩
        obtain ⟨l, hl, hb, hf⟩ := hlast place hname hp
        exact ⟨l, hl, hb, .inr hf⟩
    · rw [parseStorageBlocks_skip hn hen] at h
      obtain ⟨hnil, hlast⟩ := parseStorageBlocks_ok name directives h
      by_cases hname : name ∈ enabled
      · have hnn : n ≠ name := fun e => hen (e ▸ hname)
        rw [places, if_neg (by simp [hn, hnn])]
        refine ⟨hnil, fun place _ hp => ?_⟩
        obtain ⟨l, hl, hb, hf⟩ := hlast place hname hp
        exact ⟨l, hl, hb, .inr hf⟩
      · exact ⟨fun _ => hnil (.inl hname), fun _ h => absurd h hname⟩

/-- Every storage that `parse_config` keeps is one of the blocks. -/
theorem parseStorageBlocks_from {enabled : List String} {directives : List Directive}
    {storages : AList fun _ : String => Loaded} {s : σ} {name : String} {l : Loaded}
    (h : (parseStorageBlocks exec enabled 0 directives ∅ s).result = .ok storages) (hl : storages.lookup name = some l) :
    LoadedFrom exec 0 directives l := by
  obtain ⟨hnil, hlast⟩ := parseStorageBlocks_ok name directives h
  have hset : ¬ (name ∉ enabled ∨ places name 0 directives = []) := fun hn => by
    rw [hnil hn] at hl; cases hl
  rw [not_or, not_not] at hset
  obtain ⟨l', hl', -, hf⟩ := hlast _ hset.1 (List.getLast?_eq_some_getLast hset.2)
  exact Option.some.inj (hl.symm.trans hl') ▸ hf

/-- The block that was loaded, and what it was resolved to. -/
theorem LoadedFrom.child : ∀ {block : ℕ} {directives : List Directive} {l : Loaded}, LoadedFrom exec block directives l →
    ∃ directive child s, directives[l.block - block]? = some directive ∧ directive.child = some child ∧
      (resolveStorageCmds exec child s).result = .ok l.config
  | block, directive :: directives, l, .inl ⟨hb, child, s, hc, hr⟩ => ⟨directive, child, s, by simp [hb], hc, hr⟩
  | block, directive :: directives, l, .inr h => by
    obtain ⟨d, child, s, hd, hc, hr⟩ := h.child
    have hle := h.le
    exact ⟨d, child, s, by rw [show l.block - block = (l.block - (block + 1)) + 1 by omega]; exact hd, hc, hr⟩

/-! ## `loadStorages` -/

/-- Of the things of one name, in their order, those that are wanted. -/
def FilterNames.pick {α : Type} (filter : FilterNames) (name : String) (l : List α) : List α :=
  match filter.names with
  | none => l
  | some set => if name ∈ set then l.take 1 else []

def LoadEvent.task? : LoadEvent → Option Task
  | .spawned task => some task
  | _ => none

/-- The tasks spawned. -/
def spawnedTasks (log : List LoadEvent) : List Task := log.filterMap LoadEvent.task?

theorem spawnedTasks_append (l l' : List LoadEvent) : spawnedTasks (l ++ l') = spawnedTasks l ++ spawnedTasks l' :=
  List.filterMap_append ..

theorem spawnedTasks_ran (cmds : List RawCommand) : spawnedTasks (cmds.map .ran) = [] := by
  simp [spawnedTasks, List.filterMap_map, LoadEvent.task?, Function.comp_def]

/-- The tasks of a name. -/
def tasksNamed (name : String) (tasks : List Task) : List Task := tasks.filter (·.name = name)

/-- One thing is wanted, and it is also the last one, if and only if there is one only. -/
theorem pick_singleton {α : Type} {filter : FilterNames} {name : String} (h : filter.Selects name) {l : List α}
    (hl : l.Nodup) {a : α} : filter.pick name l = [a] ∧ l.getLast? = some a ↔ l = [a] := by
  obtain ⟨_ | set⟩ := filter
  · simp only [FilterNames.pick, and_iff_left_iff_imp]
    rintro rfl; rfl
  · have hmem : name ∈ set := h set rfl
    simp only [FilterNames.pick, hmem, if_true]
    constructor
    · rintro ⟨htake, hlast⟩
      rcases l with _ | ⟨b, _ | ⟨c, l⟩⟩
      · cases htake
      · exact htake
      · obtain rfl : b = a := by simpa using htake
        rw [List.getLast?_cons_cons] at hlast
        exact absurd (List.mem_of_getLast? hlast) (List.nodup_cons.mp hl).1
    · rintro rfl
      exact ⟨rfl, rfl⟩

theorem pick_wants {α : Type} (filter : FilterNames) (n name : String) (a : α) (l : List α) :
    filter.pick name (if n = name then a :: l else l) =
      (if (filter.wants n).1 = true ∧ n = name then [a] else []) ++ (filter.wants n).2.pick name l := by
  obtain ⟨_ | set⟩ := filter
  · by_cases hn : n = name <;> simp [FilterNames.pick, FilterNames.wants, hn]
  · by_cases hn : n = name
    · subst hn
      by_cases hmem : n ∈ set <;> simp [FilterNames.pick, FilterNames.wants, hmem]
    · simp [FilterNames.pick, FilterNames.wants, hn, Ne.symm hn]

/-- A name is still wanted if it was, and was not found. -/
theorem selects_wants_iff {α : Type} (filter : FilterNames) (n name : String) (a : α) (l : List α) :
    ((filter.wants n).2.Selects name ∧ ((filter.wants n).2.names.isSome → l = [])) ↔
      filter.Selects name ∧ (filter.names.isSome → (if n = name then a :: l else l) = []) := by
  obtain ⟨_ | set⟩ := filter
  · simp [FilterNames.wants, FilterNames.Selects]
  · by_cases hn : n = name
    · simp [FilterNames.wants, FilterNames.Selects, hn]
    · simp [FilterNames.wants, FilterNames.Selects, hn, Ne.symm hn]

/-- A wanted block that loads: its task is spawned after its commands were run. -/
theorem loadBlock_ok {block : ℕ} {directive : Directive} {name : String} {requested : Bool} {s : σ}
    (h : (loadBlock exec block directive name requested s).result = .ok ()) :
    ∃ child config, directive.child = some child ∧ (resolveStorageCmds exec child s).result = .ok config ∧
      (loadBlock exec block directive name requested s).log = (if requested then [.found name] else []) ++
        (resolveStorageCmds exec child s).log.map .ran ++ [.spawned ⟨name, block, config⟩] := by
  obtain ⟨params, _ | child⟩ := directive
  · cases requested <;> cases h
  rcases hr : resolveStorageCmds exec child s with ⟨_ | config, t, l⟩
  · cases requested <;> simp [loadBlock, Prog.bind_run, orContext, hr] at h
  · refine ⟨child, config, rfl, by rw [hr], ?_⟩
    cases requested <;> simp [loadBlock, Prog.bind_run, orContext, hr]

section Rounds

variable {block : ℕ} {directive : Directive} {directives : List Directive} {filter : FilterNames} {name : String}

theorem loadStorages_cons (hn : directive.params = [name]) (s : σ) :
    loadStorages exec block (directive :: directives) filter s =
      (if (filter.wants name).1 then loadBlock exec block directive name filter.names.isSome >>= fun _ =>
          loadStorages exec (block + 1) directives (filter.wants name).2
        else loadStorages exec (block + 1) directives (filter.wants name).2) s := by
  rw [loadStorages, takeSingleParam_eq_ok.mpr hn, Prog.bind_run]
  rfl

/-- A block that is not wanted is skipped. -/
theorem loadStorages_skip (hn : directive.params = [name]) (hw : (filter.wants name).1 = false) (s : σ) :
    loadStorages exec block (directive :: directives) filter s =
      loadStorages exec (block + 1) directives (filter.wants name).2 s := by
  rw [loadStorages_cons hn, hw]; rfl

/-- A block that is wanted is loaded. -/
theorem loadStorages_load (hn : directive.params = [name]) (hw : (filter.wants name).1 = true) (s : σ) :
    loadStorages exec block (directive :: directives) filter s =
      (loadBlock exec block directive name filter.names.isSome >>= fun _ =>
        loadStorages exec (block + 1) directives (filter.wants name).2) s := by
  rw [loadStorages_cons hn, hw]; rfl

end Rounds

/-- What `parse_storages` spawns: a task for every block, or for the first one of each name asked for. -/
theorem loadStorages_ok (name : String) : ∀ (directives : List Directive) {block : ℕ} {filter filter' : FilterNames}
    {s : σ}, (loadStorages exec block directives filter s).result = .ok filter' →
      (∀ task ∈ spawnedTasks (loadStorages exec block directives filter s).log,
        LoadedFrom exec block directives task.loaded) ∧
      (tasksNamed name (spawnedTasks (loadStorages exec block directives filter s).log)).map (·.loaded.block) =
        filter.pick name (places name block directives) ∧
      (filter'.Selects name ↔ filter.Selects name ∧ (filter.names.isSome → places name block directives = []))
  | [], block, filter, filter', s, h => by
    cases h
    refine ⟨by simp [loadStorages, spawnedTasks], ?_, by simp [places]⟩
    obtain ⟨_ | set⟩ := filter <;> simp [loadStorages, spawnedTasks, tasksNamed, places, FilterNames.pick]
  | directive :: directives, block, filter, filter', s, h => by
    obtain ⟨n, h₁, -⟩ := Prog.bind_result_ok.mp h
    have hn : directive.params = [n] := takeSingleParam_eq_ok.mp (context_eq_ok.mp h₁)
    have hplaces : places name block (directive :: directives) =
        if n = name then block :: places name (block + 1) directives else places name (block + 1) directives := by
      simp [places, hn]
    rw [hplaces, pick_wants, ← selects_wants_iff]
    rcases hw : (filter.wants n).1 with _ | _
    · rw [loadStorages_skip hn hw] at h ⊢
      obtain ⟨hf, ht, hs⟩ := loadStorages_ok name directives h
      exact ⟨fun task hmem => .inr (hf task hmem), by simpa using ht, hs⟩
    · rw [loadStorages_load hn hw] at h ⊢
      obtain ⟨_, hl, hr⟩ := Prog.bind_result_ok.mp h
      obtain ⟨child, config, hc, hres, hlog⟩ := loadBlock_ok hl
      obtain ⟨hf, ht, hs⟩ := loadStorages_ok name directives hr
      have htasks : spawnedTasks ((loadBlock exec block directive n filter.names.isSome s).log) =
          [⟨n, block, config⟩] := by
        rw [hlog, spawnedTasks_append, spawnedTasks_append, spawnedTasks_ran]
        split <;> rfl
      rw [Prog.bind_log hl, spawnedTasks_append, htasks]
      refine ⟨fun task hmem => ?_, ?_, hs⟩
      · rcases List.mem_append.mp hmem with hmem | hmem
        · obtain rfl := List.mem_singleton.mp hmem
          exact .inl ⟨rfl, child, s, hc, hres⟩
        · exact .inr (hf task hmem)
      · rw [← ht, tasksNamed, tasksNamed, List.filter_append, List.map_append]
        by_cases hnn : n = name <;> simp [hnn]

end Pimsync
