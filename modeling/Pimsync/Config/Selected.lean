import Pimsync.Config.Filtered

/-!
# What the names on the command line select

The commands look for pairs, and `repair` for storages. Without a name they take all that `list` shows; otherwise they take
those that are named, and fail if one of these is not there.

- `parseConfig_selects`: the pairs that `parse_config` reads;
- `startStorages_selects`: the storages that `parse_storages` spawns a task for.
-/

namespace Pimsync

variable {σ : Type} {exec : Exec σ} {scfg : String → Except Error Scfg} {rawConfig : String}

/-- Of the names that are listed, those that a command takes: the ones given to it, or all. -/
def Selected (names listed : List String) (name : String) : Prop := name ∈ listed ∧ (names ≠ [] → name ∈ names)

theorem FilterNames.selects_asked {names : List String} {name : String} :
    (asked names).Selects name ↔ (names ≠ [] → name ∈ names) := by
  by_cases h : names = []
  · subst h
    simp [Selects, asked, new]
  · obtain ⟨set, hset, hmem⟩ := asked_names h
    simp [Selects, hset, hmem, h]

/-! ## Pairs -/

/-- What is looked for after one name was. -/
theorem FilterNames.selects_wants {filter : FilterNames} {n name : String} (hne : name ≠ n) :
    (filter.wants n).2.Selects name ↔ filter.Selects name := by
  obtain ⟨_ | set⟩ := filter <;> simp [wants, Selects, hne]

/-- A name that is not looked for is not looked for later. -/
theorem FilterNames.selects_of_wants {filter : FilterNames} {n name : String} (h : (filter.wants n).2.Selects name) :
    filter.Selects name := by
  obtain ⟨_ | set⟩ := filter
  · exact h
  · simp only [wants, Selects, Option.some.injEq, forall_eq', List.mem_filter] at h ⊢
    exact h.1

/-- A name is among those left to look for. -/
def FilterNames.Left (filter : FilterNames) (name : String) : Prop := ∃ set, filter.names = some set ∧ name ∈ set

theorem FilterNames.left_wants {filter : FilterNames} {n name : String} :
    (filter.wants n).2.Left name ↔ filter.Left name ∧ n ≠ name := by
  obtain ⟨_ | set⟩ := filter
  · simp [wants, Left]
  · simp [wants, Left, Ne, eq_comm (a := name)]

/-- The pair loop takes the pairs that are looked for, and is left with the names that it did not find. -/
theorem parsePairs_selects (name : String) : ∀ {directives : List Directive} {acc read : PairsRead},
    parsePairs directives acc = .ok read →
      (name ∈ read.pairs ↔ name ∈ acc.pairs ∨
        acc.enabledPairs.Selects name ∧ ∃ directive ∈ directives, directive.params = [name]) ∧
      (read.enabledPairs.Left name ↔ acc.enabledPairs.Left name ∧ ∀ directive ∈ directives, directive.params ≠ [name])
  | [], acc, read, h => by
    cases h
    simp
  | directive :: directives, acc, read, h => by
    obtain ⟨n, hn, hnew⟩ := parsePairs_name h
    have hparams : directive.params = [name] ↔ n = name := by rw [hn, List.singleton_inj]
    rw [List.exists_mem_cons_iff, List.forall_mem_cons, Ne, hparams]
    rcases hw : (acc.enabledPairs.wants n).1 with _ | _
    · rw [parsePairs_skip hn hnew hw] at h
      obtain ⟨hpairs, hleft⟩ := parsePairs_selects name h
      have hunselected : ¬ acc.enabledPairs.Selects n := fun hs => by simp [FilterNames.wants_fst.mpr hs] at hw
      refine ⟨hpairs.trans ?_, by rw [hleft, FilterNames.left_wants, and_assoc]⟩
      by_cases hname : name = n
      · subst hname
        simp [hunselected, mt FilterNames.selects_of_wants hunselected]
      · simp [FilterNames.selects_wants hname, Ne.symm hname]
    · obtain ⟨child, a, b, -, -, -, hr⟩ := (parsePairs_enable hn hnew hw).mp h
      obtain ⟨hpairs, hleft⟩ := parsePairs_selects name hr
      refine ⟨hpairs.trans ?_, by rw [hleft, FilterNames.left_wants, and_assoc]⟩
      rw [AList.mem_insert]
      by_cases hname : name = n
      · subst hname
        simp [FilterNames.wants_fst.mp hw]
      · simp [FilterNames.selects_wants hname, Ne.symm hname, hname]

/-- The names that are left to look for at first. -/
theorem FilterNames.left_asked {names : List String} {name : String} : (asked names).Left name ↔ name ∈ names := by
  by_cases h : names = []
  · subst h
    simp [Left, asked, new]
  · obtain ⟨set, hset, hmem⟩ := asked_names h
    simp [Left, hset, hmem]

theorem FilterNames.nextMissing_left {filter : FilterNames} (h : filter.nextMissing = none) (name : String) :
    ¬ filter.Left name := by
  rintro ⟨set, hset, hmem⟩
  rw [FilterNames.nextMissing_eq_none.mp h set hset] at hmem
  cases hmem

/-- **The pairs of a command** are those that are selected of the pairs listed, and each name given is listed. -/
theorem parseConfig_selects {names : List String} {w : σ} {config : Config}
    (h : (parseConfig scfg exec rawConfig (.asked names) w).result = .ok config) :
    ∃ listed, listPairNames scfg rawConfig = .ok listed ∧ names ⊆ listed ∧
      ∀ name, name ∈ config.pairs.keys ↔ Selected names listed name := by
  obtain ⟨text, -, -, ht, -⟩ := parseConfig_ok h
  obtain ⟨status, read, hread⟩ := (parseConfig_result_ok ht).mp h
  obtain ⟨listed, hlisted, hmem⟩ := parsePairs_names hread.pairsRead
  refine ⟨listed, ?_, fun name hname => ?_, fun name => ?_⟩
  · rw [listPairNames, listNames, ht]
    exact hlisted
  · have hleft := (parsePairs_selects name hread.pairsRead).2
    have hfound := mt hleft.mpr (FilterNames.nextMissing_left hread.nothingMissing name)
    rw [hmem]
    by_contra hno
    exact hfound ⟨FilterNames.left_asked.mpr hname, fun directive hd hp => hno ⟨directive, hd, hp⟩⟩
  · have hpairs := (parsePairs_selects name hread.pairsRead).1
    rw [hread.pairs, FilterNames.selects_asked, ← hmem] at hpairs
    rw [← AList.mem_keys, hpairs, Selected, and_comm]
    simp

/-! ## Storages -/

/-- The loop of `parse_storages` spawns a task for the storages that are looked for, and is left with the names that it did
not find. -/
theorem loadStorages_selects (name : String) : ∀ (directives : List Directive) {block : ℕ} {filter filter' : FilterNames}
    {s : σ}, (loadStorages exec block directives filter s).result = .ok filter' →
      ((∃ task ∈ spawnedTasks (loadStorages exec block directives filter s).log, task.name = name) ↔
        filter.Selects name ∧ ∃ directive ∈ directives, directive.params = [name]) ∧
      (filter'.Left name ↔ filter.Left name ∧ ∀ directive ∈ directives, directive.params ≠ [name])
  | [], block, filter, filter', s, h => by
    cases h
    simp [loadStorages, spawnedTasks]
  | directive :: directives, block, filter, filter', s, h => by
    obtain ⟨n, h₁, -⟩ := Prog.bind_result_ok.mp h
    have hn : directive.params = [n] := takeSingleParam_eq_ok.mp (context_eq_ok.mp h₁)
    have hparams : directive.params = [name] ↔ n = name := by rw [hn, List.singleton_inj]
    rw [List.exists_mem_cons_iff, List.forall_mem_cons, Ne, hparams]
    rcases hw : (filter.wants n).1 with _ | _
    · rw [loadStorages_skip hn hw] at h ⊢
      obtain ⟨htasks, hleft⟩ := loadStorages_selects name directives h
      have hunselected : ¬ filter.Selects n := fun hs => by simp [FilterNames.wants_fst.mpr hs] at hw
      refine ⟨htasks.trans ?_, by rw [hleft, FilterNames.left_wants, and_assoc]⟩
      by_cases hname : name = n
      · subst hname
        simp [hunselected, mt FilterNames.selects_of_wants hunselected]
      · simp [FilterNames.selects_wants hname, Ne.symm hname]
    · rw [loadStorages_load hn hw] at h ⊢
      obtain ⟨_, hl, hr⟩ := Prog.bind_result_ok.mp h
      obtain ⟨child, config, -, -, hlog⟩ := loadBlock_ok hl
      obtain ⟨htasks, hleft⟩ := loadStorages_selects name directives hr
      have hspawned : spawnedTasks ((loadBlock exec block directive n filter.names.isSome s).log) =
          [⟨n, block, config⟩] := by
        rw [hlog, spawnedTasks_append, spawnedTasks_append, spawnedTasks_ran]
        split <;> rfl
      refine ⟨?_, by rw [hleft, FilterNames.left_wants, and_assoc]⟩
      rw [Prog.bind_log hl, spawnedTasks_append, hspawned, List.singleton_append, List.exists_mem_cons_iff, htasks]
      by_cases hname : name = n
      · subst hname
        simp [FilterNames.wants_fst.mp hw]
      · simp [FilterNames.selects_wants hname, Ne.symm hname]

/-- The names that `list_storage_names` lists are those of the storage directives. -/
theorem loadStorages_names : ∀ (directives : List Directive) {block : ℕ} {filter filter' : FilterNames} {s : σ},
    (loadStorages exec block directives filter s).result = .ok filter' →
    ∃ listed, directives.mapM (fun directive => context "Parsing storage directive" (takeSingleParam directive)) =
        .ok listed ∧ ∀ name, name ∈ listed ↔ ∃ directive ∈ directives, directive.params = [name]
  | [], _, _, _, _, _ => ⟨[], rfl, by simp⟩
  | directive :: directives, block, filter, filter', s, h => by
    obtain ⟨n, h₁, -⟩ := Prog.bind_result_ok.mp h
    have hn : directive.params = [n] := takeSingleParam_eq_ok.mp (context_eq_ok.mp h₁)
    have hrest : ∃ s', (loadStorages exec (block + 1) directives (filter.wants n).2 s').result = .ok filter' := by
      rcases hw : (filter.wants n).1 with _ | _
      · exact ⟨s, loadStorages_skip hn hw s ▸ h⟩
      · rw [loadStorages_load hn hw] at h
        obtain ⟨_, -, hr⟩ := Prog.bind_result_ok.mp h
        exact ⟨_, hr⟩
    obtain ⟨s', hrest⟩ := hrest
    obtain ⟨listed, hlisted, hmem⟩ := loadStorages_names directives hrest
    refine ⟨n :: listed, ?_, fun name => ?_⟩
    · rw [List.mapM_cons, hlisted, context_eq_ok.mpr (takeSingleParam_eq_ok.mpr hn)]
      rfl
    · rw [List.mem_cons, hmem, List.exists_mem_cons_iff, hn, List.singleton_inj, eq_comm]

/-- **The storages of `repair`** are those that are selected of the storages listed, and each name given is listed. -/
theorem startStorages_selects {names : List String} {w : σ}
    (h : (startStorages scfg exec rawConfig (.asked names) w).result = .ok ()) :
    ∃ listed, listStorageNames scfg rawConfig = .ok listed ∧ names ⊆ listed ∧
      ∀ name, (∃ task ∈ spawnedTasks (startStorages scfg exec rawConfig (.asked names) w).log, task.name = name) ↔
        Selected names listed name := by
  obtain ⟨text, filter, t, ht, hload, hmissing, hlog⟩ := startStorages_ok h
  obtain ⟨listed, hlisted, hmem⟩ := loadStorages_names _ hload
  refine ⟨listed, ?_, fun name hname => ?_, fun name => ?_⟩
  · rw [listStorageNames, listNames, ht]
    exact hlisted
  · have hleft := (loadStorages_selects name _ hload).2
    have hfound := mt hleft.mpr (FilterNames.nextMissing_left hmissing name)
    rw [hmem]
    by_contra hno
    exact hfound ⟨FilterNames.left_asked.mpr hname, fun directive hd hp => hno ⟨directive, hd, hp⟩⟩
  · rw [hlog, (loadStorages_selects name _ hload).1, FilterNames.selects_asked, ← hmem, Selected, and_comm]

end Pimsync
