import Pimsync.Config.ParseStorages

/-!
# What the commands load

The commands that sync load their storages through `parseConfig`, `repair` through `parse_storages`.

- `same_block_iff`: both load a storage from one block, the same, if and only if the text has one block of its name;
- `resolved_iff`: what the parsers read as strings are strings, but for the credentials of a `webcal` storage.
-/

namespace Pimsync

variable {σ S : Type} {exec : Exec σ} {scfg : String → Except Error Scfg} {rawConfig : String}

/-! ## `parse_config` -/

/-- A pair's block names the storage in `storage_a` or in `storage_b`. -/
def UsesStorage (child : Scfg) (name : String) : Prop :=
  pairStorage child "storage_a" = .ok name ∨ pairStorage child "storage_b" = .ok name

/-- The enabled storages are those that the enabled pairs use. -/
def PairsRead.Consistent (read : PairsRead) : Prop :=
  ∀ name, name ∈ read.enabledStorages ↔ ∃ pair child, read.pairs.lookup pair = some child ∧ UsesStorage child name

section PairLoop

variable {directive : Directive} {directives : List Directive} {acc read : PairsRead} {name : String}

/-- What the pair loop does with a directive of a new name that is not wanted. -/
theorem parsePairs_skip (hn : directive.params = [name]) (hnew : name ∉ acc.pairs)
    (hw : (acc.enabledPairs.wants name).1 = false) :
    parsePairs (directive :: directives) acc =
      parsePairs directives { acc with enabledPairs := (acc.enabledPairs.wants name).2 } := by
  rcases h : acc.enabledPairs.wants name with ⟨_ | _, filter⟩
  · simp [parsePairs, takeSingleParam_eq_ok.mpr hn, context, Except.mapError, bind, Except.bind, hnew, h]
  · rw [h] at hw; cases hw

/-- What the pair loop does with a directive of a new name that is wanted. -/
theorem parsePairs_enable (hn : directive.params = [name]) (hnew : name ∉ acc.pairs)
    (hw : (acc.enabledPairs.wants name).1 = true) : parsePairs (directive :: directives) acc = .ok read ↔
      ∃ child a b, directive.child = some child ∧ pairStorage child "storage_a" = .ok a ∧
        pairStorage child "storage_b" = .ok b ∧
        parsePairs directives ⟨(acc.enabledPairs.wants name).2, acc.pairs.insert name child,
          b :: a :: acc.enabledStorages⟩ = .ok read := by
  rcases h : acc.enabledPairs.wants name with ⟨_ | _, filter⟩
  · rw [h] at hw; cases hw
  · rw [parsePairs, takeSingleParam_eq_ok.mpr hn]
    simp only [context, Except.mapError, bind_eq_ok, Except.ok.injEq, exists_eq_left', hnew, if_false, h, orContext_eq_ok]
    constructor
    · rintro ⟨child, hc, a, ha, b, hb, hr⟩
      exact ⟨child, a, b, hc, ha, hb, hr⟩
    · rintro ⟨child, a, b, hc, ha, hb, hr⟩
      exact ⟨child, hc, a, ha, b, hb, hr⟩

/-- The pair loop ends well only if each directive has one name, and a new one. -/
theorem parsePairs_name (h : parsePairs (directive :: directives) acc = .ok read) :
    ∃ name, directive.params = [name] ∧ name ∉ acc.pairs := by
  obtain ⟨name, hn, h⟩ := bind_eq_ok.mp h
  refine ⟨name, takeSingleParam_eq_ok.mp (context_eq_ok.mp hn), fun hmem => ?_⟩
  rw [if_pos hmem] at h
  cases h

end PairLoop

theorem parsePairs_consistent : ∀ {directives : List Directive} {acc read : PairsRead}, acc.Consistent →
    parsePairs directives acc = .ok read → read.Consistent
  | [], acc, read, hacc, h => by
    cases h; exact hacc
  | directive :: directives, acc, read, hacc, h => by
    obtain ⟨name, hn, hdup⟩ := parsePairs_name h
    rcases hw : (acc.enabledPairs.wants name).1 with _ | _
    · rw [parsePairs_skip hn hdup hw] at h
      have hacc' : ({ acc with enabledPairs := (acc.enabledPairs.wants name).2 } : PairsRead).Consistent := hacc
      exact parsePairs_consistent hacc' h
    obtain ⟨child, nameA, nameB, -, hA, hB, h⟩ := (parsePairs_enable hn hdup hw).mp h
    refine parsePairs_consistent (fun n => ?_) h
    have hnew : ∀ pair block, (acc.pairs.insert name child).lookup pair = some block ↔
        pair = name ∧ block = child ∨ acc.pairs.lookup pair = some block := by
      intro pair block
      by_cases hp : pair = name
      · subst hp
        rw [AList.lookup_insert, AList.lookup_eq_none.mpr hdup]
        simp [eq_comm]
      · rw [AList.lookup_insert_ne hp]
        simp [hp]
    have huse : UsesStorage child n ↔ n = nameB ∨ n = nameA := by
      simp [UsesStorage, hA, hB, eq_comm, or_comm]
    simp only [List.mem_cons, hacc n, hnew]
    constructor
    · rintro (rfl | rfl | ⟨pair, block, hl, hu⟩)
      · exact ⟨name, child, .inl ⟨rfl, rfl⟩, huse.mpr (.inl rfl)⟩
      · exact ⟨name, child, .inl ⟨rfl, rfl⟩, huse.mpr (.inr rfl)⟩
      · exact ⟨pair, block, .inr hl, hu⟩
    · rintro ⟨pair, block, ⟨rfl, rfl⟩ | hl, hu⟩
      · rcases huse.mp hu with h | h
        · exact .inl h
        · exact .inr (.inl h)
      · exact .inr (.inr ⟨pair, block, hl, hu⟩)

/-- The steps of `parse_config` on a text: the status path, the two loops, and what they made of it. -/
structure Config.ReadFrom (exec : Exec σ) (text : Scfg) (enabledPairs : FilterNames) (s : σ) (config : Config)
    (status : Scfg) (read : PairsRead) : Prop where
  resolved : (resolveCmdInplace exec text "status_path" s).result = .ok status
  statusPath : ∃ child, status.named "status_path" = [⟨[config.statusPath], child⟩]
  pairsRead : parsePairs (text.named "pair") ⟨enabledPairs, ∅, []⟩ = .ok read
  nothingMissing : read.enabledPairs.nextMissing = none
  pairs : read.pairs = config.pairs
  storages : (parseStorageBlocks exec read.enabledStorages 0 (text.named "storage") ∅
    (resolveCmdInplace exec text "status_path" s).world).result = .ok config.storages

/-- What stands under other names is not touched by the first steps. -/
theorem named_afterStatus {text status : Scfg} {s : σ}
    (h : (resolveCmdInplace exec text "status_path" s).result = .ok status) {field : String} (hf : field ≠ "status_path") :
    (status.remove "status_path").2.named field = text.named field := by
  rw [Scfg.named_remove_ne _ hf, (resolveCmdInplace_ok h).2 _ hf]

/-- What `parse_config` returns, by its steps. -/
theorem parseConfig_result_ok {enabledPairs : FilterNames} {s : σ} {config : Config} {text : Scfg}
    (ht : scfg rawConfig = .ok text) : (parseConfig scfg exec rawConfig enabledPairs s).result = .ok config ↔
      ∃ status read, config.ReadFrom exec text enabledPairs s status read := by
  constructor
  · intro h
    obtain ⟨text', ht', h⟩ := Prog.bind_result_ok.mp h
    obtain rfl : text = text' := Except.ok.inj (ht.symm.trans (context_eq_ok.mp ht'))
    obtain ⟨status, hs, h⟩ := Prog.bind_result_ok.mp h
    have hs := context_eq_ok.mp hs
    obtain ⟨⟨statusPath, rest⟩, hp, h⟩ := Prog.bind_result_ok.mp h
    obtain ⟨hchild, rfl⟩ := takeSingleParamFromDirective_eq_ok.mp hp
    obtain ⟨read, hr, h⟩ := Prog.bind_result_ok.mp h
    obtain ⟨_, hm, h⟩ := Prog.bind_result_ok.mp h
    obtain ⟨storages, hb, h⟩ := Prog.bind_result_ok.mp h
    cases h
    refine ⟨status, read, hs, hchild, ?_, checkMissing_eq_ok.mp hm, rfl, ?_⟩
    · rwa [named_afterStatus hs (by decide)] at hr
    · rwa [named_afterStatus hs (by decide)] at hb
  · rintro ⟨status, read, hs, hp, hr, hm, hpairs, hb⟩
    refine Prog.bind_result_ok.mpr ⟨text, context_eq_ok.mpr ht, Prog.bind_result_ok.mpr ⟨status, context_eq_ok.mpr hs, ?_⟩⟩
    refine Prog.bind_result_ok.mpr ⟨_, takeSingleParamFromDirective_eq_ok.mpr ⟨hp, rfl⟩, ?_⟩
    refine Prog.bind_result_ok.mpr ⟨read, by rw [named_afterStatus hs (by decide)]; exact hr, ?_⟩
    refine Prog.bind_result_ok.mpr ⟨(), checkMissing_eq_ok.mpr hm, ?_⟩
    refine Prog.bind_result_ok.mpr ⟨config.storages, by rw [named_afterStatus hs (by decide)]; exact hb, ?_⟩
    rw [hpairs]
    rfl

/-- The commands that `parse_config` runs: those of the status path, then those of the storages. -/
theorem parseConfig_log {enabledPairs : FilterNames} {s : σ} {config : Config} {text status : Scfg} {read : PairsRead}
    (ht : scfg rawConfig = .ok text) (h : config.ReadFrom exec text enabledPairs s status read) :
    (parseConfig scfg exec rawConfig enabledPairs s).log = (resolveCmdInplace exec text "status_path" s).log ++
      (parseStorageBlocks exec read.enabledStorages 0 (text.named "storage") ∅
        (resolveCmdInplace exec text "status_path" s).world).log := by
  have hstatus : (Prog.context "resolving status path" (resolveCmdInplace exec text "status_path") s).result = .ok status :=
    context_eq_ok.mpr h.resolved
  have hparam := takeSingleParamFromDirective_eq_ok.mpr ⟨h.statusPath, rfl⟩
  have hpairs : parsePairs ((status.remove "status_path").2.named "pair") ⟨enabledPairs, ∅, []⟩ = .ok read := by
    rw [named_afterStatus h.resolved (by decide)]; exact h.pairsRead
  have hblocks := h.storages
  rw [← named_afterStatus h.resolved (by decide)] at hblocks
  rw [parseConfig, Prog.lift_bind_run (context_eq_ok.mpr ht), Prog.bind_log hstatus, Prog.lift_bind_run hparam]
  dsimp only
  rw [Prog.lift_bind_run hpairs, Prog.lift_bind_run (checkMissing_eq_ok.mpr h.nothingMissing), Prog.context_run,
    Prog.bind_log hblocks, named_afterStatus h.resolved (by decide)]
  simp

/-- What `parse_config` returns, by its two loops. -/
theorem parseConfig_ok {enabledPairs : FilterNames} {s : σ} {config : Config}
    (h : (parseConfig scfg exec rawConfig enabledPairs s).result = .ok config) :
    ∃ text read t, scfg rawConfig = .ok text ∧ parsePairs (text.named "pair") ⟨enabledPairs, ∅, []⟩ = .ok read ∧
      read.pairs = config.pairs ∧
      (parseStorageBlocks exec read.enabledStorages 0 (text.named "storage") ∅ t).result = .ok config.storages := by
  obtain ⟨text, ht, -⟩ := Prog.bind_result_ok.mp h
  have ht := context_eq_ok.mp ht
  obtain ⟨status, read, hread⟩ := (parseConfig_result_ok ht).mp h
  exact ⟨text, read, _, ht, hread.pairsRead, hread.pairs, hread.storages⟩

/-! ## `parse_storages` -/

/-- What `parse_storages` has done when it waits for its tasks. -/
theorem startStorages_ok {enabledStorages : FilterNames} {s : σ}
    (h : (startStorages scfg exec rawConfig enabledStorages s).result = .ok ()) :
    ∃ text filter t, scfg rawConfig = .ok text ∧
      (loadStorages exec 0 (text.named "storage") enabledStorages t).result = .ok filter ∧ filter.nextMissing = none ∧
      (startStorages scfg exec rawConfig enabledStorages s).log =
        (loadStorages exec 0 (text.named "storage") enabledStorages t).log := by
  obtain ⟨text, ht, h₁⟩ := Prog.bind_result_ok.mp h
  obtain ⟨filter, hf, h₂⟩ := Prog.bind_result_ok.mp h₁
  refine ⟨text, filter, _, context_eq_ok.mp ht, hf, checkMissing_eq_ok.mp h₂, ?_⟩
  rw [startStorages, Prog.bind_log ht, loadAll, Prog.bind_log hf]
  simp

/-- The storages of a name that `parse_storages` returned are those of its tasks of that name. -/
theorem returned_named {loop : Ran σ LoadEvent Error Unit} {storages : List (NamedStorage S)} (name : String)
    (h : (storages.map NamedStorage.task).Perm (spawnedTasks loop.log)) :
    ((storages.filter (·.name = name)).map (·.loaded)).Perm
      ((tasksNamed name (spawnedTasks loop.log)).map (·.loaded)) := by
  have := ((h.filter (·.name = name)).map (·.loaded))
  rw [List.filter_map, List.map_map] at this
  exact this

/-! ## One block -/

/-- Both ways of loading a storage load one block, and the same. -/
def SameBlock (config : Config) (storages : List (NamedStorage S)) (name : String) : Prop :=
  ∃ loaded, config.storages.lookup name = some loaded ∧
    (storages.filter (·.name = name)).map (·.loaded) = [loaded]

/-- **One block**: where both ways of loading a storage succeed, they load one block, and the same, if and only if the
text has exactly one block of the storage's name. -/
theorem same_block_iff (hexec : exec.Pure) {text : Scfg} (hscfg : scfg rawConfig = .ok text)
    {enabledPairs enabledStorages : FilterNames} {w w' : σ} {config : Config}
    (hconfig : (parseConfig scfg exec rawConfig enabledPairs w).result = .ok config)
    {tr : List (LoadLabel S)} {s : LoadState S} {storages : List (NamedStorage S)}
    (hrun : (parseStorages S (startStorages scfg exec rawConfig enabledStorages w')).Run
      (.initial S (startStorages scfg exec rawConfig enabledStorages w')) tr s)
    (hstorages : s.main = .returned (.ok storages)) {name : String}
    (huse : ∃ pair child, config.pairs.lookup pair = some child ∧ UsesStorage child name)
    (hselect : enabledStorages.Selects name) :
    SameBlock config storages name ↔ (text.named "storage").countP (·.params = [name]) = 1 := by
  obtain ⟨text', read, t, ht, hread, hpairs, hblocks⟩ := parseConfig_ok hconfig
  obtain rfl : text = text' := Except.ok.inj (hscfg.symm.trans ht)
  obtain ⟨hloop, hperm⟩ := run_returned hrun hstorages
  obtain ⟨text', filter, t', ht', hload, hmissing, hlog⟩ := startStorages_ok hloop
  obtain rfl : text = text' := Except.ok.inj (hscfg.symm.trans ht')
  have hcons : read.Consistent := parsePairs_consistent (fun n => by simp) hread
  have hname : name ∈ read.enabledStorages := (hcons name).mpr (hpairs ▸ huse)
  obtain ⟨-, hlast⟩ := parseStorageBlocks_ok name _ hblocks
  obtain ⟨hfrom, hplaces, -⟩ := loadStorages_ok name _ hload
  have hreturned := returned_named name hperm
  rw [hlog] at hreturned
  rw [← length_places name 0, List.length_eq_one_iff]
  have hpick := fun place => pick_singleton (a := place) hselect (places_nodup name 0 (text.named "storage"))
  constructor
  · rintro ⟨loaded, hl, hr⟩
    rw [hr, List.singleton_perm] at hreturned
    obtain ⟨task, htask, rfl⟩ := List.map_eq_singleton_iff.mp hreturned.symm
    have hp : enabledStorages.pick name (places name 0 (text.named "storage")) = [task.loaded.block] := by
      rw [← hplaces, htask]; rfl
    refine ⟨_, (hpick _).mp ⟨hp, ?_⟩⟩
    cases hlp : (places name 0 (text.named "storage")).getLast? with
    | none =>
      rw [List.getLast?_eq_none_iff.mp hlp] at hp
      obtain ⟨_ | set⟩ := enabledStorages <;> simp [FilterNames.pick] at hp
    | some place =>
      obtain ⟨l, hl', rfl, -⟩ := hlast place hname hlp
      rw [Option.some.inj (hl.symm.trans hl')]
  · rintro ⟨place, hp⟩
    obtain ⟨hp₁, hp₂⟩ := (hpick place).mpr hp
    obtain ⟨loaded, hl, rfl, hfl⟩ := hlast place hname hp₂
    rw [hp₁] at hplaces
    obtain ⟨task, htask, hb⟩ := List.map_eq_singleton_iff.mp hplaces
    have hmem : task ∈
        tasksNamed name (spawnedTasks (loadStorages exec 0 (text.named "storage") enabledStorages t').log) := by
      rw [htask]; exact List.mem_singleton_self _
    obtain rfl := (hfrom task (List.mem_of_mem_filter hmem)).unique hexec hfl hb
    rw [htask] at hreturned
    exact ⟨_, hl, List.perm_singleton.mp hreturned⟩

/-- A text with one pair, whose two storages are the one called `home`. -/
def homeText (blocks : List Scfg) : Scfg :=
  [("status_path", ⟨["/status"], none⟩),
    ("pair", ⟨["p"], some [("storage_a", ⟨["home"], none⟩), ("storage_b", ⟨["home"], none⟩)]⟩)] ++
    blocks.map fun block => ("storage", ⟨["home"], some block⟩)

def vdirBlock (path : String) : Scfg := [("type", ⟨["vdir/vcard"], none⟩), ("path", ⟨[path], none⟩)]

/-- No command can be executed. -/
def noExec : Exec Unit := fun _ s => (.failed ["not found"], s)

/-- The storage as it is loaded from a block of a `homeText`. -/
def homeLoaded (block : ℕ) (path : String) : Loaded := ⟨block, vdirBlock path⟩

theorem same_block_single : ∃ (config : Config) (tr : List (LoadLabel String)) (s : LoadState String)
    (storages : List (NamedStorage String)), s.main = .returned (.ok storages) ∧
      (parseConfig (fun _ => .ok (homeText [vdirBlock "/a"])) noExec "" .new ()).result = .ok config ∧
      (parseStorages String (startStorages (fun _ => .ok (homeText [vdirBlock "/a"])) noExec "" .new ())).Run
        (.initial String (startStorages (fun _ => .ok (homeText [vdirBlock "/a"])) noExec "" .new ())) tr s ∧
      SameBlock config storages "home" := by
  have hlog : spawnedTasks (startStorages (fun _ => .ok (homeText [vdirBlock "/a"])) noExec "" .new ()).log =
      [⟨"home", homeLoaded 0 "/a"⟩] := rfl
  obtain ⟨tr, s, hrun, hs⟩ := run_single rfl hlog "opened"
  refine ⟨⟨"/status", _, _⟩, tr, s, _, hs, rfl, hrun, ?_⟩
  have hconfig : (parseConfig (fun _ => .ok (homeText [vdirBlock "/a"])) noExec "" .new ()).result = .ok _ := rfl
  exact (same_block_iff (fun _ _ _ => rfl) rfl hconfig hrun hs ⟨"p", _, rfl, .inl rfl⟩
    (by simp [FilterNames.Selects, FilterNames.new])).mpr rfl

/-- **A repeated block**: of two blocks called `home`, the sync commands load the second and `repair home` the first. -/
theorem repeated_block_differs : ¬ ∀ (scfg : String → Except Error Scfg) (exec : Exec Unit) (rawConfig : String)
    (enabledPairs enabledStorages : FilterNames) (config : Config) (tr : List (LoadLabel String)) (s : LoadState String)
    (storages : List (NamedStorage String)) (name : String), exec.Pure →
    (parseConfig scfg exec rawConfig enabledPairs ()).result = .ok config →
    (parseStorages String (startStorages scfg exec rawConfig enabledStorages ())).Run
      (.initial String (startStorages scfg exec rawConfig enabledStorages ())) tr s →
    s.main = .returned (.ok storages) →
    (∃ pair child, config.pairs.lookup pair = some child ∧ UsesStorage child name) → enabledStorages.Selects name →
    SameBlock config storages name := by
  intro h
  have hlog : spawnedTasks (startStorages (fun _ => .ok (homeText [vdirBlock "/a", vdirBlock "/b"])) noExec ""
      (.push .new "home") ()).log = [⟨"home", homeLoaded 0 "/a"⟩] := rfl
  obtain ⟨tr, s, hrun, hs⟩ := run_single rfl hlog "opened"
  obtain ⟨loaded, hl, hr⟩ := h _ noExec "" .new (.push .new "home") ⟨"/status", _, _⟩ tr s _ "home"
    (fun _ _ _ => rfl) rfl hrun hs ⟨"p", _, rfl, .inl rfl⟩ (by simp [FilterNames.Selects, FilterNames.push, FilterNames.new])
  have hl' : loaded = homeLoaded 1 "/b" := (Option.some.inj hl).symm
  have hr' : [homeLoaded 0 "/a"] = [loaded] := hr
  rw [hl'] at hr'
  exact absurd (congrArg (fun l => l.map (·.block)) hr') (by decide)

/-! ## Resolved blocks -/

/-- What the storage's parser reads as strings are strings. -/
def Scfg.StringsPlain (storage : Scfg) : Prop :=
  ∀ type_, storageType storage = .ok type_ → ∀ name ∈ stringFields type_, storage.Plain name

/-- The block is as its storage's parser needs it, and `init_storage` never comes upon a command in place of a string. -/
def Scfg.Resolved (storage : Scfg) : Prop :=
  storage.StringsPlain ∧ ∀ (S : Type) (env : Outside S) (r : Read), r ∈ (initStorage env storage).log →
    r.name ∈ dynamicNames → ∃ value, r.directive = ⟨[value], none⟩

/-- The user name and the password of a `webcal` storage are given as strings, if they are. -/
def Scfg.CredentialsPlain (block : Scfg) : Prop :=
  storageType block = .ok "webcal" → block.Plain "username" ∧ block.Plain "password"

theorem Scfg.StringsPlain.resolved {storage : Scfg} (h : storage.StringsPlain) : storage.Resolved := by
  refine ⟨h, fun S env r hr hn => ?_⟩
  obtain ⟨hd, htype⟩ := initStorage_reads env hr
  obtain ⟨type_, ht, hf⟩ := htype hn
  rcases h type_ ht r.name hf with he | ⟨value, he⟩
  · rw [hd] at he; cases he
  · exact ⟨value, by simpa [hd] using he⟩

/-- What is resolved for a type, and what is read. -/
theorem dynamicFields_eq {type_ : String} {fields : List String} (h : dynamicFields type_ = some fields) :
    "type" ∉ fields ∧ (type_ ≠ "webcal" ∧ stringFields type_ = fields ∨
      type_ = "webcal" ∧ fields = ["url"] ∧ stringFields type_ = ["url", "username", "password"]) := by
  unfold dynamicFields at h
  split at h <;> cases h <;> simp [stringFields]

theorem resolveStorageCmds_resolved {block storage : Scfg} {s : σ}
    (h : (resolveStorageCmds exec block s).result = .ok storage) : storage.Resolved ↔ block.CredentialsPlain := by
  obtain ⟨type_, fields, ht, hf, hplain, hother⟩ := resolveStorageCmds_ok h
  obtain ⟨htype, hfields⟩ := dynamicFields_eq hf
  have ht' : storageType storage = .ok type_ := by
    rw [← ht, storageType, storageType, Scfg.get, Scfg.get, hother "type" htype]
  have hiff : storage.StringsPlain ↔ block.CredentialsPlain := by
    rcases hfields with ⟨hw, rfl⟩ | ⟨rfl, rfl, hstr⟩
    · refine ⟨fun _ h => absurd (Except.ok.inj (ht.symm.trans h)) hw, fun _ t h name hname => hplain name ?_⟩
      rwa [Except.ok.inj (ht'.symm.trans h)]
    · have hu : storage.Plain "username" ↔ block.Plain "username" := by
        rw [Scfg.Plain, Scfg.Plain, hother "username" (by decide)]
      have hp : storage.Plain "password" ↔ block.Plain "password" := by
        rw [Scfg.Plain, Scfg.Plain, hother "password" (by decide)]
      constructor
      · intro hs _
        have := hs _ ht'
        rw [hstr] at this
        exact ⟨hu.mp (this _ (by simp)), hp.mp (this _ (by simp))⟩
      · rintro hc t h name hname
        obtain rfl := Except.ok.inj (ht'.symm.trans h)
        rw [hstr] at hname
        rcases List.mem_cons.mp hname with rfl | hname
        · exact hplain _ (by simp)
        rcases List.mem_cons.mp hname with rfl | hname
        · exact hu.mpr (hc ht).1
        · obtain rfl := List.mem_singleton.mp hname
          exact hp.mpr (hc ht).2
  exact ⟨fun h => hiff.mp h.1, fun h => (hiff.mpr h).resolved⟩

/-- **Resolved blocks**: a block that was accepted is resolved if and only if it is not one of a `webcal` storage with a
command for its user name or password, or a malformed one; and a configuration's storages all are, if and only if none
of the blocks it has them from is such a block. -/
theorem resolved_iff (exec : Exec σ) :
    (∀ block storage s, (resolveStorageCmds exec block s).result = .ok storage →
      (storage.Resolved ↔ block.CredentialsPlain)) ∧
    ∀ scfg rawConfig enabledPairs s config text, scfg rawConfig = .ok text →
      (parseConfig scfg exec rawConfig enabledPairs s).result = .ok config →
      ((∀ name loaded, config.storages.lookup name = some loaded → loaded.config.Resolved) ↔
        ∀ name loaded directive (block : Scfg), config.storages.lookup name = some loaded →
          (text.named "storage")[loaded.block]? = some directive → directive.child = some block →
          block.CredentialsPlain) := by
  refine ⟨fun _ _ _ => resolveStorageCmds_resolved, ?_⟩
  intro scfg rawConfig enabledPairs s config text ht hconfig
  obtain ⟨text', read, t, ht', -, -, hblocks⟩ := parseConfig_ok hconfig
  obtain rfl := Except.ok.inj (ht.symm.trans ht')
  constructor
  · intro h name loaded directive block hl hd hb
    obtain ⟨directive', block', s', hd', hb', hr⟩ := (parseStorageBlocks_from hblocks hl).child
    obtain rfl : directive = directive' := Option.some.inj (hd.symm.trans hd')
    obtain rfl : block = block' := Option.some.inj (hb.symm.trans hb')
    exact (resolveStorageCmds_resolved hr).mp (h name loaded hl)
  · intro h name loaded hl
    obtain ⟨directive, block, s', hd, hb, hr⟩ := (parseStorageBlocks_from hblocks hl).child
    exact (resolveStorageCmds_resolved hr).mpr (h name loaded directive block hl hd hb)

/-- A password that a command prints. -/
def askPassword : Directive := ⟨[], some [("cmd", ⟨["pass", "show", "dav"], none⟩)]⟩

def printSecret : Exec Unit := fun _ s => (.exited (some 0) (.ok "secret\n"), s)

theorem resolved_iff_carddav : ∃ storage : Scfg,
    (resolveStorageCmds printSecret [("type", ⟨["carddav"], none⟩), ("password", askPassword)] ()).result = .ok storage ∧
      storage.Resolved :=
  ⟨[("type", ⟨["carddav"], none⟩), ("password", ⟨["secret"], none⟩)], rfl,
    ((resolved_iff printSecret).1 [("type", ⟨["carddav"], none⟩), ("password", askPassword)] _ () rfl).mpr
      (by simp [Scfg.CredentialsPlain, storageType, Scfg.get, Scfg.named, orContext, bind, Except.bind])⟩

/-- **A `webcal` password is not resolved.** -/
theorem webcal_not_resolved : ¬ ∀ (exec : Exec Unit) (block storage : Scfg),
    (resolveStorageCmds exec block ()).result = .ok storage → storage.Resolved := by
  intro h
  have hr := h printSecret [("type", ⟨["webcal"], none⟩), ("url", ⟨["https://localhost/cal"], none⟩),
    ("username", ⟨["alice"], none⟩), ("password", askPassword)] _ rfl
  rcases hr.1 "webcal" rfl "password" (by simp [stringFields]) with hp | ⟨value, hp⟩
  · exact absurd (congrArg List.length hp) (by decide)
  · have hparams : [0] = [1] := congrArg (fun l => l.map (·.params.length)) hp
    exact absurd hparams (by decide)

end Pimsync
