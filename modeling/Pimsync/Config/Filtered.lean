import Pimsync.Config.Loaded
import Mathlib.Data.List.Flatten

/-!
# What a filter leaves

`parse_config` with the names of some pairs, beside `parse_config` with none.

- `parsePairs_narrow`: the pair loop keeps the pairs asked for, as they are, and is left with the names it did not find;
- `parseStorageBlocks_ok_iff`: the storage loop ends well if each block of an enabled storage can be resolved, and then
  `parseStorageBlocks_log` says which commands it ran;
- `filter_transparent`: a configuration that loads as a whole loads for the names of its pairs, and is then the part of
  it that these pairs use, for which only that part's commands were run.
-/

namespace Pimsync

variable {σ : Type} {exec : Exec σ} {scfg : String → Except Error Scfg} {rawConfig : String}

/-! ## The pair loop -/

/-- What the pair loop has gathered, it keeps. -/
theorem parsePairs_keeps (name : String) : ∀ {directives : List Directive} {acc read : PairsRead},
    parsePairs directives acc = .ok read → name ∈ acc.pairs → read.pairs.lookup name = acc.pairs.lookup name
  | [], _, _, h, _ => by cases h; rfl
  | directive :: directives, acc, read, h, hmem => by
    obtain ⟨n, hn, hnew⟩ := parsePairs_name h
    rcases hw : (acc.enabledPairs.wants n).1 with _ | _
    · rw [parsePairs_skip hn hnew hw] at h
      have hkeeps := parsePairs_keeps name h
      exact hkeeps hmem
    · obtain ⟨child, a, b, -, -, -, hr⟩ := (parsePairs_enable hn hnew hw).mp h
      have hne : name ≠ n := fun e => hnew (e ▸ hmem)
      rw [parsePairs_keeps _ hr (AList.mem_insert _ |>.mpr (.inr hmem)), AList.lookup_insert_ne hne]

/-- The one pair loop has looked for all names, the other for those in `set`, and has no pair that the one has not. -/
structure PairsRead.Narrows (acc : PairsRead) (set : List String) (acc' : PairsRead) : Prop where
  unfiltered : acc.enabledPairs.names = none
  filtered : acc'.enabledPairs.names = some set
  pairs : ∀ name ∈ acc'.pairs, name ∈ acc.pairs

/-- A name is left if it is not the next directive's and is left by the others. -/
theorem mem_left {set : List String} {directive : Directive} {directives : List Directive} {n name : String}
    (hn : directive.params = [n]) :
    (name ∈ set.filter (· ≠ n) ∧ ∀ directive ∈ directives, directive.params ≠ [name]) ↔
      name ∈ set ∧ ∀ d ∈ directive :: directives, d.params ≠ [name] := by
  have hne : decide (name ≠ n) = true ↔ directive.params ≠ [name] := by
    rw [decide_eq_true_iff, hn, Ne, Ne, List.singleton_inj, eq_comm]
  rw [List.mem_filter, List.forall_mem_cons, hne, and_assoc]

/-- **The pair loop under a filter**: the pairs asked for that are still to come are read as they are without it, and no
others; the names not found are left. -/
theorem parsePairs_narrow : ∀ {directives : List Directive} {set : List String} {acc acc' read : PairsRead},
    acc.Narrows set acc' → parsePairs directives acc = .ok read →
    ∃ read' set', parsePairs directives acc' = .ok read' ∧ read'.enabledPairs.names = some set' ∧
      (∀ name, name ∈ set' ↔ name ∈ set ∧ ∀ directive ∈ directives, directive.params ≠ [name]) ∧
      ∀ name, read'.pairs.lookup name =
        if name ∈ set ∧ name ∉ acc.pairs then read.pairs.lookup name else acc'.pairs.lookup name
  | [], set, acc, acc', read, hacc, h => by
    cases h
    refine ⟨acc', set, rfl, hacc.filtered, by simp, fun name => ?_⟩
    split
    · next hn =>
      rw [AList.lookup_eq_none.mpr hn.2, AList.lookup_eq_none.mpr fun hmem => hn.2 (hacc.pairs name hmem)]
    · rfl
  | directive :: directives, set, acc, acc', read, hacc, h => by
    obtain ⟨n, hn, hnew⟩ := parsePairs_name h
    have hnew' : n ∉ acc'.pairs := fun hmem => hnew (hacc.pairs n hmem)
    have hall := FilterNames.wants_none hacc.unfiltered n
    have hsome := FilterNames.wants_some hacc.filtered n
    obtain ⟨child, a, b, hc, ha, hb, hr⟩ := (parsePairs_enable hn hnew (by rw [hall])).mp h
    rw [hall] at hr
    have hkept : read.pairs.lookup n = some child := by
      rw [parsePairs_keeps _ hr (AList.mem_insert _ |>.mpr (.inl rfl)), AList.lookup_insert]
    by_cases hmem : n ∈ set
    · -- the pair is asked for, and from now on no longer looked for
      have hnarrow : PairsRead.Narrows ⟨acc.enabledPairs, acc.pairs.insert n child, b :: a :: acc.enabledStorages⟩
          (set.filter (· ≠ n))
          ⟨(acc'.enabledPairs.wants n).2, acc'.pairs.insert n child, b :: a :: acc'.enabledStorages⟩ := by
        refine ⟨hacc.unfiltered, by rw [hsome], fun name hname => ?_⟩
        rw [AList.mem_insert] at hname ⊢
        exact hname.imp id (hacc.pairs name)
      obtain ⟨read', set', hr', hf, hset, hpairs⟩ := parsePairs_narrow hnarrow hr
      refine ⟨read', set', (parsePairs_enable hn hnew' (by simp [hsome, hmem])).mpr ⟨child, a, b, hc, ha, hb, hr'⟩, hf,
        fun name => ?_, fun name => ?_⟩
      · rw [hset, mem_left hn]
      · rw [hpairs name]
        by_cases hname : name = n
        · subst hname
          simp [hmem, hnew, hkept]
        · simp [hname, AList.lookup_insert_ne hname, AList.mem_insert]
    · -- the pair is skipped
      have hnarrow : PairsRead.Narrows ⟨acc.enabledPairs, acc.pairs.insert n child, b :: a :: acc.enabledStorages⟩
          (set.filter (· ≠ n)) { acc' with enabledPairs := (acc'.enabledPairs.wants n).2 } := by
        refine ⟨hacc.unfiltered, by rw [hsome], fun name hname => ?_⟩
        exact AList.mem_insert _ |>.mpr (.inr (hacc.pairs name hname))
      obtain ⟨read', set', hr', hf, hset, hpairs⟩ := parsePairs_narrow hnarrow hr
      refine ⟨read', set', (parsePairs_skip hn hnew' (by simp [hsome, hmem])).trans hr', hf, fun name => ?_, fun name => ?_⟩
      · rw [hset, mem_left hn]
      · rw [hpairs name]
        by_cases hname : name = n
        · subst hname
          simp [hmem]
        · simp [hname, AList.mem_insert]

/-! ## The storage loop -/

/-- The block can be resolved. -/
def Resolvable (exec : Exec σ) (s : σ) (directive : Directive) : Prop :=
  ∃ child config, directive.child = some child ∧ (resolveStorageCmds exec child s).result = .ok config

/-- The commands that are run to resolve a block. -/
def blockCommands (exec : Exec σ) (s : σ) (directive : Directive) : List RawCommand :=
  directive.child.elim [] fun child => (resolveStorageCmds exec child s).log

/-- The commands that are run to resolve the blocks of the enabled storages. -/
def storageCommands (exec : Exec σ) (s : σ) (enabled : List String) (directives : List Directive) : List RawCommand :=
  (directives.filter fun directive => ∃ name ∈ enabled, directive.params = [name]).flatMap (blockCommands exec s)

section StorageLoop

variable {enabled enabled' : List String}

theorem storageCommands_congr (h : ∀ name, name ∈ enabled ↔ name ∈ enabled') (s : σ) (directives : List Directive) :
    storageCommands exec s enabled directives = storageCommands exec s enabled' directives := by
  simp only [storageCommands, h]

/-- With fewer storages, fewer commands are run, in the same order. -/
theorem storageCommands_sublist (h : enabled' ⊆ enabled) (s : σ) (directives : List Directive) :
    (storageCommands exec s enabled' directives).Sublist (storageCommands exec s enabled directives) := by
  refine (List.monotone_filter_right directives fun directive hd => ?_).flatMap _
  obtain ⟨name, hname, hn⟩ := of_decide_eq_true hd
  exact decide_eq_true ⟨name, h hname, hn⟩

/-- The storage loop ends well if and only if every block has a name and those of enabled storages can be resolved. -/
theorem parseStorageBlocks_ok_iff (hexec : exec.Pure) (t : σ) : ∀ (directives : List Directive) {block : ℕ}
    {storages : AList fun _ : String => Loaded} {s : σ},
    (∃ storages', (parseStorageBlocks exec enabled block directives storages s).result = .ok storages') ↔
      ∀ directive ∈ directives, ∃ name, directive.params = [name] ∧ (name ∈ enabled → Resolvable exec t directive)
  | [], block, storages, s => ⟨fun _ _ h => absurd h List.not_mem_nil, fun _ => ⟨storages, rfl⟩⟩
  | directive :: directives, block, storages, s => by
    rw [List.forall_mem_cons]
    by_cases hn : ∃ name, directive.params = [name]
    · obtain ⟨name, hn⟩ := hn
      by_cases hen : name ∈ enabled
      · have hresolve : ∀ child, (resolveStorageCmds exec child s).result = (resolveStorageCmds exec child t).result :=
          fun child => (uniform_resolveStorageCmds hexec child).steady s t
        simp only [parseStorageBlocks_load hn hen, hn, List.cons.injEq, and_true, exists_eq_left', hen, true_imp_iff]
        constructor
        · rintro ⟨storages', child, config, hc, hr, h⟩
          exact ⟨⟨child, config, hc, hresolve child ▸ hr⟩, (parseStorageBlocks_ok_iff hexec t directives).mp ⟨_, h⟩⟩
        · rintro ⟨⟨child, config, hc, hr⟩, h⟩
          obtain ⟨storages', h⟩ := (parseStorageBlocks_ok_iff hexec t directives).mpr h
          exact ⟨storages', child, config, hc, (hresolve child).trans hr, h⟩
      · simp only [parseStorageBlocks_skip hn hen, hn, List.cons.injEq, and_true, exists_eq_left', hen, false_imp_iff,
          true_and]
        exact parseStorageBlocks_ok_iff hexec t directives
    · refine ⟨fun ⟨_, h⟩ => absurd (parseStorageBlocks_name h) hn, fun ⟨⟨name, h, _⟩, _⟩ => absurd ⟨name, h⟩ hn⟩

/-- The commands that the storage loop runs. -/
theorem parseStorageBlocks_log (hexec : exec.Pure) (t : σ) : ∀ (directives : List Directive) {block : ℕ}
    {storages storages' : AList fun _ : String => Loaded} {s : σ},
    (parseStorageBlocks exec enabled block directives storages s).result = .ok storages' →
    (parseStorageBlocks exec enabled block directives storages s).log = storageCommands exec t enabled directives
  | [], block, storages, storages', s, _ => rfl
  | directive :: directives, block, storages, storages', s, h => by
    obtain ⟨name, hn⟩ := parseStorageBlocks_name h
    by_cases hen : name ∈ enabled
    · obtain ⟨child, config, hc, hr, h'⟩ := (parseStorageBlocks_load hn hen).mp h
      rw [parseStorageBlocks_load_log hn hen hc hr, parseStorageBlocks_log hexec t directives h',
        (uniform_resolveStorageCmds hexec child s t).2]
      simp [storageCommands, hn, hen, blockCommands, hc]
    · rw [parseStorageBlocks_skip hn hen] at h ⊢
      rw [parseStorageBlocks_log hexec t directives h]
      simp [storageCommands, hn, hen]

/-- The storage loop keeps a storage, or not, by its name; and what it keeps does not depend on the others. -/
theorem parseStorageBlocks_lookup (hexec : exec.Pure) {directives : List Directive}
    {storages storages' : AList fun _ : String => Loaded} {s t : σ}
    (h : (parseStorageBlocks exec enabled 0 directives ∅ s).result = .ok storages)
    (h' : (parseStorageBlocks exec enabled' 0 directives ∅ t).result = .ok storages') (hsub : enabled' ⊆ enabled)
    (name : String) : storages'.lookup name = if name ∈ enabled' then storages.lookup name else none := by
  obtain ⟨hnil, hlast⟩ := parseStorageBlocks_ok name directives h
  obtain ⟨hnil', hlast'⟩ := parseStorageBlocks_ok name directives h'
  by_cases hname : name ∈ enabled'
  · rw [if_pos hname]
    rcases hp : (places name 0 directives).getLast? with _ | place
    · have hplaces := List.getLast?_eq_none_iff.mp hp
      rw [hnil (.inr hplaces), hnil' (.inr hplaces)]
    · obtain ⟨l, hl, hb, hf⟩ := hlast place (hsub hname) hp
      obtain ⟨l', hl', hb', hf'⟩ := hlast' place hname hp
      rw [hl, hl', hf.unique hexec hf' (hb.trans hb'.symm)]
  · rw [if_neg hname, hnil' (.inl hname), AList.lookup_empty]

end StorageLoop

/-! ## Filtered configurations -/

/-- The storages that a pair's block names. -/
def storageNames (child : Scfg) : List String :=
  ["storage_a", "storage_b"].filterMap fun field => (pairStorage child field).toOption

/-- The storages that the pairs called `names` use. -/
def Config.storagesOf (config : Config) (names : List String) : List String :=
  names.flatMap fun name => (config.pairs.lookup name).elim [] storageNames

/-- `filtered` is the part of `config` that the pairs called `names` use. -/
structure Config.Filtered (config : Config) (names : List String) (filtered : Config) : Prop where
  statusPath : filtered.statusPath = config.statusPath
  pairs : ∀ name, filtered.pairs.lookup name = if name ∈ names then config.pairs.lookup name else none
  storages : ∀ name,
    filtered.storages.lookup name = if name ∈ config.storagesOf names then config.storages.lookup name else none

/-- The commands that `parse_config` runs for a text, given the storages it loads. -/
def commandsRun (exec : Exec σ) (s : σ) (text : Scfg) (storages : List String) : List RawCommand :=
  (resolveCmdInplace exec text "status_path" s).log ++ storageCommands exec s storages (text.named "storage")

theorem mem_storageNames {child : Scfg} {name : String} : name ∈ storageNames child ↔ UsesStorage child name := by
  have hfield : ∀ field, (pairStorage child field).toOption = some name ↔ pairStorage child field = .ok name := by
    intro field
    cases pairStorage child field <;> simp [Except.toOption]
  simp [storageNames, UsesStorage, List.mem_filterMap, hfield]

theorem mem_storagesOf {config : Config} {names : List String} {name : String} : name ∈ config.storagesOf names ↔
    ∃ pair ∈ names, ∃ child, config.pairs.lookup pair = some child ∧ UsesStorage child name := by
  simp only [Config.storagesOf, List.mem_flatMap]
  refine exists_congr fun pair => and_congr_right fun _ => ?_
  cases config.pairs.lookup pair <;> simp [mem_storageNames]

/-- The names that `list_pair_names` lists are those of the pair directives. -/
theorem parsePairs_names : ∀ {directives : List Directive} {acc read : PairsRead}, parsePairs directives acc = .ok read →
    ∃ listed, directives.mapM (fun directive => context "Parsing pair directive" (takeSingleParam directive)) = .ok listed ∧
      ∀ name, name ∈ listed ↔ ∃ directive ∈ directives, directive.params = [name]
  | [], _, _, _ => ⟨[], rfl, by simp⟩
  | directive :: directives, acc, read, h => by
    obtain ⟨n, hn, hnew⟩ := parsePairs_name h
    have hrest : ∃ acc', parsePairs directives acc' = .ok read := by
      rcases hw : (acc.enabledPairs.wants n).1 with _ | _
      · exact ⟨_, parsePairs_skip hn hnew hw ▸ h⟩
      · obtain ⟨child, a, b, -, -, -, hr⟩ := (parsePairs_enable hn hnew hw).mp h
        exact ⟨_, hr⟩
    obtain ⟨acc', hrest⟩ := hrest
    obtain ⟨listed, hlisted, hmem⟩ := parsePairs_names hrest
    refine ⟨n :: listed, ?_, fun name => ?_⟩
    · rw [List.mapM_cons, hlisted, context_eq_ok.mpr (takeSingleParam_eq_ok.mpr hn)]
      rfl
    · rw [List.mem_cons, hmem, List.exists_mem_cons_iff, hn, List.singleton_inj, eq_comm]

section Narrow

variable {config : Config} {text status : Scfg} {read : PairsRead} {w : σ} {names : List String}

/-- Without a filter, the storages enabled are those of all pairs. -/
theorem Config.ReadFrom.enabledStorages (h : config.ReadFrom exec text .new w status read) (name : String) :
    name ∈ read.enabledStorages ↔ name ∈ config.storagesOf config.pairs.keys := by
  have hcons : read.Consistent := parsePairs_consistent (fun n => by simp) h.pairsRead
  rw [hcons name, mem_storagesOf, h.pairs]
  refine exists_congr fun pair => ?_
  rw [← exists_and_left]
  refine exists_congr fun child => ⟨fun hl => ⟨?_, hl⟩, And.right⟩
  exact AList.lookup_isSome.mp (Option.isSome_of_eq_some hl.1)

/-- With a filter, the pair loop goes through as well, and reads the part asked for. -/
theorem Config.ReadFrom.narrow (h : config.ReadFrom exec text .new w status read) (hnames : names ≠ []) :
    ∃ read', parsePairs (text.named "pair") ⟨.asked names, ∅, []⟩ = .ok read' ∧
      (read'.enabledPairs.nextMissing = none ↔
        ∀ name ∈ names, ∃ directive ∈ text.named "pair", directive.params = [name]) ∧
      (∀ name, read'.pairs.lookup name = if name ∈ names then config.pairs.lookup name else none) ∧
      ∀ name, name ∈ read'.enabledStorages ↔ name ∈ config.storagesOf names := by
  obtain ⟨set, hset, hmem⟩ := FilterNames.asked_names hnames
  have hnarrow : PairsRead.Narrows ⟨.new, ∅, []⟩ set ⟨.asked names, ∅, []⟩ := ⟨rfl, hset, fun _ hn => hn⟩
  obtain ⟨read', set', hread', hleft, hset', hpairs⟩ := parsePairs_narrow hnarrow h.pairsRead
  have hlookup : ∀ name, read'.pairs.lookup name = if name ∈ names then config.pairs.lookup name else none := by
    intro name
    rw [hpairs, h.pairs]
    simp [hmem]
  refine ⟨read', hread', ?_, hlookup, fun name => ?_⟩
  · rw [FilterNames.nextMissing_eq_none, hleft]
    simp only [Option.some.injEq, forall_eq', List.eq_nil_iff_forall_not_mem, hset', hmem, not_and, not_forall, not_not,
      exists_prop]
  · have hcons : read'.Consistent := parsePairs_consistent (fun n => by simp) hread'
    rw [hcons name, mem_storagesOf]
    refine exists_congr fun pair => ?_
    rw [← exists_and_left]
    refine exists_congr fun child => ?_
    rw [hlookup]
    by_cases hp : pair ∈ names <;> simp [hp]

theorem storagesOf_subset (config : Config) (names : List String) :
    config.storagesOf names ⊆ config.storagesOf config.pairs.keys := by
  intro name hname
  obtain ⟨pair, -, child, hl, hu⟩ := mem_storagesOf.mp hname
  exact mem_storagesOf.mpr ⟨pair, AList.lookup_isSome.mp (Option.isSome_of_eq_some hl), child, hl, hu⟩

/-- A filtered run ends well if and only if there are pairs of all names asked for. -/
theorem Config.ReadFrom.filtered_ok_iff (hexec : exec.Pure) (ht : scfg rawConfig = .ok text)
    (h : config.ReadFrom exec text .new w status read) (hnames : names ≠ []) (w' : σ) :
    (∃ filtered, (parseConfig scfg exec rawConfig (.asked names) w').result = .ok filtered) ↔
      ∀ name ∈ names, ∃ directive ∈ text.named "pair", directive.params = [name] := by
  obtain ⟨read', hread', hmissing, -, henabled⟩ := h.narrow hnames
  rw [← hmissing]
  constructor
  · rintro ⟨filtered, hf⟩
    obtain ⟨status', read'', hread⟩ := (parseConfig_result_ok ht).mp hf
    obtain rfl : read' = read'' := Except.ok.inj (hread'.symm.trans hread.pairsRead)
    exact hread.nothingMissing
  · intro hnone
    have hresolved : (resolveCmdInplace exec text "status_path" w').result = .ok status := by
      rw [(uniform_resolveCmdInplace hexec).steady w' w, h.resolved]
    have hblocks := (parseStorageBlocks_ok_iff hexec w (text.named "storage")).mp ⟨_, h.storages⟩
    have hloads : ∃ storages, (parseStorageBlocks exec read'.enabledStorages 0 (text.named "storage") ∅
        (resolveCmdInplace exec text "status_path" w').world).result = .ok storages := by
      refine (parseStorageBlocks_ok_iff hexec w (text.named "storage")).mpr fun directive hd => ?_
      obtain ⟨name, hn, hload⟩ := hblocks directive hd
      refine ⟨name, hn, fun hname => hload ?_⟩
      exact (h.enabledStorages name).mpr (storagesOf_subset config names ((henabled name).mp hname))
    obtain ⟨storages, hstorages⟩ := hloads
    exact ⟨⟨config.statusPath, read'.pairs, storages⟩, (parseConfig_result_ok ht).mpr
      ⟨status, read', hresolved, h.statusPath, hread', hnone, rfl, hstorages⟩⟩

/-- A filtered run that ends well returns the part asked for. -/
theorem Config.ReadFrom.filtered (hexec : exec.Pure) (ht : scfg rawConfig = .ok text)
    (h : config.ReadFrom exec text .new w status read) (hnames : names ≠ []) {w' : σ} {filtered : Config}
    (hf : (parseConfig scfg exec rawConfig (.asked names) w').result = .ok filtered) : config.Filtered names filtered := by
  obtain ⟨read', hread', -, hpairs, henabled⟩ := h.narrow hnames
  obtain ⟨status', read'', hread⟩ := (parseConfig_result_ok ht).mp hf
  obtain rfl : read' = read'' := Except.ok.inj (hread'.symm.trans hread.pairsRead)
  obtain rfl : status = status' := by
    have hsteady : (resolveCmdInplace exec text "status_path" w).result =
        (resolveCmdInplace exec text "status_path" w').result := (uniform_resolveCmdInplace hexec).steady w w'
    rw [h.resolved, hread.resolved] at hsteady
    exact Except.ok.inj hsteady
  refine ⟨?_, fun name => hread.pairs ▸ hpairs name, fun name => ?_⟩
  · obtain ⟨child, hc⟩ := h.statusPath
    obtain ⟨child', hc'⟩ := hread.statusPath
    simpa using congrArg (List.map Directive.params) (hc'.symm.trans hc)
  · have hsub : read'.enabledStorages ⊆ read.enabledStorages := fun name hname =>
      (h.enabledStorages name).mpr (storagesOf_subset config names ((henabled name).mp hname))
    rw [parseStorageBlocks_lookup hexec h.storages hread.storages hsub]
    simp [henabled]

/-- The commands of a run that ends well, by the storages that its pairs use. -/
theorem Config.ReadFrom.log (hexec : exec.Pure) (ht : scfg rawConfig = .ok text) {filter : FilterNames}
    (h : config.ReadFrom exec text filter w status read) {storages : List String}
    (henabled : ∀ name, name ∈ read.enabledStorages ↔ name ∈ storages) (t : σ) :
    (parseConfig scfg exec rawConfig filter w).log = commandsRun exec t text storages := by
  rw [parseConfig_log ht h, parseStorageBlocks_log hexec t _ h.storages, storageCommands_congr henabled,
    (uniform_resolveCmdInplace hexec w t).2]
  rfl

end Narrow

/-- **Filter transparency**: where a text loads without a filter, it loads for the names of some pairs if and only if
it has pairs of all these names. What is then returned is the part of the configuration that these pairs use, and the
commands run are those of the status path and of this part, in the order they are run in without a filter. -/
theorem filter_transparent (hexec : exec.Pure) {config : Config} {w : σ}
    (hconfig : (parseConfig scfg exec rawConfig .new w).result = .ok config) {names : List String} (hnames : names ≠ []) :
    ∃ text listed, scfg rawConfig = .ok text ∧ listPairNames scfg rawConfig = .ok listed ∧ ∀ w' : σ,
      ((∃ filtered, (parseConfig scfg exec rawConfig (.asked names) w').result = .ok filtered) ↔ names ⊆ listed) ∧
      ∀ filtered, (parseConfig scfg exec rawConfig (.asked names) w').result = .ok filtered →
        config.Filtered names filtered ∧
        (parseConfig scfg exec rawConfig .new w).log = commandsRun exec w text (config.storagesOf config.pairs.keys) ∧
        (parseConfig scfg exec rawConfig (.asked names) w').log = commandsRun exec w text (config.storagesOf names) ∧
        (parseConfig scfg exec rawConfig (.asked names) w').log.Sublist (parseConfig scfg exec rawConfig .new w).log := by
  obtain ⟨text, -, -, ht, -⟩ := parseConfig_ok hconfig
  obtain ⟨status, read, hread⟩ := (parseConfig_result_ok ht).mp hconfig
  obtain ⟨listed, hlisted, hmem⟩ := parsePairs_names hread.pairsRead
  refine ⟨text, listed, ht, ?_, fun w' => ⟨?_, fun filtered hf => ?_⟩⟩
  · rw [listPairNames, listNames, ht]
    exact hlisted
  · rw [hread.filtered_ok_iff hexec ht hnames]
    exact forall₂_congr fun name _ => (hmem name).symm
  · obtain ⟨read', hread', -, -, henabled⟩ := hread.narrow hnames
    obtain ⟨status', read'', hread''⟩ := (parseConfig_result_ok ht).mp hf
    obtain rfl : read' = read'' := Except.ok.inj (hread'.symm.trans hread''.pairsRead)
    have hlog := hread.log hexec ht hread.enabledStorages w
    have hlog' := hread''.log hexec ht henabled w
    refine ⟨hread.filtered hexec ht hnames hf, hlog, hlog', ?_⟩
    rw [hlog, hlog']
    exact (storageCommands_sublist (storagesOf_subset config names) w _).append_left _

/-- A storage whose path a command prints. -/
def askedPath (name : String) : Directive :=
  ⟨[name], some [("type", ⟨["vdir/vcard"], none⟩),
    ("path", ⟨[], some [("cmd", ⟨["find", name], none⟩)]⟩)]⟩

/-- A pair of the storages `a` and `b`. -/
def pairOf (name a b : String) : Directive :=
  ⟨[name], some [("storage_a", ⟨[a], none⟩), ("storage_b", ⟨[b], none⟩)]⟩

/-- Two pairs that share one of the two storages. -/
def twoPairs : Scfg :=
  [("status_path", ⟨["/status"], none⟩), ("pair", pairOf "p" "home" "home"), ("pair", pairOf "q" "work" "home"),
    ("storage", askedPath "work"), ("storage", askedPath "home")]

theorem filter_transparent_shared : ∃ config filtered : Config,
    (parseConfig (fun _ => .ok twoPairs) printSecret "" .new ()).result = .ok config ∧
      (parseConfig (fun _ => .ok twoPairs) printSecret "" (.asked ["p", "p"]) ()).result = .ok filtered ∧
      config.Filtered ["p", "p"] filtered ∧
      (parseConfig (fun _ => .ok twoPairs) printSecret "" (.asked ["p", "p"]) ()).log = [⟨"find", ["home"]⟩] := by
  have hexec : printSecret.Pure := fun _ _ _ => rfl
  have hconfig : (parseConfig (fun _ => .ok twoPairs) printSecret "" .new ()).result = .ok _ := rfl
  have hfiltered : (parseConfig (fun _ => .ok twoPairs) printSecret "" (.asked ["p", "p"]) ()).result = .ok _ := rfl
  obtain ⟨text, listed, ht, -, hrun⟩ := filter_transparent hexec hconfig (List.cons_ne_nil "p" ["p"])
  obtain rfl : twoPairs = text := Except.ok.inj ht
  obtain ⟨hpart, -, hlog, -⟩ := (hrun ()).2 _ hfiltered
  exact ⟨_, _, rfl, hfiltered, hpart, hlog.trans rfl⟩

end Pimsync
