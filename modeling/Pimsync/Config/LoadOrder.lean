import Pimsync.Config.ParseStorages

/-!
# When the tasks of `parse_storages` begin

A task may begin as soon as it is spawned, while commands of later blocks are still to be run. `init_after_loading_iff`
says exactly when no interleaving lets `init_storage` begin too early: when nothing is left to do after the first block
that is loaded (`InOrder`).
-/

namespace Pimsync

variable {σ S : Type}

/-! ## Traces in order -/

/-- What may happen once a storage is being initialised: no command is run, no name that was asked for is found, and the
loop does not fail. -/
def LoadLabel.Late : LoadLabel S → Prop
  | .load (.spawned _) => True
  | .load _ | .fail _ => False
  | _ => True

/-- No step of `init_storage` comes before the last command, the last name to be found, or a failure of the loop. -/
def Orderly (tr : List (LoadLabel S)) : Prop := ∀ tr₁ i tr₂, tr = tr₁ ++ .init i :: tr₂ → ∀ l ∈ tr₂, l.Late

theorem Orderly.snoc {tr : List (LoadLabel S)} {l : LoadLabel S} (h : Orderly tr) (hl : ∀ i, .init i ∈ tr → l.Late) :
    Orderly (tr ++ [l]) := by
  intro tr₁ i tr₂ he l' hl'
  rcases List.eq_nil_or_concat tr₂ with rfl | ⟨tr₃, l'', rfl⟩
  · cases hl'
  · have he' : tr ++ [l] = (tr₁ ++ .init i :: tr₃) ++ [l''] := by simpa using he
    obtain ⟨rfl, h₁⟩ := List.append_inj' he' rfl
    cases h₁
    have hmem : l' ∈ tr₃ ∨ l' = l := by simpa using hl'
    rcases hmem with hmem | rfl
    · exact h tr₁ i tr₃ rfl l' hmem
    · exact hl i (by simp)

/-- After the loop has spawned a task, it spawns others and does nothing else, and does not fail. -/
def LoopOrderly (loop : Ran σ LoadEvent Error Unit) : Prop :=
  ∀ pre task post, loop.log = pre ++ .spawned task :: post → (∀ e ∈ post, ∃ t, e = .spawned t) ∧ loop.result = .ok ()

theorem exists_spawned {log : List LoadEvent} (h : spawnedTasks log ≠ []) :
    ∃ pre task post, log = pre ++ .spawned task :: post := by
  obtain ⟨task, htask⟩ := List.exists_mem_of_ne_nil _ h
  obtain ⟨e, he, ht⟩ := List.mem_filterMap.mp htask
  obtain ⟨pre, post, rfl⟩ := List.append_of_mem he
  cases e with
  | spawned t => exact ⟨pre, t, post, rfl⟩
  | _ => cases ht

section Runs

variable {loop : Ran σ LoadEvent Error Unit} {tr : List (LoadLabel S)} {s s' : LoadState S} {l : LoadLabel S}

/-- Once a task has begun, an orderly loop takes only late steps. -/
theorem step_late (h : LoadInv loop tr s) (hloop : LoopOrderly loop) (hs : LoadStep loop.result s l s') {i : ℕ}
    (hi : .init i ∈ tr) : l.Late := by
  obtain ⟨pre, task, mid, hmid⟩ := exists_spawned (h.spawned i hi)
  cases hs with
  | load event rest tasks =>
    have hlog := (h.loading _ rfl).1
    rw [hmid, List.append_assoc, List.cons_append] at hlog
    obtain ⟨t, rfl⟩ := (hloop pre task _ hlog.symm).1 event (by simp)
    trivial
  | fail e tasks hres =>
    have hlog := (h.loading _ rfl).1
    rw [List.append_nil, hmid] at hlog
    have hok := (hloop pre task mid hlog.symm).2
    rw [hres] at hok; cases hok
  | _ => trivial

/-- Every run is in order if and only if the loop is. -/
theorem runs_orderly_iff (S : Type) (loop : Ran σ LoadEvent Error Unit) :
    (∀ tr s, (parseStorages S loop).Run (.initial S loop) tr s → Orderly tr) ↔ LoopOrderly loop := by
  constructor
  · intro h pre task post hlog
    -- the first task begins right after it was spawned, and the loop goes on to its end
    obtain ⟨first, ts, hts⟩ : ∃ first ts, spawnedTasks (pre ++ [.spawned task]) = first :: ts := by
      refine List.exists_cons_of_ne_nil ?_
      rw [spawnedTasks_append]
      simp [spawnedTasks, LoadEvent.task?]
    have h₁ : (parseStorages S loop).Run _ _ _ := run_load (pre ++ [.spawned task]) post []
    rw [hts, show pre ++ [.spawned task] ++ post = loop.log by simp [hlog]] at h₁
    have h₂ : (parseStorages S loop).Run ⟨.loading post, [] ++ (first :: ts).map (·, .running .ready)⟩ [.init 0] _ :=
      Lts.Run.single (.init _ _ 0 first .ready rfl)
    have h₃ : ∀ tasks, (parseStorages S loop).Run ⟨.loading post, tasks⟩ (post.map .load)
        ⟨.loading [], tasks ++ (spawnedTasks post).map (·, .running .ready)⟩ := fun tasks => by
      simpa using run_load post [] tasks
    have hrun := (h₁.append h₂).append (h₃ _)
    have hpost : ∀ e ∈ post, ∃ t, e = .spawned t := by
      intro e he
      have hlate := h _ _ hrun ((pre ++ [LoadEvent.spawned task]).map .load) 0 (post.map .load) (by simp) (.load e)
        (List.mem_map_of_mem he)
      cases e with
      | spawned t => exact ⟨t, rfl⟩
      | _ => exact hlate.elim
    refine ⟨hpost, ?_⟩
    cases hres : loop.result with
    | ok _ => rfl
    | error e =>
      have h₄ : ∀ tasks, (parseStorages S loop).Run ⟨.loading [], tasks⟩ [.fail e]
          ⟨.returned (.error e), JoinSet.abort tasks⟩ := fun tasks => Lts.Run.single (.fail e tasks hres)
      exact (h _ _ (hrun.append (h₄ _)) ((pre ++ [LoadEvent.spawned task]).map .load) 0
        (post.map .load ++ [.fail e]) (by simp)
        (.fail e) (by simp)).elim
  · intro hloop tr s hr
    have h : LoadInv loop tr s ∧ Orderly tr := by
      refine hr.history (I := fun tr s => LoadInv loop tr s ∧ Orderly tr) ⟨loadInv_initial, fun _ _ _ he => ?_⟩
        fun tr s l u h _ hs => ⟨step_loadInv h.1 hs, h.2.snoc fun i => step_late h.1 hloop hs⟩
      simp at he
    exact h.2

end Runs

/-! ## The loop in order -/

variable {exec : Exec σ}

/-- No name is left to look for, and every block left is well formed and, if it is wanted, needs no command. -/
def NothingLeft (filter : FilterNames) (directives : List Directive) : Prop :=
  filter.nextMissing = none ∧ ∀ d ∈ directives, (∃ name, d.params = [name]) ∧
    (filter.names = none → ∃ block : Scfg, d.child = some block ∧ block.NoCommands)

/-- If the first block that is wanted is loaded, nothing is left to do after it. -/
def InOrder (exec : Exec σ) (filter : FilterNames) (directives : List Directive) (s : σ) : Prop :=
  ∀ pre d post name (block : Scfg), directives = pre ++ d :: post →
    (∀ d' ∈ pre, ∃ n, d'.params = [n] ∧ ¬ filter.Selects n) → d.params = [name] → filter.Selects name →
    d.child = some block → (∃ storage, (resolveStorageCmds exec block s).result = .ok storage) →
    NothingLeft (filter.wants name).2 post

section Loop

variable {block : ℕ} {directive : Directive} {directives : List Directive} {filter : FilterNames} {name : String}

theorem loadAll_skip (hn : directive.params = [name]) (hw : ¬ filter.Selects name) (s : σ) :
    loadAll exec block (directive :: directives) filter s = loadAll exec (block + 1) directives filter s := by
  have hw' : (filter.wants name).1 = false := Bool.eq_false_iff.mpr fun h => hw (FilterNames.wants_fst.mp h)
  have hrest : (filter.wants name).2 = filter := by
    obtain ⟨_ | set⟩ := filter
    · exact absurd (fun _ h => by cases h) hw
    · have hmem : name ∉ set := fun h => hw fun _ e => Option.some.inj e ▸ h
      simp only [FilterNames.wants, FilterNames.mk.injEq, Option.some.injEq, List.filter_eq_self, decide_eq_true_eq]
      rintro n hset rfl
      exact hmem hset
  have h : loadStorages exec block (directive :: directives) filter s = _ := loadStorages_skip hn hw' s
  rw [hrest] at h
  exact Prog.bind_congr_run h

theorem loadAll_load (hn : directive.params = [name]) (hw : filter.Selects name) (s : σ) :
    loadAll exec block (directive :: directives) filter s =
      (loadBlock exec block directive name filter.names.isSome >>= fun _ =>
        loadAll exec (block + 1) directives (filter.wants name).2) s := by
  rw [loadAll, Prog.bind_congr_run (loadStorages_load hn (FilterNames.wants_fst.mpr hw) s), bind_assoc]
  rfl

theorem loadAll_malformed (hn : ¬ ∃ name, directive.params = [name]) (s : σ) :
    (∃ e, (loadAll exec block (directive :: directives) filter s).result = .error e) ∧
      (loadAll exec block (directive :: directives) filter s).log = [] := by
  rcases h : takeSingleParam directive with e | name
  · simp [loadAll, loadStorages, Prog.bind_run, h, context, Except.mapError]
  · exact absurd ⟨name, takeSingleParam_eq_ok.mp h⟩ hn

theorem loadBlock_of_resolved {child config : Scfg} {requested : Bool} {s : σ} (hc : directive.child = some child)
    (hr : (resolveStorageCmds exec child s).result = .ok config) :
    (loadBlock exec block directive name requested s).result = .ok () := by
  rcases h : resolveStorageCmds exec child s with ⟨r, t, l⟩
  rw [h] at hr
  obtain rfl : r = .ok config := hr
  cases requested <;> simp [loadBlock, Prog.bind_run, hc, orContext, h]

/-- A block that cannot be loaded spawns nothing. -/
theorem loadBlock_error {requested : Bool} {s : σ} {e : Error}
    (h : (loadBlock exec block directive name requested s).result = .error e) (task : Task) :
    .spawned task ∉ (loadBlock exec block directive name requested s).log := by
  obtain ⟨params, _ | child⟩ := directive
  · cases requested <;> simp [loadBlock, Prog.bind_run, orContext]
  rcases hr : resolveStorageCmds exec child s with ⟨_ | config, t, l⟩
  · cases requested <;> simp [loadBlock, Prog.bind_run, orContext, hr]
  · rw [loadBlock_of_resolved rfl (by rw [hr])] at h; cases h

/-- A block is loaded in silence if and only if nobody asked for it and it needs no command. -/
theorem loadBlock_quiet {requested : Bool} {s : σ} :
    ((∀ e ∈ (loadBlock exec block directive name requested s).log, ∃ t, e = .spawned t) ∧
      (loadBlock exec block directive name requested s).result = .ok ()) ↔
        requested = false ∧ ∃ child : Scfg, directive.child = some child ∧ child.NoCommands := by
  constructor
  · rintro ⟨hlog, hok⟩
    obtain ⟨child, config, hc, hr, hl⟩ := loadBlock_ok hok
    rw [hl] at hlog
    refine ⟨?_, child, hc, resolveStorageCmds_silent.mp ⟨⟨config, hr⟩, ?_⟩⟩
    · cases requested
      · rfl
      · obtain ⟨t, ht⟩ := hlog (.found name) (by simp)
        cases ht
    · refine List.eq_nil_iff_forall_not_mem.mpr fun cmd hcmd => ?_
      obtain ⟨t, ht⟩ := hlog (.ran cmd) (by simp [hcmd])
      cases ht
  · rintro ⟨rfl, child, hc, hno⟩
    obtain ⟨⟨config, hr⟩, hl⟩ := resolveStorageCmds_silent.mpr hno
    have hok : (loadBlock exec block directive name false s).result = .ok () := loadBlock_of_resolved hc hr
    obtain ⟨child', config', hc', -, hlog⟩ := loadBlock_ok hok
    obtain rfl := Option.some.inj (hc.symm.trans hc')
    refine ⟨?_, hok⟩
    rw [hlog, hl]
    simp

end Loop

/-- Whoever looks for a name that is left, or for none, has none left to look for. -/
theorem names_of_nextMissing {filter : FilterNames} {name : String} (hm : filter.nextMissing = none)
    (hw : filter.Selects name) : filter.names = none := by
  obtain ⟨_ | set⟩ := filter
  · rfl
  · have hmem := hw set rfl
    rw [FilterNames.nextMissing_eq_none.mp hm set rfl] at hmem
    cases hmem

/-- A loop is quiet if and only if it has nothing left to do. -/
theorem loadAll_quiet : ∀ (directives : List Directive) {block : ℕ} {filter : FilterNames} {s : σ},
    ((∀ e ∈ (loadAll exec block directives filter s).log, ∃ t, e = .spawned t) ∧
      (loadAll exec block directives filter s).result = .ok ()) ↔ NothingLeft filter directives
  | [], block, filter, s => by
    simp [loadAll, loadStorages, NothingLeft, checkMissing_eq_ok]
  | directive :: directives, block, filter, s => by
    by_cases hn : ∃ name, directive.params = [name]
    · obtain ⟨name, hn⟩ := hn
      by_cases hw : filter.Selects name
      · rw [loadAll_load hn hw]
        constructor
        · rintro ⟨hlog, hok⟩
          obtain ⟨_, hb, hrest⟩ := Prog.bind_result_ok.mp hok
          rw [Prog.bind_log hb] at hlog
          obtain ⟨hreq, child, hc, hno⟩ :=
            loadBlock_quiet.mp ⟨fun e he => hlog e (List.mem_append_left _ he), hb⟩
          have hnames : filter.names = none := by simpa using hreq
          rw [FilterNames.wants_none hnames] at hlog hrest
          obtain ⟨hm, hall⟩ := (loadAll_quiet directives).mp ⟨fun e he => hlog e (List.mem_append_right _ he), hrest⟩
          exact ⟨hm, List.forall_mem_cons.mpr ⟨⟨⟨name, hn⟩, fun _ => ⟨child, hc, hno⟩⟩, hall⟩⟩
        · rintro ⟨hm, hall⟩
          obtain ⟨⟨-, hchild⟩, hall⟩ := List.forall_mem_cons.mp hall
          have hnames := names_of_nextMissing hm hw
          obtain ⟨hlog, hb⟩ : (∀ e ∈ (loadBlock exec block directive name filter.names.isSome s).log, ∃ t, e = .spawned t) ∧
              (loadBlock exec block directive name filter.names.isSome s).result = .ok () :=
            loadBlock_quiet.mpr ⟨by simp [hnames], hchild hnames⟩
          rw [FilterNames.wants_none hnames, Prog.bind_log hb]
          obtain ⟨hlog', hrest⟩ := (loadAll_quiet directives).mpr ⟨hm, hall⟩
          refine ⟨fun e he => ?_, Prog.bind_result_ok.mpr ⟨(), hb, hrest⟩⟩
          rcases List.mem_append.mp he with he | he
          · exact hlog e he
          · exact hlog' e he
      · rw [loadAll_skip hn hw, loadAll_quiet directives, NothingLeft, NothingLeft, List.forall_mem_cons]
        have hnames : filter.names ≠ none := fun h => hw fun set hs => by rw [h] at hs; cases hs
        simp [hn, hnames]
    · have he : ∃ e, (loadAll exec block (directive :: directives) filter s).result = .error e :=
        (loadAll_malformed hn s).1
      obtain ⟨e, he⟩ := he
      rw [he]
      simp [NothingLeft, hn]

theorem inOrder_malformed {directive : Directive} {directives : List Directive} {filter : FilterNames}
    (hn : ¬ ∃ name, directive.params = [name]) (s : σ) : InOrder exec filter (directive :: directives) s := by
  intro pre d post name block hsplit hpre hparams
  rcases List.cons_eq_append_iff.mp hsplit with ⟨rfl, hd⟩ | ⟨pre', rfl, -⟩
  · cases hd
    exact absurd ⟨name, hparams⟩ hn
  · obtain ⟨n, hparams', -⟩ := hpre directive (List.mem_cons_self ..)
    exact absurd ⟨n, hparams'⟩ hn

theorem inOrder_skip {directive : Directive} {directives : List Directive} {filter : FilterNames} {n : String}
    (hn : directive.params = [n]) (hw : ¬ filter.Selects n) (s : σ) :
    InOrder exec filter (directive :: directives) s ↔ InOrder exec filter directives s := by
  constructor
  · intro h pre d post name block hsplit hpre
    exact h (directive :: pre) d post name block (by rw [hsplit]; rfl) (List.forall_mem_cons.mpr ⟨⟨n, hn, hw⟩, hpre⟩)
  · intro h pre d post name block hsplit hpre hparams hsel
    rcases List.cons_eq_append_iff.mp hsplit with ⟨rfl, hd⟩ | ⟨pre', rfl, htl⟩
    · cases hd
      obtain rfl : n = name := by simpa [hn] using hparams
      exact absurd hsel hw
    · exact h pre' d post name block htl (List.forall_mem_cons.mp hpre).2 hparams hsel

/-- The first block is wanted: it decides. -/
theorem inOrder_load {directive : Directive} {directives : List Directive} {filter : FilterNames} {n : String}
    (hn : directive.params = [n]) (hw : filter.Selects n) (s : σ) :
    InOrder exec filter (directive :: directives) s ↔ ∀ block : Scfg, directive.child = some block →
      (∃ storage, (resolveStorageCmds exec block s).result = .ok storage) →
      NothingLeft (filter.wants n).2 directives := by
  constructor
  · intro h block
    exact h [] directive directives n block rfl (by simp) hn hw
  · intro h pre d post name block hsplit hpre hparams _ hchild hres
    rcases List.cons_eq_append_iff.mp hsplit with ⟨rfl, hd⟩ | ⟨pre', rfl, -⟩
    · cases hd
      obtain rfl : n = name := by simpa [hn] using hparams
      exact h block hchild hres
    · obtain ⟨n', hparams', hsel⟩ := hpre directive (List.mem_cons_self ..)
      obtain rfl : n = n' := by simpa [hn] using hparams'
      exact absurd hw hsel

/-- A loop that has spawned its first task is in order if and only if the rest is quiet. -/
theorem loopOrderly_spawned {loop : Ran σ LoadEvent Error Unit} {log log' : List LoadEvent} {task : Task}
    (hl : loop.log = log ++ .spawned task :: log') (h : ∀ t, .spawned t ∉ log) :
    LoopOrderly loop ↔ (∀ e ∈ log', ∃ t, e = .spawned t) ∧ loop.result = .ok () := by
  constructor
  · intro ho
    exact ho log task log' hl
  · rintro ⟨hlog, hr⟩ pre task' post hsplit
    refine ⟨fun e he => ?_, hr⟩
    rw [hl] at hsplit
    rcases List.append_eq_append_iff.mp hsplit with ⟨as, -, hrest⟩ | ⟨bs, rfl, hrest⟩
    · cases as <;> cases hrest <;> exact hlog e (by simp [he])
    · cases bs with
      | nil => cases hrest; exact hlog e he
      | cons => cases hrest; exact absurd (by simp) (h task')

/-- **The loop is in order** if and only if nothing is left to do after the first block that is loaded. -/
theorem loadAll_orderly : ∀ (directives : List Directive) {block : ℕ} {filter : FilterNames} {s : σ},
    LoopOrderly (loadAll exec block directives filter s) ↔ InOrder exec filter directives s
  | [], block, filter, s => by
    constructor
    · intro _ pre d post _ _ hsplit
      cases pre <;> cases hsplit
    · intro _ pre task post hsplit
      have hlog : (loadAll exec block [] filter s).log = [] := by simp [loadAll, loadStorages]
      rw [hlog] at hsplit
      cases pre <;> cases hsplit
  | directive :: directives, block, filter, s => by
    by_cases hn : ∃ name, directive.params = [name]
    · obtain ⟨name, hn⟩ := hn
      by_cases hw : filter.Selects name
      · rw [loadAll_load hn hw, inOrder_load hn hw]
        cases hb : (loadBlock exec block directive name filter.names.isSome s).result with
        | error e =>
          refine iff_of_true (fun pre task post hsplit => ?_) fun child hchild hresolved => ?_
          · rw [Prog.bind_log_error hb] at hsplit
            exact absurd (by simp [hsplit]) (loadBlock_error hb task)
          · obtain ⟨config, hconfig⟩ := hresolved
            rw [loadBlock_of_resolved hchild hconfig] at hb; cases hb
        | ok =>
          obtain ⟨child, config, hchild, hconfig, hlog⟩ := loadBlock_ok hb
          have hsplit := Prog.bind_log (f := fun _ => loadAll exec (block + 1) directives (filter.wants name).2) hb
          rw [hlog, List.append_assoc, List.singleton_append] at hsplit
          have hquiet : ∀ t, .spawned t ∉ (if filter.names.isSome then [LoadEvent.found name] else []) ++
              (resolveStorageCmds exec child s).log.map .ran := fun t => by cases filter.names.isSome <;> simp
          have hres := Prog.bind_result_ok
            (f := fun _ => loadAll exec (block + 1) directives (filter.wants name).2) (b := ())
            (p := loadBlock exec block directive name filter.names.isSome) (s := s)
          simp only [hb, exists_const, true_and] at hres
          rw [loopOrderly_spawned hsplit hquiet, hres, loadAll_quiet directives]
          exact ⟨fun h _ _ _ => h, fun h => h child hchild ⟨config, hconfig⟩⟩
      · rw [loadAll_skip hn hw, inOrder_skip hn hw]
        exact loadAll_orderly directives
    · refine iff_of_true (fun pre task post hsplit => ?_) (inOrder_malformed hn s)
      rw [(loadAll_malformed hn s).2] at hsplit
      cases pre <;> cases hsplit

/-- **`init_storage` waits for the loop**, in every run, if and only if nothing is left to do after the first block that is
loaded. -/
theorem init_after_loading_iff (S : Type) (scfg : String → Except Error Scfg) (exec : Exec σ) (rawConfig : String)
    (filter : FilterNames) (w : σ) :
    (∀ tr s, (parseStorages S (startStorages scfg exec rawConfig filter w)).Run
        (.initial S (startStorages scfg exec rawConfig filter w)) tr s → Orderly tr) ↔
      ∀ text, scfg rawConfig = .ok text → InOrder exec filter (text.named "storage") w := by
  rw [runs_orderly_iff]
  cases ht : scfg rawConfig with
  | error e =>
    refine iff_of_true (fun pre task post hsplit => ?_) fun _ h => by cases h
    have hlog : (startStorages scfg exec rawConfig filter w).log = [] := by
      simp [startStorages, ht, context, Except.mapError, Prog.bind_run]
    rw [hlog] at hsplit
    cases pre <;> cases hsplit
  | ok text =>
    have hrun : startStorages scfg exec rawConfig filter w = loadAll exec 0 (text.named "storage") filter w := by
      simp [startStorages, ht, context, Except.mapError, Prog.bind_run]
    rw [hrun, loadAll_orderly]
    exact ⟨fun h _ he => Except.ok.inj he ▸ h, fun h => h text rfl⟩

/-- Two storages in two directories; a command prints the second. -/
def twoDirectories : Scfg :=
  [("storage", ⟨["a"], some [("type", ⟨["vdir/icalendar"], none⟩), ("path", ⟨["/a"], none⟩)]⟩),
   ("storage", ⟨["b"], some [("type", ⟨["vdir/icalendar"], none⟩), ("path", ⟨[], some [("cmd", ⟨["find"], none⟩)]⟩)]⟩)]

def firstDirectory : Task := ⟨"a", 0, [("type", ⟨["vdir/icalendar"], none⟩), ("path", ⟨["/a"], none⟩)]⟩

/-- Every command exits with a failure. -/
def noCommand : Exec Unit := fun _ s => (.exited (some 1) (.ok ""), s)

/-- **A storage is initialised too early**: its task begins before the command for the second storage is run, which
fails. -/
theorem init_before_command : ¬ ∀ (exec : Exec Unit) (tr : List (LoadLabel Unit)) (s : LoadState Unit),
    (parseStorages Unit (startStorages (fun _ => .ok twoDirectories) exec "" .new ())).Run
      (.initial Unit (startStorages (fun _ => .ok twoDirectories) exec "" .new ())) tr s → Orderly tr := by
  intro h
  have hrun := h noCommand [.load (.spawned firstDirectory), .init 0, .load (.ran ⟨"find", []⟩), _] _ <|
    Lts.Run.cons (.load _ _ _) <| Lts.Run.cons (.init _ _ 0 firstDirectory .ready rfl) <|
    Lts.Run.cons (.load _ _ _) <| Lts.Run.single (.fail _ _ rfl)
  exact hrun [.load (.spawned firstDirectory)] 0 [.load (.ran ⟨"find", []⟩), _] rfl (.load (.ran ⟨"find", []⟩)) (by simp)

end Pimsync
