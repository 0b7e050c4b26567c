import Pimsync.MainSafe
import Pimsync.RepairRuns

/-!
# How the program ends

- `main_not_stuck`: until it has ended, `main` can go on, or a task that it waits for can;
- `main_ended`: how each command may end, and what it means that it ends well.
-/

namespace Pimsync

open JoinSet

variable {σ S D P : Type}

/-! ## `parse_storages` goes on -/

section Load

variable {loop : Ran σ LoadEvent Error Unit} {tr : List (LoadLabel S)} {s : LoadState S}

/-- No task is dropped before `parse_storages` returns. -/
def LoadState.Live (s : LoadState S) : Prop :=
  (∀ result, s.main ≠ .returned result) → ∀ (i : ℕ) (t : Task × TaskPhase S), s.tasks[i]? = some t → t.2 ≠ .aborted

theorem step_live {s s' : LoadState S} {l : LoadLabel S} (h : s.Live) (hs : LoadStep loop.result s l s') : s'.Live := by
  cases hs with
  | load event rest tasks => exact fun _ => forall_spawn (h nofun) fun _ _ => nofun
  | loaded tasks => exact fun _ => h nofun
  | init main tasks i task point hi => exact fun hmain => forall_set (h hmain) nofun
  | ended main tasks i task outcome hi => exact fun hmain => forall_set (h hmain) nofun
  | join storages tasks i task storage interval hi => exact fun _ => forall_set (h nofun) nofun
  | fail | joinErr | joinPanic | ret => exact fun hmain => absurd rfl (hmain _)

theorem run_live (hr : (parseStorages S loop).Run (.initial S loop) tr s) : s.Live := by
  refine hr.invariant (I := LoadState.Live) ?_ fun s l s' h _ hs => step_live h hs
  exact fun _ i t ht => by simp [LoadState.initial] at ht

/-- Until `parse_storages` has returned, it can go on, or a task can. -/
theorem load_goes_on (hr : (parseStorages S loop).Run (.initial S loop) tr s) :
    (∃ result, s.main = .returned result) ∨ ∃ l s', LoadStep loop.result s l s' := by
  have hlive := run_live hr
  obtain ⟨main, tasks⟩ := s
  match main with
  | .returned result => exact .inl ⟨result, rfl⟩
  | .loading (event :: rest) => exact .inr ⟨_, _, .load event rest tasks⟩
  | .loading [] =>
    rcases hres : loop.result with e | ⟨⟩
    · exact .inr ⟨_, _, .fail e tasks rfl⟩
    · exact .inr ⟨_, _, .loaded tasks rfl⟩
  | .joining storages =>
    refine .inr ?_
    by_cases hall : ∀ t ∈ tasks, t.2 = .joined
    · exact ⟨_, _, .ret storages tasks hall⟩
    · obtain ⟨⟨task, phase⟩, hmem, hphase⟩ : ∃ t ∈ tasks, t.2 ≠ .joined := by simpa using hall
      obtain ⟨i, hi⟩ := List.mem_iff_getElem?.mp hmem
      match phase with
      | .running .ready => exact ⟨_, _, .init _ _ i task _ hi⟩
      | .running .initialising => exact ⟨_, _, .ended _ _ i task (.err []) hi⟩
      | .ended (.ok storage interval) => exact ⟨_, _, .join _ _ i task storage interval hi⟩
      | .ended (.err e) => exact ⟨_, _, .joinErr _ _ i task e hi⟩
      | .ended .panic => exact ⟨_, _, .joinPanic _ _ i task hi⟩
      | .joined => exact absurd rfl hphase
      | .aborted => exact absurd rfl (hlive nofun i _ hi)

end Load

/-! ## `into_named_pairs` goes on -/

/-- Until `into_named_pairs` has returned or panicked, it can go on, or a task can. -/
theorem pairs_go_on {env : PairsOutside S} {config : Config} {order : List (String × Scfg)} {tr : List (PairsLabel S)}
    {s : PairsState S} (horder : order.Perm config.pairList)
    (hr : (intoNamedPairs env config.statusPath order).Run (.initial S config) tr s) :
    ((∃ result, s.main = .returned result) ∨ ∃ msg, s.main = .panicked msg) ∨
      ∃ l s', PairsStep env config.statusPath order s l s' := by
  rcases hdir : expandTilde env.home config.statusPath with fault | dir
  · obtain rfl | rfl := run_fault hdir hr
    · cases fault with
      | err e => exact .inr ⟨_, _, .startErr _ _ e hdir⟩
      | panic msg => exact .inr ⟨_, _, .startPanic _ _ msg hdir⟩
    · cases fault with
      | err e => exact .inl (.inl ⟨_, rfl⟩)
      | panic msg => exact .inl (.inr ⟨msg, rfl⟩)
  · have hn : (order.map Prod.fst).Nodup := (keys_of_perm horder).nodup_iff.mpr config.pairs.nodupKeys
    obtain rfl | h := run_pairsInv hn hdir hr
    · exact .inr ⟨_, _, .start _ _ dir hdir⟩
    · rcases h.progress (run_cellOk rfl hr) with hreturned | hstep
      · exact .inl (.inl hreturned)
      · exact .inr hstep

/-! ## `daemon` goes on -/

/-- The daemon takes the step by itself: no storage changes for it, and no monitor yields an event. -/
def DaemonLabel.Goes : DaemonLabel → Prop
  | .change _ _ | .event _ => False
  | _ => True

/-- A daemon can go on or return, unless it waits for an event. -/
theorem daemon_goes_on (env : PlanOutside σ S D) (pair : NamedPair S) (s : DaemonState) :
    (∃ e, s.pc = .ended e) ∨ (∃ l s', DaemonStep env pair s l s' ∧ l.Goes) ∨ s.Waiting := by
  obtain ⟨pc, pending⟩ := s
  cases pc with
  | monitorA => exact .inr (.inl ⟨_, _, .monitorA pending, trivial⟩)
  | monitorB => exact .inr (.inl ⟨_, _, .monitorB pending, trivial⟩)
  | openStatus => exact .inr (.inl ⟨_, _, .opened pending, trivial⟩)
  | select =>
    by_cases hdue : (⟨.select, pending⟩ : DaemonState).Due
    · obtain ⟨side, n, hpending⟩ := hdue
      exact .inr (.inl ⟨_, _, .took pending side n 0 hpending, trivial⟩)
    · exact .inr (.inr ⟨rfl, hdue⟩)
  | woken => exact .inr (.inl ⟨_, _, .plan pending, trivial⟩)
  | planning => exact .inr (.inl ⟨_, _, .planned pending [], trivial⟩)
  | executing operations reported => exact .inr (.inl ⟨_, _, .executed pending operations reported, trivial⟩)
  | ended e => exact .inl ⟨e, rfl⟩

/-! ## `main` goes on -/

section Main

variable [DecidableEq S] {env : MainOutside σ S D P} {args : List String} {w₀ w : World σ} {tr : List (MainLabel S)}
  {s s' : MainState σ S} {label : MainLabel S} {cli : Cli}

/-- There is a step of `main` or of a task that it waits for, and it takes no panic of a daemon, nor anything that happens
around it. -/
def GoesOn (env : MainOutside σ S D P) (args : List String) (s : MainState σ S) : Prop :=
  ∃ l s', MainStep env args s l s' ∧ ∀ label, l = .daemon label → label.Goes DaemonLabel.Goes

/-- Some daemon is left, and each that is left waits for an event, where none is held. -/
def DaemonsWait (s : MainState σ S) : Prop :=
  ∃ pairs t, s.phase = .daemon pairs t ∧ t.returned = false ∧ (∃ d ∈ t.tasks, d.2 ≠ .joined) ∧
    ∀ d ∈ t.tasks, d.2 = .joined ∨ ∃ point, d.2 = .running point ∧ point.Waiting

theorem ready_goes_on {command : Command} {pairs : List (NamedPair S)} (huses : command.UsesPairs) :
    GoesOn env args ⟨.ready command pairs, w⟩ := by
  cases command with
  | check => exact ⟨_, _, .check w pairs, nofun⟩
  | daemon readyFd =>
    cases readyFd with
    | none => exact ⟨_, _, .spawn w pairs, nofun⟩
    | some fd =>
      rcases hwrite : env.writeReady fd w.outside with ⟨e | ⟨⟩, t⟩
      · exact ⟨_, _, .readyFailed w pairs fd e t hwrite, nofun⟩
      · exact ⟨_, _, .ready w pairs fd t hwrite, nofun⟩
  | sync dryRun interactive => exact ⟨_, _, .sync w pairs dryRun interactive _ rfl, nofun⟩
  | resolveConflicts dryRun => exact ⟨_, _, .resolve w pairs dryRun _ rfl, nofun⟩
  | discover => exact ⟨_, _, .discover w pairs _ rfl, nofun⟩
  | list | repair | version => exact huses.elim

theorem configured_goes_on {path data : String} (hversion : cli.command ≠ .version) :
    GoesOn env args ⟨.configured cli path data, w⟩ := by
  by_cases huses : cli.command.UsesPairs
  · rcases hconfig : parseConfig env.scfg env.exec data cli.names w.outside with ⟨e | config, t, commands⟩
    · exact ⟨_, _, .configFailed w cli path data e t commands huses hconfig, nofun⟩
    · exact ⟨_, _, .config w cli path data config t commands config.pairList huses hconfig (.refl _), nofun⟩
  · rcases hcommand : cli.command with _ | _ | _ | _ | _ | target | _ | _
    · exact absurd (hcommand ▸ trivial) huses
    · exact absurd (hcommand ▸ trivial) huses
    · exact absurd (hcommand ▸ trivial) huses
    · exact absurd (hcommand ▸ trivial) huses
    · exact absurd (hcommand ▸ trivial) huses
    · rcases hnames : listedNames env.scfg data target with e | names
      · exact ⟨_, _, .listFailed w cli path data target e hcommand hnames, nofun⟩
      · exact ⟨_, _, .list w cli path data target names hcommand hnames, nofun⟩
    · exact ⟨_, _, .load w cli path data _ hcommand rfl, nofun⟩
    · exact absurd hcommand hversion

/-- The daemons go on, or wait. -/
theorem daemons_go_on {pairs : List (NamedPair S)} {labels : List (SupLabel DaemonError DaemonLabel (StorageChange S))}
    {t : Supervisor (NamedPair S) DaemonState DaemonError}
    (hr : (daemons env.plan).Run (Daemons.initial env.plan pairs) labels t) :
    GoesOn env args ⟨.daemon pairs t, w⟩ ∨ DaemonsWait (⟨.daemon pairs t, w⟩ : MainState σ S) := by
  rcases ht : t.returned with _ | _
  · have hgo : ∀ pair s, (∃ e, (daemonTasks env.plan).returns s e) ∨ (∃ l s', ((daemonTasks env.plan).lts pair).step s l s' ∧
        (daemonTasks env.plan).own l ∧ l.Goes) ∨ s.Waiting := by
      intro pair s
      obtain hended | ⟨l, s', hstep, hl⟩ | hwaits := daemon_goes_on env.plan pair s
      · exact .inl hended
      · exact .inr (.inl ⟨l, s', hstep, fun side events h => by subst h; exact hl, hl⟩)
      · exact .inr (.inr hwaits)
    obtain ⟨l, t', hstep, hl⟩ | ⟨hsome, hall⟩ := supervisor_not_stuck hgo hr ht
    · exact .inl ⟨_, _, .daemonStep _ _ t t' l hstep, fun label h => by cases h; exact hl⟩
    · exact .inr ⟨pairs, t, rfl, ht, hsome, hall⟩
  · exact .inl ⟨_, _, .daemonReturned _ _ t ht, nofun⟩

theorem MainAt.goes_on (h : MainAt env args w₀ tr s) :
    (∃ how, s.phase = .ended how) ∨ GoesOn env args s ∨ DaemonsWait s := by
  cases h with
  | ended label how => exact .inl ⟨how, rfl⟩
  | daemon labels t h hr => exact .inr (daemons_go_on hr)
  | _ => ?_
  all_goals refine .inr (.inl ?_)
  case start =>
    rcases hcli : (Cli.parse env.lex args env.fds).result with (e | msg) | cli
    · exact ⟨_, _, .badUsage _ e hcli, nofun⟩
    · exact ⟨_, _, .cliPanicked _ msg hcli, nofun⟩
    · exact ⟨_, _, .parsed _ cli hcli, nofun⟩
  case parsed cli hcli =>
    by_cases hversion : cli.command = .version
    · exact ⟨_, _, .version _ cli hversion, nofun⟩
    · rcases hpath : configPath env cli with e | path
      · exact ⟨_, _, .noPath _ cli e hversion hpath, nofun⟩
      · rcases hopen : env.openFile path w₀.outside with ⟨e | ⟨⟩, t⟩
        · exact ⟨_, _, .openFailed _ cli path e t hversion hpath hopen, nofun⟩
        · exact ⟨_, _, .opened _ cli path t hversion hpath hopen, nofun⟩
  case opened cli path t hcli hversion hpath hopen =>
    rcases hread : env.readToString path t with ⟨e | data, t'⟩
    · exact ⟨_, _, .readFailed _ cli path e t' hread, nofun⟩
    · exact ⟨_, _, .read _ cli path data t' hread, nofun⟩
  case configured cli path data t t' hcli hversion hpath hopen hread => exact configured_goes_on hversion
  case loading loop labels t hconfigured hcommand hloop hr =>
    obtain ⟨e | storages, ht⟩ | ⟨l, t', hstep⟩ := load_goes_on hr
    · exact ⟨_, _, .loadFailed _ loop t e ht, nofun⟩
    · exact ⟨_, _, .loaded _ loop t storages ht, nofun⟩
    · exact ⟨_, _, .loadStep _ loop t t' l hstep, nofun⟩
  case repairing storages labels t hloading hreturned hr =>
    rcases ht : t.result with _ | result
    · obtain ⟨l, t', hstep⟩ : ∃ l t', RepairStep t l t' := by
        by_contra hnone
        exact repair_not_stuck hr ht fun l t' hstep => hnone ⟨l, t', hstep⟩
      exact ⟨_, _, .repairStep _ t t' l hstep, nofun⟩
    · exact ⟨_, _, .repaired _ t result ht, nofun⟩
  case initialising config t commands order labels u hconfigured huses hconfig horder hr =>
    obtain (⟨e | pairs, hu⟩ | ⟨msg, hu⟩) | ⟨l, u', hstep⟩ := pairs_go_on horder hr
    · exact ⟨_, _, .initFailed _ _ config order u e hu, nofun⟩
    · exact ⟨_, _, .initialised _ _ config order u pairs hu, nofun⟩
    · exact ⟨_, _, .initPanicked _ _ config order u msg hu, nofun⟩
    · exact ⟨_, _, .initStep _ _ config order u u' l hstep, nofun⟩
  case ready pairs hinit ht =>
    obtain ⟨cli, -, rfl, huses⟩ := hinit.initialising_command
    exact ready_goes_on huses
  case notified fd t h hwrite => exact ready_goes_on (show (Command.daemon none).UsesPairs from trivial)

/-- **The program is never stuck**: wherever it has come to, it has ended, or can go on, or one of the tasks that it waits
for can by itself; or else it is `daemon`, and all that are left wait for an event. -/
theorem main_not_stuck (hr : (main env args).Run ⟨.start, w₀⟩ tr s) :
    (∃ how, s.phase = .ended how) ∨ GoesOn env args s ∨ DaemonsWait s := (main_run_iff.mp hr).goes_on

/-! ## The end -/

omit [DecidableEq S] in
/-- `sync` does not hang. -/
theorem sync_ne_hang (plan : PlanOutside σ S D) (pairs : List (NamedPair S)) (dryRun interactive : Bool) :
    (sync plan pairs dryRun interactive w).result ≠ .error .hang := by
  obtain ⟨visits, counted, -, hrun, -⟩ := syncPairs_run plan dryRun interactive pairs ⟨w, 0⟩
  by_cases h : 0 < counted.errorCount <;> simp [sync, withCounter, checkErrors, Prog.bind_run, hrun, h]

omit [DecidableEq S] in
/-- `resolve_conflicts` tells of errors, but returns none. -/
theorem resolvePairs_ne_err (out : ResolveOutside σ S) (plan : PlanOutside σ S D) (e : Error) :
    ∀ (pairs : List (NamedPair S)) (w : World σ), (resolvePairs out plan pairs w).result ≠ .error (.err e)
  | [], w => nofun
  | pair :: pairs, w => by
    rcases hi : interactiveResolution out plan pair w with ⟨(e' | _) | ⟨⟩, w', log⟩
    · simpa [resolvePairs, Prog.bind_run, hi] using resolvePairs_ne_err out plan e pairs w'
    · simp [resolvePairs, Prog.bind_run, hi]
    · simpa [resolvePairs, Prog.bind_run, hi] using resolvePairs_ne_err out plan e pairs w'

/-- Once `main` has started, the command line is read. -/
theorem MainAt.exists_cli (h : MainAt env args w₀ tr s) (hs : s.phase ≠ .start) (hended : ∀ how, s.phase ≠ .ended how) :
    ∃ cli, (Cli.parse env.lex args env.fds).result = .ok cli := by
  induction h with
  | start => exact absurd rfl hs
  | parsed cli hcli | opened cli _ _ hcli | configured cli _ _ _ _ hcli => exact ⟨cli, hcli⟩
  | loading | repairing | initialising | ready | notified | daemon =>
    rename_i ih
    exact ih nofun nofun
  | ended label how => exact absurd rfl (hended how)

/-- The command of pairs that are there is the one that was parsed, as far as it was not carried out. -/
theorem MainAt.ready_command {command : Command} {pairs : List (NamedPair S)}
    (h : MainAt env args w₀ tr ⟨.ready command pairs, w⟩) (hcli : (Cli.parse env.lex args env.fds).result = .ok cli) :
    (cli.command = command ∨ command = .daemon none) ∧ ∃ data, .read (.ok data) ∈ tr ∧ AllReady env args data pairs := by
  obtain ⟨cli', data, pre, w₁, hcli', hdata, hall, -, -, ⟨rfl, rfl, -⟩ | ⟨fd, hfd, rfl, rfl⟩⟩ := h.ready_cases
  · exact ⟨.inl (by rw [Except.ok.inj (hcli.symm.trans hcli')]), data, hdata, hall⟩
  · exact ⟨.inr rfl, data, List.mem_append_left _ hdata, hall⟩

/-- How a command may end, after it has done these labels. -/
structure Ends (env : MainOutside σ S D P) (args : List String) (cli : Cli) (tr : List (MainLabel S)) (how : MainEnd) :
    Prop where
  usage : how ≠ .usage
  ok : how = .ok → (∀ fd, cli.command ≠ .daemon fd) ∧ cli.command ≠ .resolveConflicts true ∧
    (cli.command.UsesPairs → ∃ data pairs, .read (.ok data) ∈ tr ∧ AllReady env args data pairs)
  hang : how = .hang → cli.command = .resolveConflicts false
  panicked : ∀ msg, how = .panicked msg → cli.command.UsesPairs ∧ ∀ l ∈ tr, ¬ l.Acts
  error : ∀ e, how = .error e → cli.command = .resolveConflicts false → ∀ l ∈ tr, ¬ l.Acts

omit [DecidableEq S] in
/-- An error of a command other than `resolve-conflicts`. -/
theorem Ends.of_error {e : Error} (h : cli.command ≠ .resolveConflicts false) : Ends env args cli tr (.error e) :=
  ⟨nofun, nofun, nofun, nofun, fun _ _ hcommand => absurd hcommand h⟩

omit [DecidableEq S] in
/-- An error before anything was done. -/
theorem Ends.of_quiet {e : Error} (h : ∀ l ∈ tr, ¬ l.Acts) : Ends env args cli tr (.error e) :=
  ⟨nofun, nofun, nofun, nofun, fun _ _ _ => h⟩

theorem MainAt.ends {how : MainEnd} (h : MainAt env args w₀ tr ⟨.ended how, w⟩)
    (hcli : (Cli.parse env.lex args env.fds).result = .ok cli) : Ends env args cli tr how := by
  have hsame : ∀ {cli'}, (Cli.parse env.lex args env.fds).result = .ok cli' → cli' = cli := fun hcli' =>
    Except.ok.inj (hcli'.symm.trans hcli)
  cases h with
  | @ended pre s _ label _ hat hs =>
    -- an error that is there before the pairs are
    have hearly : ∀ {e}, s.phase.Early → ¬ label.Acts → Ends env args cli (pre ++ [label]) (.error e) := by
      intro e hs hlabel
      refine .of_quiet fun l hl => ?_
      rcases List.mem_append.mp hl with hl | hl
      · exact hat.quiet hs l hl
      · rwa [List.mem_singleton.mp hl]
    have hrepair : (∃ cli', (Cli.parse env.lex args env.fds).result = .ok cli' ∧ cli'.command = .repair) →
        cli.command = .repair := by
      rintro ⟨cli', hcli', hcommand⟩
      rwa [hsame hcli'] at hcommand
    have hready : ∀ {command pairs v}, MainAt env args w₀ pre ⟨.ready command pairs, v⟩ → command ≠ .daemon none →
        cli.command = command ∧ ∃ data pairs, .read (.ok data) ∈ pre ++ [label] ∧ AllReady env args data pairs := by
      intro command pairs v hat hcommand
      obtain ⟨hor, data, hdata, hall⟩ := hat.ready_command hcli
      exact ⟨hor.resolve_right hcommand, data, pairs, List.mem_append_left _ hdata, hall⟩
    cases hs with
    | badUsage _ _ he | cliPanicked _ _ he =>
      rw [hcli] at he
      cases he
    | version w cli' hcommand =>
      cases hat with
      | parsed _ hcli' =>
        rw [hsame hcli'] at hcommand
        exact ⟨nofun, fun _ => by simp [hcommand, Command.UsesPairs], nofun, nofun, nofun⟩
    | noPath | openFailed | readFailed | configFailed | initFailed => exact hearly trivial id
    | loadFailed => exact .of_error (by rw [hrepair hat.loading_command]; nofun)
    | repaired w t result ht =>
      have hcommand := hrepair hat.repairing_command
      rcases result with e | ⟨⟩
      · exact .of_error (by rw [hcommand]; nofun)
      · exact ⟨nofun, fun _ => by simp [hcommand, Command.UsesPairs], nofun, nofun, nofun⟩
    | list w cli' path data target names hcommand =>
      rw [hsame hat.configured_cli] at hcommand
      exact ⟨nofun, fun _ => by simp [hcommand, Command.UsesPairs], nofun, nofun, nofun⟩
    | listFailed w cli' path data target e hcommand => exact hearly trivial id
    | initPanicked w command config order t msg ht =>
      obtain ⟨cli', hcli', rfl, huses⟩ := hat.initialising_command
      rw [hsame hcli'] at huses
      refine ⟨nofun, nofun, nofun, fun _ _ => ⟨huses, fun l hl => ?_⟩, nofun⟩
      rcases List.mem_append.mp hl with hl | hl
      · exact hat.quiet trivial l hl
      · rw [List.mem_singleton.mp hl]
        exact id
    | check w pairs =>
      obtain ⟨hcommand, hall⟩ := hready hat nofun
      exact ⟨nofun, fun _ => ⟨by simp [hcommand], by simp [hcommand], fun _ => hall⟩, nofun, nofun, nofun⟩
    | readyFailed w pairs fd e t hwrite =>
      obtain ⟨hcommand, -⟩ := hready hat nofun
      exact .of_error (by rw [hcommand]; nofun)
    | daemonReturned w pairs t ht =>
      cases hat with
      | daemon _ _ hat =>
        obtain ⟨cli', _, _, _, hcli', -, -, -, -, ⟨-, hcommand, -⟩ | ⟨fd, hcommand, -⟩⟩ := hat.ready_cases
        · exact .of_error (by rw [← hsame hcli', ← hcommand]; nofun)
        · exact .of_error (by rw [← hsame hcli', hcommand]; nofun)
    | sync w pairs dryRun interactive ran hran =>
      obtain ⟨hcommand, hall⟩ := hready hat nofun
      rcases hresult : ran.result with (e | _) | ⟨⟩
      · exact .of_error (by rw [hcommand]; nofun)
      · exact absurd (hran ▸ hresult) (sync_ne_hang env.plan pairs dryRun interactive)
      · exact ⟨nofun, fun _ => ⟨by simp [hcommand], by simp [hcommand], fun _ => hall⟩, nofun, nofun, nofun⟩
    | resolve w pairs dryRun ran hran =>
      obtain ⟨hcommand, hall⟩ := hready hat nofun
      cases dryRun with
      | true =>
        obtain rfl : _ = ran := hran
        exact .of_error (by rw [hcommand]; nofun)
      | false =>
        rcases hresult : ran.result with (e | _) | ⟨⟩
        · obtain rfl : resolvePairs env.resolve env.plan pairs w = ran := hran
          exact absurd hresult (resolvePairs_ne_err env.resolve env.plan e pairs w)
        · exact ⟨nofun, nofun, fun _ => hcommand, nofun, nofun⟩
        · exact ⟨nofun, fun _ => ⟨by simp [hcommand], by simp [hcommand], fun _ => hall⟩, nofun, nofun, nofun⟩
    | discover w pairs ran hran =>
      obtain ⟨hcommand, hall⟩ := hready hat nofun
      rcases hresult : ran.result with e | ⟨⟩
      · exact .of_error (by rw [hcommand]; nofun)
      · exact ⟨nofun, fun _ => ⟨by simp [hcommand], by simp [hcommand], fun _ => hall⟩, nofun, nofun, nofun⟩

/-- **How the program ends**: with usage if the command line is bad. A command that ends well is not `daemon` nor
`resolve-conflicts -n`, and all its pairs were there; only `resolve-conflicts` may hang, and what it fails with, it fails
with before it has touched a pair, as does what panics. -/
theorem main_ended {how : MainEnd} (hr : (main env args).Run ⟨.start, w₀⟩ tr ⟨.ended how, w⟩) :
    (∀ e, (Cli.parse env.lex args env.fds).result = .error (.err e) → how = .usage) ∧
    (∀ msg, (Cli.parse env.lex args env.fds).result = .error (.panic msg) → how = .panicked msg) ∧
    ∀ cli, (Cli.parse env.lex args env.fds).result = .ok cli → Ends env args cli tr how := by
  have h := main_run_iff.mp hr
  have hstart : ∀ {fault}, (Cli.parse env.lex args env.fds).result = .error fault →
      ∃ label, MainStep env args ⟨.start, w₀⟩ label ⟨.ended how, w⟩ := by
    intro fault hfault
    cases h with
    | @ended pre s _ label _ hat hs =>
      by_cases hphase : s.phase = .start
      · cases hat with
        | start => exact ⟨label, hs⟩
        | _ => cases hphase
      · obtain ⟨cli, hcli⟩ := hat.exists_cli hphase fun how' hhow => by
          obtain ⟨phase, v⟩ := s
          obtain rfl : phase = .ended how' := hhow
          exact ended_stuck hs
        rw [hfault] at hcli
        cases hcli
  refine ⟨fun e he => ?_, fun msg hmsg => ?_, fun cli hcli => h.ends hcli⟩
  · obtain ⟨label, hs⟩ := hstart he
    cases hs with
    | badUsage => rfl
    | cliPanicked _ msg hmsg => rw [he] at hmsg; cases hmsg
  · obtain ⟨label, hs⟩ := hstart hmsg
    cases hs with
    | badUsage _ e he => rw [hmsg] at he; cases he
    | cliPanicked _ msg' hmsg' =>
      rw [hmsg] at hmsg'
      cases hmsg'
      rfl

end Main

/-! ## Some runs -/

/-- A daemon that was spawned can go on. -/
theorem main_not_stuck_daemon : ∃ pair : NamedPair String, GoesOn quietOutside daemonLine
    ⟨.daemon [pair] (Daemons.initial quietOutside.plan [pair]), ⟨[], ()⟩⟩ := by
  obtain ⟨mid, pair, h⟩ := quiet_pairs daemonLine_parse trivial
  have hr := (MainAt.notified 5 () h rfl).run.snoc trivial (MainStep.spawn _ _)
  obtain ⟨how, hhow⟩ | hgo | ⟨_, _, ht, -, -, hall⟩ := main_not_stuck hr
  · cases hhow
  · exact ⟨pair, hgo⟩
  · cases ht
    obtain hjoined | ⟨point, hpoint, hselect, -⟩ := hall _ (List.mem_singleton_self _)
    · cases hjoined
    · cases hpoint
      cases hselect

theorem main_ended_check : ∃ (data : String) (pairs : List (NamedPair String)),
    AllReady quietOutside checkLine data pairs := by
  obtain ⟨mid, hr⟩ := check_passes
  have hcli : (Cli.parse quietOutside.lex checkLine quietOutside.fds).result = .ok _ := checkLine_parse
  obtain ⟨data, pairs, -, hall⟩ := (((main_ended hr).2.2 _ hcli).ok rfl).2.2 trivial
  exact ⟨data, pairs, hall⟩

end Pimsync
