import Pimsync.CliNames
import Pimsync.Config.NamedPairsRuns
import Pimsync.Config.Selected
import Pimsync.Main

/-!
# The runs of the program

`MainAt` says how `main` has come to where it is: which phases it has gone through, each with a whole run of what it was
waiting for.

- `main_run_iff`: these are the runs of `main`;
- `main_acts_on_pairs`: what a command does, it does with the pairs that are selected, when all of them are there;
- `main_repairs_storages`: and `repair` with the storages that are selected.
-/

namespace Pimsync

open JoinSet

variable {σ S D P : Type} [DecidableEq S]

/-! ## The phases -/

section Phases

variable (env : MainOutside σ S D P) (args : List String) (w₀ : World σ)

/-- How `main` has come to a state, by these labels. -/
inductive MainAt : List (MainLabel S) → MainState σ S → Prop
  | start : MainAt [] ⟨.start, w₀⟩
  | parsed (cli : Cli) : (Cli.parse env.lex args env.fds).result = .ok cli → MainAt [.parsed (.ok cli)] ⟨.parsed cli, w₀⟩
  | opened (cli : Cli) (path : String) (s : σ) : (Cli.parse env.lex args env.fds).result = .ok cli →
      cli.command ≠ .version → configPath env cli = .ok path → env.openFile path w₀.outside = (.ok (), s) →
      MainAt [.parsed (.ok cli), .opened path none] ⟨.opened cli path, { w₀ with outside := s }⟩
  | configured (cli : Cli) (path data : String) (s s' : σ) : (Cli.parse env.lex args env.fds).result = .ok cli →
      cli.command ≠ .version → configPath env cli = .ok path → env.openFile path w₀.outside = (.ok (), s) →
      env.readToString path s = (.ok data, s') →
      MainAt [.parsed (.ok cli), .opened path none, .read (.ok data)]
        ⟨.configured cli path data, { w₀ with outside := s' }⟩
  | loading {tr : List (MainLabel S)} {cli : Cli} {path data : String} {w : World σ} (loop : Ran σ LoadEvent Error Unit)
      (labels : List (LoadLabel S)) (s : LoadState S) : MainAt tr ⟨.configured cli path data, w⟩ → cli.command = .repair →
      startStorages env.scfg env.exec data cli.names w.outside = loop →
      (parseStorages S loop).Run (.initial S loop) labels s →
      MainAt (tr ++ .goesOn :: labels.map .load) ⟨.loading loop s, { w with outside := loop.world }⟩
  | repairing {tr : List (MainLabel S)} {loop : Ran σ LoadEvent Error Unit} {s : LoadState S} {w : World σ}
      (storages : List (NamedStorage S)) (labels : List RepairLabel) (t : RepairState S) : MainAt tr ⟨.loading loop s, w⟩ →
      s.main = .returned (.ok storages) → (repairStorages S).Run (.initial env.uids storages) labels t →
      MainAt (tr ++ .goesOn :: labels.map .repair) ⟨.repairing t, w⟩
  | initialising {tr : List (MainLabel S)} {cli : Cli} {path data : String} {w : World σ} (config : Config) (s : σ)
      (commands : List RawCommand) (order : List (String × Scfg)) (labels : List (PairsLabel S)) (t : PairsState S) :
      MainAt tr ⟨.configured cli path data, w⟩ → cli.command.UsesPairs →
      parseConfig env.scfg env.exec data cli.names w.outside = ⟨.ok config, s, commands⟩ → order.Perm config.pairList →
      (intoNamedPairs env.pairs config.statusPath order).Run (.initial S config) labels t →
      MainAt (tr ++ .configured commands :: labels.map .init)
        ⟨.initialising cli.command config order t, { w with outside := s }⟩
  | ready {tr : List (MainLabel S)} {command : Command} {config : Config} {order : List (String × Scfg)} {t : PairsState S}
      {w : World σ} (pairs : List (NamedPair S)) : MainAt tr ⟨.initialising command config order t, w⟩ →
      t.main = .returned (.ok pairs) → MainAt (tr ++ [.goesOn]) ⟨.ready command pairs, w⟩
  | notified {tr : List (MainLabel S)} {pairs : List (NamedPair S)} {w : World σ} (fd : ℤ) (s : σ) :
      MainAt tr ⟨.ready (.daemon (some fd)) pairs, w⟩ → env.writeReady fd w.outside = (.ok (), s) →
      MainAt (tr ++ [.ready fd none]) ⟨.ready (.daemon none) pairs, { w with outside := s }⟩
  | daemon {tr : List (MainLabel S)} {pairs : List (NamedPair S)} {w : World σ}
      (labels : List (SupLabel DaemonError DaemonLabel (StorageChange S)))
      (t : Supervisor (NamedPair S) DaemonState DaemonError) : MainAt tr ⟨.ready (.daemon none) pairs, w⟩ →
      (daemons env.plan).Run (Daemons.initial env.plan pairs) labels t →
      MainAt (tr ++ .goesOn :: labels.map .daemon) ⟨.daemon pairs t, w⟩
  | ended {tr : List (MainLabel S)} {s : MainState σ S} {w : World σ} (label : MainLabel S) (how : MainEnd) : MainAt tr s →
      MainStep env args s label ⟨.ended how, w⟩ → MainAt (tr ++ [label]) ⟨.ended how, w⟩

end Phases

variable {env : MainOutside σ S D P} {args : List String} {w₀ : World σ} {tr : List (MainLabel S)} {s s' : MainState σ S}
  {label : MainLabel S}

section Steps

omit [DecidableEq S]

/-- One more step of what `main` waits for. -/
theorem map_snoc {ℓ : Type} (tr : List (MainLabel S)) (first : MainLabel S) (g : ℓ → MainLabel S) (labels : List ℓ) (l : ℓ) :
    tr ++ first :: labels.map g ++ [g l] = tr ++ first :: (labels ++ [l]).map g := by
  simp

end Steps

/-- A step goes on from where `main` has come to. -/
theorem step_mainAt (h : MainAt env args w₀ tr s) (hs : MainStep env args s label s') :
    MainAt env args w₀ (tr ++ [label]) s' := by
  have hstep := hs
  cases hs with
  | badUsage | cliPanicked | version | noPath | openFailed | readFailed | loadFailed | repaired | list | listFailed
    | configFailed | initFailed | initPanicked | check | readyFailed | daemonReturned | sync | resolve | discover =>
    exact .ended _ _ h hstep
  | parsed w cli hcli =>
    cases h with
    | start => exact .parsed cli hcli
  | opened w cli path s hcommand hpath hopen =>
    cases h with
    | parsed _ hcli => exact .opened cli path s hcli hcommand hpath hopen
  | read w cli path data s hread =>
    cases h with
    | opened _ _ t hcli hcommand hpath hopen => exact .configured cli path data t s hcli hcommand hpath hopen hread
  | load w cli path data loop hcommand hloop => exact .loading loop [] _ h hcommand hloop (.nil _)
  | loadStep w loop s s' label hs =>
    cases h with
    | loading _ labels _ hconfigured hcommand hloop hr =>
      rw [map_snoc]
      exact .loading loop _ s' hconfigured hcommand hloop (hr.snoc trivial hs)
  | loaded w loop s storages hs => exact .repairing storages [] _ h hs (.nil _)
  | repairStep w s s' label hs =>
    cases h with
    | repairing storages labels _ hloading hreturned hr =>
      rw [map_snoc]
      exact .repairing storages _ s' hloading hreturned (hr.snoc trivial hs)
  | config w cli path data config s commands order hpairs hconfig horder =>
    exact .initialising config s commands order [] _ h hpairs hconfig horder (.nil _)
  | initStep w command config order s s' label hs =>
    cases h with
    | initialising _ t commands _ labels _ hconfigured hpairs hconfig horder hr =>
      rw [map_snoc]
      exact .initialising config t commands order _ s' hconfigured hpairs hconfig horder (hr.snoc trivial hs)
  | initialised w command config order s pairs hs => exact .ready pairs h hs
  | spawn w pairs => exact .daemon [] _ h (.nil _)
  | ready w pairs fd s hwrite => exact .notified fd s h hwrite
  | daemonStep w pairs s s' label hs =>
    cases h with
    | daemon labels _ hready hr =>
      rw [map_snoc]
      exact .daemon _ s' hready (hr.snoc trivial hs)

/-! ## Runs of the phases -/

section Embed

variable (w : World σ)

theorem main_load {loop : Ran σ LoadEvent Error Unit} {s t : LoadState S} {labels : List (LoadLabel S)}
    (hr : (parseStorages S loop).Run s labels t) :
    (main env args).Run ⟨.loading loop s, w⟩ (labels.map .load) ⟨.loading loop t, w⟩ :=
  hr.embed (M := main env args) (f := fun s => ⟨.loading loop s, w⟩) fun s l s' hs => .loadStep w loop s s' l hs

theorem main_repair {s t : RepairState S} {labels : List RepairLabel} (hr : (repairStorages S).Run s labels t) :
    (main env args).Run ⟨.repairing s, w⟩ (labels.map .repair) ⟨.repairing t, w⟩ :=
  hr.embed (M := main env args) (f := fun s => ⟨.repairing s, w⟩) fun s l s' hs => .repairStep w s s' l hs

theorem main_init {command : Command} {config : Config} {order : List (String × Scfg)} {s t : PairsState S}
    {labels : List (PairsLabel S)} (hr : (intoNamedPairs env.pairs config.statusPath order).Run s labels t) :
    (main env args).Run ⟨.initialising command config order s, w⟩ (labels.map .init)
      ⟨.initialising command config order t, w⟩ :=
  hr.embed (M := main env args) (f := fun s => ⟨.initialising command config order s, w⟩) fun s l s' hs =>
    .initStep w command config order s s' l hs

theorem main_daemon {pairs : List (NamedPair S)} {s t : Supervisor (NamedPair S) DaemonState DaemonError}
    {labels : List (SupLabel DaemonError DaemonLabel (StorageChange S))} (hr : (daemons env.plan).Run s labels t) :
    (main env args).Run ⟨.daemon pairs s, w⟩ (labels.map .daemon) ⟨.daemon pairs t, w⟩ :=
  hr.embed (M := main env args) (f := fun s => ⟨.daemon pairs s, w⟩) fun s l s' hs => .daemonStep w pairs s s' l hs

end Embed

/-- How `main` has come to a state is a run. -/
theorem MainAt.run (h : MainAt env args w₀ tr s) : (main env args).Run ⟨.start, w₀⟩ tr s := by
  induction h with
  | start => exact .nil _
  | parsed cli hcli => exact .single (.parsed w₀ cli hcli)
  | opened cli path s hcli hcommand hpath hopen =>
    exact .cons (.parsed w₀ cli hcli) (.single (.opened w₀ cli path s hcommand hpath hopen))
  | configured cli path data s s' hcli hcommand hpath hopen hread =>
    exact .cons (.parsed w₀ cli hcli) (.cons (.opened w₀ cli path s hcommand hpath hopen)
      (.single (.read _ cli path data s' hread)))
  | loading loop labels s _ hcommand hloop hr ih =>
    rw [List.append_cons]
    exact (ih.snoc trivial (.load _ _ _ _ loop hcommand hloop)).append (main_load _ hr)
  | repairing storages labels t _ hreturned hr ih =>
    rw [List.append_cons]
    exact (ih.snoc trivial (.loaded _ _ _ storages hreturned)).append (main_repair _ hr)
  | initialising config s commands order labels t _ hpairs hconfig horder hr ih =>
    rw [List.append_cons]
    exact (ih.snoc trivial (.config _ _ _ _ config s commands order hpairs hconfig horder)).append (main_init _ hr)
  | ready pairs _ hreturned ih => exact ih.snoc trivial (.initialised _ _ _ _ _ pairs hreturned)
  | notified fd s _ hwrite ih => exact ih.snoc trivial (.ready _ _ fd s hwrite)
  | daemon labels t _ hr ih =>
    rw [List.append_cons]
    exact (ih.snoc trivial (.spawn _ _)).append (main_daemon _ hr)
  | ended label how _ hs ih => exact ih.snoc trivial hs

/-- **The runs of `main`**: it goes from phase to phase, and in each of them does what it waits for would do alone. -/
theorem main_run_iff : (main env args).Run ⟨.start, w₀⟩ tr s ↔ MainAt env args w₀ tr s :=
  ⟨fun hr => hr.history (I := MainAt env args w₀) .start fun _ _ _ _ h _ hs => step_mainAt h hs, MainAt.run⟩

/-! ## What the commands do -/

section Does

variable (env : MainOutside σ S D P) (pairs : List (NamedPair S))

/-- What a command does with its pairs: `before` is what it has done with them already. -/
inductive Does (w : World σ) : Command → (before : List (MainLabel S)) → MainLabel S → Prop
  | sync (dryRun interactive : Bool) :
      Does w (.sync dryRun interactive) [] (.synced (Pimsync.sync env.plan pairs dryRun interactive w).log)
  | resolve (dryRun : Bool) :
      Does w (.resolveConflicts dryRun) [] (.resolved (resolveConflicts env.resolve env.plan pairs dryRun w).log)
  | discover : Does w .discover [] (.discovered (Pimsync.discover env.discoverCollections pairs w).log)
  | ready (fd : ℤ) (error : Option Error) : Does w (.daemon (some fd)) [] (.ready fd error)
  | daemon (readyFd : Option ℤ) (labels : List (SupLabel DaemonError DaemonLabel (StorageChange S)))
      (label : SupLabel DaemonError DaemonLabel (StorageChange S))
      (t t' : Supervisor (NamedPair S) DaemonState DaemonError) :
      (daemons env.plan).Run (Daemons.initial env.plan pairs) labels t → (daemons env.plan).step t label t' →
      Does w (.daemon readyFd) (readyFd.toList.map (.ready · none) ++ .goesOn :: labels.map .daemon) (.daemon label)

end Does

/-- The names that are given on a command line. -/
def commandNames (lex : Lexopt P) (args : List String) : List String :=
  match parseOptions lex (lex.fromArgs args.tail) .warn none with
  | .ok (_, _, some (rawCmd, p)) => namesGiven lex rawCmd p
  | _ => []

theorem cliParse_asked {lex : Lexopt P} {fds : Fds} {cli : Cli} (h : (Cli.parse lex args fds).result = .ok cli) :
    cli.names = .asked (commandNames lex args) := by
  obtain ⟨logLevel, configFile, rawCmd, p, hoptions, -, hnames⟩ := cliParse_names h
  rw [hnames, commandNames, hoptions]

/-- The pairs are those of the configuration that are selected, and each is there once. -/
structure AllReady (env : MainOutside σ S D P) (args : List String) (data : String) (pairs : List (NamedPair S)) : Prop where
  nodup : (pairs.map NamedPair.name).Nodup
  selected : ∃ listed, listPairNames env.scfg data = .ok listed ∧ commandNames env.lex args ⊆ listed ∧
    ∀ name, name ∈ pairs.map NamedPair.name ↔ Selected (commandNames env.lex args) listed name

omit [DecidableEq S] in
/-- The pairs of `into_named_pairs`. -/
theorem allReady_of_run {cli : Cli} {data : String} {config : Config} {commands : List RawCommand} {s s' : σ}
    {order : List (String × Scfg)} {labels : List (PairsLabel S)} {t : PairsState S} {pairs : List (NamedPair S)}
    (hcli : (Cli.parse env.lex args env.fds).result = .ok cli)
    (hconfig : parseConfig env.scfg env.exec data cli.names s = ⟨.ok config, s', commands⟩)
    (horder : order.Perm config.pairList)
    (hr : (intoNamedPairs env.pairs config.statusPath order).Run (.initial S config) labels t)
    (ht : t.main = .returned (.ok pairs)) : AllReady env args data pairs := by
  have hperm : (pairs.map NamedPair.name).Perm config.pairs.keys := by
    rcases hdir : expandTilde env.pairs.home config.statusPath with fault | dir
    · obtain rfl | rfl := run_fault hdir hr
      · cases ht
      · cases fault <;> cases ht
    · exact (run_pairs horder hdir hr ht).1
  have hresult : (parseConfig env.scfg env.exec data (.asked (commandNames env.lex args)) s).result = .ok config := by
    rw [← cliParse_asked hcli, hconfig]
  obtain ⟨listed, hlisted, hsub, hselected⟩ := parseConfig_selects hresult
  exact ⟨hperm.nodup_iff.mpr config.pairs.nodupKeys, listed, hlisted, hsub, fun name =>
    hperm.mem_iff.trans (hselected name)⟩

/-- Pairs are not there yet, nor is a storage by itself. -/
def MainPhase.Early : MainPhase σ S → Prop
  | .start | .parsed _ | .opened _ _ | .configured _ _ _ | .initialising _ _ _ _ => True
  | _ => False

/-- Before pairs are there, nothing is done with them. -/
theorem MainAt.quiet (h : MainAt env args w₀ tr s) (hearly : s.phase.Early) : ∀ l ∈ tr, ¬ l.Acts := by
  induction h with
  | start | parsed | opened | configured => simp [MainLabel.Acts]
  | initialising _ _ _ _ _ _ _ _ _ _ _ ih =>
    intro l hl
    rcases List.mem_append.mp hl with hl | hl
    · exact ih trivial l hl
    · simp only [List.mem_cons, List.mem_map] at hl
      rcases hl with rfl | ⟨_, -, rfl⟩ <;> exact id
  | loading | repairing | ready | notified | daemon | ended => exact hearly.elim

/-- How `main` has come to have pairs: it has read them, initialised all, and done nothing else but to say so. -/
theorem MainAt.ready_cases {command : Command} {pairs : List (NamedPair S)} {w : World σ}
    (h : MainAt env args w₀ tr ⟨.ready command pairs, w⟩) : ∃ cli data pre w₁,
      (Cli.parse env.lex args env.fds).result = .ok cli ∧ .read (.ok data) ∈ pre ∧ AllReady env args data pairs ∧
      MainAt env args w₀ pre ⟨.ready cli.command pairs, w₁⟩ ∧ (∀ l ∈ pre, ¬ l.Acts) ∧
      (tr = pre ∧ command = cli.command ∧ w = w₁ ∨
        ∃ fd, cli.command = .daemon (some fd) ∧ command = .daemon none ∧ tr = pre ++ [.ready fd none]) := by
  have hfirst : ∀ {tr : List (MainLabel S)} {command config order t} {w : World σ},
      MainAt env args w₀ tr ⟨.initialising command config order t, w⟩ → t.main = .returned (.ok pairs) →
      ∃ cli data, (Cli.parse env.lex args env.fds).result = .ok cli ∧ .read (.ok data) ∈ tr ∧
        AllReady env args data pairs ∧ command = cli.command := by
    intro tr command config order t w hinit ht
    cases hinit with
    | initialising _ s commands _ labels _ hconfigured _ hconfig horder hr =>
      cases hconfigured with
      | configured _ _ _ s₁ s₂ hcli =>
        refine ⟨_, _, hcli, ?_, allReady_of_run hcli hconfig horder hr ht, rfl⟩
        exact List.mem_append_left _ (List.mem_cons_of_mem _ (List.mem_cons_of_mem _ List.mem_cons_self))
  have hquiet : ∀ {tr : List (MainLabel S)}, (∀ l ∈ tr, ¬ l.Acts) → ∀ l ∈ tr ++ [.goesOn], ¬ l.Acts := by
    intro tr h l hl
    rcases List.mem_append.mp hl with hl | hl
    · exact h l hl
    · rw [List.mem_singleton.mp hl]
      exact id
  cases h with
  | ready _ hinit ht =>
    obtain ⟨cli, data, hcli, hdata, hready, rfl⟩ := hfirst hinit ht
    exact ⟨cli, data, _, w, hcli, List.mem_append_left _ hdata, hready, .ready pairs hinit ht, hquiet (hinit.quiet trivial),
      .inl ⟨rfl, rfl, rfl⟩⟩
  | notified fd s h =>
    cases h with
    | ready _ hinit ht =>
      obtain ⟨cli, data, hcli, hdata, hready, hcommand⟩ := hfirst hinit ht
      rw [hcommand] at hinit
      exact ⟨cli, data, _, _, hcli, List.mem_append_left _ hdata, hready, .ready pairs hinit ht, hquiet (hinit.quiet trivial),
        .inr ⟨fd, hcommand.symm, rfl, rfl⟩⟩

/-- What a command does, it does with pairs that are ready. -/
theorem MainAt.acts (h : MainAt env args w₀ tr s) (hs : MainStep env args s label s') (hacts : label.Acts)
    (hrepair : ∀ l, label ≠ .repair l) : ∃ cli data pairs w before during,
      (Cli.parse env.lex args env.fds).result = .ok cli ∧ .read (.ok data) ∈ before ∧ AllReady env args data pairs ∧
      tr = before ++ during ∧ (main env args).Run ⟨.start, w₀⟩ before ⟨.ready cli.command pairs, w⟩ ∧
      (∀ l ∈ before, ¬ l.Acts) ∧ Does env pairs w cli.command during label := by
  -- the command that starts acting, on pairs that are ready
  have hready : ∀ {command pairs w}, MainAt env args w₀ tr ⟨.ready command pairs, w⟩ → command ≠ .daemon none →
      Does env pairs w command [] label → ∃ cli data pairs w before during,
        (Cli.parse env.lex args env.fds).result = .ok cli ∧ .read (.ok data) ∈ before ∧ AllReady env args data pairs ∧
        tr = before ++ during ∧ (main env args).Run ⟨.start, w₀⟩ before ⟨.ready cli.command pairs, w⟩ ∧
        (∀ l ∈ before, ¬ l.Acts) ∧ Does env pairs w cli.command during label := by
    intro command pairs w h hcommand hdoes
    obtain ⟨cli, data, before, w₁, hcli, hdata, hall, hat, hquiet, ⟨rfl, rfl, rfl⟩ | ⟨-, -, hnone, -⟩⟩ := h.ready_cases
    · exact ⟨cli, data, pairs, w, tr, [], hcli, hdata, hall, (List.append_nil _).symm, hat.run, hquiet, hdoes⟩
    · exact absurd hnone hcommand
  cases hs with
  | repairStep => exact absurd rfl (hrepair _)
  | ready w pairs fd | readyFailed w pairs fd => exact hready h (by simp) (.ready fd _)
  | sync w pairs dryRun interactive ran hran =>
    subst hran
    exact hready h (by simp) (.sync dryRun interactive)
  | resolve w pairs dryRun ran hran =>
    subst hran
    exact hready h (by simp) (.resolve dryRun)
  | discover w pairs ran hran =>
    subst hran
    exact hready h (by simp) .discover
  | daemonStep w pairs t t' l hs =>
    cases h with
    | @daemon tr _ _ labels _ h hrun =>
      obtain ⟨cli, data, before, w₁, hcli, hdata, hall, hat, hquiet, hcases⟩ := h.ready_cases
      obtain ⟨rfl, hcommand, rfl⟩ | ⟨fd, hcommand, -, rfl⟩ := hcases
      · refine ⟨cli, data, pairs, w, tr, _, hcli, hdata, hall, rfl, hat.run, hquiet, ?_⟩
        rw [← hcommand]
        exact .daemon none labels l t t' hrun hs
      · refine ⟨cli, data, pairs, w₁, before, _, hcli, hdata, hall, List.append_assoc .., hat.run, hquiet, ?_⟩
        rw [hcommand]
        exact .daemon (some fd) labels l t t' hrun hs
  | _ => exact hacts.elim

/-- **What a command does, it does with the pairs that are selected**: when `main` acts, it has first read the
configuration and initialised all the pairs that the command line selects in it, and has done nothing else. -/
theorem main_acts_on_pairs {pre post : List (MainLabel S)} (hr : (main env args).Run ⟨.start, w₀⟩ (pre ++ label :: post) s)
    (hacts : label.Acts) (hrepair : ∀ l, label ≠ .repair l) : ∃ cli data pairs w before during,
      (Cli.parse env.lex args env.fds).result = .ok cli ∧ .read (.ok data) ∈ before ∧ AllReady env args data pairs ∧
      pre = before ++ during ∧ (main env args).Run ⟨.start, w₀⟩ before ⟨.ready cli.command pairs, w⟩ ∧
      (∀ l ∈ before, ¬ l.Acts) ∧ Does env pairs w cli.command during label := by
  obtain ⟨u, u', hpre, -, hs, -⟩ := hr.at_label
  exact (main_run_iff.mp hpre).acts hs hacts hrepair

/-! ## `repair` -/

/-- **What `repair` repairs are the storages that are selected**: when a storage is touched, `main` has first read the
configuration and initialised all the storages that the command line selects in it. -/
theorem main_repairs_storages {pre post : List (MainLabel S)} {l : RepairLabel}
    (hr : (main env args).Run ⟨.start, w₀⟩ (pre ++ .repair l :: post) s) :
    ∃ (cli : Cli) (data : String) (listed : List String) (storages : List (NamedStorage S)) (before : List (MainLabel S))
      (loads : List (LoadLabel S)) (repairs : List RepairLabel) (t t' : RepairState S),
      (Cli.parse env.lex args env.fds).result = .ok cli ∧ cli.command = .repair ∧ .read (.ok data) ∈ before ∧
      listStorageNames env.scfg data = .ok listed ∧ commandNames env.lex args ⊆ listed ∧
      (∀ name, (∃ storage ∈ storages, storage.name = name) ↔ Selected (commandNames env.lex args) listed name) ∧
      pre = before ++ .goesOn :: loads.map .load ++ .goesOn :: repairs.map .repair ∧ (∀ l ∈ before, ¬ l.Acts) ∧
      (repairStorages S).Run (.initial env.uids storages) repairs t ∧ (repairStorages S).step t l t' := by
  obtain ⟨u, u', hpre, -, hs, -⟩ := hr.at_label
  have h := main_run_iff.mp hpre
  cases hs with
  | repairStep w t t' _ hs =>
    cases h with
    | repairing storages repairs _ hloading hreturned hrepairs =>
      cases hloading with
      | loading loop loads _ hconfigured hcommand hloop hloads =>
        cases hconfigured with
        | configured _ path _ s₁ s₂ hcli =>
          obtain ⟨hok, hperm⟩ := run_returned hloads hreturned
          rw [← hloop, cliParse_asked hcli] at hok
          obtain ⟨listed, hlisted, hsub, hselected⟩ := startStorages_selects hok
          refine ⟨_, _, listed, storages, _, loads, repairs, t, t', hcli, hcommand, ?_, hlisted, hsub, fun name => ?_, rfl,
            fun l hl => ?_, hrepairs, hs⟩
          · exact List.mem_cons_of_mem _ (List.mem_cons_of_mem _ List.mem_cons_self)
          · rw [← hselected name, ← cliParse_asked hcli, hloop]
            constructor
            · rintro ⟨storage, hmem, rfl⟩
              exact ⟨storage.task, hperm.mem_iff.mp (List.mem_map_of_mem hmem), rfl⟩
            · rintro ⟨task, hmem, rfl⟩
              obtain ⟨storage, hstorage, rfl⟩ := List.mem_map.mp (hperm.mem_iff.mpr hmem)
              exact ⟨storage, hstorage, rfl⟩
          · simp only [List.mem_cons, List.not_mem_nil, or_false] at hl
            rcases hl with rfl | rfl | rfl <;> exact id

/-! ## Readiness -/

/-- Nothing follows the end of `main`. -/
theorem ended_stuck {how : MainEnd} {w : World σ} : ¬ MainStep env args ⟨.ended how, w⟩ label s' := nofun

/-- What is left to do once `READY=1` was written. -/
def MainPhase.Serving : MainPhase σ S → Prop
  | .ready (.daemon none) _ | .daemon _ _ | .ended _ => True
  | _ => False

/-- **Readiness is told once, and is true**: when `READY=1` is written, all pairs that are selected are there and nothing
was done with them; afterwards there is nothing but their daemons, and not even these if it could not be written. -/
theorem main_ready {pre post : List (MainLabel S)} {fd : ℤ} {error : Option Error}
    (hr : (main env args).Run ⟨.start, w₀⟩ (pre ++ .ready fd error :: post) s) :
    (∃ cli data pairs w, (Cli.parse env.lex args env.fds).result = .ok cli ∧ cli.command = .daemon (some fd) ∧
      .read (.ok data) ∈ pre ∧ AllReady env args data pairs ∧
      (main env args).Run ⟨.start, w₀⟩ pre ⟨.ready (.daemon (some fd)) pairs, w⟩) ∧
    (∀ l ∈ pre, ¬ l.Acts) ∧ (error ≠ none → post = []) ∧ ∀ l ∈ post, l = .goesOn ∨ ∃ d, l = .daemon d := by
  obtain ⟨u, u', hpre, -, hs, hpost⟩ := hr.at_label
  have h := main_run_iff.mp hpre
  have hserving : u'.phase.Serving → (∀ l ∈ post, l = .goesOn ∨ ∃ d, l = .daemon d) := by
    intro hu
    refine (hpost.history (I := fun tr s => s.phase.Serving ∧ ∀ l ∈ tr, l = .goesOn ∨ ∃ d, l = .daemon d)
      ⟨hu, by simp⟩ ?_).2
    rintro tr t l t' ⟨ht, htr⟩ - hs
    have hl : t'.phase.Serving ∧ (l = .goesOn ∨ ∃ d, l = .daemon d) := by
      cases hs <;> simp_all [MainPhase.Serving]
    refine ⟨hl.1, fun l' hl' => ?_⟩
    rcases List.mem_append.mp hl' with hl' | hl'
    · exact htr l' hl'
    · rw [List.mem_singleton.mp hl']
      exact hl.2
  have hbehind : ∀ {pairs w}, MainAt env args w₀ pre ⟨.ready (.daemon (some fd)) pairs, w⟩ →
      (∃ cli data pairs w, (Cli.parse env.lex args env.fds).result = .ok cli ∧ cli.command = .daemon (some fd) ∧
        .read (.ok data) ∈ pre ∧ AllReady env args data pairs ∧
        (main env args).Run ⟨.start, w₀⟩ pre ⟨.ready (.daemon (some fd)) pairs, w⟩) ∧ ∀ l ∈ pre, ¬ l.Acts := by
    intro pairs w h
    obtain ⟨cli, data, before, w₁, hcli, hdata, hall, -, hquiet, ⟨rfl, hcommand, -⟩ | ⟨-, -, hnone, -⟩⟩ := h.ready_cases
    · exact ⟨⟨cli, data, pairs, w, hcli, hcommand.symm, hdata, hall, h.run⟩, hquiet⟩
    · cases hnone
  cases hs with
  | ready w pairs _ t hwrite =>
    obtain ⟨hready, hquiet⟩ := hbehind h
    exact ⟨hready, hquiet, fun hne => absurd rfl hne, hserving trivial⟩
  | readyFailed w pairs _ e t hwrite =>
    obtain ⟨hready, hquiet⟩ := hbehind h
    refine ⟨hready, hquiet, fun _ => ?_, hserving trivial⟩
    cases post with
    | nil => rfl
    | cons l post =>
      obtain ⟨_, -, hs, -⟩ := hpost.uncons
      exact absurd hs ended_stuck

/-! ## Some runs -/

/-- A pair of two directories. -/
def homeAndWork : Scfg :=
  [("status_path", ⟨["/status"], none⟩), ("pair", pairOf "work" "home" "work"),
    ("storage", ⟨["home"], some (vdirBlock "/a")⟩), ("storage", ⟨["work"], some (vdirBlock "/a")⟩)]

/-- A configuration file that can be read, for a user who merges nothing. -/
def quietOutside : MainOutside Unit String Unit (List String) where
  lex := plainArgs
  fds := ⟨[0, 1, 2, 5], []⟩
  version := "v0.5.0"
  xdgConfigHome := some "/home/user/.config"
  homeDir := none
  openFile _ s := (.ok (), s)
  readToString _ s := (.ok "", s)
  scfg _ := .ok homeAndWork
  exec := noExec
  pairs := namesOnly
  uids := bareItems
  plan :=
    { openStatus := fun _ s => (.ok none, s), openOrCreate := fun _ s => (.ok (), s), newPlan := fun _ _ s => (.ok [], s),
      keepSide := fun _ plan => plan, execute := fun _ _ _ _ s => (⟨[], .ok (.ok ())⟩, s) }
  resolve :=
    { hash := Item.text, ident := Item.text, tempFile := fun _ s => ((.ok (), .ok ()), s),
      merge := fun _ _ _ s => (⟨.error ["not found"], .ok (true, ""), .ok (), .ok (), .ok "", .ok ""⟩, s),
      updateItem := fun _ _ _ _ s => (.ok (), s), setProperty := fun _ _ _ _ s => (.ok (), s), first := fun s => (.a, s) }
  discoverCollections _ s := (.ok [], s)
  writeReady _ s := (.ok (), s)

/-- A command line of names, for a command that takes names and flags. -/
theorem namesLine_parse {rawCmd : String} {flags : List Char} {f : List Char → Command} {names : List String} {fds : Fds}
    (hoptions : parseOptions plainArgs (rawCmd :: names) .warn none = .ok (.warn, none, some (rawCmd, names)))
    (hcommand : parseCommand plainArgs rawCmd names .new =
      Prog.lift ((parseNames plainArgs flags f names .new).mapError .err))
    (hargs : argsOf plainArgs names = (names.map .value, none)) :
    (Cli.parse plainArgs ("pimsync" :: rawCmd :: names) fds).result = .ok ⟨f [], .warn, none, .asked names⟩ := by
  have hflags : (names.map Arg.value).filterMap Arg.flag? = [] := by simp [List.filterMap_map, Arg.flag?, Function.comp_def]
  have hvalues : (names.map Arg.value).filterMap Arg.name? = names := by
    simp [List.filterMap_map, Arg.name?, Function.comp_def]
  have hnames : parseNames plainArgs flags f names .new = .ok (f [], .asked names) := by
    refine parseNames_ok_iff.mpr ?_
    rw [hargs, hflags, hvalues]
    exact ⟨rfl, by simp [Arg.Fits], rfl, rfl⟩
  rw [Cli.parse_run hoptions, hcommand, hnames]
  rfl

def daemonLine : List String := ["pimsync", "daemon", "-r", "5", "work"]

theorem daemonLine_parse :
    (Cli.parse plainArgs daemonLine ⟨[0, 1, 2, 5], []⟩).result = .ok ⟨.daemon (some 5), .warn, none, .asked ["work"]⟩ := by
  rw [daemonLine, Cli.parse_run (parseOptions_daemon _)]
  simp only [parseCommand, Prog.bind_run, parseDaemon, daemonLoop_eq, daemonArgs_ready, daemonArgs_work]
  rfl

theorem homeAndWork_config : parseConfig (fun _ => .ok homeAndWork) noExec "" (.asked ["work"]) () =
    ⟨.ok (onePair "work" (vdirBlock "/a")), (), []⟩ := rfl

/-- A command gets to the only pair that is selected. -/
theorem quiet_pairs {args : List String} {command : Command}
    (hcli : (Cli.parse plainArgs args ⟨[0, 1, 2, 5], []⟩).result = .ok ⟨command, .warn, none, .asked ["work"]⟩)
    (huses : command.UsesPairs) : ∃ (mid : List (MainLabel String)) (pair : NamedPair String),
      MainAt quietOutside args ⟨[], ()⟩ (.parsed (.ok ⟨command, .warn, none, .asked ["work"]⟩) :: mid)
        ⟨.ready command [pair], ⟨[], ()⟩⟩ := by
  obtain ⟨labels, t, pair, hr, ht⟩ := onePair_run "work" (vdirBlock "/a")
  have hversion : command ≠ .version := by
    rintro rfl
    exact huses
  have hconfigured : MainAt quietOutside args ⟨[], ()⟩ _ _ := .configured _ _ "" () () hcli hversion rfl rfl rfl
  have hinit := MainAt.initialising _ () [] _ labels t hconfigured huses homeAndWork_config (.refl _) hr
  exact ⟨_, pair, .ready [pair] hinit ht⟩

/-- A daemon tells that it is ready. -/
theorem quiet_ready : ∃ (pre : List (MainLabel String)) (s : MainState Unit String),
    (main quietOutside daemonLine).Run ⟨.start, ⟨[], ()⟩⟩ (pre ++ [.ready 5 none]) s := by
  obtain ⟨mid, pair, h⟩ := quiet_pairs daemonLine_parse trivial
  exact ⟨_, _, (MainAt.notified 5 () h rfl).run⟩

theorem main_ready_quiet : ∃ (pre : List (MainLabel String)) (data : String) (pairs : List (NamedPair String)),
    AllReady quietOutside daemonLine data pairs ∧ ∀ l ∈ pre, ¬ l.Acts := by
  obtain ⟨pre, s, hr⟩ := quiet_ready
  obtain ⟨⟨cli, data, pairs, -, -, -, -, hall, -⟩, hquiet, -, -⟩ := main_ready hr
  exact ⟨pre, data, pairs, hall, hquiet⟩

theorem main_acts_on_pairs_quiet : ∃ (cli : Cli) (pairs : List (NamedPair String)) (w : World Unit)
    (during : List (MainLabel String)), (Cli.parse plainArgs daemonLine ⟨[0, 1, 2, 5], []⟩).result = .ok cli ∧
      Does quietOutside pairs w cli.command during (.ready 5 none) := by
  obtain ⟨pre, s, hr⟩ := quiet_ready
  obtain ⟨cli, -, pairs, w, -, during, hcli, -, -, -, -, -, hdoes⟩ := main_acts_on_pairs hr trivial fun _ => nofun
  exact ⟨cli, pairs, w, during, hcli, hdoes⟩

/-- Three directories. -/
def threeDirs : Scfg :=
  [("storage", ⟨["home"], some (vdirBlock "/a")⟩), ("storage", ⟨["archive"], some (vdirBlock "/b")⟩),
    ("storage", ⟨["work"], some (vdirBlock "/c")⟩)]

def repairOutside : MainOutside Unit String Unit (List String) := { quietOutside with scfg := fun _ => .ok threeDirs }

def repairLine : List String := ["pimsync", "repair", "work", "home"]

theorem repairLine_parse :
    (Cli.parse plainArgs repairLine ⟨[0, 1, 2, 5], []⟩).result = .ok ⟨.repair, .warn, none, .asked ["work", "home"]⟩ := by
  have hwork : plainArgs.next ["work", "home"] = .ok (some (.value "work", ⟨["home"], Nat.lt_succ_self _⟩)) := rfl
  have hhome : plainArgs.next ["home"] = .ok (some (.value "home", ⟨[], Nat.lt_succ_self _⟩)) := rfl
  have hargs : argsOf plainArgs ["work", "home"] = (["work", "home"].map .value, none) := by
    rw [argsOf_next hwork, argsOf_next hhome, argsOf_end rfl]
    rfl
  have hoptions : parseOptions plainArgs ["repair", "work", "home"] .warn none =
      .ok (.warn, none, some ("repair", ["work", "home"])) := by
    rw [parseOptions]
    rfl
  exact namesLine_parse hoptions rfl hargs

/-- `repair` loads two of the storages, the second is there before the first, and it is asked for its collections. -/
theorem repair_starts : ∃ (pre : List (MainLabel String)) (s : MainState Unit String),
    (main repairOutside repairLine).Run ⟨.start, ⟨[], ()⟩⟩ (pre ++ [.repair (.call 0 ⟨.discoverCollections, .ok []⟩)]) s := by
  let loop := startStorages (fun _ => .ok threeDirs) noExec "" (.asked ["work", "home"]) ()
  have htasks : spawnedTasks loop.log = [⟨"home", 0, vdirBlock "/a"⟩, ⟨"work", 2, vdirBlock "/c"⟩] := rfl
  obtain ⟨loads, t, hr, ht⟩ : ∃ tr s, (parseStorages String loop).Run (.initial String loop) tr s ∧
      s.main = .returned (.ok [⟨"work", "/c", ⟨2, vdirBlock "/c"⟩⟩, ⟨"home", "/a", ⟨0, vdirBlock "/a"⟩⟩]) :=
    run_crossed rfl htasks (fun _ _ _ => trivial) (fun _ _ => trivial) fun _ _ => trivial
  have hconfigured : MainAt repairOutside repairLine ⟨[], ()⟩ _ _ :=
    .configured _ _ "" () () repairLine_parse nofun rfl rfl rfl
  have hloading := MainAt.loading loop loads t hconfigured rfl rfl hr
  have hrepairing := MainAt.repairing _ [] _ hloading ht (.nil _)
  exact ⟨_, _, hrepairing.run.snoc trivial (.repairStep _ _ _ _ (.call _ 0 0 _ _ _ _ rfl))⟩

theorem main_repairs_storages_starts : ∃ (listed : List String) (storages : List (NamedStorage String)),
    listStorageNames (fun _ => .ok threeDirs) "" = .ok listed ∧
      (∀ name ∈ commandNames plainArgs repairLine, name ∈ listed) ∧
      ∀ name, (∃ storage ∈ storages, storage.name = name) ↔ Selected (commandNames plainArgs repairLine) listed name := by
  obtain ⟨pre, s, hr⟩ := repair_starts
  obtain ⟨cli, data, listed, storages, -, -, -, -, -, -, -, -, hlisted, hsub, hselected, -⟩ := main_repairs_storages hr
  exact ⟨listed, storages, hlisted, hsub, hselected⟩

end Pimsync
