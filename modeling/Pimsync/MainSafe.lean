import Pimsync.MainRuns
import Pimsync.SyncTrace

/-!
# What the program leaves alone

- `main_passive`: the commands that only look never write to a storage or to a status database; `list` does not even run
  the commands of the configuration, and `version` does not open it;
- `check_is_preflight`: `check` ends well if and only if any other command gets to its pairs, and fails as that would.
-/

namespace Pimsync

open JoinSet

variable {σ S D P : Type}

/-! ## Passive commands -/

/-- The commands that only look. -/
def Command.Passive : Command → Prop
  | .check | .discover | .list _ | .version | .sync true _ | .resolveConflicts true => True
  | _ => False

/-- What `sync` does to a status database or to the storages of a pair. -/
def SyncEvent.Writes : SyncEvent S → Prop
  | .opened _ _ | .executed _ _ _ => True
  | _ => False

/-- Something is written, or may be. -/
def MainLabel.Writes : MainLabel S → Prop
  | .repair _ | .ready _ _ | .daemon _ => True
  | .synced log => ∃ event ∈ log, event.Writes
  | .resolved log => log ≠ []
  | _ => False

/-- A command of the configuration may be run, or a storage initialised. -/
def MainLabel.Loads : MainLabel S → Prop
  | .configured _ | .load _ | .init _ => True
  | _ => False

theorem planShown_writes (env : PlanOutside σ S D) (pair : NamedPair S) (plan : List PlanItem) :
    ∀ event ∈ shownPair env pair plan, ¬ event.Writes := by
  intro event he
  simp only [shownPair, List.mem_append, List.mem_singleton, List.mem_map] at he
  obtain (rfl | ⟨_, -, rfl⟩) | rfl := he <;> exact id

/-- A dry run of a pair writes nothing. -/
theorem PairTrace.dryRun_writes {env : PlanOutside σ S D} {interactive : Bool} {pair : NamedPair S}
    {trace : List (SyncEvent S)} {ended : PairEnd} (h : PairTrace env true interactive pair trace ended) :
    ∀ event ∈ trace, ¬ event.Writes := by
  have hshown : ∀ (plan : List PlanItem) (log : List TermEvent),
      ∀ event ∈ shownPair env pair plan ++ log.map .term, ¬ event.Writes := by
    intro plan log event he
    rcases List.mem_append.mp he with he | he
    · exact planShown_writes env pair plan event he
    · obtain ⟨_, -, rfl⟩ := List.mem_map.mp he
      exact id
  cases h with
  | planFailed e =>
    intro event he
    rw [List.mem_singleton.mp he]
    exact id
  | promptFailed plan log | declined plan log | dryRun plan log => exact hshown plan log
  | executed plan log trace ended _ hd => cases hd

/-- A dry run writes nothing. -/
theorem sync_dryRun_writes (env : PlanOutside σ S D) (pairs : List (NamedPair S)) (interactive : Bool) (w : World σ) :
    ∀ event ∈ (sync env pairs true interactive w).log, ¬ event.Writes := by
  obtain ⟨visits, hvisits, hlog, -⟩ := sync_run env true interactive pairs w
  intro event he
  rw [hlog] at he
  obtain ⟨visit, hv, he⟩ := List.mem_flatMap.mp he
  rcases List.mem_append.mp he with he | he
  · exact (hvisits.trace visit hv).dryRun_writes event he
  · obtain ⟨_, -, rfl⟩ := List.mem_map.mp he
    exact id

section Main

variable [DecidableEq S] {env : MainOutside σ S D P} {args args' : List String} {w₀ w : World σ} {tr : List (MainLabel S)}
  {s s' : MainState σ S} {label : MainLabel S} {cli cli' : Cli}

/-- The command of a run is the one that was parsed. -/
theorem MainAt.configured_cli {path data : String} (h : MainAt env args w₀ tr ⟨.configured cli path data, w⟩) :
    (Cli.parse env.lex args env.fds).result = .ok cli := by
  cases h with
  | configured _ _ _ _ _ hcli => exact hcli

/-- Storages are initialised by themselves in `repair` only. -/
theorem MainAt.loading_command {loop : Ran σ LoadEvent Error Unit} {t : LoadState S}
    (h : MainAt env args w₀ tr ⟨.loading loop t, w⟩) :
    ∃ cli, (Cli.parse env.lex args env.fds).result = .ok cli ∧ cli.command = .repair := by
  cases h with
  | loading _ _ _ hconfigured hcommand => exact ⟨_, hconfigured.configured_cli, hcommand⟩

/-- Storages are touched in `repair` only. -/
theorem MainAt.repairing_command {t : RepairState S} (h : MainAt env args w₀ tr ⟨.repairing t, w⟩) :
    ∃ cli, (Cli.parse env.lex args env.fds).result = .ok cli ∧ cli.command = .repair := by
  cases h with
  | repairing _ _ _ hloading => exact hloading.loading_command

/-- Pairs are initialised for the commands that use them. -/
theorem MainAt.initialising_command {command : Command} {config : Config} {order : List (String × Scfg)} {t : PairsState S}
    (h : MainAt env args w₀ tr ⟨.initialising command config order t, w⟩) :
    ∃ cli, (Cli.parse env.lex args env.fds).result = .ok cli ∧ cli.command = command ∧ command.UsesPairs := by
  cases h with
  | initialising _ _ _ _ _ _ hconfigured hpairs => exact ⟨_, hconfigured.configured_cli, rfl, hpairs⟩

/-- What a passive command does with its pairs writes nothing. -/
theorem Does.passive {pairs : List (NamedPair S)} {command : Command} {before : List (MainLabel S)}
    (h : Does env pairs w command before label) (hpassive : command.Passive) : ¬ label.Writes := by
  cases h with
  | sync dryRun interactive =>
    cases dryRun with
    | false => exact hpassive.elim
    | true =>
      rintro ⟨event, he, hwrites⟩
      exact sync_dryRun_writes env.plan pairs interactive w event he hwrites
  | resolve dryRun =>
    cases dryRun with
    | false => exact hpassive.elim
    | true => exact fun hne => hne rfl
  | discover => exact id
  | ready | daemon => exact hpassive.elim

/-- Each step of a run is one from where `main` has come to. -/
theorem exists_mainAt (hr : (main env args).Run ⟨.start, w₀⟩ tr s) (hl : label ∈ tr) :
    ∃ pre u u', MainAt env args w₀ pre u ∧ MainStep env args u label u' := by
  obtain ⟨pre, post, rfl⟩ := List.append_of_mem hl
  obtain ⟨u, u', hpre, -, hs, -⟩ := hr.at_label
  exact ⟨pre, u, u', main_run_iff.mp hpre, hs⟩

/-- Only `repair` acts otherwise than on pairs. -/
theorem MainAt.acts_cases (h : MainAt env args w₀ tr s) (hs : MainStep env args s label s') (hacts : label.Acts)
    (hcli : (Cli.parse env.lex args env.fds).result = .ok cli) :
    cli.command = .repair ∨ ∃ pairs w during, Does env pairs w cli.command during label := by
  by_cases hrepair : ∃ l, label = .repair l
  · obtain ⟨l, rfl⟩ := hrepair
    cases hs with
    | repairStep =>
      obtain ⟨cli', hcli', hcommand⟩ := h.repairing_command
      obtain rfl := Except.ok.inj (hcli'.symm.trans hcli)
      exact .inl hcommand
  · obtain ⟨cli', data, pairs, w, before, during, hcli', -, -, -, -, -, hdoes⟩ :=
      h.acts hs hacts fun l hl => hrepair ⟨l, hl⟩
    obtain rfl := Except.ok.inj (hcli'.symm.trans hcli)
    exact .inr ⟨pairs, w, during, hdoes⟩

/-- **The commands that only look**: whatever they run into, they never write to a storage or to a status database; `list`
runs no command of the configuration, and `version` opens no file. -/
theorem main_passive (hcli : (Cli.parse env.lex args env.fds).result = .ok cli)
    (hr : (main env args).Run ⟨.start, w₀⟩ tr s) :
    (cli.command.Passive → ∀ l ∈ tr, ¬ l.Writes) ∧
    (¬ cli.command.UsesPairs → cli.command ≠ .repair → ∀ l ∈ tr, ¬ l.Loads) ∧
    (cli.command = .version → ∀ path error, .opened path error ∉ tr) := by
  have hsame : ∀ {cli'}, (Cli.parse env.lex args env.fds).result = .ok cli' → cli' = cli := by
    intro cli' hcli'
    exact Except.ok.inj (hcli'.symm.trans hcli)
  refine ⟨fun hpassive l hl hwrites => ?_, fun hpairs hrepair l hl hloads => ?_, fun hversion path error hl => ?_⟩
  · obtain ⟨pre, u, u', h, hs⟩ := exists_mainAt hr hl
    have hacts : l.Acts := by
      cases l <;> trivial
    obtain hcommand | ⟨pairs, w, during, hdoes⟩ := h.acts_cases hs hacts hcli
    · rw [hcommand] at hpassive
      exact hpassive
    · exact hdoes.passive hpassive hwrites
  · obtain ⟨pre, u, u', h, hs⟩ := exists_mainAt hr hl
    cases hs with
    | loadStep =>
      obtain ⟨cli', hcli', hcommand⟩ := h.loading_command
      exact hrepair (hsame hcli' ▸ hcommand)
    | config _ _ _ _ _ _ _ _ huses | configFailed _ _ _ _ _ _ _ huses =>
      exact hpairs (hsame h.configured_cli ▸ huses)
    | initStep =>
      obtain ⟨cli', hcli', hcommand, huses⟩ := h.initialising_command
      exact hpairs (hsame hcli' ▸ hcommand ▸ huses)
    | _ => exact hloads
  · obtain ⟨pre, u, u', h, hs⟩ := exists_mainAt hr hl
    cases hs with
    | opened _ _ _ _ hcommand | openFailed _ _ _ _ _ hcommand =>
      cases h with
      | parsed _ hcli' => exact hcommand (hsame hcli' ▸ hversion)

/-! ## `check` -/

/-- Two command lines for the same pairs of the same file. -/
structure SamePairs (env : MainOutside σ S D P) (args args' : List String) (cli cli' : Cli) : Prop where
  parsed : (Cli.parse env.lex args env.fds).result = .ok cli
  parsed' : (Cli.parse env.lex args' env.fds).result = .ok cli'
  usesPairs : cli.command.UsesPairs
  usesPairs' : cli'.command.UsesPairs
  names : cli.names = cli'.names
  configFile : cli.configFile = cli'.configFile

omit [DecidableEq S] in
theorem SamePairs.symm (h : SamePairs env args args' cli cli') : SamePairs env args' args cli' cli :=
  ⟨h.parsed', h.parsed, h.usesPairs', h.usesPairs, h.names.symm, h.configFile.symm⟩

omit [DecidableEq S] in
theorem Command.UsesPairs.ne_version {command : Command} (h : command.UsesPairs) : command ≠ .version := by
  rintro rfl
  exact h

omit [DecidableEq S] in
theorem SamePairs.configPath (h : SamePairs env args args' cli cli') : configPath env cli = configPath env cli' := by
  rw [Pimsync.configPath, Pimsync.configPath, h.configFile]

namespace MainAt

variable {c : Cli} {path data : String}

theorem parsed_same (h : SamePairs env args args' cli cli') (hat : MainAt env args w₀ tr ⟨.parsed c, w⟩) :
    c = cli ∧ ∃ mid, tr = .parsed (.ok cli) :: mid ∧
      MainAt env args' w₀ (.parsed (.ok cli') :: mid) ⟨.parsed cli', w⟩ := by
  cases hat with
  | parsed _ hcli =>
    obtain rfl := Except.ok.inj (hcli.symm.trans h.parsed)
    exact ⟨rfl, [], rfl, .parsed cli' h.parsed'⟩

theorem opened_same (h : SamePairs env args args' cli cli') (hat : MainAt env args w₀ tr ⟨.opened c path, w⟩) :
    c = cli ∧ ∃ mid, tr = .parsed (.ok cli) :: mid ∧
      MainAt env args' w₀ (.parsed (.ok cli') :: mid) ⟨.opened cli' path, w⟩ := by
  cases hat with
  | opened _ _ s hcli hcommand hpath hopen =>
    obtain rfl := Except.ok.inj (hcli.symm.trans h.parsed)
    exact ⟨rfl, [_], rfl, .opened cli' path s h.parsed' h.usesPairs'.ne_version (h.configPath ▸ hpath) hopen⟩

theorem configured_same (h : SamePairs env args args' cli cli') (hat : MainAt env args w₀ tr ⟨.configured c path data, w⟩) :
    c = cli ∧ ∃ mid, tr = .parsed (.ok cli) :: mid ∧
      MainAt env args' w₀ (.parsed (.ok cli') :: mid) ⟨.configured cli' path data, w⟩ := by
  cases hat with
  | configured _ _ _ s s' hcli hcommand hpath hopen hread =>
    obtain rfl := Except.ok.inj (hcli.symm.trans h.parsed)
    exact ⟨rfl, [_, _], rfl,
      .configured cli' path data s s' h.parsed' h.usesPairs'.ne_version (h.configPath ▸ hpath) hopen hread⟩

theorem initialising_same (h : SamePairs env args args' cli cli') {command : Command} {config : Config}
    {order : List (String × Scfg)} {t : PairsState S}
    (hat : MainAt env args w₀ tr ⟨.initialising command config order t, w⟩) :
    command = cli.command ∧ ∃ mid, tr = .parsed (.ok cli) :: mid ∧
      MainAt env args' w₀ (.parsed (.ok cli') :: mid) ⟨.initialising cli'.command config order t, w⟩ := by
  cases hat with
  | initialising _ s commands _ labels _ hconfigured hpairs hconfig horder hr =>
    obtain ⟨rfl, mid, rfl, hat⟩ := hconfigured.configured_same h
    rw [h.names] at hconfig
    exact ⟨rfl, _, rfl, .initialising config s commands order labels t hat h.usesPairs' hconfig horder hr⟩

/-- Up to its pairs, a command does what any other would do. -/
theorem ready_same (h : SamePairs env args args' cli cli') {pairs : List (NamedPair S)}
    (hat : MainAt env args w₀ tr ⟨.ready cli.command pairs, w⟩) : ∃ mid, tr = .parsed (.ok cli) :: mid ∧
      MainAt env args' w₀ (.parsed (.ok cli') :: mid) ⟨.ready cli'.command pairs, w⟩ := by
  generalize hcommand : cli.command = command at hat
  cases hat with
  | ready _ hinit ht =>
    obtain ⟨rfl, mid, rfl, hat⟩ := hinit.initialising_same h
    exact ⟨_, rfl, .ready pairs hat ht⟩
  | notified fd s hready =>
    -- the descriptor was on the command line, and still is
    obtain ⟨cli'', _, _, _, hcli, -, -, -, -, ⟨-, hfd, -⟩ | ⟨-, -, hnone, -⟩⟩ := hready.ready_cases
    · rw [Except.ok.inj (hcli.symm.trans h.parsed), hcommand] at hfd
      cases hfd
    · cases hnone

/-- An end that is not good, before anything was done with the pairs, is that of any other command. -/
theorem ended_same (h : SamePairs env args args' cli cli') {how : MainEnd} (hat : MainAt env args w₀ tr ⟨.ended how, w⟩)
    (hacts : ∀ l ∈ tr, ¬ l.Acts) (hhow : how ≠ .ok) : ∃ mid, tr = .parsed (.ok cli) :: mid ∧
      MainAt env args' w₀ (.parsed (.ok cli') :: mid) ⟨.ended how, w⟩ := by
  have hrepair : ¬ ∃ c, (Cli.parse env.lex args env.fds).result = .ok c ∧ c.command = .repair := by
    rintro ⟨c, hc, hcommand⟩
    have huses := h.usesPairs
    rw [Except.ok.inj (h.parsed.symm.trans hc), hcommand] at huses
    exact huses
  cases hat with
  | @ended pre s _ label _ hat hs =>
    have hlabel : ¬ label.Acts := hacts label (List.mem_append_right _ (List.mem_singleton_self _))
    have hend : ∀ {s' : MainState σ S}, (∃ mid, pre = .parsed (.ok cli) :: mid ∧
        MainAt env args' w₀ (.parsed (.ok cli') :: mid) s') → MainStep env args' s' label ⟨.ended how, w⟩ →
        ∃ mid, pre ++ [label] = .parsed (.ok cli) :: mid ∧
          MainAt env args' w₀ (.parsed (.ok cli') :: mid) ⟨.ended how, w⟩ := by
      rintro s' ⟨mid, rfl, hsame⟩ hs
      exact ⟨_, rfl, .ended label how hsame hs⟩
    cases hs with
    | badUsage _ _ he | cliPanicked _ _ he =>
      rw [h.parsed] at he
      cases he
    | version | list | check => exact absurd rfl hhow
    | noPath _ _ e hcommand hpath =>
      obtain ⟨rfl, hsame⟩ := hat.parsed_same h
      exact hend hsame (.noPath _ _ e h.usesPairs'.ne_version (h.configPath ▸ hpath))
    | openFailed w _ path e s hcommand hpath hopen =>
      obtain ⟨rfl, hsame⟩ := hat.parsed_same h
      exact hend hsame (.openFailed w _ path e s h.usesPairs'.ne_version (h.configPath ▸ hpath) hopen)
    | readFailed w _ path e s hread =>
      obtain ⟨rfl, hsame⟩ := hat.opened_same h
      exact hend hsame (.readFailed w _ path e s hread)
    | loadFailed => exact absurd hat.loading_command hrepair
    | repaired => exact absurd hat.repairing_command hrepair
    | listFailed _ _ _ _ _ _ hcommand =>
      obtain ⟨rfl, -⟩ := hat.configured_same h
      have huses := h.usesPairs
      rw [hcommand] at huses
      exact huses.elim
    | configFailed w _ path data e s commands huses hconfig =>
      obtain ⟨rfl, hsame⟩ := hat.configured_same h
      rw [h.names] at hconfig
      exact hend hsame (.configFailed w _ path data e s commands h.usesPairs' hconfig)
    | initFailed _ _ config order t e ht =>
      obtain ⟨rfl, hsame⟩ := hat.initialising_same h
      exact hend hsame (.initFailed w _ config order t e ht)
    | initPanicked _ _ config order t msg ht =>
      obtain ⟨rfl, hsame⟩ := hat.initialising_same h
      exact hend hsame (.initPanicked w _ config order t msg ht)
    | daemonReturned w pairs t ht =>
      cases hat with
      | daemon labels _ _ hr =>
        rcases labels with _ | ⟨l, labels⟩
        · obtain rfl := hr.nil_eq
          cases ht
        · exact absurd trivial (hacts (.daemon l) (by simp))
    | readyFailed | sync | resolve | discover => exact absurd trivial hlabel

end MainAt

/-- **`check` says whether another command would start**: it ends well, after the same steps, if and only if the other
command gets to its pairs; and it ends otherwise if and only if the other one does so before it touches them. -/
theorem check_is_preflight (h : SamePairs env args args' cli cli') (hcheck : cli.command = .check)
    (mid : List (MainLabel S)) (w : World σ) :
    ((main env args).Run ⟨.start, w₀⟩ (.parsed (.ok cli) :: mid ++ [.goesOn]) ⟨.ended .ok, w⟩ ↔
      ∃ pairs, (main env args').Run ⟨.start, w₀⟩ (.parsed (.ok cli') :: mid) ⟨.ready cli'.command pairs, w⟩) ∧
    ∀ how, how ≠ .ok → ((main env args).Run ⟨.start, w₀⟩ (.parsed (.ok cli) :: mid) ⟨.ended how, w⟩ ↔
      (main env args').Run ⟨.start, w₀⟩ (.parsed (.ok cli') :: mid) ⟨.ended how, w⟩ ∧ ∀ l ∈ mid, ¬ l.Acts) := by
  have hchecks : ∀ {mid how}, MainAt env args w₀ (.parsed (.ok cli) :: mid) ⟨.ended how, w⟩ → ∀ l ∈ mid, ¬ l.Acts := by
    intro mid how hat l hl hacts
    obtain ⟨pre, u, u', hpre, hs⟩ := exists_mainAt hat.run (List.mem_cons_of_mem _ hl)
    obtain hcommand | ⟨pairs, w, during, hdoes⟩ := hpre.acts_cases hs hacts h.parsed <;> rw [hcheck] at *
    · cases hcommand
    · cases hdoes
  have hparsed : ∀ {c : Cli} {mid : List (MainLabel S)}, (∀ l ∈ mid, ¬ l.Acts) →
      ∀ l ∈ .parsed (.ok c) :: mid, ¬ l.Acts := by
    intro c mid hmid
    exact List.forall_mem_cons.mpr ⟨id, hmid⟩
  refine ⟨⟨fun hr => ?_, fun ⟨pairs, hr⟩ => ?_⟩, fun how hhow => ⟨fun hr => ?_, fun ⟨hr, hacts⟩ => ?_⟩⟩
  · have hat := main_run_iff.mp hr
    generalize htr : MainLabel.parsed (.ok cli) :: mid ++ [.goesOn] = tr at hat
    generalize hhow : MainEnd.ok = how at hat
    cases hat with
    | ended label how hat hs =>
      obtain ⟨rfl, hlabel⟩ := List.append_inj' htr rfl
      obtain rfl := List.singleton_inj.mp hlabel
      cases hs with
      | check w pairs =>
        rw [← hcheck] at hat
        obtain ⟨mid', hmid, hsame⟩ := hat.ready_same h
        obtain ⟨-, rfl⟩ := List.cons_eq_cons.mp hmid
        exact ⟨pairs, hsame.run⟩
      | repaired =>
        obtain ⟨c, hcli, hcommand⟩ := hat.repairing_command
        obtain rfl := Except.ok.inj (hcli.symm.trans h.parsed)
        rw [hcheck] at hcommand
        cases hcommand
      | _ => cases hhow
  · obtain ⟨mid', hmid, hat⟩ := (main_run_iff.mp hr).ready_same h.symm
    obtain ⟨-, rfl⟩ := List.cons_eq_cons.mp hmid
    rw [hcheck] at hat
    exact hat.run.snoc trivial (.check w pairs)
  · have hat := main_run_iff.mp hr
    obtain ⟨mid', hmid, hsame⟩ := hat.ended_same h (hparsed (hchecks hat)) hhow
    obtain ⟨-, rfl⟩ := List.cons_eq_cons.mp hmid
    exact ⟨hsame.run, hchecks hat⟩
  · obtain ⟨mid', hmid, hsame⟩ := (main_run_iff.mp hr).ended_same h.symm (hparsed hacts) hhow
    obtain ⟨-, rfl⟩ := List.cons_eq_cons.mp hmid
    exact hsame.run

end Main

/-! ## Some runs -/

def checkLine : List String := ["pimsync", "check", "work"]

theorem checkLine_parse :
    (Cli.parse plainArgs checkLine ⟨[0, 1, 2, 5], []⟩).result = .ok ⟨.check, .warn, none, .asked ["work"]⟩ := by
  have hwork : plainArgs.next ["work"] = .ok (some (.value "work", ⟨[], Nat.lt_succ_self _⟩)) := rfl
  have hargs : argsOf plainArgs ["work"] = (["work"].map .value, none) := by
    rw [argsOf_next hwork, argsOf_end rfl]
    rfl
  have hoptions : parseOptions plainArgs ["check", "work"] .warn none = .ok (.warn, none, some ("check", ["work"])) := by
    rw [parseOptions]
    rfl
  exact namesLine_parse hoptions rfl hargs

/-- A check that ends well. -/
theorem check_passes : ∃ mid : List (MainLabel String), (main quietOutside checkLine).Run ⟨.start, ⟨[], ()⟩⟩
    (.parsed (.ok ⟨.check, .warn, none, .asked ["work"]⟩) :: mid ++ [.goesOn]) ⟨.ended .ok, ⟨[], ()⟩⟩ := by
  obtain ⟨mid, pair, h⟩ := quiet_pairs checkLine_parse trivial
  exact ⟨mid, h.run.snoc trivial (.check _ [pair])⟩

theorem main_passive_check : ∃ mid : List (MainLabel String), (main quietOutside checkLine).Run ⟨.start, ⟨[], ()⟩⟩
    (.parsed (.ok ⟨.check, .warn, none, .asked ["work"]⟩) :: mid ++ [.goesOn]) ⟨.ended .ok, ⟨[], ()⟩⟩ ∧
      ∀ l ∈ mid, ¬ l.Writes := by
  obtain ⟨mid, hr⟩ := check_passes
  have hcli : (Cli.parse quietOutside.lex checkLine quietOutside.fds).result = .ok _ := checkLine_parse
  refine ⟨mid, hr, fun l hl => ?_⟩
  exact (main_passive hcli hr).1 trivial l (List.mem_cons_of_mem _ (List.mem_append_left _ hl))

/-- What was checked is then served. -/
theorem check_is_preflight_daemon : ∃ (mid : List (MainLabel String)) (pairs : List (NamedPair String)),
    (main quietOutside daemonLine).Run ⟨.start, ⟨[], ()⟩⟩
      (.parsed (.ok ⟨.daemon (some 5), .warn, none, .asked ["work"]⟩) :: mid)
      ⟨.ready (.daemon (some 5)) pairs, ⟨[], ()⟩⟩ := by
  obtain ⟨mid, hr⟩ := check_passes
  have hsame : SamePairs quietOutside checkLine daemonLine _ _ :=
    ⟨checkLine_parse, daemonLine_parse, trivial, trivial, rfl, rfl⟩
  exact ⟨mid, (check_is_preflight hsame rfl mid ⟨[], ()⟩).1.mp hr⟩

end Pimsync
