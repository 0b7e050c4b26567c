import Pimsync.Config.ParseStorages
import Pimsync.Config.NamedPairs
import Pimsync.CliParse
import Pimsync.Daemons
import Pimsync.Discover
import Pimsync.Repair

/-!
# The program

`main` as a transition system. It reads the command line and the configuration, and then either hands the storages to
`repair`, or the pairs to one of the other commands. Where tasks run side by side (`into_named_pairs`, `parse_storages`,
`repair_storages`, `daemon`), a step of `main` is a step of theirs; what runs by itself (`sync`, `resolve_conflicts`,
`discover`) is one step.

- `MainStep`: the steps of `main`;
- `MainLabel.Acts`: what a command does with its pairs or storages, after all has been read.
-/

namespace Pimsync

open JoinSet

variable {σ S D P : Type}

/-- The process, and what it finds outside. -/
structure MainOutside (σ S D P : Type) where
  lex : Lexopt P
  /-- The descriptors that are open when the process starts. -/
  fds : Fds
  /-- `VERSION`. -/
  version : String
  /-- `XDG_CONFIG_HOME`. -/
  xdgConfigHome : Option String
  /-- `home_dir`. -/
  homeDir : Option String
  /-- `File::open`. -/
  openFile : String → σ → Except Error Unit × σ
  /-- `read_to_string`, from the file at a path. -/
  readToString : String → σ → Except Error String × σ
  scfg : String → Except Error Scfg
  exec : Exec σ
  pairs : PairsOutside S
  uids : ItemUids
  plan : PlanOutside σ S D
  resolve : ResolveOutside σ S
  discoverCollections : S → σ → Except Error (List DiscoveredCollection) × σ
  /-- Writing `READY=1` to a descriptor. -/
  writeReady : ℤ → σ → Except Error Unit × σ

/-- How the process ends. -/
inductive MainEnd
  | ok
  /-- `main` returns an error. -/
  | error (e : Error)
  /-- `exit(100)`. -/
  | usage
  | panicked (msg : String)
  /-- A prompt reads the end of the input for ever. -/
  | hang

def MainEnd.ofResult : Except Stop Unit → MainEnd
  | .ok () => .ok
  | .error (.err e) => .error e
  | .error .hang => .hang

/-! ## The configuration file -/

/-- The path that `open_default_path` opens. -/
def defaultPath (env : MainOutside σ S D P) : Except Error String :=
  match env.xdgConfigHome with
  | some xdg => return pathJoin xdg "pimsync/pimsync.conf"
  | none => do
    let home ← orContext "Could not resolve $XDG_CONFIG_HOME nor $HOME." env.homeDir
    return pathJoin home ".config/pimsync/pimsync.conf"

/-- The path of the configuration file. -/
def configPath (env : MainOutside σ S D P) (cli : Cli) : Except Error String :=
  match cli.configFile with
  | some file => return file
  | none => defaultPath env

/-- What `list` prints. -/
def listedNames (scfg : String → Except Error Scfg) (data : String) : ListTarget → Except Error (List String)
  | .pairs => listPairNames scfg data
  | .storages => listStorageNames scfg data

/-! ## The steps of `main` -/

/-- The commands that `main` hands the pairs to. -/
def Command.UsesPairs : Command → Prop
  | .check | .daemon _ | .sync _ _ | .resolveConflicts _ | .discover => True
  | .list _ | .repair | .version => False

/-- Where `main` is. -/
inductive MainPhase (σ S : Type)
  | start
  /-- The command line was read. -/
  | parsed (cli : Cli)
  | opened (cli : Cli) (path : String)
  /-- The configuration was read. -/
  | configured (cli : Cli) (path data : String)
  /-- In `parse_storages`. -/
  | loading (loop : Ran σ LoadEvent Error Unit) (state : LoadState S)
  /-- In `repair_storages`. -/
  | repairing (state : RepairState S)
  /-- In `into_named_pairs`. -/
  | initialising (command : Command) (config : Config) (order : List (String × Scfg)) (state : PairsState S)
  /-- The pairs are there. -/
  | ready (command : Command) (pairs : List (NamedPair S))
  /-- In `daemon`. -/
  | daemon (pairs : List (NamedPair S)) (state : Supervisor (NamedPair S) DaemonState DaemonError)
  | ended (how : MainEnd)

structure MainState (σ S : Type) where
  phase : MainPhase σ S
  world : World σ

inductive MainLabel (S : Type)
  /-- What `Cli::parse` returns. -/
  | parsed (result : Except Fault Cli)
  /-- What `list` and `version` print. -/
  | printed (lines : List String)
  /-- `File::open`, and its error. -/
  | opened (path : String) (error : Option Error)
  /-- What `read_to_string` returns. -/
  | read (result : Except Error String)
  /-- `parse_config`, and the commands that it has run. -/
  | configured (commands : List RawCommand)
  | load (label : LoadLabel S)
  | repair (label : RepairLabel)
  | init (label : PairsLabel S)
  /-- `main` goes on with what a call has returned. -/
  | goesOn
  /-- `READY=1` is written, and the error of that. -/
  | ready (fd : ℤ) (error : Option Error)
  | daemon (label : SupLabel DaemonError DaemonLabel (StorageChange S))
  | synced (log : List (SyncEvent S))
  | resolved (log : List ResolveEvent)
  | discovered (log : List (DiscoverEvent S))

/-- A command does something with its pairs or storages. -/
def MainLabel.Acts : MainLabel S → Prop
  | .repair _ | .ready _ _ | .daemon _ | .synced _ | .resolved _ | .discovered _ => True
  | _ => False

section Main

variable [DecidableEq S] (env : MainOutside σ S D P) (args : List String)

/-- One step of `main`, or of the tasks that it waits for. -/
inductive MainStep : MainState σ S → MainLabel S → MainState σ S → Prop
  | badUsage (w : World σ) (e : Error) : (Cli.parse env.lex args env.fds).result = .error (.err e) →
      MainStep ⟨.start, w⟩ (.parsed (.error (.err e))) ⟨.ended .usage, w⟩
  | cliPanicked (w : World σ) (msg : String) : (Cli.parse env.lex args env.fds).result = .error (.panic msg) →
      MainStep ⟨.start, w⟩ (.parsed (.error (.panic msg))) ⟨.ended (.panicked msg), w⟩
  | parsed (w : World σ) (cli : Cli) : (Cli.parse env.lex args env.fds).result = .ok cli →
      MainStep ⟨.start, w⟩ (.parsed (.ok cli)) ⟨.parsed cli, w⟩
  | version (w : World σ) (cli : Cli) : cli.command = .version →
      MainStep ⟨.parsed cli, w⟩ (.printed [s!"pimsync {env.version}"]) ⟨.ended .ok, w⟩
  | noPath (w : World σ) (cli : Cli) (e : Error) : cli.command ≠ .version → configPath env cli = .error e →
      MainStep ⟨.parsed cli, w⟩ .goesOn ⟨.ended (.error e), w⟩
  | opened (w : World σ) (cli : Cli) (path : String) (s : σ) : cli.command ≠ .version → configPath env cli = .ok path →
      env.openFile path w.outside = (.ok (), s) →
      MainStep ⟨.parsed cli, w⟩ (.opened path none) ⟨.opened cli path, { w with outside := s }⟩
  | openFailed (w : World σ) (cli : Cli) (path : String) (e : Error) (s : σ) : cli.command ≠ .version →
      configPath env cli = .ok path → env.openFile path w.outside = (.error e, s) →
      MainStep ⟨.parsed cli, w⟩ (.opened path (some e))
        ⟨.ended (.error (s!"Could not open {path}." :: e)), { w with outside := s }⟩
  | read (w : World σ) (cli : Cli) (path data : String) (s : σ) : env.readToString path w.outside = (.ok data, s) →
      MainStep ⟨.opened cli path, w⟩ (.read (.ok data)) ⟨.configured cli path data, { w with outside := s }⟩
  | readFailed (w : World σ) (cli : Cli) (path : String) (e : Error) (s : σ) :
      env.readToString path w.outside = (.error e, s) →
      MainStep ⟨.opened cli path, w⟩ (.read (.error e)) ⟨.ended (.error e), { w with outside := s }⟩
  -- `repair`
  | load (w : World σ) (cli : Cli) (path data : String) (loop : Ran σ LoadEvent Error Unit) : cli.command = .repair →
      startStorages env.scfg env.exec data cli.names w.outside = loop →
      MainStep ⟨.configured cli path data, w⟩ .goesOn ⟨.loading loop (.initial S loop), { w with outside := loop.world }⟩
  | loadStep (w : World σ) (loop : Ran σ LoadEvent Error Unit) (s s' : LoadState S) (label : LoadLabel S) :
      (parseStorages S loop).step s label s' → MainStep ⟨.loading loop s, w⟩ (.load label) ⟨.loading loop s', w⟩
  | loadFailed (w : World σ) (loop : Ran σ LoadEvent Error Unit) (s : LoadState S) (e : Error) :
      s.main = .returned (.error e) → MainStep ⟨.loading loop s, w⟩ .goesOn ⟨.ended (.error e), w⟩
  | loaded (w : World σ) (loop : Ran σ LoadEvent Error Unit) (s : LoadState S) (storages : List (NamedStorage S)) :
      s.main = .returned (.ok storages) →
      MainStep ⟨.loading loop s, w⟩ .goesOn ⟨.repairing (.initial env.uids storages), w⟩
  | repairStep (w : World σ) (s s' : RepairState S) (label : RepairLabel) : (repairStorages S).step s label s' →
      MainStep ⟨.repairing s, w⟩ (.repair label) ⟨.repairing s', w⟩
  | repaired (w : World σ) (s : RepairState S) (result : Except Error Unit) : s.result = some result →
      MainStep ⟨.repairing s, w⟩ .goesOn ⟨.ended (.ofResult (result.mapError .err)), w⟩
  -- `list`
  | list (w : World σ) (cli : Cli) (path data : String) (target : ListTarget) (names : List String) :
      cli.command = .list target → listedNames env.scfg data target = .ok names →
      MainStep ⟨.configured cli path data, w⟩ (.printed names) ⟨.ended .ok, w⟩
  | listFailed (w : World σ) (cli : Cli) (path data : String) (target : ListTarget) (e : Error) :
      cli.command = .list target → listedNames env.scfg data target = .error e →
      MainStep ⟨.configured cli path data, w⟩ .goesOn ⟨.ended (.error e), w⟩
  -- the pairs
  | config (w : World σ) (cli : Cli) (path data : String) (config : Config) (s : σ) (commands : List RawCommand)
      (order : List (String × Scfg)) : cli.command.UsesPairs →
      parseConfig env.scfg env.exec data cli.names w.outside = ⟨.ok config, s, commands⟩ → order.Perm config.pairList →
      MainStep ⟨.configured cli path data, w⟩ (.configured commands)
        ⟨.initialising cli.command config order (.initial S config), { w with outside := s }⟩
  | configFailed (w : World σ) (cli : Cli) (path data : String) (e : Error) (s : σ) (commands : List RawCommand) :
      cli.command.UsesPairs → parseConfig env.scfg env.exec data cli.names w.outside = ⟨.error e, s, commands⟩ →
      MainStep ⟨.configured cli path data, w⟩ (.configured commands)
        ⟨.ended (.error (s!"Could not parse configuration file at {path}" :: e)), { w with outside := s }⟩
  | initStep (w : World σ) (command : Command) (config : Config) (order : List (String × Scfg)) (s s' : PairsState S)
      (label : PairsLabel S) : (intoNamedPairs env.pairs config.statusPath order).step s label s' →
      MainStep ⟨.initialising command config order s, w⟩ (.init label) ⟨.initialising command config order s', w⟩
  | initFailed (w : World σ) (command : Command) (config : Config) (order : List (String × Scfg)) (s : PairsState S)
      (e : Error) : s.main = .returned (.error e) →
      MainStep ⟨.initialising command config order s, w⟩ .goesOn ⟨.ended (.error e), w⟩
  | initPanicked (w : World σ) (command : Command) (config : Config) (order : List (String × Scfg)) (s : PairsState S)
      (msg : String) : s.main = .panicked msg →
      MainStep ⟨.initialising command config order s, w⟩ .goesOn ⟨.ended (.panicked msg), w⟩
  | initialised (w : World σ) (command : Command) (config : Config) (order : List (String × Scfg)) (s : PairsState S)
      (pairs : List (NamedPair S)) : s.main = .returned (.ok pairs) →
      MainStep ⟨.initialising command config order s, w⟩ .goesOn ⟨.ready command pairs, w⟩
  | check (w : World σ) (pairs : List (NamedPair S)) : MainStep ⟨.ready .check pairs, w⟩ .goesOn ⟨.ended .ok, w⟩
  | spawn (w : World σ) (pairs : List (NamedPair S)) :
      MainStep ⟨.ready (.daemon none) pairs, w⟩ .goesOn ⟨.daemon pairs (Daemons.initial env.plan pairs), w⟩
  -- the file is dropped
  | ready (w : World σ) (pairs : List (NamedPair S)) (fd : ℤ) (s : σ) : env.writeReady fd w.outside = (.ok (), s) →
      MainStep ⟨.ready (.daemon (some fd)) pairs, w⟩ (.ready fd none) ⟨.ready (.daemon none) pairs, { w with outside := s }⟩
  | readyFailed (w : World σ) (pairs : List (NamedPair S)) (fd : ℤ) (e : Error) (s : σ) :
      env.writeReady fd w.outside = (.error e, s) →
      MainStep ⟨.ready (.daemon (some fd)) pairs, w⟩ (.ready fd (some e))
        ⟨.ended (.error ("writing to readiness fd" :: e)), { w with outside := s }⟩
  | daemonStep (w : World σ) (pairs : List (NamedPair S)) (s s' : Supervisor (NamedPair S) DaemonState DaemonError)
      (label : SupLabel DaemonError DaemonLabel (StorageChange S)) : (daemons env.plan).step s label s' →
      MainStep ⟨.daemon pairs s, w⟩ (.daemon label) ⟨.daemon pairs s', w⟩
  | daemonReturned (w : World σ) (pairs : List (NamedPair S)) (s : Supervisor (NamedPair S) DaemonState DaemonError) :
      s.returned = true → MainStep ⟨.daemon pairs s, w⟩ .goesOn ⟨.ended (.error ["All sync tasks exited."]), w⟩
  | sync (w : World σ) (pairs : List (NamedPair S)) (dryRun interactive : Bool)
      (ran : Ran (World σ) (SyncEvent S) Stop Unit) :
      Pimsync.sync env.plan pairs dryRun interactive w = ran →
      MainStep ⟨.ready (.sync dryRun interactive) pairs, w⟩ (.synced ran.log) ⟨.ended (.ofResult ran.result), ran.world⟩
  | resolve (w : World σ) (pairs : List (NamedPair S)) (dryRun : Bool) (ran : Ran (World σ) ResolveEvent Stop Unit) :
      resolveConflicts env.resolve env.plan pairs dryRun w = ran →
      MainStep ⟨.ready (.resolveConflicts dryRun) pairs, w⟩ (.resolved ran.log) ⟨.ended (.ofResult ran.result), ran.world⟩
  | discover (w : World σ) (pairs : List (NamedPair S)) (ran : Ran (World σ) (DiscoverEvent S) Error Unit) :
      Pimsync.discover env.discoverCollections pairs w = ran →
      MainStep ⟨.ready .discover pairs, w⟩ (.discovered ran.log) ⟨.ended (.ofResult (ran.result.mapError .err)), ran.world⟩

/-- `main`, with these arguments. -/
def main : Lts (MainState σ S) (MainLabel S) := ⟨MainStep env args⟩

end Main

end Pimsync
