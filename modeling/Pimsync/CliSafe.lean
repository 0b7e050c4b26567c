import Pimsync.CliReady

/-!
# Command lines that are safe

`Cli::parse` reads the options up to the command, and hands the rest to the sub-parser of the command. Only `daemon` takes
a descriptor over (`parseCommand_takesNone`), so a command line is safe if its `daemon` is.

- `cliParse_safe_iff`: the command lines that are safe.
-/

namespace Pimsync

/-! ## The other commands -/

/-- A program that takes over nothing, does not panic and does not end with a `daemon`. -/
structure TakesNone (ran : Ran Fds ℤ Fault (Command × FilterNames)) : Prop where
  log : ran.log = []
  noPanic : ∀ msg, ran.result ≠ .error (.panic msg)
  command : ∀ command names readyFd, ran.result = .ok (command, names) → command ≠ .daemon readyFd

section CommandLine

variable {P : Type} {lex : Lexopt P} {fds : Fds}

theorem takesNone_lift {r : Except Error (Command × FilterNames)}
    (h : ∀ {command names readyFd}, r = .ok (command, names) → command ≠ .daemon readyFd) :
    TakesNone ((Prog.lift (r.mapError .err) : Owning (Command × FilterNames)) fds) := by
  cases r with
  | error e =>
    refine ⟨rfl, fun msg hmsg => ?_, fun command names readyFd hok => ?_⟩
    · cases hmsg
    · cases hok
  | ok a =>
    refine ⟨rfl, fun msg hmsg => ?_, fun command names readyFd hok => ?_⟩
    · cases hmsg
    · cases hok
      exact h rfl

theorem parseNames_ne_daemon {flags : List Char} {f : List Char → Command} {p : P} {names names' : FilterNames}
    {command : Command} {readyFd : Option ℤ} (hf : ∀ given, f given ≠ .daemon readyFd)
    (h : parseNames lex flags f p names = .ok (command, names')) : command ≠ .daemon readyFd := by
  obtain ⟨⟨given, names₁⟩, -, h⟩ := bind_eq_ok.mp h
  cases h
  exact hf given

theorem parseList_ok {p : P} {command : Command} (h : parseList lex p = .ok command) : ∃ target, command = .list target := by
  obtain ⟨arg, -, h⟩ := bind_eq_ok.mp h
  cases arg with
  | none => cases h
  | some arg =>
    obtain ⟨arg, p', hleft⟩ := arg
    cases arg with
    | short c => cases h
    | long name => cases h
    | value val =>
      obtain ⟨target, -, h⟩ := bind_eq_ok.mp h
      obtain ⟨⟨⟩, -, h⟩ := bind_eq_ok.mp h
      cases h
      exact ⟨target, rfl⟩

theorem parseVersion_ok {p : P} {command : Command} (h : parseVersion lex p = .ok command) : command = .version := by
  obtain ⟨⟨⟩, -, h⟩ := bind_eq_ok.mp h
  cases h
  rfl

/-- The sub-parsers other than `parse_daemon` take over nothing. -/
theorem parseCommand_takesNone {rawCmd : String} (h : rawCmd ≠ "daemon") (p : P) (names : FilterNames) :
    TakesNone (parseCommand lex rawCmd p names fds) := by
  have hmap : ∀ {r : Except Error Command} {command names'}, (r.map fun command => (command, names)) = .ok (command, names') →
      r = .ok command := by
    intro r command names' hok
    cases r with
    | error e => cases hok
    | ok c =>
      cases hok
      rfl
  unfold parseCommand
  split
  · exact takesNone_lift (parseNames_ne_daemon fun _ hc => by cases hc)
  · exact absurd rfl h
  · exact takesNone_lift (parseNames_ne_daemon fun _ hc => by cases hc)
  · exact takesNone_lift (parseNames_ne_daemon fun _ hc => by cases hc)
  · exact takesNone_lift (parseNames_ne_daemon fun _ hc => by cases hc)
  · refine takesNone_lift fun hok hc => ?_
    obtain ⟨target, rfl⟩ := parseList_ok (hmap hok)
    cases hc
  · exact takesNone_lift (parseNames_ne_daemon fun _ hc => by cases hc)
  · refine takesNone_lift fun hok hc => ?_
    obtain rfl := parseVersion_ok (hmap hok)
    cases hc
  · refine ⟨rfl, fun msg hmsg => ?_, fun command names readyFd hok => ?_⟩
    · cases hmsg
    · cases hok

/-! ## Command lines -/

/-- The arguments of `daemon` on a command line; other commands have none. -/
def readyArgs (lex : Lexopt P) (args : List String) : List DaemonArg × Option Error :=
  match parseOptions lex (lex.fromArgs args.tail) .warn none with
  | .ok (_, _, some ("daemon", p)) => daemonArgs lex p
  | _ => ([], none)

/-- A command line that gives no descriptor. -/
theorem readyOnce_nil : ReadyOnce ([], none) := by
  refine ⟨fun fd hfd => ?_, fun _ fd hfd => ?_⟩
  · cases hfd
  · cases hfd

/-- What `Cli::parse` does after its options. -/
theorem Cli.parse_run {args : List String} {logLevel : LevelFilter} {configFile : Option String} {rawCmd : String} {p : P}
    (h : parseOptions lex (lex.fromArgs args.tail) .warn none = .ok (logLevel, configFile, some (rawCmd, p))) :
    Cli.parse lex args fds = (parseCommand lex rawCmd p .new >>= fun (command, names) =>
      (return ⟨command, logLevel, configFile, names⟩ : Owning Cli)) fds := by
  unfold Cli.parse
  rw [h]
  rfl

theorem SafeRun.error {α β : Type} {command : α → Command} {command' : β → Command} {e : Fault} {log : List ℤ}
    (h : SafeRun command ⟨.error e, fds, log⟩) : SafeRun command' ⟨.error e, fds, log⟩ := by
  refine ⟨fun msg hmsg => h.noPanic msg ?_, h.taken, fun b fd hok => ?_⟩
  · cases hmsg
    rfl
  · cases hok

theorem SafeRun.ok {α β : Type} {command : α → Command} {command' : β → Command} {a : α} {b : β} {log : List ℤ}
    (h : SafeRun command ⟨.ok a, fds, log⟩) (hcommand : command' b = command a) : SafeRun command' ⟨.ok b, fds, log⟩ := by
  refine ⟨fun msg hmsg => ?_, h.taken, fun b' fd hok hdaemon => ?_⟩
  · cases hmsg
  · cases hok
    exact h.ready a fd rfl (hcommand.symm.trans hdaemon)

/-- The options of the command line do not matter. -/
theorem safeRun_options {q : Owning (Command × FilterNames)} {logLevel : LevelFilter} {configFile : Option String} :
    SafeRun Cli.command ((q >>= fun (command, names) =>
      (return ⟨command, logLevel, configFile, names⟩ : Owning Cli)) fds) ↔ SafeRun Prod.fst (q fds) := by
  rcases h : q fds with ⟨e | ⟨command, names⟩, world, log⟩
  · rw [Prog.bind_run_error h]
    exact ⟨SafeRun.error, SafeRun.error⟩
  · rw [Prog.bind_run_ok h]
    show SafeRun Cli.command ⟨.ok ⟨command, logLevel, configFile, names⟩, world, log ++ []⟩ ↔ _
    rw [List.append_nil]
    exact ⟨fun hsafe => hsafe.ok rfl, fun hsafe => hsafe.ok rfl⟩

theorem TakesNone.safeRun {ran : Ran Fds ℤ Fault (Command × FilterNames)} (h : TakesNone ran) : SafeRun Prod.fst ran := by
  refine ⟨h.noPanic, fun fd hfd => ?_, fun a fd hok hdaemon => ?_⟩
  · rw [h.log] at hfd
    cases hfd
  · exact absurd hdaemon (h.command a.1 a.2 (some fd) hok)

/-- **Whether a command line is safe**: each descriptor that `-r` gives was open, or is none. -/
theorem cliParse_safe_iff (args : List String) (openFds : List ℤ)
    (hopen : ∀ v ∈ (readyArgs lex args).1.filterMap DaemonArg.value, ∀ fd, parseI32 v = .ok fd → 0 ≤ fd → fd ∈ openFds) :
    SafeRun Cli.command (Cli.parse lex args ⟨openFds, []⟩) ↔ ReadyOnce (readyArgs lex args) := by
  have hfailed : ∀ e, SafeRun Cli.command ⟨.error (.err e), (⟨openFds, []⟩ : Fds), []⟩ :=
    fun e => (safeRun_error fun fd hfd => by cases hfd).mpr fun fd hfd => by cases hfd
  cases hoptions : parseOptions lex (lex.fromArgs args.tail) .warn none with
  | error e =>
    have hargs : readyArgs lex args = ([], none) := by rw [readyArgs, hoptions]
    have hrun : Cli.parse lex args ⟨openFds, []⟩ = ⟨.error (.err e), ⟨openFds, []⟩, []⟩ := by
      rw [Cli.parse, hoptions]
      rfl
    rw [hargs, hrun]
    exact iff_of_true (hfailed e) readyOnce_nil
  | ok options =>
    obtain ⟨logLevel, configFile, command⟩ := options
    cases command with
    | none =>
      have hargs : readyArgs lex args = ([], none) := by rw [readyArgs, hoptions]
      have hrun : Cli.parse lex args ⟨openFds, []⟩ = ⟨.error (.err ["No command specified"]), ⟨openFds, []⟩, []⟩ := by
        rw [Cli.parse, hoptions]
        rfl
      rw [hargs, hrun]
      exact iff_of_true (hfailed _) readyOnce_nil
    | some command =>
      obtain ⟨rawCmd, p⟩ := command
      rw [Cli.parse_run hoptions, safeRun_options]
      by_cases hdaemon : rawCmd = "daemon"
      · subst hdaemon
        have hargs : readyArgs lex args = daemonArgs lex p := by
          rw [readyArgs, hoptions]
          rfl
        rw [hargs] at hopen ⊢
        exact parseDaemon_safe_iff hopen
      · have hargs : readyArgs lex args = ([], none) := by
          rw [readyArgs, hoptions]
          split
          · next heq =>
            cases heq
            exact absurd rfl hdaemon
          · rfl
        rw [hargs]
        exact iff_of_true (parseCommand_takesNone hdaemon p .new).safeRun readyOnce_nil

end CommandLine

/-! ## Some command lines -/

/-- The arguments one by one, where `-r` is the only option and its value an argument of its own. -/
def plainArgs : Lexopt (List String) where
  left := List.length
  fromArgs := id
  next
    | [] => .ok none
    | "-r" :: rest => .ok (some (.short 'r', ⟨rest, Nat.lt_succ_self _⟩))
    | v :: rest => .ok (some (.value v, ⟨rest, Nat.lt_succ_self _⟩))
  value
    | [] => .error ["missing argument for option '-r'"]
    | v :: rest => .ok (v, ⟨rest, Nat.le_succ _⟩)
  unexpected _ := ["unexpected argument"]
  parsingFailed v e := s!"cannot parse argument {v}" :: e
  level v := .error [s!"cannot parse argument {v}"]

theorem parseOptions_daemon (rest : List String) :
    parseOptions plainArgs ("daemon" :: rest) .warn none = .ok (.warn, none, some ("daemon", rest)) := by
  rw [parseOptions]
  rfl

theorem daemonArgs_ready (v : String) (rest : List String) : daemonArgs plainArgs ("-r" :: v :: rest) =
    (.ready v :: (daemonArgs plainArgs rest).1, (daemonArgs plainArgs rest).2) := by
  rw [daemonArgs]
  rfl

theorem daemonArgs_work : daemonArgs plainArgs ["work"] = ([.name "work"], none) := by
  rw [daemonArgs]
  show (_ :: (daemonArgs plainArgs []).1, (daemonArgs plainArgs []).2) = _
  rw [daemonArgs]
  rfl

theorem readyArgs_daemon (rest : List String) :
    readyArgs plainArgs ("pimsync" :: "daemon" :: rest) = daemonArgs plainArgs rest := by
  have hoptions : parseOptions plainArgs (plainArgs.fromArgs ("pimsync" :: "daemon" :: rest).tail) .warn none =
      .ok (.warn, none, some ("daemon", rest)) := parseOptions_daemon rest
  rw [readyArgs, hoptions]
  rfl

/-- A descriptor that is open and given once. -/
theorem cliParse_safe_once :
    SafeRun Cli.command (Cli.parse plainArgs ["pimsync", "daemon", "-r", "5", "work"] ⟨[0, 1, 2, 5], []⟩) := by
  have hargs : readyArgs plainArgs ["pimsync", "daemon", "-r", "5", "work"] = ([.ready "5", .name "work"], none) := by
    rw [readyArgs_daemon, daemonArgs_ready, daemonArgs_work]
  refine (cliParse_safe_iff _ [0, 1, 2, 5] ?_).mpr ?_
  · rw [hargs]
    intro v hv fd hfd hnonneg
    obtain rfl : v = "5" := List.mem_singleton.mp hv
    obtain rfl : 5 = fd := Except.ok.inj hfd
    decide
  · rw [hargs]
    exact ⟨by decide, fun _ => by decide⟩

/-- The file that `-r 5 -r 5` leaves has a descriptor that is closed, and `-r -1` panics. -/
theorem cliParse_closed :
    Cli.parse plainArgs ["pimsync", "daemon", "-r", "5", "-r", "5"] ⟨[0, 1, 2, 5], []⟩ =
      ⟨.ok ⟨.daemon (some 5), .warn, none, .new⟩, ⟨[0, 1, 2], [5]⟩, [5, 5]⟩ ∧
    ¬ SafeRun Cli.command (Cli.parse plainArgs ["pimsync", "daemon", "-r", "5", "-r", "5"] ⟨[0, 1, 2, 5], []⟩) ∧
    (Cli.parse plainArgs ["pimsync", "daemon", "-r", "-1"] ⟨[0, 1, 2], []⟩).result = .error (.panic "fd != -1") := by
  have hnil : daemonArgs plainArgs [] = ([], none) := by
    rw [daemonArgs]
    rfl
  have htwice : Cli.parse plainArgs ["pimsync", "daemon", "-r", "5", "-r", "5"] ⟨[0, 1, 2, 5], []⟩ =
      ⟨.ok ⟨.daemon (some 5), .warn, none, .new⟩, ⟨[0, 1, 2], [5]⟩, [5, 5]⟩ := by
    rw [Cli.parse_run (parseOptions_daemon _)]
    simp only [parseCommand, Prog.bind_run, parseDaemon, daemonLoop_eq, daemonArgs_ready, hnil]
    rfl
  refine ⟨htwice, fun hsafe => ?_, ?_⟩
  · rw [htwice] at hsafe
    have hopen := (hsafe.ready _ 5 rfl rfl).1
    exact absurd hopen (by decide)
  · rw [Cli.parse_run (parseOptions_daemon _)]
    simp only [parseCommand, Prog.bind_run, parseDaemon, daemonLoop_eq, daemonArgs_ready, hnil]
    rfl

end Pimsync
