import Mathlib.Data.Int.Notation
import Pimsync.Base.Prog
import Pimsync.Cli
import Pimsync.Path

/-!
# The command line

`Cli::parse` and its sub-parsers. The arguments are given by `lexopt`: a `Lexopt P` has the state `P` of its parser, and
gets through the arguments one by one, so that the loops end. `daemon -r` makes a `File` of a descriptor, which is closed
when the file is dropped; `Fds` are the descriptors that are open and those that a file owns.
-/

namespace Pimsync

/-! ## Arguments -/

/-- `lexopt::Arg`. The arguments are strings, so each can be read as one. -/
inductive Arg
  | short (c : Char)
  | long (name : String)
  | value (v : String)

/-- `log::LevelFilter`. -/
inductive LevelFilter
  | off
  | error
  | warn
  | info
  | debug
  | trace

/-- What is used of `lexopt`, and the conversion of `log`. Each argument is given once: `left` measures what is left of
them. -/
structure Lexopt (P : Type) where
  left : P → ℕ
  /-- `Parser::from_args`. -/
  fromArgs : List String → P
  /-- `Parser::next`. -/
  next : (p : P) → Except Error (Option (Arg × { q : P // left q < left p }))
  /-- `Parser::value`. -/
  value : (p : P) → Except Error (String × { q : P // left q ≤ left p })
  /-- `Arg::unexpected`. -/
  unexpected : Arg → Error
  /-- The error of `ValueExt::parse`, with the one of the conversion. -/
  parsingFailed : String → Error → Error
  /-- `LevelFilter::from_str`. -/
  level : String → Except Error LevelFilter

/-- `i32::from_str`. -/
def parseI32 (s : String) : Except Error ℤ :=
  match s.toList with
  | [] => bail "cannot parse integer from empty string"
  | ['+'] | ['-'] => bail "invalid digit found in string"
  | '-' :: digits => digits.foldlM (step (-1)) 0
  | '+' :: digits | digits => digits.foldlM (step 1) 0
where
  step (sign n : ℤ) (c : Char) : Except Error ℤ :=
    let digit : ℕ := c.toNat - '0'.toNat
    if !c.isDigit then bail "invalid digit found in string"
    else if n * 10 + sign * digit < -2147483648 then bail "number too small to fit in target type"
    else if 2147483647 < n * 10 + sign * digit then bail "number too large to fit in target type"
    else return n * 10 + sign * digit

/-! ## Descriptors -/

/-- The descriptors that are open, and the one of each `File`. -/
structure Fds where
  openFds : List ℤ
  files : List ℤ

namespace Fds

def adopt (fds : Fds) (fd : ℤ) : Fds := { fds with files := fd :: fds.files }

/-- A file is dropped: its descriptor is closed. -/
def drop (fds : Fds) (fd : ℤ) : Fds := ⟨fds.openFds.filter (· ≠ fd), fds.files.erase fd⟩

/-- Every file is dropped. -/
def dropAll (fds : Fds) : Fds := fds.files.foldl drop fds

end Fds

/-- A program that takes descriptors over; each one it takes is recorded. -/
abbrev Owning := Prog Fds ℤ Fault

/-- `File::from_raw_fd`, of which the standard library only asks that it is not given `-1`. -/
def fromRawFd (rawFd : ℤ) : Owning ℤ := do
  if rawFd = -1 then Prog.fail (.panic "fd != -1") else
    Prog.emit rawFd
    Prog.ask fun fds => (rawFd, fds.adopt rawFd)

/-- What held a file goes away, or holds another one. -/
def dropFile : Option ℤ → Owning Unit
  | some fd => Prog.ask fun fds => ((), fds.drop fd)
  | none => return ()

/-! ## Commands -/

inductive ListTarget
  | pairs
  | storages

/-- `cli::Command`. -/
inductive Command
  | check
  | daemon (readyFd : Option ℤ)
  | sync (dryRun interactive : Bool)
  | resolveConflicts (dryRun : Bool)
  | discover
  | list (target : ListTarget)
  | repair
  | version

structure Cli where
  command : Command
  logLevel : LevelFilter
  configFile : Option String
  names : FilterNames

section Parse

variable {P : Type} (lex : Lexopt P)

/-- `ValueExt::parse`. -/
def Lexopt.parse {α : Type} (fromStr : String → Except Error α) (v : String) : Except Error α :=
  (fromStr v).mapError (lex.parsingFailed v)

/-- The loop of the sub-parsers that take names and the flags of a list; it returns the flags that were given. -/
def parseFlags (flags : List Char) (p : P) (names : FilterNames) (given : List Char) :
    Except Error (List Char × FilterNames) :=
  match lex.next p with
  | .error e => .error e
  | .ok none => return (given, names)
  | .ok (some (.value name, ⟨p', _⟩)) => parseFlags flags p' (names.push name) given
  | .ok (some (.short c, ⟨p', _⟩)) =>
    if c ∈ flags then parseFlags flags p' names (c :: given) else .error (lex.unexpected (.short c))
  | .ok (some (.long name, _)) => .error (lex.unexpected (.long name))
termination_by lex.left p

/-- A sub-parser that takes names and the flags of a list. -/
def parseNames (flags : List Char) (command : List Char → Command) (p : P) (names : FilterNames) :
    Except Error (Command × FilterNames) := do
  let (given, names) ← parseFlags lex flags p names []
  return (command given, names)

/-- `parse_check`. -/
def parseCheck := parseNames lex [] fun _ => .check

/-- `parse_sync`. -/
def parseSync := parseNames lex ['n', 'i'] fun given => .sync ('n' ∈ given) ('i' ∈ given)

/-- `parse_resolve_conflicts`. -/
def parseResolveConflicts := parseNames lex ['n'] fun given => .resolveConflicts ('n' ∈ given)

/-- `parse_discover`. -/
def parseDiscover := parseNames lex [] fun _ => .discover

/-- `parse_repair`. -/
def parseRepair := parseNames lex [] fun _ => .repair

/-- Nothing follows. -/
def parseEnd (p : P) : Except Error Unit := do
  match ← lex.next p with
  | some (arg, _) => .error (lex.unexpected arg)
  | none => return ()

/-- The target of `parse_list`. -/
def listTarget : String → Except Error ListTarget
  | "pairs" => return .pairs
  | "storages" => return .storages
  | other => bail s!"Unknown list target: {other}"

/-- `parse_list`. -/
def parseList (p : P) : Except Error Command := do
  match ← lex.next p with
  | some (.value val, ⟨p', _⟩) =>
    let target ← listTarget val
    parseEnd lex p'
    return .list target
  | some (arg, _) => .error (lex.unexpected arg)
  | none => bail "list requires a target (pairs or storages)"

/-- `parse_version`. -/
def parseVersion (p : P) : Except Error Command := do
  parseEnd lex p
  return .version

/-- One `-r` of `parse_daemon`. The file that was made before is dropped when the new one takes its place. -/
def takeReadyFd (v : String) (readyFd : Option ℤ) : Owning ℤ := do
  let rawFd ← Prog.lift ((lex.parse parseI32 v).mapError .err)
  if rawFd = 2 then Prog.fail (.err ["Cannot use stderr as readiness fd"]) else
    let file ← fromRawFd rawFd
    dropFile readyFd
    return file

/-- The loop of `parse_daemon`. -/
def daemonLoop (p : P) (names : FilterNames) (readyFd : Option ℤ) : Owning (Option ℤ × FilterNames) :=
  match lex.next p with
  | .error e => Prog.fail (.err e)
  | .ok none => return (readyFd, names)
  | .ok (some (.short c, ⟨p', _⟩)) =>
    if c = 'r' then
      match lex.value p' with
      | .error e => Prog.fail (.err e)
      | .ok (v, ⟨p'', _⟩) => do
        let file ← takeReadyFd lex v readyFd
        daemonLoop p'' names (some file)
    else Prog.fail (.err (lex.unexpected (.short c)))
  | .ok (some (.value pairName, ⟨p', _⟩)) => daemonLoop p' (names.push pairName) readyFd
  | .ok (some (.long name, _)) => Prog.fail (.err (lex.unexpected (.long name)))
termination_by lex.left p
decreasing_by all_goals omega

/-- `parse_daemon`. If it fails, the file that it holds is dropped. -/
def parseDaemon (p : P) (names : FilterNames) : Owning (Command × FilterNames) := fun fds =>
  match daemonLoop lex p names none fds with
  | ⟨.ok (readyFd, names), fds, log⟩ => ⟨.ok (.daemon readyFd, names), fds, log⟩
  | ⟨.error e, fds, log⟩ => ⟨.error e, fds.dropAll, log⟩

/-- The command of `Cli::parse`, from its name on. -/
def parseCommand (rawCmd : String) (p : P) (names : FilterNames) : Owning (Command × FilterNames) :=
  let lift {α : Type} (r : Except Error α) : Owning α := Prog.lift (r.mapError .err)
  match rawCmd with
  | "check" => lift (parseCheck lex p names)
  | "daemon" => parseDaemon lex p names
  | "sync" => lift (parseSync lex p names)
  | "resolve-conflicts" => lift (parseResolveConflicts lex p names)
  | "discover" => lift (parseDiscover lex p names)
  | "list" => lift ((parseList lex p).map fun command => (command, names))
  | "repair" => lift (parseRepair lex p names)
  | "version" => lift ((parseVersion lex p).map fun command => (command, names))
  | cmd => Prog.fail (.err [s!"Unknown command: {cmd}"])

/-- The loop of `Cli::parse`, up to the name of the command: the options before it, and the parser after it. -/
def parseOptions (p : P) (logLevel : LevelFilter) (configFile : Option String) :
    Except Error (LevelFilter × Option String × Option (String × P)) :=
  match lex.next p with
  | .error e => .error e
  | .ok none => return (logLevel, configFile, none)
  | .ok (some (.short c, ⟨p', _⟩)) =>
    if c = 'v' then
      match lex.value p' with
      | .error e => .error e
      | .ok (v, ⟨p'', _⟩) => do
        let logLevel ← lex.parse lex.level v
        parseOptions p'' logLevel configFile
    else if c = 'c' then
      match lex.value p' with
      | .error e => .error e
      | .ok (v, ⟨p'', _⟩) => parseOptions p'' logLevel (some v)
    else .error (lex.unexpected (.short c))
  | .ok (some (.value rawCmd, ⟨p', _⟩)) => return (logLevel, configFile, some (rawCmd, p'))
  | .ok (some (.long name, _)) => .error (lex.unexpected (.long name))
termination_by lex.left p
decreasing_by all_goals omega

/-- `Cli::parse`. -/
def Cli.parse (args : List String) : Owning Cli := do
  let (logLevel, configFile, command) ←
    Prog.lift ((parseOptions lex (lex.fromArgs args.tail) .warn none).mapError .err)
  match command with
  | some (rawCmd, p) =>
    let (command, names) ← parseCommand lex rawCmd p .new
    return ⟨command, logLevel, configFile, names⟩
  | none => Prog.fail (.err ["No command specified"])

end Parse

end Pimsync
