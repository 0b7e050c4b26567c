import Pimsync.CliSafe

/-!
# The names on the command line

`argsOf` lists what a sub-parser is given. The sub-parsers that take names and flags go through it one by one
(`parseFlags_ok_iff`), so neither the order nor the repetition of an argument matters to them.

- `cliParse_names`: a command looks for the names that are given after it;
- `parse_args_order`: command lines with the same arguments mean the same.
-/

namespace Pimsync

variable {P : Type} {lex : Lexopt P} {fds : Fds}

/-! ## Arguments -/

/-- What follows a command, and the error that it ends with if it cannot be read. -/
def argsOf (lex : Lexopt P) (p : P) : List Arg × Option Error :=
  match lex.next p with
  | .error e => ([], some e)
  | .ok none => ([], none)
  | .ok (some (arg, ⟨p', _⟩)) => (arg :: (argsOf lex p').1, (argsOf lex p').2)
termination_by lex.left p

theorem argsOf_end {lex : Lexopt P} {p : P} (h : lex.next p = .ok none) : argsOf lex p = ([], none) := by
  rw [argsOf, h]

theorem argsOf_next {lex : Lexopt P} {p : P} {arg : Arg} {rest : { q // lex.left q < lex.left p }}
    (h : lex.next p = .ok (some (arg, rest))) : argsOf lex p = (arg :: (argsOf lex rest).1, (argsOf lex rest).2) := by
  rw [argsOf, h]

/-- What a sub-parser makes of an argument: a name, or one of its flags. -/
def Arg.Fits (flags : List Char) : Arg → Prop
  | .value _ => True
  | .short c => c ∈ flags
  | .long _ => False

def Arg.name? : Arg → Option String
  | .value name => some name
  | _ => none

def Arg.flag? : Arg → Option Char
  | .short c => some c
  | _ => none

/-- The arguments that `parse_daemon` takes as names. -/
def DaemonArg.name? : DaemonArg → Option String
  | .name pairName => some pairName
  | .ready _ => none

/-- The names that are given to a command. -/
def namesGiven (lex : Lexopt P) (rawCmd : String) (p : P) : List String :=
  if rawCmd = "daemon" then (daemonArgs lex p).1.filterMap DaemonArg.name?
  else if rawCmd = "list" ∨ rawCmd = "version" then []
  else (argsOf lex p).1.filterMap Arg.name?

/-- **The loop of the sub-parsers** takes every argument as a name or as one of the flags. -/
theorem parseFlags_ok_iff (flags : List Char) (p : P) : ∀ {names names' : FilterNames} {given given' : List Char},
    parseFlags lex flags p names given = .ok (given', names') ↔
      (argsOf lex p).2 = none ∧ (∀ arg ∈ (argsOf lex p).1, arg.Fits flags) ∧
      given' = ((argsOf lex p).1.filterMap Arg.flag?).reverse ++ given ∧
      names' = ((argsOf lex p).1.filterMap Arg.name?).foldl FilterNames.push names := by
  induction p using argsOf.induct lex with
  | case1 p e hnext =>
    intro names names' given given'
    rw [parseFlags, argsOf]
    simp [hnext]
  | case2 p hnext =>
    intro names names' given given'
    rw [parseFlags, argsOf]
    simp only [hnext]
    constructor
    · intro h
      cases h
      simp
    · rintro ⟨-, -, rfl, rfl⟩
      rfl
  | case3 p arg p' hleft hnext ih =>
    intro names names' given given'
    rw [parseFlags, argsOf]
    simp only [hnext, List.forall_mem_cons]
    cases arg with
    | value name =>
      simp only [ih]
      simp [Arg.Fits, List.filterMap_cons, Arg.flag?, Arg.name?]
    | long name => simp [Arg.Fits]
    | short c =>
      by_cases hc : c ∈ flags
      · simp only [if_pos hc, ih]
        simp [Arg.Fits, List.filterMap_cons, Arg.flag?, Arg.name?, hc]
      · simp [Arg.Fits, hc]

/-- A sub-parser of names and flags, by its arguments. -/
theorem parseNames_ok_iff {flags : List Char} {f : List Char → Command} {p : P} {command : Command} {names : FilterNames} :
    parseNames lex flags f p .new = .ok (command, names) ↔
      (argsOf lex p).2 = none ∧ (∀ arg ∈ (argsOf lex p).1, arg.Fits flags) ∧
      command = f ((argsOf lex p).1.filterMap Arg.flag?).reverse ∧ names = .asked ((argsOf lex p).1.filterMap Arg.name?) := by
  rw [parseNames, bind_eq_ok]
  constructor
  · rintro ⟨⟨given, names'⟩, h, hok⟩
    cases hok
    obtain ⟨hend, hfits, rfl, rfl⟩ := (parseFlags_ok_iff ..).mp h
    exact ⟨hend, hfits, by rw [List.append_nil], rfl⟩
  · rintro ⟨hend, hfits, rfl, rfl⟩
    exact ⟨_, (parseFlags_ok_iff ..).mpr ⟨hend, hfits, rfl, rfl⟩, by rw [List.append_nil]; rfl⟩

/-! ## The names that are looked for -/

/-- The loop of `parse_daemon` pushes its names. -/
theorem runDaemonArgs_names :
    ∀ (args : List DaemonArg) {names names' : FilterNames} {readyFd readyFd' : Option ℤ} {fds : Fds},
    (runDaemonArgs lex args names readyFd fds).result = .ok (readyFd', names') →
      names' = (args.filterMap DaemonArg.name?).foldl FilterNames.push names
  | [], names, names', readyFd, readyFd', fds, h => by
    cases h
    rfl
  | .ready v :: args, names, names', readyFd, readyFd', fds, h => by
    obtain ⟨file, -, h⟩ := Prog.bind_result_ok.mp h
    exact runDaemonArgs_names args h
  | .name pairName :: args, names, names', readyFd, readyFd', fds, h => runDaemonArgs_names args h

theorem parseDaemon_names {p : P} {command : Command} {names : FilterNames}
    (h : (parseDaemon lex p .new fds).result = .ok (command, names)) :
    names = .asked ((daemonArgs lex p).1.filterMap DaemonArg.name?) := by
  rcases hloop : daemonLoop lex p .new none fds with ⟨e | ⟨readyFd, names'⟩, world, log⟩
  · simp [parseDaemon, hloop] at h
  · obtain ⟨-, rfl⟩ : .daemon readyFd = command ∧ names' = names := by simpa [parseDaemon, hloop] using h
    have hresult : (daemonLoop lex p .new none fds).result = .ok (readyFd, names') := by rw [hloop]
    rw [daemonLoop_eq] at hresult
    obtain ⟨⟨readyFd', names⟩, hrun, hend⟩ := Prog.bind_result_ok.mp hresult
    obtain rfl : names = names' := by
      cases hargs : (daemonArgs lex p).2 <;> rw [hargs] at hend <;> cases hend
      rfl
    exact runDaemonArgs_names _ hrun

/-- What a sub-parser that takes over nothing returns. -/
theorem lift_err_ok {α : Type} {r : Except Error α} {a : α} :
    ((Prog.lift (r.mapError .err) : Owning α) fds).result = .ok a ↔ r = .ok a := by
  cases r <;> simp [Except.mapError]

/-- A command looks for the names that are given to it. -/
theorem parseCommand_names {rawCmd : String} {p : P} {command : Command} {names : FilterNames}
    (h : (parseCommand lex rawCmd p .new fds).result = .ok (command, names)) :
    names = .asked (namesGiven lex rawCmd p) := by
  have hmap : ∀ {r : Except Error Command}, (r.map fun command => (command, FilterNames.new)) = .ok (command, names) →
      names = .new := by
    intro r hok
    cases r <;> cases hok
    rfl
  unfold parseCommand at h
  split at h
  · exact (parseNames_ok_iff.mp (lift_err_ok.mp h)).2.2.2
  · exact parseDaemon_names h
  · exact (parseNames_ok_iff.mp (lift_err_ok.mp h)).2.2.2
  · exact (parseNames_ok_iff.mp (lift_err_ok.mp h)).2.2.2
  · exact (parseNames_ok_iff.mp (lift_err_ok.mp h)).2.2.2
  · exact hmap (lift_err_ok.mp h)
  · exact (parseNames_ok_iff.mp (lift_err_ok.mp h)).2.2.2
  · exact hmap (lift_err_ok.mp h)
  · cases h

/-- **The names of a command line**: a command looks for the names that are given after it, and for no others. -/
theorem cliParse_names {args : List String} {cli : Cli} (h : (Cli.parse lex args fds).result = .ok cli) :
    ∃ logLevel configFile rawCmd p,
      parseOptions lex (lex.fromArgs args.tail) .warn none = .ok (logLevel, configFile, some (rawCmd, p)) ∧
      (∃ command, (parseCommand lex rawCmd p .new fds).result = .ok (command, cli.names) ∧ cli.command = command) ∧
      cli.names = .asked (namesGiven lex rawCmd p) := by
  obtain ⟨⟨logLevel, configFile, command⟩, hoptions, h⟩ := Prog.bind_result_ok.mp h
  have hoptions := lift_err_ok.mp hoptions
  rcases command with _ | ⟨rawCmd, p⟩
  · cases h
  · obtain ⟨⟨command, names⟩, hcommand, h⟩ := Prog.bind_result_ok.mp h
    cases h
    exact ⟨logLevel, configFile, rawCmd, p, hoptions, ⟨command, hcommand, rfl⟩, parseCommand_names hcommand⟩

/-! ## The order of the arguments -/

/-- Both look for the same names, or both for all. -/
def FilterNames.Same (filter filter' : FilterNames) : Prop :=
  (filter.names = none ↔ filter'.names = none) ∧ ∀ name, filter.Selects name ↔ filter'.Selects name

theorem FilterNames.asked_same {names names' : List String} (h : ∀ name, name ∈ names ↔ name ∈ names') :
    (asked names).Same (asked names') := by
  by_cases hnil : names = []
  · have hnil' : names' = [] := List.eq_nil_iff_forall_not_mem.mpr fun name hmem => by
      simpa [hnil] using (h name).mpr hmem
    rw [hnil, hnil']
    exact ⟨.rfl, fun _ => .rfl⟩
  · have hnil' : names' ≠ [] := by
      rintro rfl
      exact hnil (List.eq_nil_iff_forall_not_mem.mpr fun name hmem => by simpa using (h name).mp hmem)
    obtain ⟨set, hset, hmem⟩ := asked_names hnil
    obtain ⟨set', hset', hmem'⟩ := asked_names hnil'
    refine ⟨by simp [hset, hset'], fun name => ?_⟩
    simp [Selects, hset, hset', hmem, hmem', h]

/-- A sub-parser whose command depends only on which flags are given. -/
theorem parseNames_order {flags : List Char} {f : List Char → Command}
    (hf : ∀ given given', (∀ c, c ∈ given ↔ c ∈ given') → f given = f given') {p q : P}
    (hq : (argsOf lex q).2 = none) (h : ∀ arg, arg ∈ (argsOf lex p).1 ↔ arg ∈ (argsOf lex q).1) {command : Command}
    {names : FilterNames} (hparse : parseNames lex flags f p .new = .ok (command, names)) :
    ∃ names', parseNames lex flags f q .new = .ok (command, names') ∧ names.Same names' := by
  obtain ⟨-, hfits, rfl, rfl⟩ := parseNames_ok_iff.mp hparse
  refine ⟨_, parseNames_ok_iff.mpr ⟨hq, fun arg harg => hfits arg ((h arg).mpr harg), hf _ _ fun c => ?_, rfl⟩,
    FilterNames.asked_same fun name => ?_⟩
  · simp only [List.mem_reverse, List.mem_filterMap, h]
  · simp only [List.mem_filterMap, h]

/-- The commands that take names and flags. -/
def plainCommands : List String := ["check", "sync", "resolve-conflicts", "discover", "repair"]

/-- **Neither the order nor the repetition of arguments matters** to the commands that take names and flags: what one
command line means, any other with the same arguments means as well. -/
theorem parse_args_order {rawCmd : String} (hcmd : rawCmd ∈ plainCommands) {p q : P} (hq : (argsOf lex q).2 = none)
    (h : ∀ arg, arg ∈ (argsOf lex p).1 ↔ arg ∈ (argsOf lex q).1) (fds : Fds) {command : Command} {names : FilterNames}
    (hparse : (parseCommand lex rawCmd p .new fds).result = .ok (command, names)) :
    ∃ names', (parseCommand lex rawCmd q .new fds).result = .ok (command, names') ∧ names.Same names' := by
  have hplain : ∀ {flags : List Char} {f : List Char → Command},
      (∀ given given', (∀ c, c ∈ given ↔ c ∈ given') → f given = f given') →
      ((Prog.lift ((parseNames lex flags f p .new).mapError .err) : Owning (Command × FilterNames)) fds).result =
        .ok (command, names) →
      ∃ names', ((Prog.lift ((parseNames lex flags f q .new).mapError .err) :
        Owning (Command × FilterNames)) fds).result = .ok (command, names') ∧ names.Same names' := by
    intro flags f hf hparse
    obtain ⟨names', hparse', hsame⟩ := parseNames_order hf hq h (lift_err_ok.mp hparse)
    exact ⟨names', lift_err_ok.mpr hparse', hsame⟩
  simp only [plainCommands, List.mem_cons, List.not_mem_nil, or_false] at hcmd
  rcases hcmd with rfl | rfl | rfl | rfl | rfl
  · exact hplain (fun _ _ _ => rfl) hparse
  · exact hplain (fun given given' hgiven => by simp [hgiven]) hparse
  · exact hplain (fun given given' hgiven => by simp [hgiven]) hparse
  · exact hplain (fun _ _ _ => rfl) hparse
  · exact hplain (fun _ _ _ => rfl) hparse

/-- Two names, one of them given twice. -/
theorem parse_args_order_repeated : ∃ names', (parseCommand plainArgs "sync" ["home", "work", "home"] .new ⟨[], []⟩).result =
    .ok (.sync false false, names') ∧ (FilterNames.asked ["work", "home"]).Same names' := by
  have hargs : argsOf plainArgs ["work", "home"] = ([.value "work", .value "home"], none) ∧
      argsOf plainArgs ["home", "work", "home"] = ([.value "home", .value "work", .value "home"], none) := by
    simp [argsOf, plainArgs]
  refine parse_args_order (p := ["work", "home"]) (by simp [plainCommands]) (by rw [hargs.2]) (fun arg => ?_)
    ⟨[], []⟩ ?_
  · rw [hargs.1, hargs.2]
    simp only [List.mem_cons, List.not_mem_nil, or_false]
    tauto
  · refine lift_err_ok.mpr (parseNames_ok_iff.mpr ?_)
    rw [hargs.1]
    simp [Arg.Fits, List.filterMap_cons, Arg.flag?, Arg.name?]

end Pimsync
