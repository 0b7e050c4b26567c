import Pimsync.CliParse

/-!
# The readiness descriptor

`parse_daemon` makes a file of each descriptor that `-r` gives and keeps the last. `daemonArgs` lists the arguments that
its loop goes through (`daemonLoop_eq`), and `takenFds` the descriptors that it takes over.

- `runDaemonArgs_ok`, `runDaemonArgs_panics`: what the loop does to the descriptors;
- `parseDaemon_safe_iff`: when a run takes over no wrong descriptor and the one that it keeps is open.
-/

namespace Pimsync

/-! ## The arguments of `daemon` -/

/-- An argument that the loop of `parse_daemon` goes on after. -/
inductive DaemonArg
  | ready (v : String)
  | name (pairName : String)

/-- What `-r` gives. -/
def DaemonArg.value : DaemonArg → Option String
  | .ready v => some v
  | .name _ => none

section Args

variable {P : Type} (lex : Lexopt P)

/-- The arguments of `daemon`, and the error that they end with if one does not belong there. -/
def daemonArgs (p : P) : List DaemonArg × Option Error :=
  match lex.next p with
  | .error e => ([], some e)
  | .ok none => ([], none)
  | .ok (some (.short c, ⟨p', _⟩)) =>
    if c = 'r' then
      match lex.value p' with
      | .error e => ([], some e)
      | .ok (v, ⟨p'', _⟩) =>
        let rest := daemonArgs p''
        (.ready v :: rest.1, rest.2)
    else ([], some (lex.unexpected (.short c)))
  | .ok (some (.value pairName, ⟨p', _⟩)) =>
    let rest := daemonArgs p'
    (.name pairName :: rest.1, rest.2)
  | .ok (some (.long name, _)) => ([], some (lex.unexpected (.long name)))
termination_by lex.left p
decreasing_by all_goals omega

/-- The loop of `parse_daemon` over its arguments. -/
def runDaemonArgs : List DaemonArg → FilterNames → Option ℤ → Owning (Option ℤ × FilterNames)
  | [], names, readyFd => return (readyFd, names)
  | .ready v :: args, names, readyFd => do
    let file ← takeReadyFd lex v readyFd
    runDaemonArgs args names (some file)
  | .name pairName :: args, names, readyFd => runDaemonArgs args (names.push pairName) readyFd

/-- The end of the loop. -/
def endDaemonArgs {α : Type} (e : Option Error) (a : α) : Owning α :=
  match e with
  | some e => Prog.fail (.err e)
  | none => return a

/-- **The loop of `parse_daemon`** goes through the arguments one by one. -/
theorem daemonLoop_eq (p : P) : ∀ (names : FilterNames) (readyFd : Option ℤ), daemonLoop lex p names readyFd =
    runDaemonArgs lex (daemonArgs lex p).1 names readyFd >>= endDaemonArgs (daemonArgs lex p).2 := by
  induction p using daemonArgs.induct lex with
  | case1 p e hnext | case2 p hnext | case7 p name q hnext =>
    intro names readyFd
    rw [daemonLoop, daemonArgs]
    simp only [hnext]
    rfl
  | case3 p p' hleft e hvalue hnext =>
    intro names readyFd
    rw [daemonLoop, daemonArgs]
    simp only [hnext, hvalue, ↓reduceIte]
    rfl
  | case4 p p' hleft v p'' hleft' hvalue hnext ih =>
    intro names readyFd
    rw [daemonLoop, daemonArgs]
    simp only [hnext, hvalue, ↓reduceIte, runDaemonArgs, bind_assoc, ih]
  | case5 p c p' hleft hnext hc =>
    intro names readyFd
    rw [daemonLoop, daemonArgs]
    simp only [hnext, hc, ↓reduceIte]
    rfl
  | case6 p pairName p' hleft hnext ih =>
    intro names readyFd
    rw [daemonLoop, daemonArgs]
    simp only [hnext]
    exact ih ..

end Args

/-! ## The descriptors that are taken over -/

/-- The descriptors that `-r` gives, up to the first value that is refused; and whether none is. -/
def takenFds : List String → List ℤ × Bool
  | [] => ([], true)
  | v :: vs =>
    match parseI32 v with
    | .ok rawFd => if rawFd = 2 then ([], false) else (rawFd :: (takenFds vs).1, (takenFds vs).2)
    | .error _ => ([], false)

/-- A value is refused, or its descriptor is taken over. -/
theorem takenFds_cons (v : String) (vs : List String) :
    ((∀ fd, parseI32 v = .ok fd → fd = 2) ∧ takenFds (v :: vs) = ([], false)) ∨
      ∃ fd, parseI32 v = .ok fd ∧ fd ≠ 2 ∧ takenFds (v :: vs) = (fd :: (takenFds vs).1, (takenFds vs).2) := by
  rw [takenFds]
  cases hv : parseI32 v with
  | error e =>
    refine .inl ⟨fun fd h => ?_, rfl⟩
    cases h
  | ok fd =>
    by_cases hstderr : fd = 2
    · refine .inl ⟨fun fd' h => ?_, if_pos hstderr⟩
      cases h
      exact hstderr
    · exact .inr ⟨fd, rfl, hstderr, if_neg hstderr⟩

/-- The descriptors that are given are numbers of some `-r`, and not that of stderr. -/
theorem mem_takenFds : ∀ {vs : List String} {fd : ℤ}, fd ∈ (takenFds vs).1 → fd ≠ 2 ∧ ∃ v ∈ vs, parseI32 v = .ok fd
  | [], fd, h => by cases h
  | v :: vs, fd, h => by
    obtain ⟨-, hnone⟩ | ⟨rawFd, hv, hstderr, hcons⟩ := takenFds_cons v vs
    · rw [hnone] at h
      cases h
    · rw [hcons] at h
      rcases List.mem_cons.mp h with rfl | hmem
      · exact ⟨hstderr, v, List.mem_cons_self, hv⟩
      · obtain ⟨hne, v', hv', hparse⟩ := mem_takenFds hmem
        exact ⟨hne, v', List.mem_cons_of_mem _ hv', hparse⟩

/-- A new file took the place of the one before, whose descriptor is closed. -/
def Fds.replace (fds : Fds) (readyFd : Option ℤ) (fd : ℤ) : Fds := ⟨fds.openFds.filter (· ∉ readyFd), [fd]⟩

theorem Fds.replace_files (fds : Fds) (readyFd : Option ℤ) (fd : ℤ) :
    (fds.replace readyFd fd).files = (some fd).toList := rfl

section Run

variable {P : Type} {lex : Lexopt P} {fds : Fds} {readyFd : Option ℤ} {v : String}

/-- A value that is not a number is refused, and so is that of stderr. -/
theorem takeReadyFd_refused (h : ∀ fd, parseI32 v = .ok fd → fd = 2) :
    ∃ e, takeReadyFd lex v readyFd fds = ⟨.error (.err e), fds, []⟩ := by
  unfold takeReadyFd Lexopt.parse
  cases hv : parseI32 v with
  | error e => exact ⟨_, rfl⟩
  | ok fd =>
    obtain rfl := h fd hv
    exact ⟨_, rfl⟩

theorem takeReadyFd_panics (h : parseI32 v = .ok (-1)) :
    takeReadyFd lex v readyFd fds = ⟨.error (.panic "fd != -1"), fds, []⟩ := by
  unfold takeReadyFd Lexopt.parse
  rw [h]
  rfl

theorem takeReadyFd_ok {fd : ℤ} (h : parseI32 v = .ok fd) (hstderr : fd ≠ 2) (hvalid : fd ≠ -1)
    (hfiles : fds.files = readyFd.toList) :
    takeReadyFd lex v readyFd fds = ⟨.ok fd, fds.replace readyFd fd, [fd]⟩ := by
  obtain ⟨openFds, files⟩ := fds
  obtain rfl : files = readyFd.toList := hfiles
  unfold takeReadyFd Lexopt.parse fromRawFd
  simp only [h, Except.mapError, Prog.bind_run, Prog.lift_run, if_neg hstderr, if_neg hvalid, Prog.emit_run, Prog.ask_run,
    Prog.pure_run]
  cases readyFd with
  | none => simp [dropFile, Fds.adopt, Fds.replace]
  | some old =>
    have herase : (fd :: [old]).erase old = [fd] := by
      by_cases hold : fd = old
      · simp [hold]
      · simp [hold]
    simp [dropFile, Fds.adopt, Fds.drop, Fds.replace, herase, eq_comm]

/-- **What the loop does with values that are all taken**: the last file is left, and the descriptors of those before it
are closed. -/
theorem runDaemonArgs_ok : ∀ (args : List DaemonArg) (names : FilterNames) {readyFd : Option ℤ} {fds : Fds} {taken : List ℤ},
    fds.files = readyFd.toList → takenFds (args.filterMap DaemonArg.value) = (taken, true) → -1 ∉ taken →
    ∃ names' world, runDaemonArgs lex args names readyFd fds =
        ⟨.ok ((readyFd.toList ++ taken).getLast?, names'), world, taken⟩ ∧
      world.files = (readyFd.toList ++ taken).getLast?.toList ∧
      ∀ fd, fd ∈ world.openFds ↔ fd ∈ fds.openFds ∧ fd ∉ (readyFd.toList ++ taken).dropLast
  | [], names, readyFd, fds, taken, hfiles, htaken, hvalid => by
    cases htaken
    refine ⟨names, fds, ?_, ?_, fun fd => ?_⟩
    · cases readyFd <;> rfl
    · cases readyFd <;> exact hfiles
    · cases readyFd <;> simp
  | .name pairName :: args, names, readyFd, fds, taken, hfiles, htaken, hvalid =>
    runDaemonArgs_ok args (names.push pairName) hfiles htaken hvalid
  | .ready v :: args, names, readyFd, fds, taken, hfiles, htaken, hvalid => by
    obtain ⟨-, hnone⟩ | ⟨fd, hv, hstderr, hcons⟩ := takenFds_cons v (args.filterMap DaemonArg.value)
    · cases hnone.symm.trans htaken
    · obtain ⟨rfl, hall⟩ := Prod.mk.inj (hcons.symm.trans htaken)
      rw [List.mem_cons, not_or] at hvalid
      obtain ⟨names', world, hrun, hworld, hopen⟩ :=
        runDaemonArgs_ok args names (fds.replace_files readyFd fd) (Prod.ext rfl hall) hvalid.2
      have hlast : ([fd] ++ (takenFds (args.filterMap DaemonArg.value)).1).getLast? =
          (readyFd.toList ++ fd :: (takenFds (args.filterMap DaemonArg.value)).1).getLast? := by
        rw [List.getLast?_append_of_ne_nil _ (List.cons_ne_nil _ _)]
        rfl
      refine ⟨names', world, ?_, ?_, fun fd' => ?_⟩
      · rw [runDaemonArgs, Prog.bind_run_ok (takeReadyFd_ok hv hstderr (Ne.symm hvalid.1) hfiles), hrun, ← hlast]
        rfl
      · rw [hworld, ← hlast]
        rfl
      · rw [hopen, List.dropLast_append_of_ne_nil (List.cons_ne_nil _ _), Fds.replace, List.mem_filter, List.mem_append, not_or,
          Option.mem_toList, decide_eq_true_iff, and_assoc]
        rfl

/-- The loop stops at the first value that is refused. -/
theorem runDaemonArgs_refused : ∀ (args : List DaemonArg) (names : FilterNames) {readyFd : Option ℤ} {fds : Fds}
    {taken : List ℤ}, fds.files = readyFd.toList → takenFds (args.filterMap DaemonArg.value) = (taken, false) →
    -1 ∉ taken → ∃ e world, runDaemonArgs lex args names readyFd fds = ⟨.error (.err e), world, taken⟩
  | [], names, readyFd, fds, taken, hfiles, htaken, hvalid => by cases htaken
  | .name pairName :: args, names, readyFd, fds, taken, hfiles, htaken, hvalid =>
    runDaemonArgs_refused args (names.push pairName) hfiles htaken hvalid
  | .ready v :: args, names, readyFd, fds, taken, hfiles, htaken, hvalid => by
    obtain ⟨hrefused, hnone⟩ | ⟨fd, hv, hstderr, hcons⟩ := takenFds_cons v (args.filterMap DaemonArg.value)
    · cases hnone.symm.trans htaken
      obtain ⟨e, he⟩ := takeReadyFd_refused hrefused
      exact ⟨e, fds, Prog.bind_run_error he⟩
    · obtain ⟨rfl, hend⟩ := Prod.mk.inj (hcons.symm.trans htaken)
      rw [List.mem_cons, not_or] at hvalid
      obtain ⟨e, world, hrun⟩ :=
        runDaemonArgs_refused args names (fds.replace_files readyFd fd) (Prod.ext rfl hend) hvalid.2
      refine ⟨e, world, ?_⟩
      rw [runDaemonArgs, Prog.bind_run_ok (takeReadyFd_ok hv hstderr (Ne.symm hvalid.1) hfiles), hrun]
      rfl

/-- The loop panics at the first `-1`. -/
theorem runDaemonArgs_panics : ∀ (args : List DaemonArg) (names : FilterNames) {readyFd : Option ℤ} {fds : Fds},
    fds.files = readyFd.toList → -1 ∈ (takenFds (args.filterMap DaemonArg.value)).1 →
    ∃ msg world log, runDaemonArgs lex args names readyFd fds = ⟨.error (.panic msg), world, log⟩
  | [], names, readyFd, fds, hfiles, hinvalid => by cases hinvalid
  | .name pairName :: args, names, readyFd, fds, hfiles, hinvalid =>
    runDaemonArgs_panics args (names.push pairName) hfiles hinvalid
  | .ready v :: args, names, readyFd, fds, hfiles, hinvalid => by
    have hinvalid : -1 ∈ (takenFds (v :: args.filterMap DaemonArg.value)).1 := hinvalid
    obtain ⟨-, hnone⟩ | ⟨fd, hv, hstderr, hcons⟩ := takenFds_cons v (args.filterMap DaemonArg.value)
    · rw [hnone] at hinvalid
      cases hinvalid
    · rw [hcons, List.mem_cons] at hinvalid
      by_cases hfd : fd = -1
      · subst hfd
        exact ⟨_, _, _, Prog.bind_run_error (takeReadyFd_panics hv)⟩
      · have hrest := hinvalid.resolve_left (Ne.symm hfd)
        obtain ⟨msg, world, log, hrun⟩ := runDaemonArgs_panics args names (fds.replace_files readyFd fd) hrest
        refine ⟨msg, world, fd :: log, ?_⟩
        rw [runDaemonArgs, Prog.bind_run_ok (takeReadyFd_ok hv hstderr hfd hfiles), hrun]
        rfl

end Run

/-! ## What is safe -/

/-- No panic, no wrong descriptor taken over, and a descriptor to write to that is open and has one owner. -/
structure SafeRun {α : Type} (command : α → Command) (ran : Ran Fds ℤ Fault α) : Prop where
  noPanic : ∀ msg, ran.result ≠ .error (.panic msg)
  taken : ∀ fd ∈ ran.log, 0 ≤ fd ∧ fd ≠ 2
  ready : ∀ a fd, ran.result = .ok a → command a = .daemon (some fd) →
    fd ∈ ran.world.openFds ∧ ran.world.files.count fd = 1

/-- The descriptors that a command line gives. -/
def givenFds (args : List DaemonArg × Option Error) : List ℤ := (takenFds (args.1.filterMap DaemonArg.value)).1

/-- No argument is refused. -/
def Accepted (args : List DaemonArg × Option Error) : Prop :=
  args.2 = none ∧ (takenFds (args.1.filterMap DaemonArg.value)).2 = true

/-- No negative number is given and, on a command line that is accepted, the last is not given before. -/
structure ReadyOnce (args : List DaemonArg × Option Error) : Prop where
  nonneg : ∀ fd ∈ givenFds args, 0 ≤ fd
  last : Accepted args → ∀ fd ∈ (givenFds args).getLast?, fd ∉ (givenFds args).dropLast

section Safe

variable {P : Type} {lex : Lexopt P}

variable {p : P} {names names' : FilterNames} {fds world : Fds} {readyFd : Option ℤ} {log : List ℤ}

theorem parseDaemon_run_ok (h : runDaemonArgs lex (daemonArgs lex p).1 names none fds = ⟨.ok (readyFd, names'), world, log⟩)
    (hend : (daemonArgs lex p).2 = none) : parseDaemon lex p names fds = ⟨.ok (.daemon readyFd, names'), world, log⟩ := by
  rw [parseDaemon, daemonLoop_eq, Prog.bind_run_ok h, hend]
  simp [endDaemonArgs]

theorem parseDaemon_run_end {e : Error}
    (h : runDaemonArgs lex (daemonArgs lex p).1 names none fds = ⟨.ok (readyFd, names'), world, log⟩)
    (hend : (daemonArgs lex p).2 = some e) : parseDaemon lex p names fds = ⟨.error (.err e), world.dropAll, log⟩ := by
  rw [parseDaemon, daemonLoop_eq, Prog.bind_run_ok h, hend]
  simp [endDaemonArgs]

theorem parseDaemon_run_error {e : Fault}
    (h : runDaemonArgs lex (daemonArgs lex p).1 names none fds = ⟨.error e, world, log⟩) :
    parseDaemon lex p names fds = ⟨.error e, world.dropAll, log⟩ := by
  rw [parseDaemon, daemonLoop_eq, Prog.bind_run_error h]

/-- A run that fails without a panic is safe if and only if no negative number is given. -/
theorem safeRun_error {α : Type} {command : α → Command} {e : Error} {taken : List ℤ} (hstderr : ∀ fd ∈ taken, fd ≠ 2) :
    SafeRun command ⟨.error (.err e), world, taken⟩ ↔ ∀ fd ∈ taken, 0 ≤ fd := by
  constructor
  · intro h fd hfd
    exact (h.taken fd hfd).1
  · intro h
    refine ⟨fun msg hmsg => ?_, fun fd hfd => ⟨h fd hfd, hstderr fd hfd⟩, fun a fd hok => ?_⟩
    · cases hmsg
    · cases hok

/-- A run that keeps the last descriptor is safe if and only if no negative number is given, and the last only once. -/
theorem safeRun_ok {openFds taken : List ℤ} (hstderr : ∀ fd ∈ taken, fd ≠ 2) (hopen : ∀ fd ∈ taken, 0 ≤ fd → fd ∈ openFds)
    (hfiles : world.files = taken.getLast?.toList)
    (hopened : ∀ fd, fd ∈ world.openFds ↔ fd ∈ openFds ∧ fd ∉ taken.dropLast) :
    SafeRun Prod.fst ⟨.ok (.daemon taken.getLast?, names), world, taken⟩ ↔
      (∀ fd ∈ taken, 0 ≤ fd) ∧ ∀ fd ∈ taken.getLast?, fd ∉ taken.dropLast := by
  constructor
  · intro h
    refine ⟨fun fd hfd => (h.taken fd hfd).1, fun fd hfd => ?_⟩
    exact ((hopened fd).mp (h.ready _ fd rfl (congrArg Command.daemon hfd)).1).2
  · rintro ⟨hnonneg, honce⟩
    refine ⟨fun msg hmsg => ?_, fun fd hfd => ⟨hnonneg fd hfd, hstderr fd hfd⟩, fun a fd hok hcommand => ?_⟩
    · cases hmsg
    · cases hok
      have hlast : taken.getLast? = some fd := Command.daemon.inj hcommand
      have hmem : fd ∈ taken := List.mem_of_getLast? hlast
      refine ⟨(hopened fd).mpr ⟨hopen fd hmem (hnonneg fd hmem), honce fd hlast⟩, ?_⟩
      rw [hfiles, hlast]
      exact List.count_singleton_self

/-- **Whether `parse_daemon` is safe**, if the descriptors that it is given were open. -/
theorem parseDaemon_safe_iff {openFds : List ℤ}
    (hopen : ∀ v ∈ (daemonArgs lex p).1.filterMap DaemonArg.value, ∀ fd, parseI32 v = .ok fd → 0 ≤ fd → fd ∈ openFds) :
    SafeRun Prod.fst (parseDaemon lex p names ⟨openFds, []⟩) ↔ ReadyOnce (daemonArgs lex p) := by
  have hstderr : ∀ fd ∈ givenFds (daemonArgs lex p), fd ≠ 2 := fun fd hfd => (mem_takenFds hfd).1
  have hfiles : (⟨openFds, []⟩ : Fds).files = (none : Option ℤ).toList := rfl
  by_cases hinvalid : -1 ∈ givenFds (daemonArgs lex p)
  · obtain ⟨msg, world, log, hrun⟩ := @runDaemonArgs_panics _ lex (daemonArgs lex p).1 names _ _ hfiles hinvalid
    refine iff_of_false (fun hsafe => ?_) fun honce => absurd (honce.nonneg _ hinvalid) (by decide)
    refine hsafe.noPanic msg ?_
    rw [parseDaemon_run_error hrun]
  · cases hall : (takenFds ((daemonArgs lex p).1.filterMap DaemonArg.value)).2 with
    | false =>
      obtain ⟨e, world, hrun⟩ := runDaemonArgs_refused (daemonArgs lex p).1 names hfiles (Prod.ext rfl hall) hinvalid
      rw [parseDaemon_run_error hrun]
      refine (safeRun_error hstderr).trans ⟨fun h => ⟨h, fun haccepted => ?_⟩, fun h => h.nonneg⟩
      cases hall.symm.trans haccepted.2
    | true =>
      obtain ⟨names', world, hrun, hworld, hopened⟩ :=
        runDaemonArgs_ok (daemonArgs lex p).1 names hfiles (Prod.ext rfl hall) hinvalid
      cases hend : (daemonArgs lex p).2 with
      | some e =>
        rw [parseDaemon_run_end hrun hend]
        refine (safeRun_error hstderr).trans ⟨fun h => ⟨h, fun haccepted => ?_⟩, fun h => h.nonneg⟩
        cases hend.symm.trans haccepted.1
      | none =>
        rw [parseDaemon_run_ok hrun hend]
        have hgiven : ∀ fd ∈ givenFds (daemonArgs lex p), 0 ≤ fd → fd ∈ openFds := by
          intro fd hfd hnonneg
          obtain ⟨-, v, hv, hparse⟩ := mem_takenFds hfd
          exact hopen v hv fd hparse hnonneg
        refine (safeRun_ok hstderr hgiven hworld hopened).trans ⟨fun h => ⟨h.1, fun _ => h.2⟩, fun h => ?_⟩
        exact ⟨h.nonneg, h.last ⟨hend, hall⟩⟩

end Safe

end Pimsync
