import Pimsync.Base.Prog
import Pimsync.Scfg
import Mathlib.Data.List.DropRight

/-!
# External commands, and the values they stand for

A dynamic parameter is given in the configuration as a string, or as a block whose `cmd` or `shell` prints it.
`resolveCmdInplace` puts the string in the block's place: `resolveCmdInplace_ok` says what the block then holds, and
`resolveCmdInplace_silent` when no command is run for it.
-/

namespace Pimsync

/-! ## Strings -/

/-- Unicode's `White_Space`. -/
def isWhitespace (c : Char) : Bool :=
  c.val ∈ [0x20, 0x85, 0xA0, 0x1680, 0x2028, 0x2029, 0x202F, 0x205F, 0x3000] || (0x9 ≤ c.val && c.val ≤ 0xD) ||
    (0x2000 ≤ c.val && c.val ≤ 0x200A)

/-- `str::trim`. -/
def trim (s : String) : String := String.ofList ((s.toList.dropWhile isWhitespace).rdropWhile isWhitespace)

/-! ## Commands -/

/-- `RawCommand`. -/
structure RawCommand where
  command : String
  args : List String
  deriving DecidableEq

/-- `RawCommand::from_args`. -/
def RawCommand.fromArgs : List String → Option RawCommand
  | [] => none
  | command :: args => some ⟨command, args⟩

/-- What comes of running a command. -/
inductive Output
  /-- It could not be executed. -/
  | failed (e : Error)
  /-- Its exit code, unless a signal ended it, and its standard output as `str::from_utf8` reads it. -/
  | exited (code : Option ℤ) (stdout : Except Error String)

variable {σ : Type}

/-- What the outside does when a command is run. -/
abbrev Exec (σ : Type) := RawCommand → σ → Output × σ

/-- A program that runs external commands; its events are their command lines. -/
abbrev Cmds (σ : Type) := Prog σ RawCommand Error

/-- `.context(msg)` on a program. -/
def Prog.context {ε α : Type} (msg : String) (p : Prog σ ε Error α) : Prog σ ε Error α := p.mapError (msg :: ·)

@[simp] theorem Prog.context_run {ε α : Type} (msg : String) (p : Prog σ ε Error α) (s : σ) :
    Prog.context msg p s = ⟨Pimsync.context msg (p s).result, (p s).world, (p s).log⟩ := rfl

def runCommand (exec : Exec σ) (cmd : RawCommand) : Cmds σ Output := do
  Prog.emit cmd
  Prog.ask (exec cmd)

/-! ## `resolve_cmd_inplace` -/

/-- The command of a block. -/
def rawCmd (block : Scfg) : Except Error RawCommand := do
  let (cmd, block) ← takeSingleDirective block "cmd"
  match cmd with
  | some cmd => orContext "cmd must define at least one parameter" (RawCommand.fromArgs cmd.params)
  | none =>
    let (shell, _) ← takeSingleDirective block "shell"
    match shell with
    | some shell =>
      orContext "shell must define at least one parameter"
        (RawCommand.fromArgs ["sh", "-c", " ".intercalate shell.params])
    | none => bail "Block must include a 'cmd' or 'shell' directive"

/-- The value that a command's output stands for. -/
def outputValue (name : String) : Output → Except Error String
  | .failed e => .error (s!"Error executing command for {name} directive" :: e)
  | .exited (some 0) stdout => do
    let value := trim (← stdout)
    if name = "password" ∧ value = "" then bail "Password command returned an empty string." else return value
  | .exited (some code) _ => bail s!"Command exited with status {code}."
  | .exited none _ => bail "Command exited unexpectedly."

/-- The value of a directive. -/
def resolveValue (exec : Exec σ) (name : String) (directive : Directive) : Cmds σ String :=
  match directive.params with
  | [param] => return param
  | _ :: _ :: _ => Prog.fail [s!"Found more than one parameter for directive {name}"]
  | [] => do
    let block ← Prog.lift (orContext "Must define a parameter or a block" directive.child)
    let cmd ← Prog.lift (rawCmd block)
    let output ← runCommand exec cmd
    Prog.lift (outputValue name output)

/-- `resolve_cmd_inplace`. -/
def resolveCmdInplace (exec : Exec σ) (storage : Scfg) (name : String) : Cmds σ Scfg := do
  let (directive, rest) ← Prog.lift (takeSingleDirective storage name)
  match directive with
  | none => return rest
  | some directive =>
    let value ← resolveValue exec name directive
    return rest.add name ⟨[value], none⟩

/-- A directive that is absent, or there once with one parameter and no block. -/
def Scfg.Plain (config : Scfg) (name : String) : Prop :=
  config.named name = [] ∨ ∃ value, config.named name = [⟨[value], none⟩]

/-- A directive that is absent, or there once with one parameter. -/
def Scfg.Literal (config : Scfg) (name : String) : Prop :=
  config.named name = [] ∨ ∃ value child, config.named name = [⟨[value], child⟩]

theorem Scfg.Plain.literal {config : Scfg} {name : String} (h : config.Plain name) : config.Literal name :=
  h.imp id fun ⟨value, hn⟩ => ⟨value, none, hn⟩

section Spec

variable {exec : Exec σ} {storage storage' : Scfg} {name : String} {s : σ}

/-- What a block holds after one of its directives was resolved. -/
theorem resolveCmdInplace_ok (h : (resolveCmdInplace exec storage name s).result = .ok storage') :
    storage'.Plain name ∧ ∀ other, other ≠ name → storage'.named other = storage.named other := by
  obtain ⟨⟨directive, rest⟩, h₁, h₂⟩ := Prog.bind_result_ok.mp h
  obtain ⟨hn, rfl⟩ := takeSingleDirective_eq_ok.mp h₁
  cases directive with
  | none =>
    cases h₂
    exact ⟨.inl (Scfg.named_remove_self ..), fun other ho => Scfg.named_remove_ne storage ho⟩
  | some d =>
    obtain ⟨value, -, h₃⟩ := Prog.bind_result_ok.mp h₂
    cases h₃
    refine ⟨.inr ⟨value, by simp⟩, fun other ho => ?_⟩
    rw [Scfg.named_add_ne _ ho, Scfg.named_remove_ne _ ho]

/-- A value is the one parameter, or what one command printed. -/
theorem resolveValue_ok {directive : Directive} {value : String}
    (h : (resolveValue exec name directive s).result = .ok value) :
    (directive.params = [value] ∧ (resolveValue exec name directive s).log = []) ∨
      directive.params = [] ∧ ∃ cmd, (resolveValue exec name directive s).log = [cmd] := by
  obtain ⟨_ | ⟨param, _ | ⟨param', params⟩⟩, child⟩ := directive
  · refine .inr ⟨rfl, ?_⟩
    obtain ⟨block, hb, h₁⟩ := Prog.bind_result_ok.mp h
    obtain ⟨cmd, hc, h₂⟩ := Prog.bind_result_ok.mp h₁
    obtain ⟨output, ho, h₃⟩ := Prog.bind_result_ok.mp h₂
    refine ⟨cmd, ?_⟩
    rw [resolveValue, Prog.bind_log hb, Prog.bind_log hc, Prog.bind_log ho]
    rfl
  · cases h
    exact .inl ⟨rfl, rfl⟩
  · cases h

/-- A directive is resolved without a command if and only if it is absent or carries one parameter. -/
theorem resolveCmdInplace_silent : (∃ storage', (resolveCmdInplace exec storage name s).result = .ok storage') ∧
    (resolveCmdInplace exec storage name s).log = [] ↔ storage.Literal name := by
  rcases h : takeSingleDirective storage name with e | ⟨directive, rest⟩
  · have hnot : ¬ storage.Literal name := by
      rintro (hn | ⟨value, child, hn⟩)
      · rw [takeSingleDirective_eq_ok (d := none).mpr ⟨hn, rfl⟩] at h; cases h
      · rw [takeSingleDirective_eq_ok (d := some _).mpr ⟨hn, rfl⟩] at h; cases h
    simp [resolveCmdInplace, h, Prog.bind_run, hnot]
  · obtain ⟨hn, rfl⟩ := takeSingleDirective_eq_ok.mp h
    cases directive with
    | none => simp [resolveCmdInplace, h, Prog.bind_run, Scfg.Literal, hn]
    | some d =>
      rcases hv : (resolveValue exec name d s).result with e | value
      · have hd : ∀ value, d.params ≠ [value] := by
          rintro value hp
          simp [resolveValue, hp] at hv
        have hnot : ¬ storage.Literal name := by
          rintro (hn' | ⟨value, child, hn'⟩)
          · simp [hn] at hn'
          · obtain rfl : d = ⟨[value], child⟩ := by simpa [hn] using hn'
            exact hd value rfl
        simp [resolveCmdInplace, h, Prog.bind_run, hv, Except.map, hnot]
      · rcases resolveValue_ok hv with ⟨hp, hl⟩ | ⟨hp, cmd, hl⟩
        · obtain ⟨params, child⟩ := d
          obtain rfl : params = [value] := hp
          simp [resolveCmdInplace, h, Prog.bind_run, hv, hl, Except.map, Scfg.Literal, hn]
        · obtain ⟨params, child⟩ := d
          obtain rfl : params = [] := hp
          simp [resolveCmdInplace, h, Prog.bind_run, hl, Scfg.Literal, hn]

/-- What a command comes to depends on its command line only. -/
def Exec.Pure (exec : Exec σ) : Prop := ∀ cmd s t, (exec cmd s).1 = (exec cmd t).1

theorem uniform_runCommand (h : exec.Pure) (cmd : RawCommand) : (runCommand exec cmd).Uniform :=
  (Prog.uniform_emit _).bind fun _ => Prog.uniform_ask (h cmd)

theorem uniform_resolveCmdInplace (h : exec.Pure) : (resolveCmdInplace exec storage name).Uniform := by
  refine (Prog.uniform_lift _).bind fun ⟨directive, rest⟩ => ?_
  cases directive with
  | none => exact Prog.uniform_pure _
  | some d =>
    refine Prog.Uniform.bind ?_ fun _ => Prog.uniform_pure _
    unfold resolveValue
    split
    · exact Prog.uniform_pure _
    · exact Prog.uniform_fail _
    · exact (Prog.uniform_lift _).bind fun _ => (Prog.uniform_lift _).bind fun _ => (uniform_runCommand h _).bind
        fun _ => Prog.uniform_lift _

/-! ## The block that is left -/

theorem outputValue_ok {output : Output} {value : String} (h : outputValue name output = .ok value) :
    ∃ stdout, output = .exited (some 0) (.ok stdout) ∧ value = trim stdout ∧ (name = "password" → value ≠ "") := by
  unfold outputValue at h
  split at h
  · cases h
  · obtain ⟨stdout, rfl, hvalue⟩ := bind_eq_ok.mp h
    by_cases hempty : name = "password" ∧ trim stdout = ""
    · simp [hempty, bail] at hvalue
    · obtain rfl : trim stdout = value := by simpa [hempty, pure, Except.pure] using hvalue
      exact ⟨stdout, rfl, rfl, fun hname hvalue => hempty ⟨hname, hvalue⟩⟩
  · cases h
  · cases h

/-- The command that a block says: that of `cmd`, word by word, or else what `shell` says, as one line for a shell. -/
inductive Scfg.SaysCommand (block : Scfg) : RawCommand → Prop
  | cmd (command : String) (args : List String) (child : Option Scfg) :
      block.named "cmd" = [⟨command :: args, child⟩] → SaysCommand block ⟨command, args⟩
  | shell (words : List String) (child : Option Scfg) : block.named "cmd" = [] →
      block.named "shell" = [⟨words, child⟩] → SaysCommand block ⟨"sh", ["-c", " ".intercalate words]⟩

theorem rawCmd_ok {block : Scfg} {cmd : RawCommand} (h : rawCmd block = .ok cmd) : block.SaysCommand cmd := by
  obtain ⟨⟨directive, rest⟩, htake, h⟩ := bind_eq_ok.mp h
  obtain ⟨hcmd, rfl⟩ := takeSingleDirective_eq_ok.mp htake
  cases directive with
  | some directive =>
    obtain ⟨params, child⟩ := directive
    have hargs : RawCommand.fromArgs params = some cmd := orContext_eq_ok.mp h
    cases params with
    | nil => cases hargs
    | cons command args =>
      cases hargs
      exact .cmd command args child hcmd
  | none =>
    obtain ⟨⟨directive, rest⟩, htake, h⟩ := bind_eq_ok.mp h
    obtain ⟨hshell, -⟩ := takeSingleDirective_eq_ok.mp htake
    rw [Scfg.named_remove_ne _ (by decide)] at hshell
    cases directive with
    | some directive =>
      obtain ⟨words, child⟩ := directive
      cases orContext_eq_ok.mp h
      exact .shell words child hcmd hshell
    | none => cases h

/-- Where the value of a directive comes from: it is the one parameter, or what the one command of its block prints. -/
def ValueOf (exec : Exec σ) (name : String) (directive : Directive) (s : σ) (log : List RawCommand) (value : String) : Prop :=
  (directive.params = [value] ∧ log = []) ∨
    directive.params = [] ∧ ∃ (block : Scfg) (cmd : RawCommand) (stdout : String), directive.child = some block ∧
      block.SaysCommand cmd ∧ log = [cmd] ∧ (exec cmd s).1 = .exited (some 0) (.ok stdout) ∧ value = trim stdout ∧
      (name = "password" → value ≠ "")

theorem resolveValue_value {directive : Directive} {value : String}
    (h : (resolveValue exec name directive s).result = .ok value) :
    ValueOf exec name directive s (resolveValue exec name directive s).log value := by
  obtain ⟨_ | ⟨param, _ | ⟨param', params⟩⟩, child⟩ := directive
  · refine .inr ⟨rfl, ?_⟩
    obtain ⟨block, hb, h₁⟩ := Prog.bind_result_ok.mp h
    obtain ⟨cmd, hc, h₂⟩ := Prog.bind_result_ok.mp h₁
    obtain ⟨output, ho, h₃⟩ := Prog.bind_result_ok.mp h₂
    obtain ⟨stdout, hout, hvalue, hempty⟩ := outputValue_ok h₃
    refine ⟨block, cmd, stdout, orContext_eq_ok.mp hb, rawCmd_ok hc, ?_, ?_, hvalue, hempty⟩
    · rw [resolveValue, Prog.bind_log hb, Prog.bind_log hc, Prog.bind_log ho]
      rfl
    · obtain rfl : (exec cmd s).1 = output := Except.ok.inj ho
      exact hout
  · cases h
    exact .inl ⟨rfl, rfl⟩
  · cases h

/-- A block in which a directive was resolved. -/
structure ResolvedInplace (exec : Exec σ) (storage : Scfg) (name : String) (s : σ) (log : List RawCommand)
    (storage' : Scfg) : Prop where
  absent : storage.named name = [] → storage'.named name = [] ∧ log = []
  present : storage.named name ≠ [] → ∃ directive value, storage.named name = [directive] ∧
    storage'.named name = [⟨[value], none⟩] ∧ ValueOf exec name directive s log value
  /-- The directives of other names are those that they were, in their order. -/
  others : storage'.filter (·.1 != name) = storage.filter (·.1 != name)
  again : ∀ t, resolveCmdInplace exec storage' name t = ⟨.ok storage', t, []⟩

theorem Scfg.filter_remove (config : Scfg) (name : String) :
    (config.remove name).2.filter (·.1 != name) = config.filter (·.1 != name) := by
  simp [remove, List.filter_filter]

theorem Scfg.filter_add (config : Scfg) (name : String) (d : Directive) :
    (config.add name d).filter (·.1 != name) = config.filter (·.1 != name) := by
  simp [add]

/-- A block without a directive is left as it is. -/
theorem resolveCmdInplace_absent (h : storage.named name = []) :
    resolveCmdInplace exec storage name s = ⟨.ok (storage.remove name).2, s, []⟩ := by
  have htake := takeSingleDirective_eq_ok (d := none).mpr ⟨h, rfl⟩
  simp [resolveCmdInplace, htake, Prog.bind_run]

/-- Removing a directive that is not there changes nothing. -/
theorem Scfg.remove_absent {config : Scfg} {name : String} (h : config.named name = []) : (config.remove name).2 = config := by
  rw [remove, List.filter_eq_self]
  intro directive hmem
  have hnone : config.filter (·.1 == name) = [] := List.map_eq_nil_iff.mp h
  simpa using List.filter_eq_nil_iff.mp hnone directive hmem

/-- Resolving again what was just resolved changes nothing. -/
theorem resolveCmdInplace_add (h : storage.named name = []) (value : String) :
    resolveCmdInplace exec (storage.add name ⟨[value], none⟩) name s = ⟨.ok (storage.add name ⟨[value], none⟩), s, []⟩ := by
  have hrest : ((storage.add name ⟨[value], none⟩).remove name).2 = storage := by
    rw [Scfg.remove, Scfg.filter_add]
    exact Scfg.remove_absent h
  have htake : takeSingleDirective (storage.add name ⟨[value], none⟩) name = .ok (some ⟨[value], none⟩, storage) :=
    takeSingleDirective_eq_ok.mpr ⟨by simp [h], hrest.symm⟩
  simp [resolveCmdInplace, resolveValue, htake, Prog.bind_run, Except.map]

/-- **Resolving a directive** leaves its value, or fails; a directive that is there twice makes it fail. -/
theorem resolveCmdInplace_resolved (exec : Exec σ) (storage : Scfg) (name : String) (s : σ) :
    (∀ storage', (resolveCmdInplace exec storage name s).result = .ok storage' →
      ResolvedInplace exec storage name s (resolveCmdInplace exec storage name s).log storage') ∧
      (2 ≤ (storage.named name).length → ∃ e, (resolveCmdInplace exec storage name s).result = .error e) := by
  rcases htake : takeSingleDirective storage name with e | ⟨directive, rest⟩
  · have hrun : resolveCmdInplace exec storage name s = ⟨.error e, s, []⟩ := by
      simp [resolveCmdInplace, htake, Prog.bind_run]
    rw [hrun]
    refine ⟨fun storage' h => ?_, fun _ => ⟨e, rfl⟩⟩
    cases h
  obtain ⟨hnamed, rfl⟩ := takeSingleDirective_eq_ok.mp htake
  refine ⟨fun storage' h => ?_, fun hlength => ?_⟩
  · cases directive with
    | none =>
      have hrest := Scfg.remove_absent hnamed
      rw [resolveCmdInplace_absent hnamed, hrest] at h ⊢
      cases h
      exact ⟨fun _ => ⟨hnamed, rfl⟩, fun hne => absurd hnamed hne, rfl, fun t => by
        rw [resolveCmdInplace_absent hnamed, hrest]⟩
    | some directive =>
      rcases hv : resolveValue exec name directive s with ⟨e | value, s', log⟩
      · have herror : (resolveCmdInplace exec storage name s).result = .error e := by
          simp [resolveCmdInplace, htake, Prog.bind_run, hv, Except.map]
        rw [herror] at h
        cases h
      · have hrun : resolveCmdInplace exec storage name s =
            ⟨.ok ((storage.remove name).2.add name ⟨[value], none⟩), s', log⟩ := by
          simp [resolveCmdInplace, htake, Prog.bind_run, hv, Except.map]
        rw [hrun] at h ⊢
        cases h
        have hvalue : ValueOf exec name directive s (resolveValue exec name directive s).log value :=
          resolveValue_value (by rw [hv])
        rw [hv] at hvalue
        refine ⟨fun hnone => ?_, fun _ => ⟨directive, value, hnamed, by simp, hvalue⟩, ?_, fun t => ?_⟩
        · rw [hnamed] at hnone
          cases hnone
        · rw [Scfg.filter_add, Scfg.filter_remove]
        · exact resolveCmdInplace_add (Scfg.named_remove_self storage name) value
  · rw [hnamed] at hlength
    cases directive <;> simp at hlength

end Spec

/-- A shell that knows one line. -/
def shellExec : Exec Unit := fun cmd s =>
  (if cmd = ⟨"sh", ["-c", "pass show dav | head -n 1"]⟩ then .exited (some 0) (.ok "secret\n") else .failed ["not found"], s)

/-- A block whose password a shell prints. -/
def davBlock (password : Directive) : Scfg := [("password", password), ("url", ⟨["https://localhost/dav"], none⟩)]

theorem resolveCmdInplace_resolved_shell :
    let block := davBlock ⟨[], some [("shell", ⟨["pass", "show", "dav", "|", "head", "-n", "1"], none⟩)]⟩
    let plain : Scfg := [("url", ⟨["https://localhost/dav"], none⟩), ("password", ⟨["secret"], none⟩)]
    (resolveCmdInplace shellExec block "password" ()).result = .ok plain ∧
      ResolvedInplace shellExec block "password" () [⟨"sh", ["-c", "pass show dav | head -n 1"]⟩] plain :=
  ⟨rfl, (resolveCmdInplace_resolved shellExec
    (davBlock ⟨[], some [("shell", ⟨["pass", "show", "dav", "|", "head", "-n", "1"], none⟩)]⟩) "password" ()).1 _ rfl⟩

end Pimsync
