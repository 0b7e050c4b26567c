import Pimsync.Config.Storage

/-!
# The strings a storage is made from

`resolveStorageCmds` makes plain the directives that `dynamicFields` lists for the storage's type; the readers of
`initStorage` take as plain strings those that `stringFields` lists (`initStorage_reads`). The two lists agree but for
`webcal`, whose user name and password are read and never resolved.
-/

namespace Pimsync

variable {σ : Type}

/-! ## What is resolved -/

section Resolve

variable {exec : Exec σ}

/-- What a block holds after some of its directives were resolved. -/
theorem resolveFields_ok : ∀ (names : List String) {storage storage' : Scfg} {s : σ},
    (resolveFields exec names storage s).result = .ok storage' →
    (∀ name ∈ names, storage'.Plain name) ∧ ∀ other, other ∉ names → storage'.named other = storage.named other
  | [], storage, storage', s, h => by
    cases h
    exact ⟨by simp, fun _ _ => rfl⟩
  | name :: names, storage, storage', s, h => by
    obtain ⟨storage₁, h₁, h₂⟩ := Prog.bind_result_ok.mp h
    have h₁ : (resolveCmdInplace exec storage name s).result = .ok storage₁ := context_eq_ok.mp h₁
    obtain ⟨hp, ho⟩ := resolveCmdInplace_ok h₁
    obtain ⟨hps, hos⟩ := resolveFields_ok names h₂
    refine ⟨fun n hn => ?_, fun other hother => ?_⟩
    · by_cases hmem : n ∈ names
      · exact hps n hmem
      · obtain rfl : n = name := (List.mem_cons.mp hn).resolve_right hmem
        simpa only [Scfg.Plain, hos n hmem] using hp
    · rw [List.mem_cons, not_or] at hother
      rw [hos other hother.2, ho other hother.1]

/-- Resolving succeeds on storages of a known type only, and then makes the fields of the type plain. -/
theorem resolveStorageCmds_ok {storage storage' : Scfg} {s : σ}
    (h : (resolveStorageCmds exec storage s).result = .ok storage') :
    ∃ type_ fields, storageType storage = .ok type_ ∧ dynamicFields type_ = some fields ∧
      (∀ name ∈ fields, storage'.Plain name) ∧ ∀ other, other ∉ fields → storage'.named other = storage.named other := by
  obtain ⟨type_, ht, h⟩ := Prog.bind_result_ok.mp h
  cases hf : dynamicFields type_ with
  | none => rw [hf] at h; cases h
  | some fields =>
    rw [hf] at h
    exact ⟨type_, fields, ht, hf, resolveFields_ok fields h⟩

theorem resolveFields_silent : ∀ (names : List String) {storage : Scfg} {s : σ},
    ((∃ storage', (resolveFields exec names storage s).result = .ok storage') ∧
      (resolveFields exec names storage s).log = []) ↔ ∀ name ∈ names, storage.Literal name
  | [], storage, s => by simp [resolveFields]
  | name :: names, storage, s => by
    have hfirst : ((∃ storage', (resolveCmdInplace exec storage name s).result = .ok storage') ∧
        (resolveCmdInplace exec storage name s).log = []) ↔ storage.Literal name := resolveCmdInplace_silent
    have hres : ∀ storage₁, (Prog.context s!"resolving {name} for storage" (resolveCmdInplace exec storage name) s).result =
        .ok storage₁ ↔ (resolveCmdInplace exec storage name s).result = .ok storage₁ := fun _ => context_eq_ok
    constructor
    · rintro ⟨⟨storage', h⟩, hl⟩
      obtain ⟨storage₁, h₁, h₂⟩ := Prog.bind_result_ok.mp h
      rw [resolveFields, Prog.bind_log h₁, List.append_eq_nil_iff] at hl
      obtain ⟨hp, ho⟩ := resolveCmdInplace_ok ((hres _).mp h₁)
      have hrest := (resolveFields_silent names).mp ⟨⟨storage', h₂⟩, hl.2⟩
      have hname : storage.Literal name := hfirst.mp ⟨⟨storage₁, (hres _).mp h₁⟩, hl.1⟩
      intro n hn
      by_cases hnn : n = name
      · exact hnn ▸ hname
      · have := hrest n ((List.mem_cons.mp hn).resolve_left hnn)
        rwa [Scfg.Literal, ho n hnn] at this
    · intro h
      obtain ⟨⟨storage₁, h₁⟩, hl⟩ := hfirst.mpr (h name (List.mem_cons_self ..))
      obtain ⟨hp, ho⟩ := resolveCmdInplace_ok h₁
      have hrest : ∀ n ∈ names, storage₁.Literal n := fun n hn => by
        by_cases hnn : n = name
        · exact hnn ▸ hp.literal
        · rw [Scfg.Literal, ho n hnn]; exact h n (List.mem_cons_of_mem _ hn)
      obtain ⟨⟨storage', h₂⟩, hl'⟩ := (resolveFields_silent names).mpr hrest
      have h₁' := (hres storage₁).mpr h₁
      refine ⟨⟨storage', Prog.bind_result_ok.mpr ⟨storage₁, h₁', h₂⟩⟩, ?_⟩
      rw [resolveFields, Prog.bind_log h₁', hl', List.append_nil]
      exact hl

/-- The block of a storage of a known type, which needs no command. -/
def Scfg.NoCommands (storage : Scfg) : Prop := ∃ type_ fields, storageType storage = .ok type_ ∧
  dynamicFields type_ = some fields ∧ ∀ name ∈ fields, storage.Literal name

/-- A block is resolved without a command if and only if its type is known and none of its fields is a block. -/
theorem resolveStorageCmds_silent {storage : Scfg} {s : σ} :
    ((∃ storage', (resolveStorageCmds exec storage s).result = .ok storage') ∧
      (resolveStorageCmds exec storage s).log = []) ↔ storage.NoCommands := by
  rcases ht : storageType storage with e | type_
  · simp [resolveStorageCmds, Prog.bind_run, ht, Scfg.NoCommands]
  · cases hf : dynamicFields type_ with
    | none => simp [resolveStorageCmds, Prog.bind_run, ht, hf, Scfg.NoCommands]
    | some fields =>
      have hfields : ((∃ storage', (resolveFields exec fields storage s).result = .ok storage') ∧
          (resolveFields exec fields storage s).log = []) ↔ ∀ name ∈ fields, storage.Literal name :=
        resolveFields_silent fields
      rw [show storage.NoCommands ↔ ∀ name ∈ fields, storage.Literal name by simp [Scfg.NoCommands, ht, hf], ← hfields]
      simp [resolveStorageCmds, Prog.bind_run, ht, hf]

end Resolve

/-! ## What is read -/

/-- On `config`, `p` records only directives that are there, with names that satisfy `P`; what it leaves was there. -/
def Reader.ReadsAt {α : Type} (P : String → Prop) (config : Scfg) (p : Reader α) : Prop :=
  (∀ r ∈ (p config).log, P r.name ∧ config.named r.name = [r.directive]) ∧
    ∀ name, (p config).world.named name = config.named name ∨ (p config).world.named name = []

/-- `p` records on every block only directives that are there, with names that satisfy `P`. -/
def Reader.Reads {α : Type} (P : String → Prop) (p : Reader α) : Prop := ∀ config, p.ReadsAt P config

namespace Reader

variable {α β : Type} {P : String → Prop} {p : Reader α} {f : α → Reader β}

theorem reads_silent (h : ∀ config, (p config).log = []) (hw : ∀ config, (p config).world = config) : p.Reads P := by
  intro config
  exact ⟨fun r hr => absurd (h config ▸ hr) (by simp), fun _ => .inl (by rw [hw])⟩

theorem reads_pure (a : α) : (pure a : Reader α).Reads P := reads_silent (fun _ => rfl) fun _ => rfl

theorem reads_lift (r : Except Error α) : (lift r).Reads P := reads_silent (fun _ => rfl) fun _ => rfl

theorem reads_bail (msg : String) : (bail msg : Reader α).Reads P := reads_silent (fun _ => rfl) fun _ => rfl

theorem reads_liftFault (r : Except Fault α) : Reads P (Prog.lift r : Reader α) :=
  reads_silent (fun _ => rfl) fun _ => rfl

theorem Reads.context (hp : p.Reads P) (msg : String) : (p.context msg).Reads P := hp

theorem ReadsAt.bind {config : Scfg} (hp : p.ReadsAt P config) (hf : ∀ a, (p config).result = .ok a → (f a).Reads P) :
    ReadsAt P config (p >>= f) := by
  obtain ⟨hl, hw⟩ := hp
  rcases h : p config with ⟨_ | a, t, l⟩
  · rw [ReadsAt, Prog.bind_run_error h]
    rw [h] at hl hw
    exact ⟨hl, hw⟩
  · rw [ReadsAt, Prog.bind_run_ok h]
    rw [h] at hl hw
    obtain ⟨hl', hw'⟩ := hf a (by rw [h]) t
    refine ⟨fun r hr => ?_, fun name => ?_⟩
    · rcases List.mem_append.mp hr with hr | hr
      · exact hl r hr
      · obtain ⟨hP, hn⟩ := hl' r hr
        -- what the second part finds, the first left
        rcases hw r.name with he | he
        · exact ⟨hP, he.symm.trans hn⟩
        · exact absurd (he.symm.trans hn) (by simp)
    · rcases hw' name with he | he
      · rw [he]; exact hw name
      · exact .inr he

theorem Reads.bind (hp : p.Reads P) (hf : ∀ a, (f a).Reads P) : (p >>= f).Reads P :=
  fun config => (hp config).bind fun a _ => hf a

theorem Reads.mono {Q : String → Prop} (hp : p.Reads P) (h : ∀ name, P name → Q name) : p.Reads Q :=
  fun config => ⟨fun r hr => ⟨h _ ((hp config).1 r hr).1, ((hp config).1 r hr).2⟩, (hp config).2⟩

theorem takeDirective_run_ok {name : String} {config rest : Scfg} {d : Option Directive}
    (h : takeSingleDirective config name = .ok (d, rest)) : takeDirective name config = ⟨.ok d, rest, []⟩ := by
  simp only [takeDirective, h]

theorem takeDirective_run_error {name : String} {config : Scfg} {e : Error}
    (h : takeSingleDirective config name = .error e) : takeDirective name config = ⟨.error (.err e), config, []⟩ := by
  simp only [takeDirective, h]

/-- Taking a directive out, and then perhaps recording it. -/
theorem reads_takeDirective_bind {name : String} {f : Option Directive → Reader β}
    (hf : ∀ config d, (∀ r ∈ (f d config).log, P r.name ∧ r.name = name ∧ d = some r.directive) ∧
      ∀ n, (f d config).world.named n = config.named n) : (takeDirective name >>= f).Reads P := by
  intro config
  rcases h : takeSingleDirective config name with e | ⟨d, rest⟩
  · rw [ReadsAt, Prog.bind_run_error (takeDirective_run_error h)]
    exact ⟨by simp, fun _ => .inl rfl⟩
  · rw [ReadsAt, Prog.bind_run_ok (takeDirective_run_ok h)]
    obtain ⟨hn, rfl⟩ := takeSingleDirective_eq_ok.mp h
    obtain ⟨hl, hw⟩ := hf (config.remove name).2 d
    refine ⟨fun r hr => ?_, fun n => ?_⟩
    · obtain ⟨hP, rfl, rfl⟩ := hl r hr
      exact ⟨hP, hn⟩
    · rw [hw n]
      by_cases hnn : n = name
      · subst hnn; exact .inr (Scfg.named_remove_self ..)
      · exact .inl (Scfg.named_remove_ne config hnn)

theorem reads_takeDirective (name : String) : (takeDirective name).Reads P := by
  rw [← bind_pure (takeDirective name)]
  exact reads_takeDirective_bind fun _ _ => ⟨by simp, fun _ => rfl⟩

theorem reads_takeParam {name : String} (h : P name) : (takeParam name).Reads P := by
  refine reads_takeDirective_bind fun config d => ?_
  cases d with
  | none => exact ⟨by simp, fun _ => rfl⟩
  | some d =>
    cases hd : takeSingleParam d <;> simp [lift, hd, Prog.bind_run, Except.mapError, h, - bind_pure_comp]

theorem reads_takeParamFrom {name : String} (h : P name) : (takeParamFrom name).Reads P := by
  refine reads_takeDirective_bind fun config d => ?_
  cases d with
  | none => exact ⟨by simp [bail], fun _ => rfl⟩
  | some d => cases hd : takeSingleParam d <;> simp [lift, context, hd, Prog.bind_run, Except.mapError, h]

theorem takeParamFrom_ok {name param : String} {config : Scfg} (h : (takeParamFrom name config).result = .ok param) :
    ∃ child, config.named name = [⟨[param], child⟩] := by
  obtain ⟨d, h₁, h₂⟩ := Prog.bind_result_ok.mp h
  rcases hd : takeSingleDirective config name with e | ⟨d', rest⟩
  · rw [takeDirective_run_error hd] at h₁; cases h₁
  · rw [takeDirective_run_ok hd] at h₁ h₂
    cases h₁
    obtain ⟨hn, rfl⟩ := takeSingleDirective_eq_ok.mp hd
    cases d with
    | none => cases h₂
    | some d =>
      obtain ⟨params, child⟩ := d
      refine ⟨child, ?_⟩
      cases hp : takeSingleParam ⟨params, child⟩ with
      | error e => simp [lift, context, hp, Prog.bind_run, Except.mapError] at h₂
      | ok v =>
        obtain rfl : params = [v] := takeSingleParam_eq_ok.mp hp
        obtain rfl : v = param := by simpa [lift, context, hp, Prog.bind_run, Except.mapError] using h₂
        exact hn

theorem reads_parseInterval : parseInterval.Reads P := by
  refine (reads_takeDirective _).bind fun d => ?_
  cases d with
  | none => exact reads_pure _
  | some d => exact ((reads_lift _).context _).bind fun _ => (reads_lift _).context _

theorem reads_parseCollectionIdSegment : parseCollectionIdSegment.Reads P := by
  refine (reads_takeDirective _).bind fun d => ?_
  cases d with
  | none => exact reads_pure _
  | some d =>
    refine ((reads_lift _).context _).bind fun param => ?_
    split
    · exact reads_pure _
    · exact reads_pure _
    · exact reads_bail _

theorem reads_parseFileext : parseFileext.Reads P := by
  refine (reads_takeDirective _).bind fun d => ?_
  cases d with
  | none => exact reads_pure _
  | some d => exact (reads_lift _).bind fun _ => reads_pure _

theorem reads_parseReadOnly : parseReadOnly.Reads P := by
  refine (reads_takeDirective _).bind fun d => ?_
  cases d with
  | none => exact reads_pure _
  | some d =>
    dsimp only
    split
    · exact reads_bail _
    · exact reads_pure _

section Parse

variable {S : Type} (env : Outside S)

theorem reads_parseAuth (hu : P "username") (hp : P "password") : (parseAuth env).Reads P := by
  refine (reads_takeParam hu).bind fun username => ?_
  cases username with
  | none => exact reads_pure _
  | some username =>
    exact (reads_takeParam hp).bind fun _ => ((reads_lift _).context _).bind fun _ => reads_pure _

theorem reads_parseUserAgent : (parseUserAgent env).Reads P := by
  refine (reads_takeDirective _).bind fun d => ?_
  cases d with
  | none => exact reads_pure _
  | some d =>
    dsimp only
    split
    · exact reads_bail _
    · exact ((reads_lift _).context _).bind fun _ => reads_pure _

theorem reads_parseTlsRoot : (parseTlsRoot env).Reads P := by
  refine (reads_takeDirective _).bind fun d => ?_
  cases d with
  | none => exact reads_pure _
  | some d => exact ((reads_lift _).context _).bind fun _ => (reads_lift _).bind fun _ => reads_pure _

theorem reads_parseTlsFingerprint : (parseTlsFingerprint env).Reads P := by
  refine (reads_takeDirective _).bind fun d => ?_
  cases d with
  | none => exact reads_pure _
  | some d => exact ((reads_lift _).context _).bind fun _ => (reads_lift _).bind fun _ => reads_pure _

theorem reads_parseAuthCert : (parseAuthCert env).Reads P := by
  refine (reads_takeDirective _).bind fun d => ?_
  cases d with
  | none => exact reads_pure _
  | some d =>
    obtain ⟨_ | ⟨first, rest⟩, child⟩ := d
    · exact reads_bail _
    · exact (reads_lift _).bind fun _ => reads_pure _

theorem reads_parseTlsConfig : (parseTlsConfig env).Reads P :=
  (reads_parseTlsRoot env).bind fun _ => (reads_parseTlsFingerprint env).bind fun _ =>
    (reads_parseAuthCert env).bind fun _ => (reads_lift _).bind fun _ => reads_pure _

theorem reads_proxyConnector (tls : TlsConfig) : (proxyConnector env tls).Reads P := by
  unfold proxyConnector
  split
  · exact ((reads_lift _).context _).bind fun _ => reads_pure _
  · exact reads_pure _

theorem reads_parseVdir (h : P "path") (itemKind : ItemKind) (ro : Bool) : (parseVdir env itemKind ro).Reads P := by
  refine (reads_takeParamFrom h).bind fun path => ((reads_liftFault _).context _).bind fun path => Reads.bind ?_ ?_
  · intro config
    refine ⟨by simp, fun n => ?_⟩
    by_cases hn : n = "encoding"
    · subst hn; exact .inr (Scfg.named_remove_self ..)
    · exact .inl (Scfg.named_remove_ne config hn)
  · intro encoding
    split
    · exact reads_bail _
    · exact (reads_lift _).bind fun _ => reads_parseFileext.bind fun _ => reads_pure _

theorem reads_parseDav (hurl : P "url") (hu : P "username") (hp : P "password") (kind : String)
    (finish : Client → String → Option CollectionIdSegment → Bool → Except Fault S) (ro : Bool) :
    (parseDav env kind finish ro).Reads P := by
  refine (reads_takeParamFrom hurl).bind fun url => ((reads_lift _).context _).bind fun _ =>
    reads_parseCollectionIdSegment.bind fun segment => (reads_takeDirective _).bind fun socket =>
    ((reads_parseAuth env hu hp).context _).bind fun auth => ?_
  cases socket with
  | some d =>
    exact ((reads_lift _).context _).bind fun _ => (reads_parseUserAgent env).bind fun _ =>
      (reads_liftFault _).bind fun _ => reads_pure _
  | none =>
    exact (reads_parseTlsConfig env).bind fun _ => (reads_parseUserAgent env).bind fun _ =>
      (reads_proxyConnector env _).bind fun _ => (reads_liftFault _).bind fun _ => reads_pure _

theorem reads_parseWebcal (hurl : P "url") (hu : P "username") (hp : P "password") (hc : P "collection_id") :
    (parseWebcal env).Reads P := by
  exact ((reads_takeParamFrom hurl).context _).bind fun _ => (reads_lift _).bind fun _ =>
    ((reads_parseAuth env hu hp).context _).bind fun _ => (reads_parseTlsConfig env).bind fun _ =>
    (reads_parseUserAgent env).bind fun _ => (reads_takeParamFrom hc).bind fun _ => ((reads_lift _).context _).bind
    fun _ => (reads_proxyConnector env _).bind fun _ => reads_pure _

theorem reads_parseJmap (hurl : P "url") (hu : P "username") (hp : P "password") (itemKind : ItemKind) (ro : Bool) :
    (parseJmap env itemKind ro).Reads P := by
  exact (reads_takeParamFrom hurl).bind fun _ => ((reads_parseAuth env hu hp).context _).bind fun _ =>
    (reads_parseTlsConfig env).bind fun _ => (reads_parseUserAgent env).bind fun _ =>
    (reads_proxyConnector env _).bind fun _ => (reads_liftFault _).bind fun _ => reads_pure _

end Parse

end Reader

/-! ## What is left -/

/-- `p` leaves the directives of a name as they are. -/
def Reader.Keeps {α : Type} (name : String) (p : Reader α) : Prop :=
  ∀ config, (p config).world.named name = config.named name

namespace Reader

variable {α β : Type} {name other : String} {p : Reader α} {f : α → Reader β}

theorem keeps_pure (a : α) : (pure a : Reader α).Keeps name := fun _ => rfl

theorem keeps_lift (r : Except Error α) : (lift r).Keeps name := fun _ => rfl

theorem Keeps.context (hp : p.Keeps name) (msg : String) : (p.context msg).Keeps name := hp

theorem Keeps.bind (hp : p.Keeps name) (hf : ∀ a, (f a).Keeps name) : (p >>= f).Keeps name := by
  intro config
  have hworld := hp config
  rcases h : p config with ⟨_ | a, rest, l⟩ <;> rw [h] at hworld
  · rw [Prog.bind_run_error h]
    exact hworld
  · rw [Prog.bind_run_ok h]
    exact (hf a rest).trans hworld

theorem keeps_takeDirective (h : name ≠ other) : (takeDirective other).Keeps name := by
  intro config
  rcases htake : takeSingleDirective config other with e | ⟨d, rest⟩
  · rw [takeDirective_run_error htake]
  · rw [takeDirective_run_ok htake]
    obtain ⟨-, rfl⟩ := takeSingleDirective_eq_ok.mp htake
    exact Scfg.named_remove_ne config h

theorem keeps_takeParam (h : name ≠ other) : (takeParam other).Keeps name := by
  refine (keeps_takeDirective h).bind fun d => ?_
  cases d with
  | none => exact keeps_pure _
  | some d => exact Keeps.bind (fun _ => rfl) fun _ => (keeps_lift _).bind fun _ => keeps_pure _

theorem keeps_takeParamFrom (h : name ≠ other) : (takeParamFrom other).Keeps name := by
  refine (keeps_takeDirective h).bind fun d => ?_
  cases d with
  | none => exact fun _ => rfl
  | some d => exact Keeps.bind (fun _ => rfl) fun _ => (keeps_lift _).context _

theorem keeps_parseInterval (h : name ≠ "interval") : parseInterval.Keeps name := by
  refine (keeps_takeDirective h).bind fun d => ?_
  cases d with
  | none => exact keeps_pure _
  | some d => exact ((keeps_lift _).context _).bind fun _ => (keeps_lift _).context _

/-- The flag is that the directive is there. -/
theorem parseReadOnly_ok {config : Scfg} {ro : Bool} (h : (parseReadOnly config).result = .ok ro) :
    ro = true ↔ config.named "read_only" ≠ [] := by
  obtain ⟨d, h₁, h₂⟩ := Prog.bind_result_ok.mp h
  rcases htake : takeSingleDirective config "read_only" with e | ⟨d', rest⟩
  · rw [takeDirective_run_error htake] at h₁
    cases h₁
  · rw [takeDirective_run_ok htake] at h₁
    cases h₁
    rw [(takeSingleDirective_eq_ok.mp htake).1]
    cases d with
    | none =>
      cases h₂
      simp
    | some directive =>
      dsimp only at h₂
      split at h₂
      · cases h₂
      · cases h₂
        simp

end Reader

/-- The directives that may be given as a command for some type of storage. -/
def dynamicNames : List String := ["url", "username", "password", "path"]

/-- Those that the parser of a type takes as plain strings. -/
def stringFields : String → List String
  | "vdir/icalendar" | "vdir/vcard" => ["path"]
  | "carddav" | "caldav" | "webcal" | "jmap/icalendar" | "jmap/vcard" => ["url", "username", "password"]
  | _ => []

/-- What a storage of type `type_` may read: of the dynamic directives only its own. -/
def MayRead (type_ name : String) : Prop := name ∈ dynamicNames → name ∈ stringFields type_

theorem reads_parseStorage {S : Type} (env : Outside S) (type_ : String) (ro : Bool) :
    (parseStorage env type_ ro).Reads (MayRead type_) := by
  unfold parseStorage
  split
  · exact Reader.reads_parseVdir env (by simp [MayRead, stringFields]) _ _
  · exact Reader.reads_parseVdir env (by simp [MayRead, stringFields]) _ _
  · exact Reader.reads_parseDav env (by simp [MayRead, stringFields]) (by simp [MayRead, stringFields])
      (by simp [MayRead, stringFields]) _ _ _
  · exact Reader.reads_parseDav env (by simp [MayRead, stringFields]) (by simp [MayRead, stringFields])
      (by simp [MayRead, stringFields]) _ _ _
  · exact Reader.reads_parseWebcal env (by simp [MayRead, stringFields]) (by simp [MayRead, stringFields])
      (by simp [MayRead, stringFields]) (by simp [MayRead, dynamicNames])
  · exact Reader.reads_parseJmap env (by simp [MayRead, stringFields]) (by simp [MayRead, stringFields])
      (by simp [MayRead, stringFields]) _ _
  · exact Reader.reads_parseJmap env (by simp [MayRead, stringFields]) (by simp [MayRead, stringFields])
      (by simp [MayRead, stringFields]) _ _
  · exact Reader.reads_bail _

/-- Where the readers of `init_storage` find a type, resolving finds it. -/
theorem storageType_of_single {config : Scfg} {type_ : String} {child : Option (List (String × Directive))}
    (h : config.named "type" = [⟨[type_], child⟩]) : storageType config = .ok type_ := by
  simp [storageType, Scfg.get, h, orContext, bind, Except.bind]

/-- **What `init_storage` reads**: only directives that the block has, and of the dynamic ones only those that the
parser of its type takes as strings. -/
theorem initStorage_reads {S : Type} (env : Outside S) {config : Scfg} {r : Read} (h : r ∈ (initStorage env config).log) :
    config.named r.name = [r.directive] ∧
      (r.name ∈ dynamicNames → ∃ type_, storageType config = .ok type_ ∧ r.name ∈ stringFields type_) := by
  have hat : Reader.ReadsAt (fun name => name ∈ dynamicNames → ∃ type_, storageType config = .ok type_ ∧
      name ∈ stringFields type_) config (initStorage env) := by
    refine Reader.ReadsAt.bind (Reader.reads_takeParamFrom (by simp [dynamicNames]) config) fun type_ ht => ?_
    obtain ⟨child, hn⟩ := Reader.takeParamFrom_ok ht
    refine Reader.reads_parseInterval.bind fun _ => Reader.reads_parseReadOnly.bind fun ro => Reader.Reads.bind ?_
      fun _ => Reader.reads_pure _
    exact (reads_parseStorage env type_ ro).mono fun name hm hd => ⟨type_, storageType_of_single hn, hm hd⟩
  exact ⟨(hat.1 r h).2, (hat.1 r h).1⟩

end Pimsync
