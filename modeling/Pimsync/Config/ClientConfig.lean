import Pimsync.Config.Auth
import Pimsync.Tls

/-!
# The client of a TLS connection

`parseTlsConfig` keeps what the block of a storage says; `parseClientConfig` is the same function up to the client that
it returns: the verifier of the servers and what the client shows of itself. The one is the other followed by
`Rustls.clientConfig` (`parseClientConfig_iff_parseTlsConfig`).

- `takeLoaded_ok`, `takeFiles_ok`: what each directive gives;
- `parseClientConfig_ok`: the blocks that are accepted, and the client of each;
- `parseTlsConfig_ok`: what is kept of a block.
-/

namespace Pimsync

/-! ## `parse_tls_config` -/

/-- The verifier of a `ClientConfig`. -/
inductive ServerVerifier
  | webPki (roots : RootCertStore)
  | fingerprint (verifier : FingerprintVerifier)
  | fingerprintAndWebPki (verifier : FingerprintAndWebPkiVerifier)

structure ClientConfig where
  verifier : ServerVerifier
  clientAuth : Option ClientAuth

/-- Take a directive, load what its one parameter says. -/
def Reader.takeLoaded {α : Type} (name msg : String) (load : String → Except Error α) : Reader (Option α) := do
  match ← takeDirective name with
  | some directive =>
    let param ← (lift (takeSingleParam directive)).context msg
    let a ← lift (load param)
    return some a
  | none => return none

/-- Take `auth_cert`, load what its files hold. -/
def Reader.takeFiles {α : Type} (load : String × Option String → Except Error α) : Reader (Option α) := do
  match ← takeDirective "auth_cert" with
  | some directive =>
    match directive.params with
    | [] => bail "auth_cert must specify at least one parameter"
    | first :: rest =>
      let a ← lift (load (first, rest.head?))
      return some a
  | none => return none

section Parse

variable (rustls : Rustls)

/-- The `verify_server_cert` of the verifier. -/
def ServerVerifier.verifyServerCert (server : ServerCert) : ServerVerifier → Except VerifyError Unit
  | .webPki roots => rustls.webPki roots server
  | .fingerprint verifier => verifier.verifyServerCert rustls server
  | .fingerprintAndWebPki verifier => verifier.verifyServerCert rustls server

/-- The `root_store` of `parse_tls_config`. -/
def takeRootStore : Reader (Option RootCertStore) :=
  Reader.takeLoaded "tls_root" "Parsing tls_root directive" rustls.loadRoots

/-- The `fp_verifier` of `parse_tls_config`. -/
def takeFpVerifier : Reader (Option FingerprintVerifier) :=
  Reader.takeLoaded "tls_fingerprint" "Parsing tls_fingerprint directive" (FingerprintVerifier.new rustls)

/-- The `cert` of `parse_tls_config`, from one file or from two. -/
def Rustls.loadAuthCert : String × Option String → Except Error ClientAuth
  | (first, some second) => do
    let items ← context s!"opening {first}" (rustls.certificates first)
    let crt ← context s!"parsing {first}" (collect items)
    let key ← context s!"loading key from {second}" (rustls.privateKey second)
    return (crt, key)
  | (first, none) => certAndKeyFromPemfile rustls first

/-- The `client_auth` of `parse_tls_config`. -/
def takeClientAuth : Reader (Option ClientAuth) := Reader.takeFiles rustls.loadAuthCert

/-- The builder of `parse_tls_config`, up to its verifier. -/
def Rustls.serverVerifier : Option RootCertStore → Option FingerprintVerifier → Except Error ServerVerifier
  | none, none => do
    let roots ← rustls.nativeRoots
    return .webPki roots
  | none, some verifier => return .fingerprint verifier
  | some rootStore, none => return .webPki rootStore
  | some rootStore, some fpVerifier => do
    let verifier ← FingerprintAndWebPkiVerifier.new rustls fpVerifier rootStore
    return .fingerprintAndWebPki verifier

/-- The builder of `parse_tls_config`. -/
def Rustls.build (rootStore : Option RootCertStore) (fpVerifier : Option FingerprintVerifier)
    (clientAuth : Option ClientAuth) : Except Error ClientConfig := do
  let verifier ← rustls.serverVerifier rootStore fpVerifier
  match clientAuth with
  | none => return ⟨verifier, none⟩
  | some cert =>
    rustls.clientAuthCert cert
    return ⟨verifier, some cert⟩

/-- `parse_tls_config`, with the client that it returns. -/
def parseClientConfig : Reader ClientConfig := do
  let rootStore ← takeRootStore rustls
  let fpVerifier ← takeFpVerifier rustls
  let clientAuth ← takeClientAuth rustls
  Reader.lift (rustls.build rootStore fpVerifier clientAuth)

/-- The client of what a block says. -/
def Rustls.clientConfig (told : TlsConfig) : Except Error ClientConfig := do
  let rootStore ← told.root.mapM rustls.loadRoots
  let fpVerifier ← told.fingerprint.mapM (FingerprintVerifier.new rustls)
  let clientAuth ← told.clientAuth.mapM rustls.loadAuthCert
  rustls.build rootStore fpVerifier clientAuth

end Parse

/-! ## What a block says -/

/-- The directive is not there, or it is there once with one parameter. -/
def Scfg.Says (config : Scfg) (name : String) : Option String → Prop
  | none => config.named name = []
  | some v => ∃ child, config.named name = [⟨[v], child⟩]

/-- The files of `auth_cert`; what follows the second is not looked at. -/
def Scfg.SaysFiles (config : Scfg) : Option (String × Option String) → Prop
  | none => config.named "auth_cert" = []
  | some (first, second) => ∃ rest child, config.named "auth_cert" = [⟨first :: rest, child⟩] ∧ rest.head? = second

/-- What a block says about TLS. -/
structure Scfg.Told (config : Scfg) (told : TlsConfig) : Prop where
  root : config.Says "tls_root" told.root
  fingerprint : config.Says "tls_fingerprint" told.fingerprint
  clientAuth : config.SaysFiles told.clientAuth

theorem Scfg.Says.param {config : Scfg} {name : String} {v : Option String} (h : config.Says name v) :
    config.param name = v := by
  cases v with
  | none =>
    have hnamed : config.named name = [] := h
    rw [Scfg.param, hnamed]
    rfl
  | some v =>
    obtain ⟨child, hnamed⟩ := h
    rw [Scfg.param, hnamed]
    rfl

/-- What a block says is there or not. -/
theorem Scfg.Says.param_eq_none {config : Scfg} {name : String} {v : Option String} (h : config.Says name v) :
    config.param name = none ↔ config.named name = [] := by
  rw [h.param]
  cases v with
  | none => exact iff_of_true rfl h
  | some v =>
    obtain ⟨child, hnamed⟩ := h
    rw [hnamed]
    exact iff_of_false (fun hnone => by cases hnone) fun hnil => by cases hnil

section Said

variable {α β : Type} {rustls : Rustls} {config : Scfg} {name other msg : String}

theorem mapM_none_ok {f : β → Except Error α} {a : Option α} : (none : Option β).mapM f = .ok a ↔ a = none := by
  rw [Option.mapM_none]
  exact ⟨fun h => by cases h; rfl, fun h => by rw [h]; rfl⟩

theorem mapM_some_ok {f : β → Except Error α} {b : β} {a : Option α} :
    (some b).mapM f = .ok a ↔ ∃ a', f b = .ok a' ∧ a = some a' := by
  rw [Option.mapM_some]
  cases h : f b with
  | error e => exact iff_of_false (fun h => by cases h) fun ⟨_, h, _⟩ => by cases h
  | ok a' =>
    constructor
    · intro h
      cases h
      exact ⟨a', rfl, rfl⟩
    · rintro ⟨a'', h, rfl⟩
      cases h
      rfl

/-- A directive is taken, and what it says is loaded. -/
theorem takeLoaded_ok {load : String → Except Error α} {a : Option α} :
    (Reader.takeLoaded name msg load config).result = .ok a ↔ ∃ v, config.Says name v ∧ v.mapM load = .ok a := by
  constructor
  · intro h
    obtain ⟨directive, htake, h⟩ := Prog.bind_result_ok.mp h
    have hnamed := Reader.takeDirective_ok.mp htake
    cases directive with
    | none =>
      cases h
      exact ⟨none, hnamed, rfl⟩
    | some directive =>
      obtain ⟨params, child⟩ := directive
      simp only [Prog.bind_result_ok, Reader.context_ok, Reader.lift_ok, takeSingleParam_eq_ok] at h
      obtain ⟨v, rfl, a', ha', h⟩ := h
      cases h
      exact ⟨some v, ⟨child, hnamed⟩, mapM_some_ok.mpr ⟨a', ha', rfl⟩⟩
  · rintro ⟨v, hsaid, hload⟩
    cases v with
    | none =>
      obtain rfl := mapM_none_ok.mp hload
      exact Prog.bind_result_ok.mpr ⟨none, Reader.takeDirective_ok.mpr hsaid, rfl⟩
    | some v =>
      obtain ⟨child, hnamed⟩ := hsaid
      obtain ⟨a', ha', rfl⟩ := mapM_some_ok.mp hload
      refine Prog.bind_result_ok.mpr ⟨some ⟨[v], child⟩, Reader.takeDirective_ok.mpr hnamed, ?_⟩
      refine Reader.param_ok.mpr ⟨v, rfl, Prog.bind_result_ok.mpr ⟨a', Reader.lift_ok.mpr ha', rfl⟩⟩

theorem keeps_takeLoaded {load : String → Except Error α} (h : name ≠ other) :
    (Reader.takeLoaded other msg load).Keeps name := by
  refine (Reader.keeps_takeDirective h).bind fun directive => ?_
  cases directive with
  | none => exact Reader.keeps_pure _
  | some directive =>
    exact ((Reader.keeps_lift _).context _).bind fun _ => (Reader.keeps_lift _).bind fun _ => Reader.keeps_pure _

/-- The files are named, and what they hold is loaded. -/
theorem takeFiles_ok {load : String × Option String → Except Error α} {a : Option α} :
    (Reader.takeFiles load config).result = .ok a ↔ ∃ files, config.SaysFiles files ∧ files.mapM load = .ok a := by
  constructor
  · intro h
    obtain ⟨directive, htake, h⟩ := Prog.bind_result_ok.mp h
    have hnamed := Reader.takeDirective_ok.mp htake
    cases directive with
    | none =>
      cases h
      exact ⟨none, hnamed, rfl⟩
    | some directive =>
      obtain ⟨params, child⟩ := directive
      cases params with
      | nil => cases h
      | cons first rest =>
        obtain ⟨cert, hcert, h⟩ := Prog.bind_result_ok.mp h
        cases h
        exact ⟨some (first, rest.head?), ⟨rest, child, hnamed, rfl⟩,
          mapM_some_ok.mpr ⟨cert, Reader.lift_ok.mp hcert, rfl⟩⟩
  · rintro ⟨files, hsaid, hload⟩
    cases files with
    | none =>
      obtain rfl := mapM_none_ok.mp hload
      exact Prog.bind_result_ok.mpr ⟨none, Reader.takeDirective_ok.mpr hsaid, rfl⟩
    | some files =>
      obtain ⟨first, second⟩ := files
      obtain ⟨rest, child, hnamed, rfl⟩ := hsaid
      obtain ⟨cert, hcert, rfl⟩ := mapM_some_ok.mp hload
      refine Prog.bind_result_ok.mpr ⟨some ⟨first :: rest, child⟩, Reader.takeDirective_ok.mpr hnamed, ?_⟩
      exact Prog.bind_result_ok.mpr ⟨cert, Reader.lift_ok.mpr hcert, rfl⟩

theorem Scfg.Says.congr {config' : Scfg} (h : config'.named name = config.named name) {v : Option String} :
    config'.Says name v ↔ config.Says name v := by
  cases v <;> simp only [Scfg.Says, h]

theorem Scfg.SaysFiles.congr {config' : Scfg} (h : config'.named "auth_cert" = config.named "auth_cert")
    {files : Option (String × Option String)} : config'.SaysFiles files ↔ config.SaysFiles files := by
  cases files <;> simp only [Scfg.SaysFiles, h]

/-- **The blocks that are accepted**, and the client of each. -/
theorem parseClientConfig_ok {client : ClientConfig} : (parseClientConfig rustls config).result = .ok client ↔
    ∃ told, config.Told told ∧ rustls.clientConfig told = .ok client := by
  have hroot : ∀ name, name ≠ "tls_root" → (takeRootStore rustls config).world.named name = config.named name :=
    fun name h => keeps_takeLoaded h config
  have hfp : ∀ name, name ≠ "tls_root" → name ≠ "tls_fingerprint" →
      (takeFpVerifier rustls (takeRootStore rustls config).world).world.named name = config.named name :=
    fun name h h' => (keeps_takeLoaded h' _).trans (hroot name h)
  constructor
  · intro h
    obtain ⟨rootStore, h₁, h⟩ := Prog.bind_result_ok.mp h
    obtain ⟨fpVerifier, h₂, h⟩ := Prog.bind_result_ok.mp h
    obtain ⟨clientAuth, h₃, h⟩ := Prog.bind_result_ok.mp h
    obtain ⟨root, hsaid₁, hload₁⟩ := takeLoaded_ok.mp h₁
    obtain ⟨fingerprint, hsaid₂, hload₂⟩ := takeLoaded_ok.mp h₂
    obtain ⟨files, hsaid₃, hload₃⟩ := takeFiles_ok.mp h₃
    rw [Scfg.Says.congr (hroot _ (by decide))] at hsaid₂
    rw [Scfg.SaysFiles.congr (hfp _ (by decide) (by decide))] at hsaid₃
    refine ⟨⟨root, fingerprint, files⟩, ⟨hsaid₁, hsaid₂, hsaid₃⟩, ?_⟩
    exact bind_eq_ok.mpr ⟨_, hload₁, bind_eq_ok.mpr ⟨_, hload₂, bind_eq_ok.mpr ⟨_, hload₃, Reader.lift_ok.mp h⟩⟩⟩
  · rintro ⟨told, ⟨hsaid₁, hsaid₂, hsaid₃⟩, h⟩
    obtain ⟨rootStore, hload₁, h⟩ := bind_eq_ok.mp h
    obtain ⟨fpVerifier, hload₂, h⟩ := bind_eq_ok.mp h
    obtain ⟨clientAuth, hload₃, h⟩ := bind_eq_ok.mp h
    rw [← Scfg.Says.congr (hroot _ (by decide))] at hsaid₂
    rw [← Scfg.SaysFiles.congr (hfp _ (by decide) (by decide))] at hsaid₃
    refine Prog.bind_result_ok.mpr ⟨rootStore, takeLoaded_ok.mpr ⟨_, hsaid₁, hload₁⟩, ?_⟩
    refine Prog.bind_result_ok.mpr ⟨fpVerifier, takeLoaded_ok.mpr ⟨_, hsaid₂, hload₂⟩, ?_⟩
    exact Prog.bind_result_ok.mpr ⟨clientAuth, takeFiles_ok.mpr ⟨_, hsaid₃, hload₃⟩, Reader.lift_ok.mpr h⟩

/-! ## `parseTlsConfig` -/

variable {S : Type} {env : Outside S}

/-- The environment in which the TLS directives are read with `rustls`. -/
def Outside.withRustls (rustls : Rustls) (env : Outside S) : Outside S :=
  { env with
    rootStore := fun path => (rustls.loadRoots path).map fun _ => ()
    fingerprint := fun hex => (FingerprintVerifier.new rustls hex).map fun _ => ()
    clientAuth := fun first second => (rustls.loadAuthCert (first, second)).map fun _ => ()
    tlsConfig := fun told => (rustls.clientConfig told).map fun _ => () }

theorem map_unit_ok {r : Except Error α} : r.map (fun _ => ()) = .ok () ↔ ∃ a, r = .ok a := by
  cases r <;> simp [Except.map]

theorem mapM_isOk {f : β → Except Error α} {o : Option β} :
    (∃ a, o.mapM f = .ok a) ↔ ∀ b ∈ o, (f b).map (fun _ => ()) = .ok () := by
  cases o with
  | none => exact iff_of_true ⟨none, rfl⟩ fun b hb => by cases hb
  | some b =>
    simp only [mapM_some_ok, Option.mem_def, Option.some.injEq, forall_eq', map_unit_ok]
    exact ⟨fun ⟨_, a', h, _⟩ => ⟨a', h⟩, fun ⟨a', h⟩ => ⟨_, a', h, rfl⟩⟩

/-- A directive whose value is checked is one whose value is loaded as itself. -/
theorem takeChecked_eq {check : String → Except Error Unit} :
    (do match ← Reader.takeDirective name with
        | some directive =>
          let param ← (Reader.lift (takeSingleParam directive)).context msg
          Reader.lift (check param)
          return some param
        | none => return none) = Reader.takeLoaded name msg fun param => (check param).map fun _ => param := by
  refine congrArg (Bind.bind _) (funext fun directive => ?_)
  cases directive with
  | none => rfl
  | some directive =>
    refine congrArg (Bind.bind _) (funext fun param => funext fun config => ?_)
    simp only [Prog.bind_run]
    cases check param <;> rfl

theorem mapM_checked_ok {check : β → Except Error Unit} {v v' : Option β} :
    (v.mapM fun b => (check b).map fun _ => b) = .ok v' ↔ v' = v ∧ ∀ b ∈ v, check b = .ok () := by
  cases v with
  | none =>
    rw [mapM_none_ok]
    exact (and_iff_left fun b hb => by cases hb).symm
  | some b =>
    simp only [mapM_some_ok, Option.mem_def, Option.some.injEq, forall_eq']
    cases check b with
    | error e => exact iff_of_false (fun ⟨_, h, _⟩ => by cases h) fun h => by cases h.2
    | ok => exact ⟨fun ⟨_, h, hv⟩ => by cases h; exact ⟨hv, rfl⟩, fun h => ⟨b, rfl, h.1⟩⟩

theorem takeChecked_ok {check : String → Except Error Unit} {v : Option String} :
    (Reader.takeLoaded name msg (fun param => (check param).map fun _ => param) config).result = .ok v ↔
      config.Says name v ∧ ∀ param ∈ v, check param = .ok () := by
  simp only [takeLoaded_ok, mapM_checked_ok]
  constructor
  · rintro ⟨_, hsaid, rfl, hcheck⟩
    exact ⟨hsaid, hcheck⟩
  · intro h
    exact ⟨v, h.1, rfl, h.2⟩

theorem parseAuthCert_eq :
    parseAuthCert env = Reader.takeFiles fun files => (env.clientAuth files.1 files.2).map fun _ => files := by
  refine congrArg (Bind.bind _) (funext fun directive => ?_)
  cases directive with
  | none => rfl
  | some directive =>
    obtain ⟨params, child⟩ := directive
    cases params with
    | nil => rfl
    | cons first rest =>
      funext config
      simp only [Prog.bind_run]
      cases env.clientAuth first rest.head? <;> rfl

theorem parseAuthCert_ok {files : Option (String × Option String)} : (parseAuthCert env config).result = .ok files ↔
    config.SaysFiles files ∧ ∀ f ∈ files, env.clientAuth f.1 f.2 = .ok () := by
  have hchecked : ∀ told : Option (String × Option String),
      (told.mapM fun f => (env.clientAuth f.1 f.2).map fun _ => f) = .ok files ↔
        files = told ∧ ∀ f ∈ told, env.clientAuth f.1 f.2 = .ok () := fun told => mapM_checked_ok
  simp only [parseAuthCert_eq, takeFiles_ok, hchecked]
  constructor
  · rintro ⟨told, hsaid, rfl, hcheck⟩
    exact ⟨hsaid, hcheck⟩
  · intro h
    exact ⟨files, h.1, rfl, h.2⟩

theorem parseTlsConfig_ok {told : TlsConfig} : (parseTlsConfig env config).result = .ok told ↔
    config.Told told ∧ (∀ path ∈ told.root, env.rootStore path = .ok ()) ∧
      (∀ hex ∈ told.fingerprint, env.fingerprint hex = .ok ()) ∧
      (∀ files ∈ told.clientAuth, env.clientAuth files.1 files.2 = .ok ()) ∧ env.tlsConfig told = .ok () := by
  have hroot : parseTlsRoot env = Reader.takeLoaded "tls_root" "Parsing tls_root directive" _ := takeChecked_eq
  have hfp : parseTlsFingerprint env = Reader.takeLoaded "tls_fingerprint" "Parsing tls_fingerprint directive" _ :=
    takeChecked_eq
  have hkeeps : ∀ name, name ≠ "tls_root" → (parseTlsRoot env config).world.named name = config.named name := by
    rw [hroot]
    exact fun name h => keeps_takeLoaded h config
  have hkeeps' : ∀ name, name ≠ "tls_root" → name ≠ "tls_fingerprint" →
      (parseTlsFingerprint env (parseTlsRoot env config).world).world.named name = config.named name := by
    rw [hfp]
    exact fun name h h' => (keeps_takeLoaded h' _).trans (hkeeps name h)
  simp only [parseTlsConfig, Prog.bind_result_ok, parseAuthCert_ok, Reader.lift_ok]
  constructor
  · rintro ⟨root, h₁, fingerprint, h₂, files, ⟨hsaid₃, hcheck₃⟩, ⟨⟩, hfinal, h⟩
    cases h
    rw [hroot, takeChecked_ok] at h₁
    rw [hfp, takeChecked_ok, Scfg.Says.congr (hkeeps _ (by decide))] at h₂
    rw [Scfg.SaysFiles.congr (hkeeps' _ (by decide) (by decide))] at hsaid₃
    exact ⟨⟨h₁.1, h₂.1, hsaid₃⟩, h₁.2, h₂.2, hcheck₃, hfinal⟩
  · rintro ⟨⟨hsaid₁, hsaid₂, hsaid₃⟩, hcheck₁, hcheck₂, hcheck₃, hfinal⟩
    rw [← Scfg.Says.congr (hkeeps _ (by decide))] at hsaid₂
    rw [← Scfg.SaysFiles.congr (hkeeps' _ (by decide) (by decide))] at hsaid₃
    refine ⟨told.root, ?_, told.fingerprint, ?_, told.clientAuth, ⟨hsaid₃, hcheck₃⟩, (), hfinal, rfl⟩
    · rw [hroot]
      exact takeChecked_ok.mpr ⟨hsaid₁, hcheck₁⟩
    · rw [hfp]
      exact takeChecked_ok.mpr ⟨hsaid₂, hcheck₂⟩

/-- **What `parseTlsConfig` keeps** tells the client. -/
theorem parseClientConfig_iff_parseTlsConfig {client : ClientConfig} :
    (parseClientConfig rustls config).result = .ok client ↔
      ∃ told, (parseTlsConfig (env.withRustls rustls) config).result = .ok told ∧ rustls.clientConfig told = .ok client := by
  simp only [parseClientConfig_ok, parseTlsConfig_ok]
  constructor
  · rintro ⟨told, htold, h⟩
    have hclient := h
    obtain ⟨rootStore, h₁, h⟩ := bind_eq_ok.mp h
    obtain ⟨fpVerifier, h₂, h⟩ := bind_eq_ok.mp h
    obtain ⟨clientAuth, h₃, h⟩ := bind_eq_ok.mp h
    exact ⟨told, ⟨htold, mapM_isOk.mp ⟨_, h₁⟩, mapM_isOk.mp ⟨_, h₂⟩, mapM_isOk.mp ⟨_, h₃⟩,
      map_unit_ok.mpr ⟨_, hclient⟩⟩, hclient⟩
  · rintro ⟨told, ⟨htold, -⟩, h⟩
    exact ⟨told, htold, h⟩

end Said

end Pimsync
