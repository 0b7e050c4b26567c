import Pimsync.Config.ClientConfig

/-!
# Certificates of servers and of the client

The settings `tls_root` and `tls_fingerprint` of a block choose one of four verifiers; `auth_cert` chooses what the client
shows of itself.

- `parseClientConfig_accepts_iff`: the servers that the client of a block accepts;
- `certAndKeyFromPemfile_iff`: the certificates and the key that a client shows.
-/

namespace Pimsync

/-! ## The servers that are accepted -/

/-- The verifier of the client accepts the server. -/
def ClientConfig.Accepts (rustls : Rustls) (client : ClientConfig) (server : ServerCert) : Prop :=
  client.verifier.verifyServerCert rustls server = .ok ()

/-- The servers that the settings of a block let through. -/
structure Rustls.Acceptable (rustls : Rustls) (config : Scfg) (server : ServerCert) : Prop where
  fingerprint : ∀ hex, config.param "tls_fingerprint" = some hex →
    rustls.hexDecode hex = .ok (rustls.sha256 server.endEntity).toList
  root : ∀ path, config.param "tls_root" = some path →
    ∃ certs, rustls.certificates path = .ok (certs.map .ok) ∧ rustls.webPki ⟨certs⟩ server = .ok ()
  native : config.param "tls_fingerprint" = none → config.param "tls_root" = none →
    ∃ roots, rustls.nativeRoots = .ok roots ∧ rustls.webPki roots server = .ok ()

section Accepts

variable {rustls : Rustls} {config : Scfg} {server : ServerCert} {client : ClientConfig}
  {rootStore : Option RootCertStore} {fpVerifier : Option FingerprintVerifier} {clientAuth : Option ClientAuth}

theorem Rustls.build_ok (h : rustls.build rootStore fpVerifier clientAuth = .ok client) :
    rustls.serverVerifier rootStore fpVerifier = .ok client.verifier ∧ client.clientAuth = clientAuth := by
  obtain ⟨verifier, hverifier, h⟩ := bind_eq_ok.mp h
  cases clientAuth with
  | none =>
    cases h
    exact ⟨hverifier, rfl⟩
  | some cert =>
    obtain ⟨⟨⟩, -, h⟩ := bind_eq_ok.mp h
    cases h
    exact ⟨hverifier, rfl⟩

/-- **What a verifier accepts**: one case for each way in which the settings choose it. -/
theorem Rustls.serverVerifier_accepts {verifier : ServerVerifier}
    (h : rustls.serverVerifier rootStore fpVerifier = .ok verifier) :
    verifier.verifyServerCert rustls server = .ok () ↔
      (∀ v ∈ fpVerifier, v.fingerprint = (rustls.sha256 server.endEntity).toList) ∧
      (∀ store ∈ rootStore, rustls.webPki store server = .ok ()) ∧
      (fpVerifier = none → rootStore = none →
        ∃ roots, rustls.nativeRoots = .ok roots ∧ rustls.webPki roots server = .ok ()) := by
  cases rootStore with
  | none =>
    cases fpVerifier with
    | none =>
      obtain ⟨roots, hroots, h⟩ := bind_eq_ok.mp h
      cases h
      simp [ServerVerifier.verifyServerCert, hroots]
    | some v =>
      cases h
      simp [ServerVerifier.verifyServerCert, FingerprintVerifier.verifyServerCert_ok]
  | some store =>
    cases fpVerifier with
    | none =>
      cases h
      simp [ServerVerifier.verifyServerCert]
    | some v =>
      obtain ⟨both, hboth, h⟩ := bind_eq_ok.mp h
      obtain ⟨⟨⟩, -, hboth⟩ := bind_eq_ok.mp hboth
      cases h
      cases hboth
      simp [ServerVerifier.verifyServerCert, FingerprintAndWebPkiVerifier.verifyServerCert_ok,
        FingerprintVerifier.verifyServerCert_ok]

/-- The fingerprint of a verifier is the decoded one. -/
theorem loaded_fingerprint {fingerprint : Option String} {digest : List UInt8}
    (h : fingerprint.mapM (FingerprintVerifier.new rustls) = .ok fpVerifier) :
    (∀ v ∈ fpVerifier, v.fingerprint = digest) ↔ ∀ hex, fingerprint = some hex → rustls.hexDecode hex = .ok digest := by
  cases fingerprint with
  | none =>
    obtain rfl := mapM_none_ok.mp h
    simp
  | some hex =>
    obtain ⟨v, hv, rfl⟩ := mapM_some_ok.mp h
    obtain ⟨bytes, hbytes, hv⟩ := bind_eq_ok.mp hv
    cases hv
    simp [hbytes]

/-- The store of a verifier is the one of the file. -/
theorem loaded_root {root : Option String} (h : root.mapM rustls.loadRoots = .ok rootStore) :
    (∀ store ∈ rootStore, rustls.webPki store server = .ok ()) ↔ ∀ path, root = some path →
      ∃ certs : List Der, rustls.certificates path = .ok (certs.map .ok) ∧ rustls.webPki ⟨certs⟩ server = .ok () := by
  cases root with
  | none =>
    obtain rfl := mapM_none_ok.mp h
    simp
  | some path =>
    obtain ⟨store, hstore, rfl⟩ := mapM_some_ok.mp h
    have hcerts := Rustls.loadRoots_ok hstore
    simp only [Option.mem_def, Option.some.injEq, forall_eq', hcerts, Except.ok.injEq]
    constructor
    · intro hweb
      exact ⟨store.roots, rfl, hweb⟩
    · rintro ⟨certs, heq, hweb⟩
      obtain rfl : store.roots = certs := List.map_injective_iff.mpr (fun a b hab => Except.ok.inj hab) heq
      exact hweb

theorem mapM_eq_none {α β : Type} {f : β → Except Error α} {o : Option β} {a : Option α} (h : o.mapM f = .ok a) :
    a = none ↔ o = none := by
  cases o with
  | none => exact iff_of_true (mapM_none_ok.mp h) rfl
  | some b =>
    obtain ⟨a', -, rfl⟩ := mapM_some_ok.mp h
    simp

/-- The client of a block accepts what its settings let through. -/
theorem parseClientConfig_acceptable (h : (parseClientConfig rustls config).result = .ok client) :
    client.Accepts rustls server ↔ rustls.Acceptable config server := by
  obtain ⟨told, htold, h⟩ := parseClientConfig_ok.mp h
  obtain ⟨rootStore, hroot, h⟩ := bind_eq_ok.mp h
  obtain ⟨fpVerifier, hfp, h⟩ := bind_eq_ok.mp h
  obtain ⟨clientAuth, -, h⟩ := bind_eq_ok.mp h
  obtain ⟨hverifier, -⟩ := Rustls.build_ok h
  rw [ClientConfig.Accepts, Rustls.serverVerifier_accepts hverifier, loaded_fingerprint hfp, loaded_root hroot,
    mapM_eq_none hfp, mapM_eq_none hroot, ← htold.root.param, ← htold.fingerprint.param]
  exact ⟨fun ⟨hfingerprint, hroot, hnative⟩ => ⟨hfingerprint, hroot, hnative⟩,
    fun hacc => ⟨hacc.fingerprint, hacc.root, hacc.native⟩⟩

theorem Rustls.Acceptable.congr {config' : Scfg} (hroot : config'.param "tls_root" = config.param "tls_root")
    (hfp : config'.param "tls_fingerprint" = config.param "tls_fingerprint") :
    rustls.Acceptable config' server ↔ rustls.Acceptable config server := by
  constructor
  · intro h
    exact ⟨hfp ▸ h.fingerprint, hroot ▸ h.root, hroot ▸ hfp ▸ h.native⟩
  · intro h
    exact ⟨hfp ▸ h.fingerprint, hroot ▸ h.root, hroot ▸ hfp ▸ h.native⟩

/-- **The servers that the client of a block accepts**: what the fingerprint asks for and what the root asks for, or
what the native roots ask for; a fingerprint only takes servers away from a root, and `auth_cert` changes nothing. -/
theorem parseClientConfig_accepts_iff (h : (parseClientConfig rustls config).result = .ok client) (server : ServerCert) :
    (client.Accepts rustls server ↔ rustls.Acceptable config server) ∧
      (∀ hex bytes, config.param "tls_fingerprint" = some hex → rustls.hexDecode hex = .ok bytes → bytes.length ≠ 32 →
        ¬ client.Accepts rustls server) ∧
      ∀ config' client', (parseClientConfig rustls config').result = .ok client' →
        config'.named "tls_root" = config.named "tls_root" →
        (config.named "tls_root" ≠ [] → config.named "tls_fingerprint" = [] →
          client'.Accepts rustls server → client.Accepts rustls server) ∧
        (config'.named "tls_fingerprint" = config.named "tls_fingerprint" →
          (client'.Accepts rustls server ↔ client.Accepts rustls server)) := by
  have hparam : ∀ {config' : Scfg} name, config'.named name = config.named name → config'.param name = config.param name :=
    fun name hnamed => by rw [Scfg.param, hnamed, Scfg.param]
  refine ⟨parseClientConfig_acceptable h, fun hex bytes hhex hbytes hlength haccepts => ?_,
    fun config' client' h' hroot => ⟨fun hsome hnone haccepts => ?_, fun hfp => ?_⟩⟩
  · have hdigest := ((parseClientConfig_acceptable h).mp haccepts).fingerprint hex hhex
    rw [hbytes] at hdigest
    obtain rfl := Except.ok.inj hdigest
    exact hlength (Vector.length_toList ..)
  · obtain ⟨told, htold, -⟩ := parseClientConfig_ok.mp h
    refine (parseClientConfig_acceptable h).mpr ⟨fun hex hhex => ?_, fun path hpath => ?_, fun _ hnoroot => ?_⟩
    · rw [Scfg.param, hnone] at hhex
      cases hhex
    · rw [← hparam _ hroot] at hpath
      exact ((parseClientConfig_acceptable h').mp haccepts).root path hpath
    · exact absurd (htold.root.param_eq_none.mp hnoroot) hsome
  · rw [parseClientConfig_acceptable h, parseClientConfig_acceptable h']
    exact Rustls.Acceptable.congr (hparam _ hroot) (hparam _ hfp)

end Accepts

/-- The certificate and the key of a file. -/
def bundle : List PemSection := [⟨.certificate, [0x30, 0x00]⟩, ⟨.other "DH PARAMETERS", []⟩, ⟨.privateKey, [0x30, 0x01]⟩]

/-- The SHA-256 of an empty sequence. -/
def emptyDigest : Vector UInt8 32 :=
  ⟨#[0xe4, 0xf6, 0x0d, 0x0a, 0xa6, 0xd7, 0xf3, 0xd3, 0xb6, 0xa6, 0x49, 0x4b, 0x1c, 0x86, 0x1b, 0x99, 0xf6, 0x49, 0xc6,
    0xf9, 0xec, 0x51, 0xab, 0xaf, 0x20, 0x1b, 0x20, 0xf2, 0x97, 0x32, 0x7c, 0x95], rfl⟩

/-- A `Rustls` that knows one file and one digest. -/
def oneBundle : Rustls where
  pem path := if path = "bundle.pem" then .ok (bundle.map .ok) else bail "No such file or directory (os error 2)"
  certificates path :=
    if path = "bundle.pem" then .ok [.ok [0x30, 0x00]] else bail "No such file or directory (os error 2)"
  privateKey path :=
    if path = "bundle.pem" then .ok (.pkcs8 [0x30, 0x01]) else bail "No such file or directory (os error 2)"
  anchor _ := bail "invalid peer certificate: BadEncoding"
  hexDecode hex :=
    if hex = "e4f60d0aa6d7f3d3b6a6494b1c861b99f649c6f9ec51abaf201b20f297327c95" then .ok emptyDigest.toList
    else bail "Odd number of digits"
  sha256 der := if der = [0x30, 0x00] then emptyDigest else Vector.replicate 32 0
  nativeRoots := bail "no valid native root CA certificates found"
  webPkiBuilder _ := bail "no root trust anchors were provided"
  webPki _ _ := .error (.webPki ["invalid peer certificate: BadEncoding"])
  clientAuthCert _ := bail "failed to parse private key as RSA, ECDSA, or EdDSA"

/-- A server with the fingerprint is accepted, whatever WebPKI says. -/
theorem parseClientConfig_accepts_pinned : ClientConfig.Accepts oneBundle ⟨.fingerprint ⟨emptyDigest.toList⟩, none⟩
    ⟨[0x30, 0x00], [], "dav.example.com", [], 0⟩ := by
  have hok : (parseClientConfig oneBundle [("tls_fingerprint",
      ⟨["e4f60d0aa6d7f3d3b6a6494b1c861b99f649c6f9ec51abaf201b20f297327c95"], none⟩)]).result =
      .ok ⟨.fingerprint ⟨emptyDigest.toList⟩, none⟩ := rfl
  refine (parseClientConfig_accepts_iff hok _).1.mpr ⟨fun hex hhex => ?_, fun path hpath => ?_, fun hnone => ?_⟩
  · cases hhex
    rfl
  · cases hpath
  · cases hnone

/-! ## What a client shows -/

/-- How the PEM reader reads a file of which no section is malformed. -/
structure Rustls.ReadsPem (rustls : Rustls) : Prop where
  certificates : ∀ {path : String} {sections : List PemSection}, rustls.pem path = .ok (sections.map .ok) →
    rustls.certificates path = .ok ((sections.filterMap PemSection.certificate).map .ok)
  privateKey : ∀ {path : String} {sections : List PemSection} {key : PrivateKeyDer} {keys : List PrivateKeyDer},
    rustls.pem path = .ok (sections.map .ok) → sections.filterMap PemSection.key = key :: keys →
    rustls.privateKey path = .ok key

section Shows

variable {rustls : Rustls}

/-- A bundle that is read as one file is read in the same way as two. -/
theorem loadAuthCert_bundle (hpem : rustls.ReadsPem) {path : String} {cert : ClientAuth}
    (h : certAndKeyFromPemfile rustls path = .ok cert) : rustls.loadAuthCert (path, some path) = .ok cert := by
  obtain ⟨certs, key⟩ := cert
  obtain ⟨sections, hsections, hkeys, rfl⟩ := certAndKeyFromPemfile_ok.mp h
  refine bind_eq_ok.mpr ⟨_, context_eq_ok.mpr (hpem.certificates hsections), ?_⟩
  refine bind_eq_ok.mpr ⟨_, context_eq_ok.mpr (collect_ok.mpr rfl), ?_⟩
  exact bind_eq_ok.mpr ⟨key, context_eq_ok.mpr (hpem.privateKey hsections hkeys), rfl⟩

theorem Scfg.SaysFiles.eq_some {config : Scfg} {files : Option (String × Option String)} {first : String}
    {rest : List String} {child : Option Scfg} (h : config.SaysFiles files)
    (hnamed : config.named "auth_cert" = [⟨first :: rest, child⟩]) : files = some (first, rest.head?) := by
  cases files with
  | none =>
    have hnil : config.named "auth_cert" = [] := h
    rw [hnil] at hnamed
    cases hnamed
  | some f =>
    obtain ⟨first', second⟩ := f
    obtain ⟨rest', child', hnamed', rfl⟩ := h
    rw [hnamed'] at hnamed
    cases hnamed
    rfl

/-- **What `auth_cert` loads**: from one file, all its certificates and its only key; from the file given twice, the
same. -/
theorem certAndKeyFromPemfile_iff (hpem : rustls.ReadsPem) (path : String) (certs : List Der) (key : PrivateKeyDer) :
    (certAndKeyFromPemfile rustls path = .ok (certs, key) ↔ ∃ sections : List PemSection,
      rustls.pem path = .ok (sections.map .ok) ∧ sections.filterMap PemSection.key = [key] ∧
      certs = sections.filterMap PemSection.certificate) ∧
    (certAndKeyFromPemfile rustls path = .ok (certs, key) → rustls.loadAuthCert (path, some path) = .ok (certs, key) ∧
      ∀ (config config' : Scfg) (child child' : Option Scfg) (client : ClientConfig),
        config.named "auth_cert" = [⟨[path], child⟩] → config'.named "auth_cert" = [⟨[path, path], child'⟩] →
        (∀ name, name ≠ "auth_cert" → config'.named name = config.named name) →
        (parseClientConfig rustls config).result = .ok client →
          client.clientAuth = some (certs, key) ∧ (parseClientConfig rustls config').result = .ok client) := by
  refine ⟨certAndKeyFromPemfile_ok, fun hcert => ⟨loadAuthCert_bundle hpem hcert,
    fun config config' child child' client hone htwo hothers h => ?_⟩⟩
  obtain ⟨told, htold, h⟩ := parseClientConfig_ok.mp h
  have hfiles := htold.clientAuth.eq_some hone
  obtain ⟨rootStore, hroot, h⟩ := bind_eq_ok.mp h
  obtain ⟨fpVerifier, hfp, h⟩ := bind_eq_ok.mp h
  obtain ⟨clientAuth, hauth, h⟩ := bind_eq_ok.mp h
  rw [hfiles] at hauth
  obtain ⟨cert, hcert', rfl⟩ := mapM_some_ok.mp hauth
  obtain rfl : cert = (certs, key) := Except.ok.inj (hcert'.symm.trans hcert)
  refine ⟨(Rustls.build_ok h).2, parseClientConfig_ok.mpr
    ⟨⟨told.root, told.fingerprint, some (path, some path)⟩, ⟨?_, ?_, [path], child', htwo, rfl⟩, ?_⟩⟩
  · exact (Scfg.Says.congr (hothers _ (by decide))).mpr htold.root
  · exact (Scfg.Says.congr (hothers _ (by decide))).mpr htold.fingerprint
  · refine bind_eq_ok.mpr ⟨rootStore, hroot, bind_eq_ok.mpr ⟨fpVerifier, hfp, bind_eq_ok.mpr ⟨_, ?_, h⟩⟩⟩
    exact mapM_some_ok.mpr ⟨_, loadAuthCert_bundle hpem hcert, rfl⟩

end Shows

theorem oneBundle_readsPem : oneBundle.ReadsPem := by
  have hsections : ∀ {path : String} {sections : List PemSection}, oneBundle.pem path = .ok (sections.map .ok) →
      path = "bundle.pem" ∧ sections = bundle := by
    intro path sections h
    change (if path = "bundle.pem" then Except.ok (bundle.map Except.ok) else bail _) = _ at h
    split at h
    · next hpath =>
      exact ⟨hpath, (List.map_injective_iff.mpr (fun a b hab => Except.ok.inj hab) (Except.ok.inj h)).symm⟩
    · cases h
  refine ⟨fun h => ?_, fun h hkeys => ?_⟩
  · obtain ⟨rfl, rfl⟩ := hsections h
    rfl
  · obtain ⟨rfl, rfl⟩ := hsections h
    cases hkeys
    rfl

/-- The certificate and the key of a bundle, from one file and from the same file twice. -/
theorem certAndKeyFromPemfile_bundle :
    certAndKeyFromPemfile oneBundle "bundle.pem" = .ok ([[0x30, 0x00]], .pkcs8 [0x30, 0x01]) ∧
      oneBundle.loadAuthCert ("bundle.pem", some "bundle.pem") = .ok ([[0x30, 0x00]], .pkcs8 [0x30, 0x01]) := by
  obtain ⟨hiff, htwice⟩ := certAndKeyFromPemfile_iff oneBundle_readsPem "bundle.pem" [[0x30, 0x00]] (.pkcs8 [0x30, 0x01])
  have hone : certAndKeyFromPemfile oneBundle "bundle.pem" = .ok ([[0x30, 0x00]], .pkcs8 [0x30, 0x01]) :=
    hiff.mpr ⟨bundle, rfl, rfl, rfl⟩
  exact ⟨hone, (htwice hone).1⟩

end Pimsync
