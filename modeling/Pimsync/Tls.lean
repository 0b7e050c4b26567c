import Pimsync.Scfg

/-!
# Certificates, keys and verifiers

The helpers of `tls.rs`. What `rustls`, its PEM reader, `hex` and `sha2` do for them is a `Rustls`. A file is read as PEM
sections: `certAndKeyFromPemfile` keeps the certificates and looks for one private key among them, and the two verifiers
decide which server certificates are accepted.

- `certAndKeyFromPemfile_ok`: the files it succeeds on, and what it returns;
- `Rustls.loadRoots_ok`: a root store has the certificates of its file, and no others;
- `FingerprintVerifier.verifyServerCert_ok`, `FingerprintAndWebPkiVerifier.verifyServerCert_ok`: what is accepted.
-/

namespace Pimsync

/-! ## Data -/

/-- The bytes of a DER encoding. -/
abbrev Der := List UInt8

/-- `pem::SectionKind`; `other` stands for the kinds that have no case of their own. -/
inductive SectionKind
  | certificate
  | ecPrivateKey
  | privateKey
  | rsaPrivateKey
  | other (label : String)
  deriving DecidableEq

structure PemSection where
  kind : SectionKind
  der : Der
  deriving DecidableEq

/-- `PrivateKeyDer`. -/
inductive PrivateKeyDer
  | sec1 (der : Der)
  | pkcs8 (der : Der)
  | pkcs1 (der : Der)
  deriving DecidableEq

/-- `RootCertStore`: the certificates added to it, in their order. -/
structure RootCertStore where
  roots : List Der
  deriving DecidableEq

/-- What `verify_server_cert` is told of a server. -/
structure ServerCert where
  endEntity : Der
  intermediates : List Der
  serverName : String
  ocspResponse : List UInt8
  now : ℕ

/-- The errors of `verify_server_cert`: `FingerprintError`, or one of the WebPKI verifier. -/
inductive VerifyError
  | fingerprint
  | webPki (e : Error)
  deriving DecidableEq

/-- What a client shows a server: its certificate chain, and the key of the first certificate. -/
abbrev ClientAuth := List Der × PrivateKeyDer

/-- What is used of `rustls` and the crates around it. -/
structure Rustls where
  /-- `pem_file_iter` for sections of any kind. -/
  pem : String → Except Error (List (Except Error PemSection))
  /-- `CertificateDer::pem_file_iter`. -/
  certificates : String → Except Error (List (Except Error Der))
  /-- `PrivateKeyDer::from_pem_file`. -/
  privateKey : String → Except Error PrivateKeyDer
  /-- Whether `RootCertStore::add` takes a certificate. -/
  anchor : Der → Except Error Unit
  /-- `hex::decode`. -/
  hexDecode : String → Except Error (List UInt8)
  /-- `Sha256::digest`. -/
  sha256 : Der → Vector UInt8 32
  /-- The roots of `with_native_roots`. -/
  nativeRoots : Except Error RootCertStore
  /-- Whether `WebPkiServerVerifier::builder` builds a verifier. -/
  webPkiBuilder : RootCertStore → Except Error Unit
  /-- `verify_server_cert` of a `WebPkiServerVerifier`. -/
  webPki : RootCertStore → ServerCert → Except VerifyError Unit
  /-- Whether `with_client_auth_cert` takes the certificates and the key. -/
  clientAuthCert : ClientAuth → Except Error Unit

variable (rustls : Rustls)

/-! ## PEM files -/

/-- `collect` into a result: the items up to the first that is an error. -/
def collect {α : Type} : List (Except Error α) → Except Error (List α)
  | [] => return []
  | item :: items => do
    let a ← item
    let as ← collect items
    return a :: as

theorem collect_ok {α : Type} : ∀ {items : List (Except Error α)} {as : List α},
    collect items = .ok as ↔ items = as.map .ok
  | [], as => by cases as <;> simp [collect, pure, Except.pure]
  | item :: items, as => by
    simp only [collect, bind_eq_ok, collect_ok]
    constructor
    · rintro ⟨a, rfl, as', rfl, h⟩
      cases h
      rfl
    · intro h
      cases as with
      | nil => cases h
      | cons a as =>
        obtain ⟨rfl, rfl⟩ := List.cons.inj h
        exact ⟨a, rfl, as, rfl, rfl⟩

/-- What the loop of `cert_and_key_from_pemfile` has found. -/
@[ext]
structure PemFound where
  certs : List Der
  rawKey : Option PrivateKeyDer

/-- `raw_key.replace`, which must not replace a key. -/
def PemFound.replace (path : String) (found : PemFound) (key : PrivateKeyDer) : Except Error PemFound :=
  match found.rawKey with
  | some _ => bail s!"multiple keys found in {path}"
  | none => return { found with rawKey := some key }

/-- The body of the loop, for a section that was read. -/
def PemFound.step (path : String) (found : PemFound) (s : PemSection) : Except Error PemFound :=
  match s.kind with
  | .certificate => return { found with certs := found.certs ++ [s.der] }
  | .ecPrivateKey => found.replace path (.sec1 s.der)
  | .privateKey => found.replace path (.pkcs8 s.der)
  | .rsaPrivateKey => found.replace path (.pkcs1 s.der)
  | .other _ => return found

/-- The loop of `cert_and_key_from_pemfile`. -/
def pemLoop (path : String) : List (Except Error PemSection) → PemFound → Except Error PemFound
  | [], found => return found
  | item :: items, found => do
    let s ← item
    let found ← found.step path s
    pemLoop path items found

/-- `cert_and_key_from_pemfile`. -/
def certAndKeyFromPemfile (path : String) : Except Error ClientAuth := do
  let items ← rustls.pem path
  let found ← pemLoop path items ⟨[], none⟩
  let key ← orContext s!"no key found in {path}" found.rawKey
  return (found.certs, key)

/-- The certificate that a section is. -/
def PemSection.certificate (s : PemSection) : Option Der :=
  match s.kind with
  | .certificate => some s.der
  | _ => none

/-- The private key that a section is, in its encoding. -/
def PemSection.key (s : PemSection) : Option PrivateKeyDer :=
  match s.kind with
  | .ecPrivateKey => some (.sec1 s.der)
  | .privateKey => some (.pkcs8 s.der)
  | .rsaPrivateKey => some (.pkcs1 s.der)
  | .certificate | .other _ => none

section Pem

variable {rustls} {path : String} {found found' : PemFound}

theorem PemFound.eq_iff : .ok found = (.ok found' : Except Error PemFound) ↔
    found'.certs = found.certs ∧ found'.rawKey.toList = found.rawKey.toList := by
  rw [Except.ok.injEq, eq_comm, PemFound.ext_iff]
  cases found'.rawKey <;> cases found.rawKey <;> simp

/-- A key is taken if there was none. -/
theorem PemFound.replace_ok {key : PrivateKeyDer} : found.replace path key = .ok found' ↔
    found'.certs = found.certs ∧ found'.rawKey.toList = found.rawKey.toList ++ [key] := by
  obtain ⟨certs, rawKey⟩ := found
  cases rawKey with
  | none => exact PemFound.eq_iff
  | some key' =>
    refine iff_of_false (fun h => by cases h) fun h => ?_
    have hlength := congrArg List.length h.2
    cases hkey : found'.rawKey <;> simp [hkey] at hlength

/-- **What one section adds**: its certificate, or its key. -/
theorem PemFound.step_ok {s : PemSection} : found.step path s = .ok found' ↔
    found'.certs = found.certs ++ s.certificate.toList ∧ found'.rawKey.toList = found.rawKey.toList ++ s.key.toList := by
  obtain ⟨kind, der⟩ := s
  unfold PemFound.step PemSection.certificate PemSection.key
  cases kind with
  | certificate =>
    rw [Option.toList_none, List.append_nil]
    exact PemFound.eq_iff
  | ecPrivateKey | privateKey | rsaPrivateKey =>
    rw [Option.toList_none, List.append_nil]
    exact PemFound.replace_ok
  | other label =>
    rw [Option.toList_none, List.append_nil, Option.toList_none, List.append_nil]
    exact PemFound.eq_iff

theorem filterMap_cons_toList {α β : Type} (f : α → Option β) (a : α) (l : List α) :
    (a :: l).filterMap f = (f a).toList ++ l.filterMap f := by
  cases h : f a <;> simp [h]

/-- The part of what an option holds is held by an option. -/
theorem exists_toList_of_append {α : Type} {o : Option α} {l l' : List α} (h : o.toList = l ++ l') :
    ∃ o' : Option α, o'.toList = l := by
  cases l with
  | nil => exact ⟨none, rfl⟩
  | cons a l =>
    cases o with
    | none => cases h
    | some a' =>
      obtain ⟨-, hrest⟩ := List.cons.inj h
      obtain ⟨rfl, -⟩ := List.append_eq_nil_iff.mp hrest.symm
      exact ⟨some a, rfl⟩

/-- **What the loop finds**: all certificates and all keys, of which there must not be two. -/
theorem pemLoop_ok : ∀ {items : List (Except Error PemSection)} {found : PemFound}, pemLoop path items found = .ok found' ↔
    ∃ sections : List PemSection, items = sections.map .ok ∧
      found'.certs = found.certs ++ sections.filterMap PemSection.certificate ∧
      found'.rawKey.toList = found.rawKey.toList ++ sections.filterMap PemSection.key
  | [], found => by
    constructor
    · intro h
      cases h
      exact ⟨[], rfl, by simp, by simp⟩
    · rintro ⟨sections, hitems, hcerts, hkeys⟩
      obtain rfl := List.map_eq_nil_iff.mp hitems.symm
      exact PemFound.eq_iff.mpr ⟨by simpa using hcerts, by simpa using hkeys⟩
  | item :: items, found => by
    simp only [pemLoop, bind_eq_ok, PemFound.step_ok, pemLoop_ok]
    constructor
    · rintro ⟨s, rfl, found₁, ⟨hcerts₁, hkeys₁⟩, sections, rfl, hcerts, hkeys⟩
      refine ⟨s :: sections, rfl, ?_, ?_⟩
      · rw [hcerts, hcerts₁, filterMap_cons_toList, List.append_assoc]
      · rw [hkeys, hkeys₁, filterMap_cons_toList, List.append_assoc]
    · rintro ⟨sections, hitems, hcerts, hkeys⟩
      cases sections with
      | nil => cases hitems
      | cons s sections =>
        obtain ⟨rfl, rfl⟩ := List.cons.inj hitems
        rw [filterMap_cons_toList, ← List.append_assoc] at hcerts hkeys
        -- what is found up to here is a part of what is found in the end
        obtain ⟨rawKey, hrawKey⟩ := exists_toList_of_append hkeys
        exact ⟨s, rfl, ⟨found.certs ++ s.certificate.toList, rawKey⟩, ⟨rfl, hrawKey⟩, sections, rfl, hcerts,
          by rw [hkeys, hrawKey]⟩

/-- **The files that `cert_and_key_from_pemfile` succeeds on**: those that are read to their end, with one key. -/
theorem certAndKeyFromPemfile_ok {certs : List Der} {key : PrivateKeyDer} :
    certAndKeyFromPemfile rustls path = .ok (certs, key) ↔ ∃ sections : List PemSection,
      rustls.pem path = .ok (sections.map .ok) ∧ sections.filterMap PemSection.key = [key] ∧
      certs = sections.filterMap PemSection.certificate := by
  simp only [certAndKeyFromPemfile, bind_eq_ok, pemLoop_ok, orContext_eq_ok]
  constructor
  · rintro ⟨items, hitems, found, ⟨sections, rfl, hcerts, hkeys⟩, key', hkey', h⟩
    cases h
    rw [hkey'] at hkeys
    exact ⟨sections, hitems, hkeys.symm, hcerts⟩
  · rintro ⟨sections, hitems, hkeys, rfl⟩
    exact ⟨_, hitems, ⟨_, some key⟩, ⟨sections, rfl, rfl, hkeys.symm⟩, key, rfl, rfl⟩

end Pem

/-! ## Root stores -/

/-- `RootCertStore::add`. -/
def RootCertStore.add (store : RootCertStore) (cert : Der) : Except Error RootCertStore := do
  rustls.anchor cert
  return ⟨store.roots ++ [cert]⟩

/-- The loop that adds the certificates of a file. -/
def RootCertStore.addAll : List Der → RootCertStore → Except Error RootCertStore
  | [], store => return store
  | cert :: certs, store => do
    let store ← store.add rustls cert
    store.addAll certs

/-- The root store of `tls_root`. -/
def Rustls.loadRoots (path : String) : Except Error RootCertStore := do
  let items ← context s!"opening {path}" (rustls.certificates path)
  let certs ← context s!"parsing {path}" (collect items)
  RootCertStore.addAll rustls certs ⟨[]⟩

section Roots

variable {rustls} {store store' : RootCertStore}

theorem RootCertStore.addAll_ok : ∀ {certs : List Der} {store : RootCertStore}, store.addAll rustls certs = .ok store' →
    store'.roots = store.roots ++ certs
  | [], store, h => by
    cases h
    exact (List.append_nil _).symm
  | cert :: certs, store, h => by
    obtain ⟨store₁, hadd, h⟩ := bind_eq_ok.mp h
    obtain ⟨⟨⟩, -, hadd⟩ := bind_eq_ok.mp hadd
    cases hadd
    rw [addAll_ok h, List.append_assoc]
    rfl

/-- **A root store has the certificates of its file**, and no others. -/
theorem Rustls.loadRoots_ok {path : String} (h : rustls.loadRoots path = .ok store) :
    rustls.certificates path = .ok (store.roots.map .ok) := by
  obtain ⟨items, hitems, h⟩ := bind_eq_ok.mp h
  obtain ⟨certs, hcerts, h⟩ := bind_eq_ok.mp h
  rw [RootCertStore.addAll_ok h, List.nil_append, context_eq_ok.mp hitems, collect_ok.mp (context_eq_ok.mp hcerts)]

end Roots

/-! ## Verifiers -/

structure FingerprintVerifier where
  fingerprint : List UInt8

/-- `FingerprintVerifier::new`. -/
def FingerprintVerifier.new (hexFingerprint : String) : Except Error FingerprintVerifier := do
  let fingerprint ← rustls.hexDecode hexFingerprint
  return ⟨fingerprint⟩

def FingerprintVerifier.verifyServerCert (verifier : FingerprintVerifier) (server : ServerCert) :
    Except VerifyError Unit :=
  if verifier.fingerprint = (rustls.sha256 server.endEntity).toList then .ok () else .error .fingerprint

/-- The second verifier is told by its roots. -/
structure FingerprintAndWebPkiVerifier where
  fingerprintVerifier : FingerprintVerifier
  roots : RootCertStore

/-- `FingerprintAndWebPkiVerifier::new`. -/
def FingerprintAndWebPkiVerifier.new (fingerprintVerifier : FingerprintVerifier) (roots : RootCertStore) :
    Except Error FingerprintAndWebPkiVerifier := do
  rustls.webPkiBuilder roots
  return ⟨fingerprintVerifier, roots⟩

def FingerprintAndWebPkiVerifier.verifyServerCert (verifier : FingerprintAndWebPkiVerifier) (server : ServerCert) :
    Except VerifyError Unit := do
  verifier.fingerprintVerifier.verifyServerCert rustls server
  rustls.webPki verifier.roots server

section Verifiers

variable {rustls} {server : ServerCert}

theorem FingerprintVerifier.verifyServerCert_ok {verifier : FingerprintVerifier} :
    verifier.verifyServerCert rustls server = .ok () ↔
      verifier.fingerprint = (rustls.sha256 server.endEntity).toList := by
  unfold verifyServerCert
  split
  · next h => exact iff_of_true rfl h
  · next h => exact iff_of_false (fun hok => by cases hok) h

theorem FingerprintAndWebPkiVerifier.verifyServerCert_ok {verifier : FingerprintAndWebPkiVerifier} :
    verifier.verifyServerCert rustls server = .ok () ↔
      verifier.fingerprintVerifier.verifyServerCert rustls server = .ok () ∧
        rustls.webPki verifier.roots server = .ok () := by
  unfold verifyServerCert
  cases verifier.fingerprintVerifier.verifyServerCert rustls server with
  | ok => exact (and_iff_right rfl).symm
  | error e => exact iff_of_false (fun h => by cases h) fun h => by cases h.1

end Verifiers

end Pimsync
