import Mathlib.Algebra.GroupWithZero.Nat
import Pimsync.Command
import Pimsync.Path

/-!
# Storage blocks

`resolveStorageCmds` puts strings in the place of the commands of a storage block; `initStorage` then reads the block
and makes the storage. The readers take directives out of the block they work on and record every directive whose one
parameter they take (`Read`).
-/

namespace Pimsync

abbrev Duration := ℕ

/-! ## `resolve_storage_cmds` -/

/-- The dynamic parameters of a storage type, in the order in which they are resolved. -/
def dynamicFields : String → Option (List String)
  | "vdir/icalendar" | "vdir/vcard" => some ["path"]
  | "carddav" | "caldav" | "jmap/icalendar" | "jmap/vcard" => some ["url", "username", "password"]
  | "webcal" => some ["url"]
  | _ => none

/-- The type of a storage block. That it is a single one is not checked here. -/
def storageType (storage : Scfg) : Except Error String := do
  let directive ← orContext "storage must include a 'type' directive" (storage.get "type")
  orContext "type directive must specify one parameter" directive.params.head?

variable {σ : Type}

/-- Resolve one directive after the other. -/
def resolveFields (exec : Exec σ) : List String → Scfg → Cmds σ Scfg
  | [], storage => return storage
  | name :: names, storage => do
    let storage ← Prog.context s!"resolving {name} for storage" (resolveCmdInplace exec storage name)
    resolveFields exec names storage

/-- `resolve_storage_cmds`. -/
def resolveStorageCmds (exec : Exec σ) (storage : Scfg) : Cmds σ Scfg := do
  let type_ ← Prog.lift (storageType storage)
  match dynamicFields type_ with
  | some fields => resolveFields exec fields storage
  | none => Prog.fail [s!"Unknown storage type: {type_}"]

/-! ## Readers -/

/-- A directive of which a parser takes the one parameter. -/
structure Read where
  name : String
  directive : Directive

/-- A parser: it takes directives out of the block, and records those it reads as a plain string. -/
abbrev Reader := Prog Scfg Read Fault

namespace Reader

variable {α : Type}

def lift (r : Except Error α) : Reader α := Prog.lift (r.mapError .err)

def bail (msg : String) : Reader α := Prog.fail (.err [msg])

def context (msg : String) (p : Reader α) : Reader α := p.mapError (.context msg)

/-- `take_single_directive`. -/
def takeDirective (name : String) : Reader (Option Directive) := fun config =>
  match takeSingleDirective config name with
  | .ok (directive, rest) => ⟨.ok directive, rest, []⟩
  | .error e => ⟨.error (.err e), config, []⟩

/-- `take_single_directive`, then `take_single_param` if there is one. -/
def takeParam (name : String) : Reader (Option String) := do
  match ← takeDirective name with
  | some directive =>
    Prog.emit ⟨name, directive⟩
    let param ← lift (takeSingleParam directive)
    return some param
  | none => return none

/-- `take_single_param_from_directive`. -/
def takeParamFrom (name : String) : Reader String := do
  match ← takeDirective name with
  | some directive =>
    Prog.emit ⟨name, directive⟩
    (lift (takeSingleParam directive)).context s!"Parsing directive {name}"
  | none => bail s!"directive {name} not found"

end Reader

/-! ## `init_storage` -/

/-- `ItemKind`. -/
inductive ItemKind
  | calendar
  | addressBook
  deriving DecidableEq

/-- `CollectionIdSegment`; the parser leaves out the crate's default. -/
inductive CollectionIdSegment
  | last
  | secondLast

/-- What `parse_tls_config` was told: the root certificates, the fingerprint, and the file or files of the client's
certificate and key. -/
structure TlsConfig where
  root : Option String
  fingerprint : Option String
  clientAuth : Option (String × Option String)

inductive Connector
  | unix (socketPath : String)
  | https (tls : TlsConfig)
  | proxy (uri : String) (tls : TlsConfig)

/-- `HttpClient`. -/
structure Client where
  connector : Connector
  auth : Option String
  userAgent : String

/-- An `Arc<dyn Storage>`, wrapped or not by `into_arc`. -/
inductive DynStorage (S : Type)
  | plain (storage : S)
  | readOnly (storage : S)

/-- `into_arc`. -/
def intoArc {S : Type} (storage : S) (readOnly : Bool) : DynStorage S :=
  if readOnly then .readOnly storage else .plain storage

/-- How a call of `init_storage` ends. -/
inductive InitOutcome (S : Type)
  | ok (storage : S) (interval : Duration)
  | err (e : Error)
  | panic

/-- The environment, and the crates that the parsers hand their input to; a check gives the error of the conversion. -/
structure Outside (S : Type) where
  home : Home
  version : String
  /-- `http_proxy`. -/
  httpProxy : Option String
  uri : String → Except Error Unit
  headerValue : String → Except Error Unit
  collectionId : String → Except Error Unit
  base64 : String → String
  rootStore : String → Except Error Unit
  fingerprint : String → Except Error Unit
  clientAuth : String → Option String → Except Error Unit
  /-- The last steps of `parse_tls_config`. -/
  tlsConfig : TlsConfig → Except Error Unit
  vdirBuilder : String → Except Error Unit
  vdir : String → Option String → ItemKind → S
  /-- `finish_carddav`, up to `into_arc`. -/
  carddav : Client → String → Option CollectionIdSegment → Bool → Except Fault S
  /-- `finish_caldav`, up to `into_arc`. -/
  caldav : Client → String → Option CollectionIdSegment → Bool → Except Fault S
  webcal : Client → String → String → S
  /-- `finish_jmap`, up to `into_arc`. -/
  jmap : Client → String → ItemKind → Except Fault S

/-- `s.strip_prefix(c).unwrap_or(s)`. -/
def stripPrefix (c : Char) (s : String) : String :=
  match s.toList with
  | c' :: rest => if c' = c then String.ofList rest else s
  | [] => s

/-- `u64::from_str`. -/
def parseU64 (s : String) : Except Error ℕ :=
  match s.toList with
  | [] => bail "cannot parse integer from empty string"
  | ['+'] | ['-'] => bail "invalid digit found in string"
  | '+' :: digits | digits => digits.foldlM step 0
where
  step (n : ℕ) (c : Char) : Except Error ℕ :=
    if !c.isDigit then bail "invalid digit found in string"
    else if 2 ^ 64 ≤ n * 10 + (c.toNat - '0'.toNat) then bail "number too large to fit in target type"
    else return n * 10 + (c.toNat - '0'.toNat)

/-- `parse_interval`. -/
def parseInterval : Reader Duration := do
  match ← Reader.takeDirective "interval" with
  | some directive =>
    let param ← (Reader.lift (takeSingleParam directive)).context "Parsing interval directive"
    (Reader.lift (parseU64 param)).context "Interval must be a valid integer"
  | none => return 300

/-- `parse_collection_id_segment`. -/
def parseCollectionIdSegment : Reader (Option CollectionIdSegment) := do
  match ← Reader.takeDirective "collection_id_segment" with
  | some directive =>
    match ← (Reader.lift (takeSingleParam directive)).context "Parsing parameter for collection_id_segment" with
    | "last" => return some .last
    | "second-last" => return some .secondLast
    | _ => Reader.bail "collection_id_segment must specify either 'last' or 'second-last'"
  | none => return none

/-- The `fileext` of `parse_vdir`. -/
def parseFileext : Reader (Option String) := do
  match ← Reader.takeDirective "fileext" with
  | some directive =>
    let fileext ← Reader.lift (takeSingleParam directive)
    return some (stripPrefix '.' fileext)
  | none => return none

/-- The `read_only` of `init_storage`. -/
def parseReadOnly : Reader Bool := do
  match ← Reader.takeDirective "read_only" with
  | some directive =>
    if directive.params ≠ [] then Reader.bail "the read_only directive takes no parameters" else return true
  | none => return false

section Parse

variable {S : Type} (env : Outside S)

/-- `parse_auth`. -/
def parseAuth : Reader (Option String) := do
  match ← Reader.takeParam "username" with
  | none => return none
  | some username =>
    let password := (← Reader.takeParam "password").getD ""
    let credentials := env.base64 s!"{username}:{password}"
    let value := s!"Basic {credentials}"
    (Reader.lift (env.headerValue value)).context "encoding auth header"
    return some value

/-- `default_user_agent`. -/
def defaultUserAgent : String :=
  "pimsync/" ++ stripPrefix 'v' env.version

/-- `parse_user_agent`. -/
def parseUserAgent : Reader String := do
  match ← Reader.takeDirective "user_agent" with
  | some directive =>
    let params := "".intercalate directive.params
    if params = "" then Reader.bail "user_agent must not be empty" else
      (Reader.lift (env.headerValue params)).context "converting user_agent into a header value"
      return params
  | none => return defaultUserAgent env

/-- The `tls_root` of `parse_tls_config`. -/
def parseTlsRoot : Reader (Option String) := do
  match ← Reader.takeDirective "tls_root" with
  | some directive =>
    let path ← (Reader.lift (takeSingleParam directive)).context "Parsing tls_root directive"
    Reader.lift (env.rootStore path)
    return some path
  | none => return none

/-- The `tls_fingerprint` of `parse_tls_config`. -/
def parseTlsFingerprint : Reader (Option String) := do
  match ← Reader.takeDirective "tls_fingerprint" with
  | some directive =>
    let fingerprint ← (Reader.lift (takeSingleParam directive)).context "Parsing tls_fingerprint directive"
    Reader.lift (env.fingerprint fingerprint)
    return some fingerprint
  | none => return none

/-- The `auth_cert` of `parse_tls_config`. Parameters after the second are not looked at. -/
def parseAuthCert : Reader (Option (String × Option String)) := do
  match ← Reader.takeDirective "auth_cert" with
  | some directive =>
    match directive.params with
    | [] => Reader.bail "auth_cert must specify at least one parameter"
    | first :: rest =>
      Reader.lift (env.clientAuth first rest.head?)
      return some (first, rest.head?)
  | none => return none

/-- `parse_tls_config`. -/
def parseTlsConfig : Reader TlsConfig := do
  let root ← parseTlsRoot env
  let fingerprint ← parseTlsFingerprint env
  let clientAuth ← parseAuthCert env
  Reader.lift (env.tlsConfig ⟨root, fingerprint, clientAuth⟩)
  return ⟨root, fingerprint, clientAuth⟩

/-- `http_proxy`, if it is set. -/
def proxyConnector (tls : TlsConfig) : Reader Connector :=
  match env.httpProxy with
  | some proxyUrl => do
    (Reader.lift (env.uri proxyUrl)).context "parsing http_proxy environment variable"
    return .proxy proxyUrl tls
  | none => return .https tls

/-- `parse_vdir`. -/
def parseVdir (itemKind : ItemKind) (ro : Bool) : Reader (DynStorage S) := do
  let path ← Reader.takeParamFrom "path"
  let path ← Reader.context "Expanding tilde for storage" (Prog.lift (expandTilde env.home path))
  let encoding ← Prog.ask fun config => config.remove "encoding"
  if encoding.isSome then Reader.bail "'encoding' is not implemented for vdir storages." else
    Reader.lift (env.vdirBuilder path)
    let fileext ← parseFileext
    return intoArc (env.vdir path fileext itemKind) ro

/-- `parse_carddav` and `parse_caldav`; `finish` is the crate's part of `finish_carddav` or `finish_caldav`. -/
def parseDav (kind : String) (finish : Client → String → Option CollectionIdSegment → Bool → Except Fault S)
    (ro : Bool) : Reader (DynStorage S) := do
  let url ← Reader.takeParamFrom "url"
  (Reader.lift (env.uri url)).context s!"Parsing {kind} url"
  let segment ← parseCollectionIdSegment
  let socket ← Reader.takeDirective "socket"
  let auth ← (parseAuth env).context s!"Parsing {kind} storage auth"
  match socket with
  | some directive =>
    let socketPath ← (Reader.lift (takeSingleParam directive)).context "Parsing socket directive"
    let userAgent ← parseUserAgent env
    return intoArc (← Prog.lift (finish ⟨.unix socketPath, auth, userAgent⟩ url segment false)) ro
  | none =>
    let tls ← parseTlsConfig env
    let userAgent ← parseUserAgent env
    let connector ← proxyConnector env tls
    return intoArc (← Prog.lift (finish ⟨connector, auth, userAgent⟩ url segment true)) ro

/-- `parse_carddav`. -/
def parseCarddav (ro : Bool) : Reader (DynStorage S) := parseDav env "carddav" env.carddav ro

/-- `parse_caldav`. -/
def parseCaldav (ro : Bool) : Reader (DynStorage S) := parseDav env "caldav" env.caldav ro

/-- `parse_webcal`. The storage is never wrapped: it cannot be written to. -/
def parseWebcal : Reader (DynStorage S) := do
  let url ← (Reader.takeParamFrom "url").context "Webcal storage must define a url"
  Reader.lift (env.uri url)
  let auth ← (parseAuth env).context "Parsing webcal storage auth"
  let tls ← parseTlsConfig env
  let userAgent ← parseUserAgent env
  let collectionId ← Reader.takeParamFrom "collection_id"
  (Reader.lift (env.collectionId collectionId)).context "Parsing webcal url"
  let connector ← proxyConnector env tls
  return .plain (env.webcal ⟨connector, auth, userAgent⟩ url collectionId)

/-- `parse_jmap`. -/
def parseJmap (itemKind : ItemKind) (ro : Bool) : Reader (DynStorage S) := do
  let url ← Reader.takeParamFrom "url"
  let auth ← (parseAuth env).context "Parsing JMAP storage auth"
  let tls ← parseTlsConfig env
  let userAgent ← parseUserAgent env
  let connector ← proxyConnector env tls
  return intoArc (← Prog.lift (env.jmap ⟨connector, auth, userAgent⟩ url itemKind)) ro

/-- The parser of a storage type. -/
def parseStorage (type_ : String) (ro : Bool) : Reader (DynStorage S) :=
  match type_ with
  | "vdir/icalendar" => parseVdir env .calendar ro
  | "vdir/vcard" => parseVdir env .addressBook ro
  | "carddav" => parseCarddav env ro
  | "caldav" => parseCaldav env ro
  | "webcal" => parseWebcal env
  | "jmap/icalendar" => parseJmap env .calendar ro
  | "jmap/vcard" => parseJmap env .addressBook ro
  | _ => Reader.bail s!"Unknown storage type: {type_}"

/-- `init_storage`. -/
def initStorage : Reader (DynStorage S × Duration) := do
  let type_ ← Reader.takeParamFrom "type"
  let interval ← parseInterval
  let ro ← parseReadOnly
  let storage ← parseStorage env type_ ro
  return (storage, interval)

/-- The call `init_storage(config, name)`. -/
def initStorageOutcome (config : Scfg) : InitOutcome (DynStorage S) :=
  match (initStorage env config).result with
  | .ok (storage, interval) => .ok storage interval
  | .error (.err e) => .err e
  | .error (.panic _) => .panic

end Parse

end Pimsync
