import Pimsync.Config.Grammar

/-!
# The grammar of a storage

`Scfg.SaysStorage` is what a storage's block says: the type, the directives of that type, and what the
storage is then made of. `initStorage_iff`: `init_storage` makes the storages that blocks say, and no others.
-/

namespace Pimsync

variable {S : Type} (env : Outside S) (c : Scfg)

/-! ## What a block says -/

def Scfg.SaysInterval (interval : Duration) : Prop :=
  c.Says "interval" none ∧ interval = 300 ∨ ∃ v, c.Says "interval" (some v) ∧ parseU64 v = .ok interval

def Scfg.SaysReadOnly : Bool → Prop
  | false => c.named "read_only" = []
  | true => ∃ child, c.named "read_only" = [⟨[], child⟩]

def CollectionIdSegment.word : CollectionIdSegment → String
  | .last => "last"
  | .secondLast => "second-last"

def Scfg.SaysSegment (segment : Option CollectionIdSegment) : Prop :=
  c.Says "collection_id_segment" (segment.map CollectionIdSegment.word)

/-- The header for a username and a password; there may be no password. -/
def Outside.basic (username : String) (password : Option String) : String :=
  "Basic " ++ env.base64 (username ++ ":" ++ password.getD "")

/-- A password without a username is not looked at. -/
def Scfg.SaysAuth : Option String → Prop
  | none => c.Says "username" none
  | some header => ∃ username password, c.Says "username" (some username) ∧ c.Says "password" password ∧
      header = env.basic username password ∧ env.headerValue header = .ok ()

def Scfg.SaysUserAgent (userAgent : String) : Prop :=
  c.named "user_agent" = [] ∧ userAgent = defaultUserAgent env ∨
    ∃ d, c.named "user_agent" = [d] ∧ userAgent = "".intercalate d.params ∧ userAgent ≠ "" ∧
      env.headerValue userAgent = .ok ()

/-- What the block says about TLS, and that it can be used. -/
structure Scfg.SaysTls (tls : TlsConfig) : Prop where
  told : c.Told tls
  root : ∀ path ∈ tls.root, env.rootStore path = .ok ()
  fingerprint : ∀ hex ∈ tls.fingerprint, env.fingerprint hex = .ok ()
  clientAuth : ∀ files ∈ tls.clientAuth, env.clientAuth files.1 files.2 = .ok ()
  usable : env.tlsConfig tls = .ok ()

/-- How connections are made: through the proxy of the environment, if there is one. -/
def Outside.Connects (tls : TlsConfig) (connector : Connector) : Prop :=
  match env.httpProxy with
  | some proxyUrl => env.uri proxyUrl = .ok () ∧ connector = .proxy proxyUrl tls
  | none => connector = .https tls

/-- The client of a storage that is reached over the network. -/
structure Scfg.SaysClient (client : Client) : Prop where
  auth : c.SaysAuth env client.auth
  userAgent : c.SaysUserAgent env client.userAgent
  connector : ∃ tls, c.SaysTls env tls ∧ env.Connects tls client.connector

/-- The client of a storage behind a socket. What the block says about TLS, and the proxy, are not looked at. -/
structure Scfg.SaysSocketClient (client : Client) : Prop where
  auth : c.SaysAuth env client.auth
  userAgent : c.SaysUserAgent env client.userAgent
  connector : ∃ path, c.Says "socket" (some path) ∧ client.connector = .unix path

/-! ## Storages -/

inductive Scfg.SaysVdir (itemKind : ItemKind) (ro : Bool) : DynStorage S → Prop
  | intro {path dir : String} {fileext : Option String} : c.Says "path" (some path) → expandTilde env.home path = .ok dir →
      c.named "encoding" = [] → env.vdirBuilder dir = .ok () → c.Says "fileext" fileext →
      SaysVdir itemKind ro (intoArc (env.vdir dir (fileext.map (stripPrefix '.')) itemKind) ro)

/-- A CalDAV or CardDAV storage. Its services are discovered if it is not behind a socket. -/
inductive Scfg.SaysDav (finish : Client → String → Option CollectionIdSegment → Bool → Except Fault S) (ro : Bool) :
    DynStorage S → Prop
  | https {url : String} {segment : Option CollectionIdSegment} {client : Client} {storage : S} :
      c.Says "url" (some url) → env.uri url = .ok () → c.SaysSegment segment → c.named "socket" = [] →
      c.SaysClient env client → finish client url segment true = .ok storage → SaysDav finish ro (intoArc storage ro)
  | socket {url : String} {segment : Option CollectionIdSegment} {client : Client} {storage : S} :
      c.Says "url" (some url) → env.uri url = .ok () → c.SaysSegment segment → c.SaysSocketClient env client →
      finish client url segment false = .ok storage → SaysDav finish ro (intoArc storage ro)

inductive Scfg.SaysWebcal : DynStorage S → Prop
  | intro {url collectionId : String} {client : Client} : c.Says "url" (some url) → env.uri url = .ok () →
      c.SaysClient env client → c.Says "collection_id" (some collectionId) → env.collectionId collectionId = .ok () →
      SaysWebcal (.plain (env.webcal client url collectionId))

inductive Scfg.SaysJmap (itemKind : ItemKind) (ro : Bool) : DynStorage S → Prop
  | intro {url : String} {client : Client} {storage : S} : c.Says "url" (some url) → c.SaysClient env client →
      env.jmap client url itemKind = .ok storage → SaysJmap itemKind ro (intoArc storage ro)

/-- The storage of a type. -/
def Scfg.SaysType (ro : Bool) (type_ : String) : DynStorage S → Prop :=
  match type_ with
  | "vdir/icalendar" => c.SaysVdir env .calendar ro
  | "vdir/vcard" => c.SaysVdir env .addressBook ro
  | "carddav" => c.SaysDav env env.carddav ro
  | "caldav" => c.SaysDav env env.caldav ro
  | "webcal" => c.SaysWebcal env
  | "jmap/icalendar" => c.SaysJmap env .calendar ro
  | "jmap/vcard" => c.SaysJmap env .addressBook ro
  | _ => fun _ => False

/-- **What a storage's block says**: a storage, and its interval. -/
def Scfg.SaysStorage (storage : DynStorage S) (interval : Duration) : Prop :=
  ∃ type_ ro, c.Says "type" (some type_) ∧ c.SaysInterval interval ∧ c.SaysReadOnly ro ∧ c.SaysType env ro type_ storage

/-! ## The parsers of directives -/

namespace Reader

theorem follows_parseInterval : parseInterval.Follows ["interval"] fun c interval => c.SaysInterval interval :=
  follows_value (follows_pure 300) fun _ => ((follows_lift _).context _)

theorem follows_parseReadOnly : parseReadOnly.Follows ["read_only"] fun c ro => c.SaysReadOnly ro := by
  refine (follows_optional (H := fun d ro => d.params = [] ∧ ro = true) (follows_pure false) fun d => ?_).of_iff fun c ro => ?_
  · dsimp only
    split
    · next h => exact (follows_bail _).of_iff fun _ ro => ⟨False.elim, fun hd => h hd.1⟩
    · next h => exact (follows_pure true).of_iff fun _ ro => ⟨fun hro => ⟨not_not.mp h, hro⟩, And.right⟩
  · cases ro with
    | false => simp [Scfg.SaysReadOnly]
    | true =>
      constructor
      · rintro (⟨-, h⟩ | ⟨⟨params, child⟩, hd, rfl, -⟩)
        · cases h
        · exact ⟨child, hd⟩
      · rintro ⟨child, hd⟩
        exact .inr ⟨_, hd, rfl, rfl⟩

theorem follows_parseCollectionIdSegment :
    parseCollectionIdSegment.Follows ["collection_id_segment"] fun c segment => c.SaysSegment segment := by
  refine (follows_value (H := fun v segment => ∃ s, v = CollectionIdSegment.word s ∧ segment = some s) (follows_pure none)
    fun v => ?_).of_iff fun c segment => ?_
  · split
    · exact (follows_pure _).of_iff fun _ segment => by
        constructor
        · rintro rfl
          exact ⟨.last, rfl, rfl⟩
        · rintro ⟨_ | _, h, rfl⟩
          · rfl
          · exact absurd h (by decide)
    · exact (follows_pure _).of_iff fun _ segment => by
        constructor
        · rintro rfl
          exact ⟨.secondLast, rfl, rfl⟩
        · rintro ⟨_ | _, h, rfl⟩
          · exact absurd h (by decide)
          · rfl
    · next hlast hsecond =>
      exact (follows_bail _).of_iff fun _ segment => by
        constructor
        · rintro ⟨⟩
        · rintro ⟨_ | _, h, rfl⟩
          · exact hlast h
          · exact hsecond h
  · cases segment with
    | none => simp [Scfg.SaysSegment]
    | some s =>
      constructor
      · rintro (⟨-, h⟩ | ⟨v, hv, s', rfl, h⟩)
        · cases h
        · cases h
          exact hv
      · intro h
        exact .inr ⟨_, h, s, rfl, rfl⟩

theorem follows_parseFileext :
    parseFileext.Follows ["fileext"] fun c fileext => ∃ v, c.Says "fileext" v ∧ fileext = v.map (stripPrefix '.') := by
  refine (follows_optional (H := fun d fileext => ∃ v, d.params = [v] ∧ fileext = some (stripPrefix '.' v)) (follows_pure none)
    fun d => (follows_param d).bindSilent fun v => follows_pure _).of_iff fun c fileext => ?_
  rw [exists_params_iff]
  constructor
  · rintro (⟨hnone, rfl⟩ | ⟨v, hv, rfl⟩)
    · exact ⟨none, hnone, rfl⟩
    · exact ⟨some v, hv, rfl⟩
  · rintro ⟨_ | v, hv, rfl⟩
    · exact .inl ⟨hv, rfl⟩
    · exact .inr ⟨v, hv, rfl⟩

theorem follows_parseAuth : (parseAuth env).Follows ["username", "password"] fun c auth => c.SaysAuth env auth := by
  refine ((follows_takeParam "username").bind ["password"]
    (H := fun username c auth => match username with
      | none => auth = none
      | some username => ∃ password, c.Says "password" password ∧ env.headerValue (env.basic username password) = .ok () ∧
        auth = some (env.basic username password)) (by decide) fun username => ?_).of_iff fun c auth => ?_
  · cases username with
    | none => exact (follows_pure none).weaken (by simp)
    | some username =>
      exact (follows_takeParam "password").bindSilent fun password => ((follows_check _).context _).check (follows_pure _)
  · cases auth with
    | none =>
      constructor
      · rintro ⟨_ | username, husername, h⟩
        · exact husername
        · obtain ⟨_, _, _, h⟩ := h
          cases h
      · intro h
        exact ⟨none, h, rfl⟩
    | some header =>
      constructor
      · rintro ⟨_ | username, husername, h⟩
        · cases h
        · obtain ⟨password, hpassword, hheader, h⟩ := h
          cases h
          exact ⟨username, password, husername, hpassword, rfl, hheader⟩
      · rintro ⟨username, password, husername, hpassword, rfl, hheader⟩
        exact ⟨some username, husername, password, hpassword, hheader, rfl⟩

theorem follows_parseUserAgent :
    (parseUserAgent env).Follows ["user_agent"] fun c userAgent => c.SaysUserAgent env userAgent := by
  refine follows_optional (follows_pure _) fun d => ?_
  dsimp only
  split
  · next h => exact (follows_bail _).of_iff fun _ userAgent => ⟨False.elim, fun hd => hd.2.1 (hd.1.trans h)⟩
  · next h =>
    refine (((follows_check _).context _).check (follows_pure _)).of_iff fun _ userAgent => ?_
    constructor
    · rintro ⟨hheader, rfl⟩
      exact ⟨rfl, h, hheader⟩
    · rintro ⟨rfl, -, hheader⟩
      exact ⟨hheader, rfl⟩

/-- The directives of `parse_tls_config`. -/
def tlsNames : List String := ["tls_root", "tls_fingerprint", "auth_cert"]

theorem follows_parseTlsConfig : (parseTlsConfig env).Follows tlsNames fun c tls => c.SaysTls env tls where
  ok := parseTlsConfig_ok.trans ⟨fun ⟨htold, hroot, hfp, hauth, husable⟩ => ⟨htold, hroot, hfp, hauth, husable⟩,
    fun h => ⟨h.told, h.root, h.fingerprint, h.clientAuth, h.usable⟩⟩
  keeps name hname := by
    simp only [tlsNames, List.mem_cons, List.not_mem_nil, or_false, not_or] at hname
    obtain ⟨hroot, hfp, hauth⟩ := hname
    have hkeepsRoot : (parseTlsRoot env).Keeps name := by
      rw [show parseTlsRoot env = Reader.takeLoaded "tls_root" _ _ from takeChecked_eq]
      exact keeps_takeLoaded hroot
    have hkeepsFp : (parseTlsFingerprint env).Keeps name := by
      rw [show parseTlsFingerprint env = Reader.takeLoaded "tls_fingerprint" _ _ from takeChecked_eq]
      exact keeps_takeLoaded hfp
    have hkeepsAuth : (parseAuthCert env).Keeps name := by
      refine (keeps_takeDirective hauth).bind fun d => ?_
      cases d with
      | none => exact keeps_pure _
      | some d =>
        dsimp only
        split
        · exact fun _ => rfl
        · exact (keeps_lift _).bind fun _ => keeps_pure _
    exact hkeepsRoot.bind fun _ => hkeepsFp.bind fun _ => hkeepsAuth.bind fun _ => (keeps_lift _).bind fun _ => keeps_pure _
  congr h htls := by
    refine ⟨⟨?_, ?_, ?_⟩, htls.root, htls.fingerprint, htls.clientAuth, htls.usable⟩
    · exact (Scfg.Says.congr (h _ (by decide))).mpr htls.told.root
    · exact (Scfg.Says.congr (h _ (by decide))).mpr htls.told.fingerprint
    · exact (Scfg.SaysFiles.congr (h _ (by decide))).mpr htls.told.clientAuth

theorem follows_proxyConnector (tls : TlsConfig) :
    (proxyConnector env tls).Follows [] fun _ connector => env.Connects tls connector := by
  unfold proxyConnector Outside.Connects
  cases env.httpProxy with
  | some proxyUrl => exact ((follows_check _).context _).check (follows_pure _)
  | none => exact follows_pure _

/-! ## The parsers of storages -/

theorem follows_parseVdir (itemKind : ItemKind) (ro : Bool) :
    (parseVdir env itemKind ro).Follows ["path", "encoding", "fileext"] fun c storage =>
      c.SaysVdir env itemKind ro storage := by
  refine ((follows_takeParamFrom "path").bind ["encoding", "fileext"] (by decide) fun path =>
    ((follows_liftFault _).context _).bind ["encoding", "fileext"] (by decide) fun dir =>
    (follows_remove "encoding").bind ["fileext"] (H := fun ds c storage => ds = none ∧ env.vdirBuilder dir = .ok () ∧
      ∃ fileext, c.Says "fileext" fileext ∧ storage = intoArc (env.vdir dir (fileext.map (stripPrefix '.')) itemKind) ro)
      (by decide) fun ds => ?_).of_iff fun c storage => ?_
  · cases ds with
    | some ds => exact ((follows_bail _).weaken (by simp)).of_iff fun _ _ => by simp
    | none =>
      refine ((follows_check _).check (follows_parseFileext.bindSilent fun _ => follows_pure _)).of_iff fun c storage => ?_
      constructor
      · rintro ⟨hbuilder, _, ⟨fileext, hfileext, rfl⟩, rfl⟩
        exact ⟨rfl, hbuilder, fileext, hfileext, rfl⟩
      · rintro ⟨-, hbuilder, fileext, hfileext, rfl⟩
        exact ⟨hbuilder, _, ⟨fileext, hfileext, rfl⟩, rfl⟩
  · constructor
    · rintro ⟨path, hpath, dir, hdir, _, hds, rfl, hbuilder, fileext, hfileext, rfl⟩
      exact .intro hpath hdir (Scfg.remove_fst_eq_none.mp hds.symm) hbuilder hfileext
    · rintro ⟨hpath, hdir, hencoding, hbuilder, hfileext⟩
      exact ⟨_, hpath, _, hdir, _, (Scfg.remove_fst_eq_none.mpr hencoding).symm, rfl, hbuilder, _, hfileext, rfl⟩

/-- The directives of a client, other than those of its credentials. -/
def clientNames : List String := tlsNames ++ ["user_agent"]

/-- What is left to read of a storage that is reached over the network, once its credentials are known. -/
theorem follows_client {α : Type} {f : Client → Reader α} {H : Client → α → Prop} (auth : Option String)
    (hf : ∀ client, (f client).Follows [] fun _ => H client) :
    (do
      let tls ← parseTlsConfig env
      let userAgent ← parseUserAgent env
      let connector ← proxyConnector env tls
      f ⟨connector, auth, userAgent⟩ : Reader α).Follows clientNames fun c a => ∃ client : Client, client.auth = auth ∧
        c.SaysUserAgent env client.userAgent ∧ (∃ tls, c.SaysTls env tls ∧ env.Connects tls client.connector) ∧ H client a := by
  refine ((follows_parseTlsConfig env).bind ["user_agent"] (by decide) fun tls =>
    (follows_parseUserAgent env).bindSilent fun userAgent =>
    (follows_proxyConnector env tls).bindSilent fun connector => hf _).of_iff fun c a => ?_
  constructor
  · rintro ⟨tls, htls, userAgent, huserAgent, connector, hconnector, ha⟩
    exact ⟨⟨connector, auth, userAgent⟩, rfl, huserAgent, ⟨tls, htls, hconnector⟩, ha⟩
  · rintro ⟨⟨connector, _, userAgent⟩, rfl, huserAgent, ⟨tls, htls, hconnector⟩, ha⟩
    exact ⟨tls, htls, userAgent, huserAgent, connector, hconnector, ha⟩

/-- The directives of CalDAV and CardDAV storages. -/
def davNames : List String := ["url", "collection_id_segment", "socket", "username", "password"] ++ clientNames

theorem follows_parseDav (kind : String) (finish : Client → String → Option CollectionIdSegment → Bool → Except Fault S)
    (ro : Bool) : (parseDav env kind finish ro).Follows davNames fun c storage => c.SaysDav env finish ro storage := by
  have hfinish : ∀ url segment (client : Client) discover, (do
      return intoArc (← Prog.lift (finish client url segment discover)) ro : Reader (DynStorage S)).Follows []
        fun _ storage => ∃ s, finish client url segment discover = .ok s ∧ storage = intoArc s ro :=
    fun url segment client discover => (follows_liftFault _).bindSilent fun s => follows_pure _
  -- what is read of a storage behind a socket, and of one in the network
  have hsocket : ∀ (url : String) (segment : Option CollectionIdSegment) (auth : Option String) (d : Directive), (do
      let socketPath ← (lift (takeSingleParam d)).context "Parsing socket directive"
      let userAgent ← parseUserAgent env
      return intoArc (← Prog.lift (finish ⟨.unix socketPath, auth, userAgent⟩ url segment false)) ro :
        Reader (DynStorage S)).Follows clientNames fun c storage => ∃ path, d.params = [path] ∧
          ∃ userAgent, c.SaysUserAgent env userAgent ∧
          ∃ s, finish ⟨.unix path, auth, userAgent⟩ url segment false = .ok s ∧ storage = intoArc s ro := by
    intro url segment auth d
    refine Follows.weaken ?_ (show ["user_agent"] ⊆ clientNames by decide)
    exact ((follows_param d).context _).bind ["user_agent"] (by simp) fun path =>
      (follows_parseUserAgent env).bindSilent fun userAgent => hfinish _ _ _ _
  have hnetwork : ∀ (url : String) (segment : Option CollectionIdSegment) (auth : Option String), (do
      let tls ← parseTlsConfig env
      let userAgent ← parseUserAgent env
      let connector ← proxyConnector env tls
      return intoArc (← Prog.lift (finish ⟨connector, auth, userAgent⟩ url segment true)) ro :
        Reader (DynStorage S)).Follows clientNames fun c storage => ∃ client : Client, client.auth = auth ∧
          c.SaysUserAgent env client.userAgent ∧ (∃ tls, c.SaysTls env tls ∧ env.Connects tls client.connector) ∧
          ∃ s, finish client url segment true = .ok s ∧ storage = intoArc s ro :=
    fun url segment auth => follows_client env auth fun client => hfinish _ _ _ _
  refine ((follows_takeParamFrom "url").bind _ (by decide) fun url => ((follows_check _).context _).check <|
    follows_parseCollectionIdSegment.bind _ (by decide) fun segment =>
    (follows_takeDirective "socket").bind _ (by decide) fun socket =>
    ((follows_parseAuth env).context _).bind clientNames (by decide) fun auth =>
    follows_cases socket (hnetwork url segment auth) (hsocket url segment auth)).of_iff fun c storage => ?_
  constructor
  · rintro ⟨url, hurl, huri, segment, hsegment, _ | ⟨params, child⟩, hsocket, auth, hauth, h⟩
    · obtain ⟨client, rfl, huserAgent, hconnector, s, hs, rfl⟩ := h
      exact .https hurl huri hsegment hsocket ⟨hauth, huserAgent, hconnector⟩ hs
    · obtain ⟨path, rfl, userAgent, huserAgent, s, hs, rfl⟩ := h
      exact .socket hurl huri hsegment ⟨hauth, huserAgent, path, ⟨child, hsocket⟩, rfl⟩ hs
  · rintro (@⟨url, segment, client, s, hurl, huri, hsegment, hsocket, hclient, hs⟩ |
      @⟨url, segment, client, s, hurl, huri, hsegment, hclient, hs⟩)
    · exact ⟨url, hurl, huri, segment, hsegment, none, hsocket, client.auth, hclient.auth, client, rfl, hclient.userAgent,
        hclient.connector, s, hs, rfl⟩
    · obtain ⟨connector, auth, userAgent⟩ := client
      obtain ⟨hauth, huserAgent, path, ⟨child, hpath⟩, rfl⟩ := hclient
      exact ⟨url, hurl, huri, segment, hsegment, some ⟨[path], child⟩, hpath, auth, hauth, path, rfl, userAgent,
        huserAgent, s, hs, rfl⟩

theorem follows_parseWebcal : (parseWebcal env).Follows
    (["url", "username", "password"] ++ (tlsNames ++ ["user_agent", "collection_id"])) fun c storage =>
      c.SaysWebcal env storage := by
  have hread : (parseWebcal env).Follows (["url", "username", "password"] ++ (tlsNames ++ ["user_agent", "collection_id"]))
      fun c storage => ∃ url, c.Says "url" (some url) ∧ env.uri url = .ok () ∧ ∃ auth, c.SaysAuth env auth ∧
        ∃ tls, c.SaysTls env tls ∧ ∃ userAgent, c.SaysUserAgent env userAgent ∧
        ∃ collectionId, c.Says "collection_id" (some collectionId) ∧ env.collectionId collectionId = .ok () ∧
        ∃ connector, env.Connects tls connector ∧ storage = .plain (env.webcal ⟨connector, auth, userAgent⟩ url collectionId) :=
    ((follows_takeParamFrom "url").context _).bind _ (by decide) fun url => (follows_check _).check <|
    ((follows_parseAuth env).context _).bind _ (by decide) fun auth =>
    (follows_parseTlsConfig env).bind _ (by decide) fun tls =>
    (follows_parseUserAgent env).bind _ (by decide) fun userAgent =>
    (follows_takeParamFrom "collection_id").bindSilent fun collectionId => ((follows_check _).context _).check <|
    (follows_proxyConnector env tls).bindSilent fun connector =>
    follows_pure _
  refine hread.of_iff fun c storage => ?_
  constructor
  · rintro ⟨url, hurl, huri, auth, hauth, tls, htls, userAgent, huserAgent, collectionId, hcollection, hid, connector,
      hconnector, rfl⟩
    exact .intro hurl huri ⟨hauth, huserAgent, tls, htls, hconnector⟩ hcollection hid
  · rintro @⟨url, collectionId, client, hurl, huri, ⟨hauth, huserAgent, tls, htls, hconnector⟩, hcollection, hid⟩
    exact ⟨url, hurl, huri, _, hauth, tls, htls, _, huserAgent, collectionId, hcollection, hid, _, hconnector, rfl⟩

theorem follows_parseJmap (itemKind : ItemKind) (ro : Bool) : (parseJmap env itemKind ro).Follows
    (["url", "username", "password"] ++ clientNames) fun c storage => c.SaysJmap env itemKind ro storage := by
  refine ((follows_takeParamFrom "url").bind _ (by decide) fun url =>
    ((follows_parseAuth env).context _).bind _ (by decide) fun auth =>
    follows_client env auth fun client =>
    (follows_liftFault (env.jmap client url itemKind)).bindSilent fun s =>
    follows_pure (intoArc s ro)).of_iff fun c storage => ?_
  constructor
  · rintro ⟨url, hurl, _, hauth, client, rfl, huserAgent, hconnector, s, hs, rfl⟩
    exact .intro hurl ⟨hauth, huserAgent, hconnector⟩ hs
  · rintro @⟨url, client, s, hurl, hclient, hs⟩
    exact ⟨url, hurl, _, hclient.auth, client, rfl, hclient.userAgent, hclient.connector, s, hs, rfl⟩

/-- The directives of all types. -/
def typeNames : List String := ["path", "encoding", "fileext", "collection_id"] ++ davNames

theorem follows_parseStorage (type_ : String) (ro : Bool) :
    (parseStorage env type_ ro).Follows typeNames fun c storage => c.SaysType env ro type_ storage := by
  unfold parseStorage
  split
  · exact (follows_parseVdir env .calendar ro).weaken (by decide)
  · exact (follows_parseVdir env .addressBook ro).weaken (by decide)
  · exact (follows_parseDav env "carddav" env.carddav ro).weaken (by decide)
  · exact (follows_parseDav env "caldav" env.caldav ro).weaken (by decide)
  · exact (follows_parseWebcal env).weaken (by decide)
  · exact (follows_parseJmap env .calendar ro).weaken (by decide)
  · exact (follows_parseJmap env .addressBook ro).weaken (by decide)
  · refine ((follows_bail _).weaken (by simp)).of_iff fun c storage => ?_
    unfold Scfg.SaysType
    split <;> simp_all

theorem follows_initStorage : (initStorage env).Follows (["type", "interval", "read_only"] ++ typeNames) fun c made =>
    c.SaysStorage env made.1 made.2 := by
  refine ((follows_takeParamFrom "type").bind _ (by decide) fun type_ =>
    follows_parseInterval.bind _ (by decide) fun interval =>
    follows_parseReadOnly.bind _ (by decide) fun ro =>
    (follows_parseStorage env type_ ro).bindSilent fun storage =>
    follows_pure _).of_iff fun c made => ?_
  constructor
  · rintro ⟨type_, htype, interval, hinterval, ro, hro, storage, hstorage, rfl⟩
    exact ⟨type_, ro, htype, hinterval, hro, hstorage⟩
  · rintro ⟨type_, ro, htype, hinterval, hro, hstorage⟩
    exact ⟨type_, htype, _, hinterval, ro, hro, _, hstorage, rfl⟩

end Reader

/-- **`init_storage` makes what the block says**: a storage and an interval, if it says one, and an error or a panic if not. -/
theorem initStorage_iff {storage : DynStorage S} {interval : Duration} :
    initStorageOutcome env c = .ok storage interval ↔ c.SaysStorage env storage interval := by
  rw [← (Reader.follows_initStorage env).ok (a := (storage, interval)), initStorageOutcome]
  split
  · next h => simp [h]
  · next h => simp [h]
  · next h => simp [h]

end Pimsync
