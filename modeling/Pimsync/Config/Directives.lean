import Pimsync.Config.NamesAgree
import Pimsync.Config.StringFields

/-!
# What a directive may look like

Each directive of a pair or of a storage is taken from its block by one function or, if it may be given as a command, by
two. `Accepts` says of a directive, whatever its parameters and its block, that this function goes through some block
with it.

- `ValueField.accepts_iff`: the directives that carry one value are accepted with any block at all;
- `parseCollectionBlock_isOk`: the block of a `collection` is accepted if and only if it is a mapping.
-/

namespace Pimsync

/-! ## Directives and the functions that take them -/

/-- A directive that carries one value. -/
inductive ValueField
  | storage (side : Side)
  | alias
  | id (side : Side)
  | href (side : Side)
  | onEmpty
  | onDelete
  | type
  | interval
  | path
  | fileext
  | url
  | username
  | password
  | collectionIdSegment
  | collectionId
  | tlsRoot
  | tlsFingerprint

/-- The other directives. `dynamic` is one that `resolve_cmd_inplace` takes, by its name. -/
inductive Field
  | value (field : ValueField)
  | dynamic (name : String)
  | cmd
  | shell
  | collections
  | collection
  | conflictResolution
  | oneWay
  | readOnly
  | userAgent
  | authCert
  | socket
  | encoding

/-- Some block with the directive goes through the parser. -/
def Reader.Passes {α : Type} (p : Reader α) (name : String) (directive : Directive) : Prop :=
  ∃ config a, directive ∈ config.named name ∧ (p config).result = .ok a

def idField : Side → String
  | .a => "id_a"
  | .b => "id_b"

def hrefField : Side → String
  | .a => "href_a"
  | .b => "href_b"

/-- The values of `type`. -/
def storageTypes : List String :=
  ["vdir/icalendar", "vdir/vcard", "carddav", "caldav", "webcal", "jmap/icalendar", "jmap/vcard"]

/-- The function that takes the directive accepts it, in some environment. -/
def ValueField.Accepts : ValueField → Directive → Prop
  | .storage side, d => ∃ dir pair child task, d ∈ child.named side.field ∧ PairTask.new dir (pair, child) = .ok task
  | .alias, d => ∃ collectionId, (parseCollectionBlock collectionId).Passes "alias" d
  | .id side, d => ∃ collectionId, (parseCollectionBlock collectionId).Passes (idField side) d
  | .href side, d => ∃ collectionId, (parseCollectionBlock collectionId).Passes (hrefField side) d
  | .onEmpty, d => ∃ onEmpty, parseOnEmpty d = .ok onEmpty
  | .onDelete, d => ∃ onDelete, parseOnDelete d = .ok onDelete
  | .type, d => ∃ (S : Type) (env : Outside S), (initStorage env).Passes "type" d
  | .interval, d => parseInterval.Passes "interval" d
  | .path, d => ∃ (S : Type) (env : Outside S) (itemKind : ItemKind) (ro : Bool), (parseVdir env itemKind ro).Passes "path" d
  | .fileext, d => parseFileext.Passes "fileext" d
  | .url, d => ∃ (S : Type) (env : Outside S) (type_ : String) (ro : Bool),
      "url" ∈ stringFields type_ ∧ (parseStorage env type_ ro).Passes "url" d
  | .username, d => ∃ (S : Type) (env : Outside S), (parseAuth env).Passes "username" d
  -- without a user name, the password is not taken
  | .password, d => ∃ (S : Type) (env : Outside S) (config : Scfg) (auth : Option String),
      config.named "username" ≠ [] ∧ d ∈ config.named "password" ∧ (parseAuth env config).result = .ok auth
  | .collectionIdSegment, d => parseCollectionIdSegment.Passes "collection_id_segment" d
  | .collectionId, d => ∃ (S : Type) (env : Outside S), (parseWebcal env).Passes "collection_id" d
  | .tlsRoot, d => ∃ (S : Type) (env : Outside S), (parseTlsRoot env).Passes "tls_root" d
  | .tlsFingerprint, d => ∃ (S : Type) (env : Outside S), (parseTlsFingerprint env).Passes "tls_fingerprint" d

/-- The function that takes the directive accepts it, in some environment. -/
def Field.Accepts : Field → Directive → Prop
  | .value field, d => field.Accepts d
  | .dynamic name, d => ∃ (σ : Type) (exec : Exec σ) (s : σ) (storage storage' : Scfg),
      d ∈ storage.named name ∧ (resolveCmdInplace exec storage name s).result = .ok storage'
  | .cmd, d => ∃ block cmd, d ∈ block.named "cmd" ∧ rawCmd block = .ok cmd
  -- where there is a `cmd`, the `shell` is not taken
  | .shell, d => ∃ block cmd, block.named "cmd" = [] ∧ d ∈ block.named "shell" ∧ rawCmd block = .ok cmd
  | .collections, d => ∃ collectionId, (parsePairCollections collectionId).Passes "collections" d
  | .collection, d => ∃ collectionId, (parsePairCollections collectionId).Passes "collection" d
  | .conflictResolution, d => ∃ resolution, parseConflictResolution d = .ok resolution
  | .oneWay, d => parseMode.Passes "one_way" d
  | .readOnly, d => parseReadOnly.Passes "read_only" d
  | .userAgent, d => ∃ (S : Type) (env : Outside S), (parseUserAgent env).Passes "user_agent" d
  | .authCert, d => ∃ (S : Type) (env : Outside S), (parseAuthCert env).Passes "auth_cert" d
  | .socket, d => ∃ (S : Type) (env : Outside S) (kind : String)
      (finish : Client → String → Option CollectionIdSegment → Bool → Except Fault S) (ro : Bool),
      (parseDav env kind finish ro).Passes "socket" d
  | .encoding, d => ∃ (S : Type) (env : Outside S) (itemKind : ItemKind) (ro : Bool),
      (parseVdir env itemKind ro).Passes "encoding" d

/-- The directive has one parameter, which `P` accepts, and any block. -/
def Directive.OneValue (P : String → Prop) (d : Directive) : Prop := ∃ v child, d = ⟨[v], child⟩ ∧ P v

theorem oneValue_iff {P : String → Prop} {d : Directive} : d.OneValue P ↔ ∃ v, d.params = [v] ∧ P v := by
  obtain ⟨params, child⟩ := d
  simp [Directive.OneValue]

namespace Reader

variable {α β : Type} {name : String} {d : Directive} {p : Reader α} {f : Option Directive → Reader α}

theorem named_single (name : String) (d : Directive) : Scfg.named [(name, d)] name = [d] := by simp [Scfg.named]

theorem passes_single {a : α} (h : (p [(name, d)]).result = .ok a) : p.Passes name d :=
  ⟨_, a, by rw [named_single]; exact List.mem_singleton_self d, h⟩

/-- What is taken once is there once, and the parser goes on with it. -/
theorem takeDirective_bind_ok {config : Scfg} {a : α} (hd : d ∈ config.named name)
    (h : ((takeDirective name >>= f) config).result = .ok a) :
    config.named name = [d] ∧ (f (some d) (config.remove name).2).result = .ok a := by
  obtain ⟨d', h₁, h₂⟩ := Prog.bind_result_ok.mp h
  rcases htake : takeSingleDirective config name with e | ⟨d'', rest⟩
  · rw [takeDirective_run_error htake] at h₁
    cases h₁
  · rw [takeDirective_run_ok htake] at h₁ h₂
    cases h₁
    obtain ⟨hn, rfl⟩ := takeSingleDirective_eq_ok.mp htake
    rw [hn, Option.mem_toList] at hd
    obtain rfl : d' = some d := hd
    exact ⟨hn, h₂⟩

/-- A parser that takes a directive and goes on without the rest of the block. -/
theorem passes_takeDirective {a : α} (h : (f (some d) []).result = .ok a) : (takeDirective name >>= f).Passes name d := by
  refine passes_single (a := a) (Prog.bind_result_ok.mpr ⟨some d, ?_⟩)
  have htake : takeSingleDirective [(name, d)] name = .ok (some d, []) :=
    takeSingleDirective_eq_ok.mpr ⟨named_single name d, by simp [Scfg.remove]⟩
  rw [takeDirective_run_ok htake]
  exact ⟨rfl, h⟩

theorem takeDirective_ok {config : Scfg} {d : Option Directive} :
    (takeDirective name config).result = .ok d ↔ config.named name = d.toList := by
  constructor
  · intro h
    rcases htake : takeSingleDirective config name with e | ⟨d', rest⟩
    · rw [takeDirective_run_error htake] at h
      cases h
    · rw [takeDirective_run_ok htake] at h
      cases h
      exact (takeSingleDirective_eq_ok.mp htake).1
  · intro h
    rw [takeDirective_run_ok (takeSingleDirective_eq_ok.mpr ⟨h, rfl⟩)]

theorem takeParamFrom_eq_ok {config : Scfg} {v : String} :
    (takeParamFrom name config).result = .ok v ↔ ∃ child, config.named name = [⟨[v], child⟩] := by
  refine ⟨takeParamFrom_ok, fun ⟨child, hn⟩ => Prog.bind_result_ok.mpr ⟨some ⟨[v], child⟩, takeDirective_ok.mpr hn, ?_⟩⟩
  rfl

/-- What `take_single_directive` and `take_single_param` return together. -/
theorem takeParam_ok {config : Scfg} {param : Option String} (h : (takeParam name config).result = .ok param) :
    (param = none ∧ config.named name = []) ∨ ∃ v child, param = some v ∧ config.named name = [⟨[v], child⟩] := by
  obtain ⟨directive, htake, hparam⟩ := Prog.bind_result_ok.mp h
  have hnamed := takeDirective_ok.mp htake
  cases directive with
  | none =>
    cases hparam
    exact .inl ⟨rfl, hnamed⟩
  | some directive =>
    obtain ⟨⟨⟩, -, hparam⟩ := Prog.bind_result_ok.mp hparam
    obtain ⟨v, hv, hparam⟩ := Prog.bind_result_ok.mp hparam
    cases hparam
    obtain ⟨params, child⟩ := directive
    obtain rfl : params = [v] := takeSingleParam_eq_ok.mp (by
      cases hd : takeSingleParam ⟨params, child⟩ with
      | error e => simp [lift, hd, Except.mapError] at hv
      | ok v' => simpa [lift, hd, Except.mapError] using hv)
    exact .inr ⟨v, child, rfl, hnamed⟩

theorem lift_ok {r : Except Error α} {a : α} {config : Scfg} : ((lift r) config).result = .ok a ↔ r = .ok a := by
  cases r <;> simp [lift, Except.mapError]

theorem context_ok {msg : String} {a : α} {config : Scfg} :
    ((context msg p) config).result = .ok a ↔ (p config).result = .ok a := by
  rw [context, Prog.mapError_run]
  cases (p config).result <;> simp [Except.mapError]

/-- A parser that takes the one parameter of the directive, and goes on. -/
theorem param_ok {msg : String} {config : Scfg} {g : String → Reader α} {a : α} :
    (((lift (takeSingleParam d)).context msg >>= g) config).result = .ok a ↔
      ∃ v, d.params = [v] ∧ (g v config).result = .ok a := by
  rw [Prog.bind_result_ok]
  refine exists_congr fun v => ?_
  rw [context_ok, lift_ok, takeSingleParam_eq_ok]
  rfl

/-- What a parser of a value goes through has one, with which it goes on. -/
theorem oneValue_of_passes {msg : String} {g : String → Reader α}
    (hf : ∀ d, f (some d) = ((lift (takeSingleParam d)).context msg >>= g)) (h : (takeDirective name >>= f).Passes name d) :
    d.OneValue fun v => ∃ config a, (g v config).result = .ok a := by
  obtain ⟨config, a, hd, h⟩ := h
  obtain ⟨-, h⟩ := takeDirective_bind_ok hd h
  rw [hf] at h
  obtain ⟨v, hv, h⟩ := param_ok.mp h
  exact oneValue_iff.mpr ⟨v, hv, _, a, h⟩

theorem passes_of_oneValue {msg : String} {g : String → Reader α}
    (hf : ∀ d, f (some d) = ((lift (takeSingleParam d)).context msg >>= g))
    (h : d.OneValue fun v => ∃ a, (g v []).result = .ok a) : (takeDirective name >>= f).Passes name d := by
  obtain ⟨v, hv, a, ha⟩ := oneValue_iff.mp h
  refine passes_takeDirective (a := a) ?_
  rw [hf]
  exact param_ok.mpr ⟨v, hv, ha⟩

end Reader

/-! ## One value -/

/-- The values that are accepted. -/
def ValueField.Fits : ValueField → String → Prop
  | .onEmpty, v | .onDelete, v => v ∈ ["skip", "sync"]
  | .type, v => v ∈ storageTypes
  | .interval, v => ∃ n, parseU64 v = .ok n
  | .collectionIdSegment, v => v ∈ ["last", "second-last"]
  | _, _ => True

section Values

variable {d : Directive}

theorem interval_accepts_iff : parseInterval.Passes "interval" d ↔ d.OneValue fun v => ∃ n, parseU64 v = .ok n := by
  constructor
  · intro h
    obtain ⟨v, child, rfl, config, n, hn⟩ := Reader.oneValue_of_passes (fun _ => rfl) h
    exact ⟨v, child, rfl, n, Reader.lift_ok.mp (Reader.context_ok.mp hn)⟩
  · rintro ⟨v, child, rfl, n, hn⟩
    exact Reader.passes_of_oneValue (fun _ => rfl) ⟨v, child, rfl, n, Reader.context_ok.mpr (Reader.lift_ok.mpr hn)⟩

theorem collectionIdSegment_accepts_iff :
    parseCollectionIdSegment.Passes "collection_id_segment" d ↔ d.OneValue (· ∈ ["last", "second-last"]) := by
  constructor
  · intro h
    obtain ⟨v, child, rfl, config, segment, hv⟩ := Reader.oneValue_of_passes (fun _ => rfl) h
    refine ⟨v, child, rfl, ?_⟩
    split at hv
    · simp
    · simp
    · cases hv
  · rintro ⟨v, child, rfl, hmem⟩
    obtain rfl | rfl : v = "last" ∨ v = "second-last" := by simpa using hmem
    · exact Reader.passes_of_oneValue (fun _ => rfl) ⟨_, child, rfl, some .last, rfl⟩
    · exact Reader.passes_of_oneValue (fun _ => rfl) ⟨_, child, rfl, some .secondLast, rfl⟩

/-- A value that is one of some words. -/
theorem words_isOk {α : Type} {msg : String} {g : String → Except Error α} {words : List String}
    (hg : ∀ v, (∃ a, g v = .ok a) ↔ v ∈ words) :
    (∃ a, (context msg (takeSingleParam d) >>= g) = .ok a) ↔ d.OneValue (· ∈ words) := by
  rw [oneValue_iff]
  constructor
  · rintro ⟨a, h⟩
    obtain ⟨v, hv, h⟩ := bind_eq_ok.mp h
    exact ⟨v, takeSingleParam_eq_ok.mp (context_eq_ok.mp hv), (hg v).mp ⟨a, h⟩⟩
  · rintro ⟨v, hv, hmem⟩
    obtain ⟨a, ha⟩ := (hg v).mpr hmem
    exact ⟨a, bind_eq_ok.mpr ⟨v, context_eq_ok.mpr (takeSingleParam_eq_ok.mpr hv), ha⟩⟩

theorem onEmpty_accepts_iff : (∃ onEmpty, parseOnEmpty d = .ok onEmpty) ↔ d.OneValue (· ∈ ["skip", "sync"]) := by
  refine words_isOk fun v => ?_
  split
  · exact iff_of_true ⟨_, rfl⟩ (by simp)
  · exact iff_of_true ⟨_, rfl⟩ (by simp)
  · next hskip hsync => exact iff_of_false (fun ⟨_, h⟩ => by cases h) (by simpa using ⟨hskip, hsync⟩)

theorem onDelete_accepts_iff : (∃ onDelete, parseOnDelete d = .ok onDelete) ↔ d.OneValue (· ∈ ["skip", "sync"]) := by
  refine words_isOk fun v => ?_
  split
  · exact iff_of_true ⟨_, rfl⟩ (by simp)
  · exact iff_of_true ⟨_, rfl⟩ (by simp)
  · next hskip hsync => exact iff_of_false (fun ⟨_, h⟩ => by cases h) (by simpa using ⟨hskip, hsync⟩)

theorem fileext_accepts_iff : parseFileext.Passes "fileext" d ↔ d.OneValue fun _ => True := by
  rw [oneValue_iff]
  constructor
  · rintro ⟨config, fileext, hd, h⟩
    obtain ⟨-, h⟩ := Reader.takeDirective_bind_ok hd h
    obtain ⟨v, hv, -⟩ := Prog.bind_result_ok.mp h
    exact ⟨v, takeSingleParam_eq_ok.mp (Reader.lift_ok.mp hv), trivial⟩
  · rintro ⟨v, hv, -⟩
    exact Reader.passes_takeDirective (Prog.bind_result_ok.mpr ⟨v, Reader.lift_ok.mpr (takeSingleParam_eq_ok.mpr hv), rfl⟩)

/-- An outside world in which all goes well. -/
def Outside.permissive : Outside Unit where
  home := .dir "/home"
  version := "v1"
  httpProxy := none
  uri _ := .ok ()
  headerValue _ := .ok ()
  collectionId _ := .ok ()
  base64 s := s
  rootStore _ := .ok ()
  fingerprint _ := .ok ()
  clientAuth _ _ := .ok ()
  tlsConfig _ := .ok ()
  vdirBuilder _ := .ok ()
  vdir _ _ _ := ()
  carddav _ _ _ _ := .ok ()
  caldav _ _ _ _ := .ok ()
  webcal _ _ _ := ()
  jmap _ _ _ := .ok ()

theorem tlsRoot_accepts_iff :
    (∃ (S : Type) (env : Outside S), (parseTlsRoot env).Passes "tls_root" d) ↔ d.OneValue fun _ => True := by
  constructor
  · rintro ⟨S, env, h⟩
    obtain ⟨v, child, rfl, -⟩ := Reader.oneValue_of_passes (fun _ => rfl) h
    exact ⟨v, child, rfl, trivial⟩
  · rintro ⟨v, child, rfl, -⟩
    exact ⟨Unit, .permissive, Reader.passes_of_oneValue (fun _ => rfl) ⟨v, child, rfl, _, rfl⟩⟩

theorem tlsFingerprint_accepts_iff :
    (∃ (S : Type) (env : Outside S), (parseTlsFingerprint env).Passes "tls_fingerprint" d) ↔ d.OneValue fun _ => True := by
  constructor
  · rintro ⟨S, env, h⟩
    obtain ⟨v, child, rfl, -⟩ := Reader.oneValue_of_passes (fun _ => rfl) h
    exact ⟨v, child, rfl, trivial⟩
  · rintro ⟨v, child, rfl, -⟩
    exact ⟨Unit, .permissive, Reader.passes_of_oneValue (fun _ => rfl) ⟨v, child, rfl, _, rfl⟩⟩

theorem storage_accepts_iff (side : Side) : (∃ dir pair child task, d ∈ child.named side.field ∧
    PairTask.new dir (pair, child) = .ok task) ↔ d.OneValue fun _ => True := by
  constructor
  · rintro ⟨dir, pair, child, task, hd, h⟩
    obtain ⟨block, hn⟩ := PairTask.new_named h side
    rw [hn, List.mem_singleton] at hd
    exact ⟨_, block, hd, trivial⟩
  · rintro ⟨v, block, rfl, -⟩
    cases side with
    | a => exact ⟨"", "", [("storage_a", ⟨[v], block⟩), ("storage_b", ⟨[v], none⟩)], _,
        by simp [Side.field, Scfg.named], rfl⟩
    | b => exact ⟨"", "", [("storage_a", ⟨[v], none⟩), ("storage_b", ⟨[v], block⟩)], _,
        by simp [Side.field, Scfg.named], rfl⟩

/-- A directive of which a parser takes the one parameter first. -/
theorem oneValue_of_takeParamFrom {α : Type} {name : String} {config : Scfg} {a : α} {g : String → Reader α}
    (hd : d ∈ config.named name) (h : ((Reader.takeParamFrom name >>= g) config).result = .ok a) :
    ∃ v child, d = ⟨[v], child⟩ ∧ (g v ((Reader.takeParamFrom name) config).world).result = .ok a := by
  obtain ⟨v, hv, h⟩ := Prog.bind_result_ok.mp h
  obtain ⟨child, hn⟩ := Reader.takeParamFrom_ok hv
  rw [hn, List.mem_singleton] at hd
  exact ⟨v, child, hd, h⟩

/-- A block from which a storage of any type can be made, but for the type. -/
def anyStorage : Scfg := [("path", ⟨["/p"], none⟩), ("url", ⟨["u"], none⟩), ("collection_id", ⟨["c"], none⟩)]

theorem parseStorage_anyStorage {type_ : String} (h : type_ ∈ storageTypes) :
    ∃ storage, (parseStorage Outside.permissive type_ false anyStorage).result = .ok storage := by
  simp only [storageTypes, List.mem_cons, List.not_mem_nil, or_false] at h
  rcases h with rfl | rfl | rfl | rfl | rfl | rfl | rfl <;> exact ⟨_, rfl⟩

theorem type_accepts_iff :
    (∃ (S : Type) (env : Outside S), (initStorage env).Passes "type" d) ↔ d.OneValue (· ∈ storageTypes) := by
  constructor
  · rintro ⟨S, env, config, storage, hd, h⟩
    obtain ⟨v, child, rfl, h⟩ := oneValue_of_takeParamFrom hd h
    obtain ⟨_, -, h⟩ := Prog.bind_result_ok.mp h
    obtain ⟨_, -, h⟩ := Prog.bind_result_ok.mp h
    obtain ⟨_, h, -⟩ := Prog.bind_result_ok.mp h
    refine ⟨v, child, rfl, ?_⟩
    unfold parseStorage at h
    split at h
    iterate 7 simp [storageTypes]
    cases h
  · rintro ⟨v, child, rfl, hv⟩
    obtain ⟨storage, hstorage⟩ := parseStorage_anyStorage hv
    refine ⟨Unit, .permissive, ("type", ⟨[v], child⟩) :: anyStorage, (storage, 300), by simp [Scfg.named, anyStorage], ?_⟩
    refine Prog.bind_result_ok.mpr ⟨v, rfl, ?_⟩
    refine Prog.bind_result_ok.mpr ⟨300, rfl, ?_⟩
    refine Prog.bind_result_ok.mpr ⟨false, rfl, ?_⟩
    exact Prog.bind_result_ok.mpr ⟨storage, hstorage, rfl⟩

theorem path_accepts_iff : (∃ (S : Type) (env : Outside S) (itemKind : ItemKind) (ro : Bool),
    (parseVdir env itemKind ro).Passes "path" d) ↔ d.OneValue fun _ => True := by
  constructor
  · rintro ⟨S, env, itemKind, ro, config, storage, hd, h⟩
    obtain ⟨v, child, rfl, -⟩ := oneValue_of_takeParamFrom hd h
    exact ⟨v, child, rfl, trivial⟩
  · rintro ⟨v, child, rfl, -⟩
    have hpath : ∃ path, expandTilde (.dir "/home") v = .ok path := by
      unfold expandTilde
      split <;> exact ⟨_, rfl⟩
    obtain ⟨path, hpath⟩ := hpath
    refine ⟨Unit, .permissive, .calendar, true, Reader.passes_single (a := .readOnly ()) ?_⟩
    refine Prog.bind_result_ok.mpr ⟨v, rfl, Prog.bind_result_ok.mpr ⟨path, ?_, rfl⟩⟩
    rw [Reader.context_ok]
    exact hpath

theorem url_accepts_iff : (∃ (S : Type) (env : Outside S) (type_ : String) (ro : Bool),
    "url" ∈ stringFields type_ ∧ (parseStorage env type_ ro).Passes "url" d) ↔ d.OneValue fun _ => True := by
  constructor
  · rintro ⟨S, env, type_, ro, htype, config, storage, hd, h⟩
    have hone : ∀ {g : String → Reader (DynStorage S)},
        ((Reader.takeParamFrom "url" >>= g) config).result = .ok storage → d.OneValue fun _ => True := by
      intro g hg
      obtain ⟨v, child, rfl, -⟩ := oneValue_of_takeParamFrom hd hg
      exact ⟨v, child, rfl, trivial⟩
    unfold stringFields at htype
    split at htype
    · simp at htype
    · simp at htype
    · exact hone h
    · exact hone h
    · obtain ⟨v, hv, -⟩ := Prog.bind_result_ok.mp h
      obtain ⟨child, hn⟩ := Reader.takeParamFrom_ok (Reader.context_ok.mp hv)
      rw [hn, List.mem_singleton] at hd
      exact ⟨v, child, hd, trivial⟩
    · exact hone h
    · exact hone h
    · simp at htype
  · rintro ⟨v, child, rfl, -⟩
    exact ⟨Unit, .permissive, "jmap/vcard", true, by simp [stringFields], Reader.passes_single (a := .readOnly ()) rfl⟩

theorem oneValue_of_takeParam {name : String} {config : Scfg} {param : Option String} (hd : d ∈ config.named name)
    (h : (Reader.takeParam name config).result = .ok param) : d.OneValue fun _ => True := by
  obtain ⟨-, hnamed⟩ | ⟨v, child, -, hnamed⟩ := Reader.takeParam_ok h
  · rw [hnamed] at hd
    cases hd
  · rw [hnamed, List.mem_singleton] at hd
    exact ⟨v, child, hd, trivial⟩

theorem username_accepts_iff :
    (∃ (S : Type) (env : Outside S), (parseAuth env).Passes "username" d) ↔ d.OneValue fun _ => True := by
  constructor
  · rintro ⟨S, env, config, auth, hd, h⟩
    obtain ⟨username, hu, -⟩ := Prog.bind_result_ok.mp h
    exact oneValue_of_takeParam hd hu
  · rintro ⟨v, child, rfl, -⟩
    exact ⟨Unit, .permissive, Reader.passes_single (a := some _) rfl⟩

theorem password_accepts_iff : (∃ (S : Type) (env : Outside S) (config : Scfg) (auth : Option String),
    config.named "username" ≠ [] ∧ d ∈ config.named "password" ∧ (parseAuth env config).result = .ok auth) ↔
    d.OneValue fun _ => True := by
  constructor
  · rintro ⟨S, env, config, auth, hu, hd, h⟩
    obtain ⟨username, h₁, h⟩ := Prog.bind_result_ok.mp h
    have hkeeps : Reader.Keeps "password" (Reader.takeParam "username") := Reader.keeps_takeParam (by decide)
    rw [← hkeeps config] at hd
    obtain ⟨-, hnamed⟩ | ⟨v, child, rfl, -⟩ := Reader.takeParam_ok h₁
    · exact absurd hnamed hu
    · obtain ⟨password, hp, -⟩ := Prog.bind_result_ok.mp h
      exact oneValue_of_takeParam hd hp
  · rintro ⟨v, child, rfl, -⟩
    exact ⟨Unit, .permissive, [("username", ⟨["u"], none⟩), ("password", ⟨[v], child⟩)], some _,
      by simp [Scfg.named], by simp [Scfg.named], rfl⟩

theorem collectionId_accepts_iff :
    (∃ (S : Type) (env : Outside S), (parseWebcal env).Passes "collection_id" d) ↔ d.OneValue fun _ => True := by
  constructor
  · rintro ⟨S, env, config, storage, hd, h⟩
    obtain ⟨url, h₁, h⟩ := Prog.bind_result_ok.mp h
    obtain ⟨_, h₂, h⟩ := Prog.bind_result_ok.mp h
    obtain ⟨auth, h₃, h⟩ := Prog.bind_result_ok.mp h
    obtain ⟨tls, h₄, h⟩ := Prog.bind_result_ok.mp h
    obtain ⟨userAgent, h₅, h⟩ := Prog.bind_result_ok.mp h
    obtain ⟨v, hv, -⟩ := Prog.bind_result_ok.mp h
    obtain ⟨child, hn⟩ := Reader.takeParamFrom_ok hv
    -- what is found after the other directives were taken was there before
    have hreads : ∀ {α : Type} {p : Reader α} {config : Scfg}, p.Reads (fun _ => True) →
        (p config).world.named "collection_id" = [⟨[v], child⟩] → config.named "collection_id" = [⟨[v], child⟩] := by
      intro α p config hp hworld
      rcases (hp config).2 "collection_id" with he | he
      · exact he ▸ hworld
      · rw [he] at hworld; cases hworld
    have hn := hreads (Reader.reads_parseUserAgent env) hn
    have hn := hreads (Reader.reads_parseTlsConfig env) hn
    have hn := hreads ((Reader.reads_parseAuth env trivial trivial).context _) hn
    have hn := hreads (Reader.reads_lift _) hn
    have hn := hreads ((Reader.reads_takeParamFrom trivial).context _) hn
    rw [hn, List.mem_singleton] at hd
    exact ⟨v, child, hd, trivial⟩
  · rintro ⟨v, child, rfl, -⟩
    let config : Scfg := [("collection_id", ⟨[v], child⟩)]
    refine ⟨Unit, .permissive, ("url", ⟨["u"], none⟩) :: config, .plain (), by simp [Scfg.named, config], ?_⟩
    have hurl : (Reader.takeParamFrom "url").context "Webcal storage must define a url" (("url", ⟨["u"], none⟩) :: config) =
        ⟨.ok "u", config, [⟨"url", ⟨["u"], none⟩⟩]⟩ := rfl
    have huri : Reader.lift (Outside.permissive.uri "u") config = ⟨.ok (), config, []⟩ := rfl
    have hauth : (parseAuth Outside.permissive).context "Parsing webcal storage auth" config = ⟨.ok none, config, []⟩ := rfl
    have htls : parseTlsConfig Outside.permissive config = ⟨.ok ⟨none, none, none⟩, config, []⟩ := rfl
    have hagent : parseUserAgent Outside.permissive config = ⟨.ok (defaultUserAgent .permissive), config, []⟩ := rfl
    rw [parseWebcal, Prog.bind_result_run hurl, Prog.bind_result_run huri, Prog.bind_result_run hauth,
      Prog.bind_result_run htls, Prog.bind_result_run hagent]
    rfl

/-! ## Blocks of collections -/

/-- The block has one reference to a collection of the side, by its id or by its href. -/
def Scfg.Reference (block : Scfg) (side : Side) : Prop :=
  block.Exact (idField side) ∧ block.named (hrefField side) = [] ∨
    block.named (idField side) = [] ∧ block.Exact (hrefField side)

/-- The block has an alias, and one reference for each side. -/
def Scfg.Mapping (block : Scfg) : Prop := block.Exact "alias" ∧ ∀ side, block.Reference side

theorem reference_of_ok {collectionId : String → Except Error Unit} {block : Scfg} {side : Side} {id href : Option Directive}
    {c : CollectionDescription} (hid : block.named (idField side) = id.toList)
    (hhref : block.named (hrefField side) = href.toList) (h : parseIndividualCollection collectionId id href = .ok c) :
    block.Reference side := by
  have hsingle : ∀ {l : List String} {v : String}, flattenSingleVec l = some v → l = [v] := by
    intro l v hl
    unfold flattenSingleVec at hl
    split at hl
    · cases hl; rfl
    · cases hl
  rcases id with _ | ⟨params, child⟩ <;> rcases href with _ | ⟨params', child'⟩
  · cases h
  · obtain ⟨v, hv, -⟩ := bind_eq_ok.mp h
    obtain rfl := hsingle (orContext_eq_ok.mp hv)
    exact .inr ⟨hid, v, child', hhref⟩
  · obtain ⟨v, hv, -⟩ := bind_eq_ok.mp h
    obtain rfl := hsingle (orContext_eq_ok.mp hv)
    exact .inl ⟨⟨v, child, hid⟩, hhref⟩
  · cases h

/-- Where every text is a collection's id, a reference is accepted. -/
theorem ok_of_reference {block : Scfg} {side : Side} (h : block.Reference side) : ∃ id href c,
    block.named (idField side) = Option.toList id ∧ block.named (hrefField side) = Option.toList href ∧
      parseIndividualCollection (fun _ => .ok ()) id href = .ok c := by
  rcases h with ⟨⟨v, child, hid⟩, hhref⟩ | ⟨hid, v, child, hhref⟩
  · exact ⟨some ⟨[v], child⟩, none, .id v, hid, hhref, rfl⟩
  · exact ⟨none, some ⟨[v], child⟩, .href v, hid, hhref, rfl⟩

/-- The block of a `collection` is accepted if and only if it is a mapping, whatever else it holds. -/
theorem parseCollectionBlock_isOk {block : Scfg} :
    (∃ collectionId c, (parseCollectionBlock collectionId block).result = .ok c) ↔ block.Mapping := by
  have hframe : ∀ {name other : String} (config : Scfg), name ≠ other →
      (Reader.takeDirective other config).world.named name = config.named name :=
    fun config hne => Reader.keeps_takeDirective hne config
  have hframe' : ∀ {name : String} (config : Scfg), name ≠ "alias" →
      (Reader.takeParamFrom "alias" config).world.named name = config.named name :=
    fun config hne => Reader.keeps_takeParamFrom hne config
  constructor
  · rintro ⟨collectionId, c, h⟩
    obtain ⟨v, hv, h⟩ := Prog.bind_result_ok.mp h
    obtain ⟨idA, hidA, h⟩ := Prog.bind_result_ok.mp h
    obtain ⟨hrefA, hhrefA, h⟩ := Prog.bind_result_ok.mp h
    obtain ⟨idB, hidB, h⟩ := Prog.bind_result_ok.mp h
    obtain ⟨hrefB, hhrefB, h⟩ := Prog.bind_result_ok.mp h
    obtain ⟨a, ha, h⟩ := Prog.bind_result_ok.mp h
    obtain ⟨b, hb, -⟩ := Prog.bind_result_ok.mp h
    rw [Reader.takeDirective_ok] at hidA hhrefA hidB hhrefB
    rw [hframe' _ (by decide)] at hidA
    rw [hframe _ (by decide), hframe' _ (by decide)] at hhrefA
    rw [hframe _ (by decide), hframe _ (by decide), hframe' _ (by decide)] at hidB
    rw [hframe _ (by decide), hframe _ (by decide), hframe _ (by decide), hframe' _ (by decide)] at hhrefB
    obtain ⟨child, hn⟩ := Reader.takeParamFrom_ok hv
    refine ⟨⟨v, child, hn⟩, fun side => ?_⟩
    cases side with
    | a =>
      have href : block.Reference .a := reference_of_ok hidA hhrefA (Reader.lift_ok.mp ha)
      exact href
    | b =>
      have href : block.Reference .b := reference_of_ok hidB hhrefB (Reader.lift_ok.mp hb)
      exact href
  · rintro ⟨⟨v, child, hn⟩, hside⟩
    obtain ⟨idA, hrefA, a, hidA, hhrefA, ha⟩ := ok_of_reference (hside .a)
    obtain ⟨idB, hrefB, b, hidB, hhrefB, hb⟩ := ok_of_reference (hside .b)
    refine ⟨fun _ => .ok (), .mapped v a b, ?_⟩
    refine Prog.bind_result_ok.mpr ⟨v, Reader.takeParamFrom_eq_ok.mpr ⟨child, hn⟩, ?_⟩
    refine Prog.bind_result_ok.mpr ⟨idA, Reader.takeDirective_ok.mpr ?_, ?_⟩
    · rw [hframe' _ (by decide)]; exact hidA
    refine Prog.bind_result_ok.mpr ⟨hrefA, Reader.takeDirective_ok.mpr ?_, ?_⟩
    · rw [hframe _ (by decide), hframe' _ (by decide)]; exact hhrefA
    refine Prog.bind_result_ok.mpr ⟨idB, Reader.takeDirective_ok.mpr ?_, ?_⟩
    · rw [hframe _ (by decide), hframe _ (by decide), hframe' _ (by decide)]; exact hidB
    refine Prog.bind_result_ok.mpr ⟨hrefB, Reader.takeDirective_ok.mpr ?_, ?_⟩
    · rw [hframe _ (by decide), hframe _ (by decide), hframe _ (by decide), hframe' _ (by decide)]; exact hhrefB
    exact Prog.bind_result_ok.mpr ⟨a, Reader.lift_ok.mpr ha, Prog.bind_result_ok.mpr ⟨b, Reader.lift_ok.mpr hb, rfl⟩⟩

/-- A directive of a mapping has one value. -/
theorem oneValue_of_exact {block : Scfg} {name : String} (h : block.Exact name) (hd : d ∈ block.named name) :
    d.OneValue fun _ => True := by
  obtain ⟨v, child, hn⟩ := h
  rw [hn, List.mem_singleton] at hd
  exact ⟨v, child, hd, trivial⟩

/-- A directive of a reference has one value. -/
theorem oneValue_of_reference {block : Scfg} {side : Side} (h : block.Reference side)
    (hd : d ∈ block.named (idField side) ∨ d ∈ block.named (hrefField side)) : d.OneValue fun _ => True := by
  rcases h with ⟨hid, hhref⟩ | ⟨hid, hhref⟩ <;> rcases hd with hd | hd
  · exact oneValue_of_exact hid hd
  · rw [hhref] at hd; cases hd
  · rw [hid] at hd; cases hd
  · exact oneValue_of_exact hhref hd

/-- The directives of a mapping are accepted, in some mapping, with any block of their own. -/
theorem mapping_accepts_iff {name : String} (hname : name = "alias" ∨ ∃ side, name = idField side ∨ name = hrefField side) :
    (∃ collectionId, (parseCollectionBlock collectionId).Passes name d) ↔ d.OneValue fun _ => True := by
  constructor
  · rintro ⟨collectionId, block, c, hd, h⟩
    obtain ⟨halias, hside⟩ := parseCollectionBlock_isOk.mp ⟨collectionId, c, h⟩
    rcases hname with rfl | ⟨side, rfl | rfl⟩
    · exact oneValue_of_exact halias hd
    · exact oneValue_of_reference (hside side) (.inl hd)
    · exact oneValue_of_reference (hside side) (.inr hd)
  · rintro ⟨v, child, rfl, -⟩
    have hblock : ∃ block : Scfg, block.Mapping ∧ ⟨[v], child⟩ ∈ block.named name := by
      rcases hname with rfl | ⟨side, rfl | rfl⟩
      · exact ⟨[("alias", ⟨[v], child⟩), ("id_a", ⟨[v], none⟩), ("id_b", ⟨[v], none⟩)], ⟨⟨v, child, rfl⟩, fun
          | .a => .inl ⟨⟨v, none, rfl⟩, rfl⟩
          | .b => .inl ⟨⟨v, none, rfl⟩, rfl⟩⟩, List.mem_singleton_self _⟩
      · exact ⟨[("alias", ⟨[v], none⟩), ("id_a", ⟨[v], child⟩), ("id_b", ⟨[v], child⟩)], ⟨⟨v, none, rfl⟩, fun
          | .a => .inl ⟨⟨v, child, rfl⟩, rfl⟩
          | .b => .inl ⟨⟨v, child, rfl⟩, rfl⟩⟩, by cases side <;> exact List.mem_singleton_self _⟩
      · exact ⟨[("alias", ⟨[v], none⟩), ("href_a", ⟨[v], child⟩), ("href_b", ⟨[v], child⟩)], ⟨⟨v, none, rfl⟩, fun
          | .a => .inr ⟨rfl, v, child, rfl⟩
          | .b => .inr ⟨rfl, v, child, rfl⟩⟩, by cases side <;> exact List.mem_singleton_self _⟩
    obtain ⟨block, hmapping, hmem⟩ := hblock
    obtain ⟨collectionId, c, h⟩ := parseCollectionBlock_isOk.mpr hmapping
    exact ⟨collectionId, block, c, hmem, h⟩

/-- **The directives that carry one value** are accepted if it fits, with any block. -/
theorem ValueField.accepts_iff : ∀ {field : ValueField}, field.Accepts d ↔ d.OneValue field.Fits
  | .storage side => storage_accepts_iff side
  | .alias => mapping_accepts_iff (.inl rfl)
  | .id side => mapping_accepts_iff (.inr ⟨side, .inl rfl⟩)
  | .href side => mapping_accepts_iff (.inr ⟨side, .inr rfl⟩)
  | .onEmpty => onEmpty_accepts_iff
  | .onDelete => onDelete_accepts_iff
  | .type => type_accepts_iff
  | .interval => interval_accepts_iff
  | .path => path_accepts_iff
  | .fileext => fileext_accepts_iff
  | .url => url_accepts_iff
  | .username => username_accepts_iff
  | .password => password_accepts_iff
  | .collectionIdSegment => collectionIdSegment_accepts_iff
  | .collectionId => collectionId_accepts_iff
  | .tlsRoot => tlsRoot_accepts_iff
  | .tlsFingerprint => tlsFingerprint_accepts_iff

end Values

end Pimsync
