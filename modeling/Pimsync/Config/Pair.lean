import Pimsync.Config.Storage

/-!
# Pairs

What a task of `into_named_pairs` does with the block of its pair once it has both storages. The crate's defaults, which
are not here, are `none`; a `StoragePair` is the record of how the crate's builder was called.
-/

namespace Pimsync

/-! ## Collections -/

/-- `CollectionDescription`. -/
inductive CollectionDescription
  | id (id : String)
  | href (href : String)
  deriving DecidableEq

inductive Collections
  | all
  | fromA
  | fromB
  | named (id : String)
  | mapped (name : String) (a b : CollectionDescription)
  deriving DecidableEq

/-- `parse_collections_directive`. -/
def parseCollectionsDirective (params : String) : Except Error Collections :=
  if params = "all" then .ok .all
  else if params = "from a" then .ok .fromA
  else if params = "from b" then .ok .fromB
  else bail s!"Invalid value for collections: {params}"

section Collection

-- `CollectionId::from_str`
variable (collectionId : String → Except Error Unit)

/-- `parse_individual_collection`. -/
def parseIndividualCollection : Option Directive → Option Directive → Except Error CollectionDescription
  | none, none => bail "collection block must define either id_a or href_a"
  | none, some href => do
    let href ← orContext "Collection href must define exactly one parameter" (flattenSingleVec href.params)
    return .href href
  | some id, none => do
    let id ← orContext "Collection id must define exactly one parameter" (flattenSingleVec id.params)
    context "Parsing collection id" (collectionId id)
    return .id id
  | some _, some _ => bail "Collection block cannot define both id_a and href_a."

/-- The block of a `collection` directive. -/
def parseCollectionBlock : Reader Collections := do
  let name ← Reader.takeParamFrom "alias"
  let idA ← Reader.takeDirective "id_a"
  let hrefA ← Reader.takeDirective "href_a"
  let idB ← Reader.takeDirective "id_b"
  let hrefB ← Reader.takeDirective "href_b"
  let a ← Reader.lift (parseIndividualCollection collectionId idA hrefA)
  let b ← Reader.lift (parseIndividualCollection collectionId idB hrefB)
  return .mapped name a b

/-- `parse_collection_directive`. -/
def parseCollectionDirective (directive : Directive) : Reader Collections :=
  match directive.params with
  | _ :: next :: _ => Reader.bail s!"unexpected second parameter {next} in collection directive"
  | [param] => do
    Reader.lift (context "Parsing collection id" (collectionId param))
    return .named param
  | [] => do
    let child ← Reader.lift (orContext "Collection directive must specify an id or a block" directive.child)
    Prog.lift (parseCollectionBlock collectionId child).result

/-- The `collections` and `collection` directives of a pair. -/
def parsePairCollections : Reader (List Collections) := do
  let plural ← Prog.ask fun config => config.remove "collections"
  let plural ← (plural.getD []).mapM fun directive =>
    Reader.lift (parseCollectionsDirective (" ".intercalate directive.params))
  let singular ← Prog.ask fun config => config.remove "collection"
  let singular ← (singular.getD []).mapM (parseCollectionDirective collectionId)
  return plural ++ singular

end Collection

/-! ## The other directives -/

inductive OnEmpty
  | skip
  | sync
  deriving DecidableEq

inductive OnDelete
  | skip
  | sync
  deriving DecidableEq

inductive ConflictResolution
  | keepA
  | keepB
  | cmd (command : RawCommand)
  deriving DecidableEq

/-- `Arc<dyn Mode>`. -/
inductive Mode
  | oneWaySync
  | twoWaySync
  deriving DecidableEq

/-- `parse_on_empty`. -/
def parseOnEmpty (directive : Directive) : Except Error OnEmpty := do
  match ← context "Parsing parameter for on_empty" (takeSingleParam directive) with
  | "skip" => return .skip
  | "sync" => return .sync
  | _ => bail "on_empty must specify either 'skip' or 'sync'"

/-- `parse_on_delete`. Its error calls it `on_empty`. -/
def parseOnDelete (directive : Directive) : Except Error OnDelete := do
  match ← context "Parsing parameter for on_delete" (takeSingleParam directive) with
  | "skip" => return .skip
  | "sync" => return .sync
  | _ => bail "on_empty must specify either 'skip' or 'sync'"

/-- `parse_conflict_resolution`. -/
def parseConflictResolution (directive : Directive) : Except Error ConflictResolution :=
  match directive.params with
  | "cmd" :: args => (orContext "parsing conflict_resolution" (RawCommand.fromArgs args)).map .cmd
  | "keep" :: "a" :: _ => .ok .keepA
  | "keep" :: "b" :: _ => .ok .keepB
  | "keep" :: c :: _ => bail s!"Invalid parameter for conflict_resolution: keep {c}"
  | ["keep"] => bail "Invalid parameter for conflict_resolution: keep"
  | param :: _ => bail s!"Invalid parameter for conflict_resolution: {param}"
  | [] => bail "Missing parameter for conflict_resolution"

/-- The mode of a pair: `one_way`, or two ways. -/
def parseMode : Reader Mode := do
  match ← Reader.takeDirective "one_way" with
  | some directive =>
    if directive.params ≠ [] then Reader.bail "the one_way directive takes no parameters" else return .oneWaySync
  | none => return .twoWaySync

/-! ## The pair -/

/-- A call of the builder of a `StoragePair`. -/
inductive PairCollection
  | allFromA
  | allFromB
  /-- `with_mapping(SyncedCollection::direct(id))`. -/
  | direct (id : String)
  /-- `with_mapping(SyncedCollection::Mapped { .. })`. -/
  | mapped (name : String) (a b : CollectionDescription)
  deriving DecidableEq

/-- `StoragePair`: its storages, and what its builder was told. -/
structure StoragePair (S : Type) where
  storageA : S
  storageB : S
  collections : List PairCollection
  onEmpty : Option OnEmpty
  onDelete : Option OnDelete
  mode : Mode

structure NamedPair (S : Type) where
  name : String
  inner : StoragePair S
  statusPath : String
  conflictResolution : Option ConflictResolution
  names : String × String
  intervals : Duration × Duration

/-- The builder calls for one entry of `init_pair`. -/
def Collections.calls : Collections → List PairCollection
  | .all => [.allFromA, .allFromB]
  | .fromA => [.allFromA]
  | .fromB => [.allFromB]
  | .named id => [.direct id]
  | .mapped name a b => [.mapped name a b]

variable {S : Type}

/-- `init_pair`. -/
def initPair (collections : List Collections) (storages : S × S) (onEmpty : Option OnEmpty) (onDelete : Option OnDelete)
    (mode : Mode) : StoragePair S :=
  ⟨storages.1, storages.2, collections.flatMap Collections.calls, onEmpty, onDelete, mode⟩

/-- The pair of two storages, from what is left of its block; `status` is its status database. -/
def buildPair (collectionId : String → Except Error Unit) (itemKind : S → ItemKind) (statusDir name : String)
    (names : String × String) (a b : S × Duration) : Reader (NamedPair S) := do
  let collections ← parsePairCollections collectionId
  let onEmpty ← Reader.takeDirective "on_empty"
  let onEmpty ← (Reader.lift (onEmpty.mapM parseOnEmpty)).context "parsing on_empty"
  let onDelete ← Reader.takeDirective "on_delete"
  let onDelete ← (Reader.lift (onDelete.mapM parseOnDelete)).context "parsing on_delete"
  let conflictResolution ← Reader.takeDirective "conflict_resolution"
  let conflictResolution ← Reader.lift (conflictResolution.mapM parseConflictResolution)
  let mode ← parseMode
  let statusPath := pathJoin statusDir s!"{name}.status"
  match itemKind a.1, itemKind b.1 with
  | .calendar, .addressBook => Reader.bail s!"pair {name} mixes calendar storage with contacts storage"
  | .addressBook, .calendar => Reader.bail s!"pair {name} mixes contacts storage with calendar storage"
  | .addressBook, .addressBook | .calendar, .calendar =>
    return ⟨name, initPair collections (a.1, b.1) onEmpty onDelete mode, statusPath, conflictResolution, names, (a.2, b.2)⟩

/-- **A pair has its own storages**, in their places, under the name it is given. -/
theorem buildPair_ok {collectionId : String → Except Error Unit} {itemKind : S → ItemKind} {statusDir name : String}
    {names : String × String} {a b : S × Duration} {config : Scfg} {pair : NamedPair S}
    (h : (buildPair collectionId itemKind statusDir name names a b config).result = .ok pair) :
    pair.name = name ∧ pair.names = names ∧ pair.inner.storageA = a.1 ∧ pair.inner.storageB = b.1 ∧
      pair.intervals = (a.2, b.2) ∧ itemKind a.1 = itemKind b.1 := by
  obtain ⟨_, -, h⟩ := Prog.bind_result_ok.mp h
  obtain ⟨_, -, h⟩ := Prog.bind_result_ok.mp h
  obtain ⟨_, -, h⟩ := Prog.bind_result_ok.mp h
  obtain ⟨_, -, h⟩ := Prog.bind_result_ok.mp h
  obtain ⟨_, -, h⟩ := Prog.bind_result_ok.mp h
  obtain ⟨_, -, h⟩ := Prog.bind_result_ok.mp h
  obtain ⟨_, -, h⟩ := Prog.bind_result_ok.mp h
  obtain ⟨_, -, h⟩ := Prog.bind_result_ok.mp h
  cases ha : itemKind a.1 <;> cases hb : itemKind b.1 <;> rw [ha, hb] at h <;> cases h <;>
    exact ⟨rfl, rfl, rfl, rfl, rfl, rfl⟩

end Pimsync
