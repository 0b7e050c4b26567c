import Pimsync.Cli
import Pimsync.Config.Storage
import Mathlib.Data.List.AList

/-!
# Reading a configuration

`parseConfig` reads the enabled pairs and the storages they use, `loadStorages` is the loop of `parse_storages` over the
storage blocks. Both resolve the commands of the blocks they load.

The source forgets which block of the text a storage was read from. Here a `Loaded` block keeps its place among the
text's storage blocks, which no function reads.
-/

namespace Pimsync

/-- A storage block with its commands resolved, and its place in the text. -/
structure Loaded where
  block : ℕ
  config : Scfg

/-- `Config`. The maps are `HashMap`s: the order of their entries means nothing. -/
structure Config where
  statusPath : String
  pairs : AList fun _ : String => Scfg
  storages : AList fun _ : String => Loaded

variable {σ : Type}

/-! ## `parse_config` -/

/-- The storage that a pair's block names in `storage_a` or `storage_b`. More parameters or directives are let pass. -/
def pairStorage (child : Scfg) (field : String) : Except Error String := do
  let directive ← orContext s!"pair must defined directive {field}" (child.get field)
  orContext s!"{field} must include a parameter" directive.params.head?

/-- What the pair loop of `parse_config` has gathered. -/
structure PairsRead where
  enabledPairs : FilterNames
  pairs : AList fun _ : String => Scfg
  enabledStorages : List String

/-- The pair loop of `parse_config`. -/
def parsePairs : List Directive → PairsRead → Except Error PairsRead
  | [], acc => return acc
  | directive :: directives, acc => do
    let name ← context "Parsing pair directive" (takeSingleParam directive)
    if name ∈ acc.pairs then bail s!"Duplicate definition for pair {name}." else
      match acc.enabledPairs.wants name with
      | (false, enabledPairs) => parsePairs directives { acc with enabledPairs }
      | (true, enabledPairs) =>
        let child ← orContext "pair must define a block" directive.child
        let nameA ← pairStorage child "storage_a"
        let nameB ← pairStorage child "storage_b"
        parsePairs directives ⟨enabledPairs, acc.pairs.insert name child, nameB :: nameA :: acc.enabledStorages⟩

/-- The storage loop of `parse_config`, from the block number `block` on. -/
def parseStorageBlocks (exec : Exec σ) (enabledStorages : List String) :
    ℕ → List Directive → AList (fun _ : String => Loaded) → Cmds σ (AList fun _ : String => Loaded)
  | _, [], storages => return storages
  | block, directive :: directives, storages => do
    let name ← Prog.lift (context "Parsing storage directive" (takeSingleParam directive))
    if name ∉ enabledStorages then parseStorageBlocks exec enabledStorages (block + 1) directives storages else
      let child ← Prog.lift (orContext "storage must define a block" directive.child)
      let child ← Prog.context s!"resolving commands for storage {name}" (resolveStorageCmds exec child)
      parseStorageBlocks exec enabledStorages (block + 1) directives (storages.insert name ⟨block, child⟩)

/-- No name is missing; `what` is how an error calls the first that is. -/
def checkMissing (what : String) (filter : FilterNames) : Except Error Unit :=
  match filter.nextMissing with
  | some missing => bail s!"{what}: {missing}"
  | none => .ok ()

/-- `parse_config`; `scfg` is the parser of the `scfg` crate. What is removed under one name is what the text has under it,
whatever was removed before under others. -/
def parseConfig (scfg : String → Except Error Scfg) (exec : Exec σ) (rawConfig : String) (enabledPairs : FilterNames) :
    Cmds σ Config := do
  let parser ← Prog.lift (context "Parsing configuration file" (scfg rawConfig))
  let parser ← Prog.context "resolving status path" (resolveCmdInplace exec parser "status_path")
  let (statusPath, parser) ← Prog.lift (takeSingleParamFromDirective parser "status_path")
  let read ← Prog.lift (parsePairs (parser.named "pair") ⟨enabledPairs, ∅, []⟩)
  Prog.lift (checkMissing "Requested pair missing from configuration" read.enabledPairs)
  let storages ← parseStorageBlocks exec read.enabledStorages 0 (parser.named "storage") ∅
  return ⟨statusPath, read.pairs, storages⟩

theorem checkMissing_eq_ok {what : String} {filter : FilterNames} :
    checkMissing what filter = .ok () ↔ filter.nextMissing = none := by
  unfold checkMissing bail
  split <;> simp_all

/-! ## `parse_storages`, up to the tasks it spawns -/

/-- A task that `parse_storages` spawns: it calls `init_storage`. -/
structure Task where
  name : String
  loaded : Loaded

/-- What `parse_storages` does before it waits for its tasks. -/
inductive LoadEvent
  | ran (cmd : RawCommand)
  /-- A name that was asked for was found. -/
  | found (name : String)
  | spawned (task : Task)

/-- What the loop of `parse_storages` does with a block that is wanted; `requested` if its name was asked for. -/
def loadBlock (exec : Exec σ) (block : ℕ) (directive : Directive) (name : String) (requested : Bool) :
    Prog σ LoadEvent Error Unit := do
  if requested then Prog.emit (.found name)
  let child ← Prog.lift (orContext "storage must define a block" directive.child)
  let child ← Prog.mapLog .ran (resolveStorageCmds exec child)
  Prog.emit (.spawned ⟨name, block, child⟩)

/-- The loop of `parse_storages`, from the block number `block` on. -/
def loadStorages (exec : Exec σ) : ℕ → List Directive → FilterNames → Prog σ LoadEvent Error FilterNames
  | _, [], enabledStorages => return enabledStorages
  | block, directive :: directives, enabledStorages => do
    let name ← Prog.lift (context "Parsing storage directive" (takeSingleParam directive))
    let (wanted, rest) := enabledStorages.wants name
    if wanted then
      loadBlock exec block directive name enabledStorages.names.isSome
      loadStorages exec (block + 1) directives rest
    else loadStorages exec (block + 1) directives rest

/-- The loop of `parse_storages` over the blocks, and the check after it. -/
def loadAll (exec : Exec σ) (block : ℕ) (directives : List Directive) (enabledStorages : FilterNames) :
    Prog σ LoadEvent Error Unit := do
  let enabledStorages ← loadStorages exec block directives enabledStorages
  Prog.lift (checkMissing "Missing storage definition for" enabledStorages)

/-- `parse_storages`, up to the point where it waits for its tasks. -/
def startStorages (scfg : String → Except Error Scfg) (exec : Exec σ) (rawConfig : String)
    (enabledStorages : FilterNames) : Prog σ LoadEvent Error Unit := do
  let parser ← Prog.lift (context "Parsing configuration file" (scfg rawConfig))
  loadAll exec 0 (parser.named "storage") enabledStorages

/-! ## `list_pair_names`, `list_storage_names` -/

/-- The names in the directives called `field`; `what` is how an error calls them. -/
def listNames (field what : String) (scfg : String → Except Error Scfg) (rawConfig : String) :
    Except Error (List String) := do
  let parser ← context "Parsing configuration file" (scfg rawConfig)
  (parser.named field).mapM fun directive => context what (takeSingleParam directive)

/-- `list_pair_names`. -/
def listPairNames : (String → Except Error Scfg) → String → Except Error (List String) :=
  listNames "pair" "Parsing pair directive"

/-- `list_storage_names`. -/
def listStorageNames : (String → Except Error Scfg) → String → Except Error (List String) :=
  listNames "storage" "Parsing storage directive"

end Pimsync
