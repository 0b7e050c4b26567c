import Pimsync.Sync

/-!
# `resolve-conflicts`

`interactiveResolution` walks through the conflicts of a pair: those of items first, then those of properties. The user is
asked about each, a merge command makes one text of two, and `uploadBoth` writes it to the sides that differ. What the
outside does is a parameter (`ResolveOutside`).
-/

namespace Pimsync

variable {σ S D : Type}

/-! ## The merge command -/

/-- What comes of running a merge command, and of reading its two files back. -/
structure MergeRun where
  spawned : Except Error Unit
  /-- Whether the command succeeded, and how its status is displayed. -/
  waited : Except Error (Bool × String)
  rewindA : Except Error Unit
  rewindB : Except Error Unit
  readA : Except Error String
  readB : Except Error String

/-- A storage, and the programs and files that a resolution uses. -/
structure ResolveOutside (σ S : Type) where
  /-- `Item::hash`. -/
  hash : Item → String
  /-- `Item::ident`. -/
  ident : Item → String
  /-- `NamedTempFile::new`, and writing into the file. -/
  tempFile : String → σ → (Except Error Unit × Except Error Unit) × σ
  merge : RawCommand → String → String → σ → MergeRun × σ
  updateItem : S → String → String → Item → σ → Except Error Unit × σ
  setProperty : S → String → Property → String → σ → Except Error Unit × σ
  /-- The side that is written first, when both are. -/
  first : σ → Side × σ

/-- What the user decides for a property. -/
inductive PropertyChoice
  | a
  | b
  | custom (value : String)
  | skip
  | quit
  deriving DecidableEq

/-- What `resolve-conflicts` does. -/
inductive ResolveEvent
  | term (event : TermEvent)
  | planned (plan : Except Error (List PlanItem))
  /-- What `choose_property_value` returns. -/
  | chosen (choice : PropertyChoice)
  /-- What `run_merge_command` returns for two texts. -/
  | merged (command : RawCommand) (a b : String) (result : Except Error String)
  | updated (side : Side) (href etag : String) (item : Item) (result : Except Error Unit)
  | propertySet (side : Side) (href : String) (property : Property) (value : String) (result : Except Error Unit)

/-- A storage of a pair. -/
def StoragePair.on (pair : StoragePair S) : Side → S
  | .a => pair.storageA
  | .b => pair.storageB

def Side.name : Side → String
  | .a => "A"
  | .b => "B"

section Resolve

variable (out : ResolveOutside σ S)

/-- `write_to_temp_file`. -/
def writeToTempFile (data : String) : Prog (World σ) ResolveEvent Error Unit := do
  let file ← Prog.outside (out.tempFile data)
  Prog.lift (context "Creating temporary file" file.1)
  Prog.lift (context "writing into temporary file" file.2)

/-- What `run_merge_command` makes of a run: it refuses texts that are empty, or that differ. -/
def mergeResult (run : MergeRun) : Prog (World σ) ResolveEvent Error String := do
  Prog.lift (context "executing conflict resolution command" run.spawned)
  let status ← Prog.lift (context "waiting for conflict resolution command" run.waited)
  if !status.1 then Prog.fail [s!"Conflict resolution command failed: {status.2}"] else
    Prog.lift (context "seeking in temporary file for A" run.rewindA)
    Prog.lift (context "seeking in temporary file for B" run.rewindB)
    let newA ← Prog.lift (context "reading resolved value A" run.readA)
    let newB ← Prog.lift (context "reading resolved value B" run.readB)
    if trim newA = "" then Prog.fail ["Resolved value A is empty."]
    else if trim newB = "" then Prog.fail ["Resolved value B is empty."]
    else if trim newA ≠ trim newB then
      Prog.emit (.term (.print "Resulting values are not identical on both sides."))
      Prog.fail ["Conflict resolution yielded mismatching values."]
    else return newA

/-- `run_merge_command`, for files with these texts. -/
def runMergeCommand (rawCmd : RawCommand) (a b : String) : Prog (World σ) ResolveEvent Error String := do
  let run ← Prog.outside (out.merge rawCmd a b)
  let result : Except Error String ← Prog.attempt (mergeResult run)
  Prog.emit (.merged rawCmd a b result)
  Prog.lift result

/-! ## Uploads -/

/-- `tokio::join!` of two optional writes, one of which is done first; the error of A is returned first. -/
def uploadBoth (task : Side → Option (Prog (World σ) ResolveEvent Stop (Except Error Unit))) :
    Prog (World σ) ResolveEvent Stop Unit := do
  let first ← Prog.outside out.first
  let result ← (task first).getD (return .ok ())
  let other ← (task first.other).getD (return .ok ())
  let resultOf (side : Side) := if side = first then result else other
  Prog.lift ((resultOf .a).mapError .err)
  Prog.lift ((resultOf .b).mapError .err)

/-- A call of `update_item`. -/
def updateItem (pair : NamedPair S) (side : Side) (ref : ItemVersion) (new : Item) :
    Prog (World σ) ResolveEvent Stop (Except Error Unit) := do
  let result ← Prog.outside (out.updateItem (pair.inner.on side) ref.href ref.etag new)
  Prog.emit (.updated side ref.href ref.etag new result)
  return context s!"uploading resolved item into {side.name}" result

/-- A call of `set_property`. -/
def setProperty (pair : NamedPair S) (side : Side) (property : Property) (mapping : ResolvedMapping) (value : String) :
    Prog (World σ) ResolveEvent Stop (Except Error Unit) := do
  let result ← Prog.outside (out.setProperty (pair.inner.on side) (mapping.href side) property value)
  Prog.emit (.propertySet side (mapping.href side) property value result)
  return context s!"setting resolved property on {side.name}" result

/-- `upload_resolved_item`. -/
def uploadResolvedItem (pair : NamedPair S) (ref : Side → ItemVersion) (orig : Side → Item) (new : Item) :
    Prog (World σ) ResolveEvent Stop Unit :=
  uploadBoth out fun side =>
    if out.hash new ≠ out.hash (orig side) then some (updateItem out pair side (ref side) new) else none

/-- `upload_resolved_property`. -/
def uploadResolvedProperty (pair : NamedPair S) (property : Property) (mapping : ResolvedMapping) (orig : Side → String)
    (newValue : String) : Prog (World σ) ResolveEvent Stop Unit :=
  uploadBoth out fun side =>
    if newValue ≠ orig side then some (setProperty out pair side property mapping newValue) else none

/-! ## Items -/

/-- What the loop of `resolve_item_conflicts` does with an item that the user accepted. -/
def mergeItem (pair : NamedPair S) (rawCmd : RawCommand) (info : ConflictInfo) : Prog (World σ) ResolveEvent Stop Unit := do
  Prog.emit (.term (.info s!"Running conflict resolution for item {info.a.state.uid}"))
  Prog.mapError .err (Prog.context "writing item A to temp file" (writeToTempFile out info.a.data.text))
  Prog.mapError .err (Prog.context "writing item B to temp file" (writeToTempFile out info.b.data.text))
  let merged : Except Error String ← Prog.attempt (runMergeCommand out rawCmd info.a.data.text info.b.data.text)
  match merged with
  | .error e => Prog.emit (.term (.error "Error resolving conflict" e))
  | .ok data =>
    let new : Item := ⟨data⟩
    uploadResolvedItem out pair (fun side => (info.on side).state.version) (fun side => (info.on side).data) new
    Prog.emit (.term (.info s!"Resolved conflict for '{out.ident new}'."))

/-- One round of the loop of `resolve_item_conflicts`: whether it goes on. -/
def resolveItem (pair : NamedPair S) (rawCmd : RawCommand) (total i : ℕ) (info : ConflictInfo) :
    Prog (World σ) ResolveEvent Stop Bool := do
  Prog.emit (.term (.print s!"Next is item {i + 1}/{total}, with uid \"{info.a.state.uid}\"."))
  match ← Prog.mapLog .term (continueSkipOrQuit "Resolve it manually?") with
  | .yes =>
    mergeItem out pair rawCmd info
    return true
  | .no => return true
  | .quit =>
    Prog.emit (.term (.print s!"Skipping all remaining conflicts for pair \"{pair.name}\"."))
    return false

/-- The loop of `resolve_item_conflicts`. -/
def resolveItems (pair : NamedPair S) (rawCmd : RawCommand) (total : ℕ) :
    ℕ → List ConflictInfo → Prog (World σ) ResolveEvent Stop Bool
  | _, [] => return true
  | i, info :: conflicts => do
    if ← resolveItem out pair rawCmd total i info then resolveItems pair rawCmd total (i + 1) conflicts else return false

/-- `resolve_item_conflicts`. -/
def resolveItemConflicts (pair : NamedPair S) (conflicts : List ConflictInfo) (rawCmd : RawCommand) :
    Prog (World σ) ResolveEvent Stop Bool :=
  resolveItems out pair rawCmd conflicts.length 0 conflicts

/-! ## Properties -/

/-- A property in conflict: `PropertyOp` with a kind that is `Conflict`. -/
structure PropertyConflict where
  property : Property
  mapping : ResolvedMapping
  valueA : String
  valueB : String
  deriving DecidableEq

def PropertyConflict.value (conflict : PropertyConflict) : Side → String
  | .a => conflict.valueA
  | .b => conflict.valueB

/-- What `choose_property_value` makes of a line. -/
def chooseResponse (rawCmd : RawCommand) (valueA valueB response : String) :
    Prog (World σ) ResolveEvent Stop (Option PropertyChoice) := do
  match toLowercase (trim response) with
  | "a" => return some .a
  | "b" => return some .b
  | "e" =>
    Prog.mapError .err (writeToTempFile out valueA)
    Prog.mapError .err (writeToTempFile out valueB)
    let merged : Except Error String ← Prog.attempt (runMergeCommand out rawCmd valueA valueB)
    match merged with
    | .ok value => return some (.custom (trim value))
    | .error e =>
      Prog.emit (.term (.error "Error editing property" e))
      return none
  | "s" => return some .skip
  | "q" => return some .quit
  | _ => return none

/-- `choose_property_value`. -/
def choosePropertyValue (valueA valueB : String) (rawCmd : RawCommand) : Prog (World σ) ResolveEvent Stop PropertyChoice :=
  fun w =>
    (do
      let choice ← promptLoop ResolveEvent.term "Keep (A), (B), (E)dit, (S)kip, or (Q)uit? "
        (chooseResponse out rawCmd valueA valueB)
        w.turns
      Prog.emit (.chosen choice)
      return choice) w

/-- The end of a round of `resolve_property_conflicts`, for a value that was chosen. -/
def resolveTo (pair : NamedPair S) (conflict : PropertyConflict) (resolved : String) :
    Prog (World σ) ResolveEvent Stop Bool := do
  Prog.emit (.term (.info s!"Resolved property '{conflict.property.name}' to '{resolved}'"))
  uploadResolvedProperty out pair conflict.property conflict.mapping conflict.value resolved
  return true

/-- One round of the loop of `resolve_property_conflicts`: whether it goes on. -/
def resolveProperty (pair : NamedPair S) (rawCmd : RawCommand) (total i : ℕ) (conflict : PropertyConflict) :
    Prog (World σ) ResolveEvent Stop Bool := do
  Prog.emitAll [.term (.print s!"Property {i + 1}/{total}: \"{conflict.property.name}\" on collection \"{conflict.mapping.name}\":"),
    .term (.print s!"  A: \"{conflict.valueA}\""), .term (.print s!"  B: \"{conflict.valueB}\"")]
  match ← choosePropertyValue out conflict.valueA conflict.valueB rawCmd with
  | .a => resolveTo out pair conflict conflict.valueA
  | .b => resolveTo out pair conflict conflict.valueB
  | .custom value => resolveTo out pair conflict value
  | .skip => return true
  | .quit =>
    Prog.emit (.term (.print s!"Skipping all remaining properties for pair \"{pair.name}\"."))
    return false

/-- The loop of `resolve_property_conflicts`. -/
def resolveProperties (pair : NamedPair S) (rawCmd : RawCommand) (total : ℕ) :
    ℕ → List PropertyConflict → Prog (World σ) ResolveEvent Stop Unit
  | _, [] => return ()
  | i, conflict :: conflicts => do
    if ← resolveProperty out pair rawCmd total i conflict then resolveProperties pair rawCmd total (i + 1) conflicts
    else return ()

/-- `resolve_property_conflicts`. -/
def resolvePropertyConflicts (pair : NamedPair S) (conflicts : List PropertyConflict) (rawCmd : RawCommand) :
    Prog (World σ) ResolveEvent Stop Unit :=
  resolveProperties out pair rawCmd conflicts.length 0 conflicts

/-! ## A pair -/

/-- The conflicts of items in a plan. -/
def itemConflicts (plan : List PlanItem) : List ConflictInfo :=
  plan.filterMap fun
    | .ok (.item op) => op.conflict
    | _ => none

/-- The conflicts of properties in a plan. -/
def propertyConflicts (plan : List PlanItem) : List PropertyConflict :=
  plan.filterMap fun
    | .ok (.property op) => op.conflict.map fun values => ⟨op.property, op.mapping, values.1, values.2⟩
    | _ => none

/-- The errors of a plan, as they are logged. -/
def planErrors (plan : List PlanItem) : List ResolveEvent :=
  plan.filterMap fun
    | .error e => some (.term (.error "Error in plan" e))
    | .ok _ => none

/-- What `interactive_resolution` does with the conflicts of a plan. -/
def resolvePlan (pair : NamedPair S) (rawCmd : RawCommand) (items : List ConflictInfo) (properties : List PropertyConflict) :
    Prog (World σ) ResolveEvent Stop Unit := do
  if items.length = 0 ∧ properties.length = 0 then
    Prog.emit (.term (.info s!"No conflicts to resolve for {pair.name}."))
  else
    Prog.emit (.term (.print s!"Resolving {items.length} item conflicts and {properties.length} property conflicts for pair \"{pair.name}\"."))
    if ← resolveItemConflicts out pair items rawCmd then
      resolvePropertyConflicts out pair properties rawCmd
      Prog.emit (.term (.print s!"No conflicts left for pair \"{pair.name}\"."))
    else return ()

/-- The plan of a pair, and its errors. -/
def planConflicts (env : PlanOutside σ S D) (pair : NamedPair S) : Prog (World σ) ResolveEvent Stop (List PlanItem) := do
  let plan : Except Error (List PlanItem) ← Prog.attempt (createPlan env pair)
  Prog.emit (.planned plan)
  let plan ← Prog.lift (plan.mapError .err)
  Prog.emitAll (planErrors plan)
  return plan

/-- `interactive_resolution`. -/
def interactiveResolution (env : PlanOutside σ S D) (pair : NamedPair S) : Prog (World σ) ResolveEvent Stop Unit :=
  match pair.conflictResolution with
  | some (.cmd rawCmd) => do
    let plan ← planConflicts env pair
    resolvePlan out pair rawCmd (itemConflicts plan) (propertyConflicts plan)
  | some _ => Prog.emit (.term (.info s!"Conflict resolution is automatic for {pair.name}."))
  | none => Prog.fail (.err [s!"No conflict resolution command for {pair.name}."])

/-- The loop of `resolve_conflicts`. -/
def resolvePairs (env : PlanOutside σ S D) : List (NamedPair S) → Prog (World σ) ResolveEvent Stop Unit
  | [] => return ()
  | pair :: pairs => do
    let result : Except Stop Unit ← Prog.attempt (interactiveResolution out env pair)
    match result with
    | .ok () => resolvePairs env pairs
    | .error (.err e) =>
      Prog.emit (.term (.error "Error resolving conflicts" e))
      resolvePairs env pairs
    | .error .hang => Prog.fail .hang

/-- `resolve_conflicts`. -/
def resolveConflicts (env : PlanOutside σ S D) (pairs : List (NamedPair S)) (dryRun : Bool) :
    Prog (World σ) ResolveEvent Stop Unit :=
  if dryRun then Prog.fail (.err ["dry_run is not implemented for resolve-conflicts"]) else resolvePairs out env pairs

end Resolve

end Pimsync
