import Mathlib.Data.List.Forall2
import Pimsync.Sync

/-!
# What `sync` shows of a pair

What the user is to be shown: a line for each operation of the plan, which says what it is of (`Shows`), and how many there
are of each kind (`summary`). The plan is one that the crate creates for the pair (`Creates`), with its conflicts resolved as
the pair is configured (`Resolves`).

- `createPlan_creates`, `resolves_apply`: the plan that is shown;
- `planShown_eq`: all that is shown of it.
-/

namespace Pimsync

variable {σ S D : Type}

/-! ## The plan -/

section Plan

variable (env : PlanOutside σ S D) (pair : NamedPair S)

/-- What comes of creating a plan: the status database cannot be opened, or `Plan::new` has it that way for the storages of
the pair, as they are once the database is open. -/
inductive Creates : Except Error (List PlanItem) → Prop
  | openFailed (s s' : σ) (e : Error) : env.openStatus pair.statusPath s = (.error e, s') →
      Creates (.error (s!"openstatus db for {pair.name}" :: e))
  | planned (s s' s'' : σ) (status : Option D) (plan : Except Error (List PlanItem)) :
      env.openStatus pair.statusPath s = (.ok status, s') → env.newPlan pair.inner status s' = (plan, s'') → Creates plan

/-- What the pair has its conflicts resolved to: one side is kept, or they stay as they are. -/
inductive Resolves (plan : List PlanItem) : List PlanItem → Prop
  | keepA : pair.conflictResolution = some .keepA → Resolves plan (env.keepSide .a plan)
  | keepB : pair.conflictResolution = some .keepB → Resolves plan (env.keepSide .b plan)
  | byCommand (rawCmd : RawCommand) : pair.conflictResolution = some (.cmd rawCmd) → Resolves plan plan
  | unset : pair.conflictResolution = none → Resolves plan plan

theorem createPlan_creates {ε : Type} (w : World σ) : Creates env pair (createPlan (ε := ε) env pair w).result := by
  rcases hs : env.openStatus pair.statusPath w.outside with ⟨e | status, s⟩
  · have hrun : (createPlan (ε := ε) env pair w).result = .error (s!"openstatus db for {pair.name}" :: e) := by
      simp [createPlan, Prog.bind_run, hs, context, Except.mapError]
    rw [hrun]
    exact .openFailed _ _ e hs
  · rcases hp : env.newPlan pair.inner status s with ⟨plan, s'⟩
    have hrun : (createPlan (ε := ε) env pair w).result = plan := by
      cases plan <;> simp [createPlan, Prog.bind_run, hs, hp, context, Except.mapError]
    rw [hrun]
    exact .planned _ _ _ status plan hs hp

theorem resolves_apply (plan : List PlanItem) : Resolves env pair plan (applyConflictResolutionToPlan env pair plan) := by
  unfold applyConflictResolutionToPlan
  split
  case h_1 h => exact .keepA h
  case h_2 h => exact .keepB h
  case h_3 hA hB =>
    rcases hc : pair.conflictResolution with _ | resolution
    · exact .unset hc
    · cases resolution with
      | keepA => exact absurd hc hA
      | keepB => exact absurd hc hB
      | cmd rawCmd => exact .byCommand rawCmd hc

end Plan

/-! ## Its operations -/

/-- What is to be shown of an item of a plan. -/
inductive Shows : PlanItem → List TermEvent → Prop
  /-- Stale mappings are only counted. -/
  | flushStaleMappings (staleUids : List String) : Shows (.ok (.flushStaleMappings staleUids)) []
  | collection (display : String) : Shows (.ok (.collection display)) [.print s!"-> Collection {display}"]
  | item (op : ItemOp) (uid : String) : op.uid = some uid →
      Shows (.ok (.item op)) [.print s!"-> Item {uid}: {op.display}"]
  | itemWithoutUid (op : ItemOp) : op.uid = none → Shows (.ok (.item op)) [.print s!"-> Item: {op.display}"]
  | property (op : PropertyOp) :
      Shows (.ok (.property op)) [.print s!"-> Property {op.property.display}: {op.display}"]
  | error (e : Error) : Shows (.error e) [.error "Error in plan" e]

theorem shows_itemShown (item : PlanItem) : Shows item (itemShown item) := by
  cases item with
  | error e => exact .error e
  | ok operation =>
    cases operation with
    | flushStaleMappings staleUids => exact .flushStaleMappings staleUids
    | collection display => exact .collection display
    | property op => exact .property op
    | item op =>
      rcases hu : op.uid with _ | uid
      · simpa only [itemShown, hu] using Shows.itemWithoutUid op hu
      · simpa only [itemShown, hu] using Shows.item op uid hu

/-! ## The summary -/

/-- The operations of a plan. -/
def operationsOf (plan : List PlanItem) : List Operation := plan.filterMap Except.toOption

def Operation.isCollection : Operation → Bool
  | .collection _ => true
  | _ => false

def Operation.isItem : Operation → Bool
  | .item _ => true
  | _ => false

def Operation.isProperty : Operation → Bool
  | .property _ => true
  | _ => false

/-- The mappings that an operation flushes. -/
def Operation.staleUids : Operation → List String
  | .flushStaleMappings staleUids => staleUids
  | _ => []

/-- How many operations there are of each kind. -/
def summary (operations : List Operation) : List TermEvent :=
  let count (kind : Operation → Bool) : ℕ := operations.countP kind
  [.print s!"{count Operation.isCollection} collection operations, {count Operation.isItem} item operations, {count Operation.isProperty} property operations",
    .print s!"{count Operation.isConflict} conflicts detected",
    .print s!"{(operations.flatMap Operation.staleUids).length} stale mappings to flush", .print ""]

theorem foldl_counts : ∀ (plan : List PlanItem) (counts : PlanCounts), plan.foldl PlanCounts.add counts =
    ⟨counts.collection + (operationsOf plan).countP Operation.isCollection,
      counts.item + (operationsOf plan).countP Operation.isItem,
      counts.property + (operationsOf plan).countP Operation.isProperty,
      counts.conflict + (operationsOf plan).countP Operation.isConflict,
      counts.stale + ((operationsOf plan).flatMap Operation.staleUids).length⟩
  | [], counts => rfl
  | .error e :: plan, counts => by
    have hops : operationsOf (.error e :: plan) = operationsOf plan := rfl
    rw [List.foldl_cons, foldl_counts plan, hops]
    rfl
  | .ok operation :: plan, counts => by
    have hops : operationsOf (.ok operation :: plan) = operation :: operationsOf plan := rfl
    rw [List.foldl_cons, foldl_counts plan, hops]
    cases operation <;>
      simp [PlanCounts.add, Operation.isCollection, Operation.isItem, Operation.isProperty, Operation.isConflict,
        Operation.staleUids, List.countP_cons, Nat.add_assoc, Nat.add_comm]

theorem shown_counts (plan : List PlanItem) :
    (plan.foldl PlanCounts.add .zero).shown = summary (operationsOf plan) := by
  rw [foldl_counts]
  simp [PlanCounts.shown, PlanCounts.zero, summary]

/-- **All that is shown of a plan**: the pair, a line for each operation, in their order, and how many there are. -/
theorem planShown_eq (name : String) (plan : List PlanItem) : ∃ blocks, List.Forall₂ Shows plan blocks ∧
    planShown name plan = [TermEvent.print s!">> Storage: {name}"] ++ blocks.flatten ++ summary (operationsOf plan) := by
  refine ⟨plan.map itemShown, ?_, ?_⟩
  · rw [List.forall₂_map_right_iff]
    exact List.forall₂_same.mpr fun item _ => shows_itemShown item
  · rw [planShown, shown_counts, List.flatMap_def]

/-- Nothing is read or answered while a plan is shown. -/
theorem planShown_shown (name : String) (plan : List PlanItem) :
    ∀ event ∈ planShown name plan, (∃ text, event = .print text) ∨ ∃ message e, event = .error message e := by
  have hitem : ∀ item : PlanItem, ∀ event ∈ itemShown item,
      (∃ text, event = .print text) ∨ ∃ message e, event = .error message e := by
    intro item
    have h := shows_itemShown item
    generalize itemShown item = block at h
    cases h <;> simp
  intro event he
  simp only [planShown, List.mem_append, List.mem_singleton, List.mem_flatMap] at he
  obtain (rfl | ⟨item, -, he⟩) | he := he
  · exact .inl ⟨_, rfl⟩
  · exact hitem item event he
  · refine .inl ?_
    simp only [PlanCounts.shown, List.mem_cons, List.not_mem_nil, or_false] at he
    obtain rfl | rfl | rfl | rfl := he <;> exact ⟨_, rfl⟩

end Pimsync
