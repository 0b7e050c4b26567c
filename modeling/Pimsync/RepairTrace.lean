import Mathlib.Algebra.GroupWithZero.Nat
import Pimsync.Repair

/-!
# The traces of a repair

What a job of `repair_storages` does from its first call to its end, with the failures on its way.

- `ItemVisit`, `ItemsVisit`, `CollectionVisit`, `StorageVisit`: what an item, the items, a collection and a storage go
  through;
- `repairItem_path`, `repairCollection_path`, `repairStorage_path`: the paths of the jobs are exactly these;
- `StorageVisit.counted`: every failure is counted once.
-/

namespace Pimsync

variable {ops : ItemUids}

/-! ## Visits -/

inductive RepairFailure
  | discovery (e : Error)
  | fetch (collection : String) (e : Error)
  /-- No UID was found for the item. -/
  | clash (href : String)
  | update (href : String) (e : Error)

/-- The UID that is tried for an item. -/
inductive Candidate (ops : ItemUids) (allUids : List String) (item : Item) : List RepairEvent → String → Prop
  | hash : ops.hash item ∉ allUids → Candidate ops allUids item [] (ops.hash item)
  | dated (now : ℕ) : ops.hash item ∈ allUids →
      Candidate ops allUids item [⟨.now, some now⟩] (ops.hash item ++ "." ++ toString now)

/-- What an item goes through, with the UIDs that are known before and after. -/
inductive ItemVisit (ops : ItemUids) (allUids : List String) (fetched : FetchedItem) :
    List RepairEvent → List String → List RepairFailure → Prop
  | kept (uid : String) : ops.uid fetched.item = some uid → ItemVisit ops allUids fetched [] allUids []
  | clash {events : List RepairEvent} {uid : String} : ops.uid fetched.item = none →
      Candidate ops allUids fetched.item events uid → uid ∈ allUids →
      ItemVisit ops allUids fetched (events ++ [⟨.addFailed, ()⟩]) allUids [.clash fetched.href]
  | updated {events : List RepairEvent} {uid : String} : ops.uid fetched.item = none →
      Candidate ops allUids fetched.item events uid → uid ∉ allUids →
      ItemVisit ops allUids fetched
        (events ++ [⟨.updateItem fetched.href fetched.etag (ops.withUid fetched.item uid), .ok ()⟩]) (uid :: allUids) []
  | failed {events : List RepairEvent} {uid : String} (e : Error) : ops.uid fetched.item = none →
      Candidate ops allUids fetched.item events uid → uid ∉ allUids →
      ItemVisit ops allUids fetched
        (events ++ [⟨.updateItem fetched.href fetched.etag (ops.withUid fetched.item uid), .error e⟩, ⟨.addFailed, ()⟩])
        (uid :: allUids) [.update fetched.href e]

inductive ItemsVisit (ops : ItemUids) : List String → List FetchedItem → List RepairEvent → List RepairFailure → Prop
  | nil (allUids : List String) : ItemsVisit ops allUids [] [] []
  | cons {allUids allUids' : List String} {fetched : FetchedItem} {rest : List FetchedItem}
      {events events' : List RepairEvent}
      {failures failures' : List RepairFailure} : ItemVisit ops allUids fetched events allUids' failures →
      ItemsVisit ops allUids' rest events' failures' →
      ItemsVisit ops allUids (fetched :: rest) (events ++ events') (failures ++ failures')

inductive CollectionVisit (ops : ItemUids) (collection : String) : List RepairEvent → List RepairFailure → Prop
  | failed (e : Error) :
      CollectionVisit ops collection [⟨.getAllItems collection, .error e⟩, ⟨.addFailed, ()⟩] [.fetch collection e]
  | fetched {allFetched : List FetchedItem} {events : List RepairEvent} {failures : List RepairFailure} :
      ItemsVisit ops (allFetched.filterMap fun fetched => ops.uid fetched.item) allFetched events failures →
      CollectionVisit ops collection (⟨.getAllItems collection, .ok allFetched⟩ :: events) failures

inductive CollectionsVisit (ops : ItemUids) : List String → List RepairEvent → List RepairFailure → Prop
  | nil : CollectionsVisit ops [] [] []
  | cons {collection : String} {rest : List String} {events events' : List RepairEvent}
      {failures failures' : List RepairFailure} : CollectionVisit ops collection events failures →
      CollectionsVisit ops rest events' failures' →
      CollectionsVisit ops (collection :: rest) (events ++ events') (failures ++ failures')

/-- What a storage goes through. -/
inductive StorageVisit (ops : ItemUids) : List RepairEvent → List RepairFailure → Prop
  | failed (e : Error) : StorageVisit ops [⟨.discoverCollections, .error e⟩, ⟨.addFailed, ()⟩] [.discovery e]
  | discovered {collections : List String} {events : List RepairEvent} {failures : List RepairFailure} :
      CollectionsVisit ops collections events failures →
      StorageVisit ops (⟨.discoverCollections, .ok collections⟩ :: events) failures

/-! ## Paths are visits -/

section Paths

variable {allUids allUids' : List String} {events : List RepairEvent}

theorem candidateUid_path {item : Item} {uid : String} :
    Job.Path (candidateUid ops allUids item) events (.done uid) ↔ Candidate ops allUids item events uid := by
  rw [candidateUid]
  by_cases hhash : ops.hash item ∈ allUids
  · rw [if_pos hhash, Job.path_call (Job.done_ne_call _)]
    constructor
    · rintro ⟨answer, rest, rfl, h⟩
      cases answer with
      | none => cases (Job.path_panic.mp h).2
      | some now =>
        obtain ⟨rfl, huid⟩ := Job.path_done.mp h
        cases huid
        exact .dated now hhash
    · rintro (hno | ⟨now, -⟩)
      · exact absurd hhash hno
      · exact ⟨some now, [], rfl, .nil _⟩
  · rw [if_neg hhash, Job.pure_eq_done, Job.path_done]
    constructor
    · rintro ⟨rfl, huid⟩
      cases huid
      exact .hash hhash
    · rintro (_ | ⟨now, hyes⟩)
      · exact ⟨rfl, rfl⟩
      · exact absurd hyes hhash

theorem repairItem_path {fetched : FetchedItem} : Job.Path (repairItem ops allUids fetched) events (.done allUids') ↔
    ∃ failures, ItemVisit ops allUids fetched events allUids' failures := by
  constructor
  · intro h
    rw [repairItem] at h
    split at h
    · next uid huid =>
      obtain ⟨rfl, hdone⟩ := Job.path_done.mp h
      cases hdone
      exact ⟨_, .kept uid huid⟩
    · next huid =>
      obtain ⟨uid, tried, rest, rfl, hcandidate, h⟩ := Job.path_bind.mp h
      rw [candidateUid_path] at hcandidate
      split at h
      · next hmem =>
        obtain ⟨⟨⟩, _, rfl, hend⟩ := (Job.path_call (Job.done_ne_call _)).mp h
        obtain ⟨rfl, hdone⟩ := Job.path_done.mp hend
        cases hdone
        exact ⟨_, .clash huid hcandidate hmem⟩
      · next hmem =>
        obtain ⟨answer, _, rfl, hrest⟩ := (Job.path_call (Job.done_ne_call _)).mp h
        cases answer with
        | ok =>
          obtain ⟨rfl, hdone⟩ := Job.path_done.mp hrest
          cases hdone
          exact ⟨_, .updated huid hcandidate hmem⟩
        | error e =>
          obtain ⟨⟨⟩, _, rfl, hend⟩ := (Job.path_call (Job.done_ne_call _)).mp hrest
          obtain ⟨rfl, hdone⟩ := Job.path_done.mp hend
          cases hdone
          exact ⟨_, .failed e huid hcandidate hmem⟩
  · rintro ⟨failures, h⟩
    rw [repairItem]
    cases h with
    | kept uid huid =>
      rw [huid]
      exact .nil _
    | clash huid hcandidate hmem =>
      rw [huid]
      refine Job.path_bind.mpr ⟨_, _, _, rfl, candidateUid_path.mpr hcandidate, ?_⟩
      rw [if_pos hmem]
      exact .cons (.nil _)
    | updated huid hcandidate hmem =>
      rw [huid]
      refine Job.path_bind.mpr ⟨_, _, _, rfl, candidateUid_path.mpr hcandidate, ?_⟩
      rw [if_neg hmem]
      exact .cons (.nil _)
    | failed e huid hcandidate hmem =>
      rw [huid]
      refine Job.path_bind.mpr ⟨_, _, _, rfl, candidateUid_path.mpr hcandidate, ?_⟩
      rw [if_neg hmem]
      exact .cons (.cons (.nil _))

theorem repairItems_path {items : List FetchedItem} : Job.Path (repairItems ops allUids items) events (.done ()) ↔
    ∃ failures, ItemsVisit ops allUids items events failures := by
  induction items generalizing allUids events with
  | nil =>
    constructor
    · intro h
      obtain ⟨rfl, -⟩ := Job.path_done.mp h
      exact ⟨_, .nil _⟩
    · rintro ⟨failures, ⟨⟩⟩
      exact .nil _
  | cons fetched rest ih =>
    rw [repairItems, Job.path_bind]
    constructor
    · rintro ⟨allUids', first, others, rfl, hfirst, hothers⟩
      obtain ⟨failures, hfirst⟩ := repairItem_path.mp hfirst
      obtain ⟨failures', hothers⟩ := ih.mp hothers
      exact ⟨_, .cons hfirst hothers⟩
    · rintro ⟨failures, h⟩
      cases h with
      | cons hfirst hothers => exact ⟨_, _, _, rfl, repairItem_path.mpr ⟨_, hfirst⟩, ih.mpr ⟨_, hothers⟩⟩

theorem repairCollection_path {collection : String} : Job.Path (repairCollection ops collection) events (.done ()) ↔
    ∃ failures, CollectionVisit ops collection events failures := by
  rw [repairCollection, Job.path_call (Job.done_ne_call _)]
  constructor
  · rintro ⟨answer, rest, rfl, h⟩
    cases answer with
    | error e =>
      obtain ⟨⟨⟩, _, rfl, hend⟩ := (Job.path_call (Job.done_ne_call _)).mp h
      obtain ⟨rfl, -⟩ := Job.path_done.mp hend
      exact ⟨_, .failed e⟩
    | ok allFetched =>
      obtain ⟨failures, h⟩ := repairItems_path.mp h
      exact ⟨failures, .fetched h⟩
  · rintro ⟨failures, h⟩
    cases h with
    | failed e => exact ⟨.error e, _, rfl, .cons (.nil _)⟩
    | @fetched allFetched _ _ h => exact ⟨.ok allFetched, _, rfl, repairItems_path.mpr ⟨failures, h⟩⟩

theorem repairCollections_path {collections : List String} :
    Job.Path (Job.forEach (repairCollection ops) collections) events (.done ()) ↔
      ∃ failures, CollectionsVisit ops collections events failures := by
  induction collections generalizing events with
  | nil =>
    constructor
    · intro h
      obtain ⟨rfl, -⟩ := Job.path_done.mp h
      exact ⟨_, .nil⟩
    · rintro ⟨failures, ⟨⟩⟩
      exact .nil _
  | cons collection rest ih =>
    rw [Job.forEach, Job.path_bind]
    constructor
    · rintro ⟨⟨⟩, first, others, rfl, hfirst, hothers⟩
      obtain ⟨failures, hfirst⟩ := repairCollection_path.mp hfirst
      obtain ⟨failures', hothers⟩ := ih.mp hothers
      exact ⟨_, .cons hfirst hothers⟩
    · rintro ⟨failures, h⟩
      cases h with
      | cons hfirst hothers => exact ⟨(), _, _, rfl, repairCollection_path.mpr ⟨_, hfirst⟩, ih.mpr ⟨_, hothers⟩⟩

/-- **The paths of a repair** from the first call to the end are the visits of a storage. -/
theorem repairStorage_path : Job.Path (repairStorage ops) events (.done ()) ↔
    ∃ failures, StorageVisit ops events failures := by
  rw [repairStorage, Job.path_call (Job.done_ne_call _)]
  constructor
  · rintro ⟨answer, rest, rfl, h⟩
    cases answer with
    | error e =>
      obtain ⟨⟨⟩, _, rfl, hend⟩ := (Job.path_call (Job.done_ne_call _)).mp h
      obtain ⟨rfl, -⟩ := Job.path_done.mp hend
      exact ⟨_, .failed e⟩
    | ok collections =>
      obtain ⟨failures, h⟩ := repairCollections_path.mp h
      exact ⟨failures, .discovered h⟩
  · rintro ⟨failures, h⟩
    cases h with
    | failed e => exact ⟨.error e, _, rfl, .cons (.nil _)⟩
    | @discovered collections _ _ h => exact ⟨.ok collections, _, rfl, repairCollections_path.mpr ⟨failures, h⟩⟩

end Paths

/-! ## Failures are counted -/

section Counted

/-- The call is `failed.fetch_add(1)`. -/
def RepairEvent.isFailed : RepairEvent → Bool
  | ⟨.addFailed, _⟩ => true
  | _ => false

/-- How often the counter is increased. -/
def countFailed (events : List RepairEvent) : ℕ := events.countP RepairEvent.isFailed

variable {allUids allUids' : List String} {events events' : List RepairEvent} {failures : List RepairFailure}

theorem countFailed_append : countFailed (events ++ events') = countFailed events + countFailed events' :=
  List.countP_append

/-- The counter counts the failures, modulo `2 ^ 32`. -/
theorem failedAfter_eq (failed : UInt32) (event : RepairEvent) :
    failedAfter failed event = failed + UInt32.ofNat (countFailed [event]) := by
  obtain ⟨c, answer⟩ := event
  cases c with
  | addFailed => rfl
  | _ => exact (UInt32.add_zero _).symm

theorem Candidate.counted {item : Item} {uid : String} (h : Candidate ops allUids item events uid) :
    countFailed events = 0 := by
  cases h <;> rfl

theorem ItemVisit.counted {fetched : FetchedItem} (h : ItemVisit ops allUids fetched events allUids' failures) :
    countFailed events = failures.length := by
  cases h with
  | kept => rfl
  | clash _ hcandidate | updated _ hcandidate | failed e _ hcandidate =>
    rw [countFailed_append, hcandidate.counted]
    rfl

theorem ItemsVisit.counted {items : List FetchedItem} (h : ItemsVisit ops allUids items events failures) :
    countFailed events = failures.length := by
  induction h with
  | nil => rfl
  | cons hfirst _ ih => rw [countFailed_append, List.length_append, hfirst.counted, ih]

theorem CollectionVisit.counted {collection : String} (h : CollectionVisit ops collection events failures) :
    countFailed events = failures.length := by
  cases h with
  | failed => rfl
  | fetched h => exact h.counted

theorem CollectionsVisit.counted {collections : List String} (h : CollectionsVisit ops collections events failures) :
    countFailed events = failures.length := by
  induction h with
  | nil => rfl
  | cons hfirst _ ih => rw [countFailed_append, List.length_append, hfirst.counted, ih]

/-- **Every failure is counted**, and once. -/
theorem StorageVisit.counted (h : StorageVisit ops events failures) : countFailed events = failures.length := by
  cases h with
  | failed => rfl
  | discovered h => exact h.counted

end Counted

end Pimsync
