import Pimsync.RepairTrace

/-!
# Repairs that are interrupted

How far a job of `repair_storages` has come when it panics, and the failures that it has counted by then: those of the
items, collections and storages that it is done with. A failure that it was about to count is lost.

- `StorageTask`: what a task goes through, to its end or until it panics;
- `storageTask_of_path`: every path of the job is such;
- `StorageTask.counted`: the counter is increased once for every failure.
-/

namespace Pimsync

variable {ops : ItemUids}

/-! ## Parts of a visit -/

/-- What has been done with an item that is not done with. -/
inductive ItemPart (ops : ItemUids) (allUids : List String) (fetched : FetchedItem) : List RepairEvent → Prop
  | begun : ItemPart ops allUids fetched []
  /-- The clock is before the epoch. -/
  | undated : ItemPart ops allUids fetched [⟨.now, none⟩]
  | tried {events : List RepairEvent} {uid : String} : Candidate ops allUids fetched.item events uid →
      ItemPart ops allUids fetched events
  | uncounted {events : List RepairEvent} {uid : String} (e : Error) : Candidate ops allUids fetched.item events uid →
      ItemPart ops allUids fetched
        (events ++ [⟨.updateItem fetched.href fetched.etag (ops.withUid fetched.item uid), .error e⟩])

inductive ItemsPart (ops : ItemUids) : List String → List FetchedItem → List RepairEvent → List RepairFailure → Prop
  | item {allUids : List String} {fetched : FetchedItem} {rest : List FetchedItem} {events : List RepairEvent} :
      ops.uid fetched.item = none → ItemPart ops allUids fetched events → ItemsPart ops allUids (fetched :: rest) events []
  | cons {allUids allUids' : List String} {fetched : FetchedItem} {rest : List FetchedItem}
      {events events' : List RepairEvent} {failures failures' : List RepairFailure} :
      ItemVisit ops allUids fetched events allUids' failures → ItemsPart ops allUids' rest events' failures' →
      ItemsPart ops allUids (fetched :: rest) (events ++ events') (failures ++ failures')

inductive CollectionPart (ops : ItemUids) (collection : String) : List RepairEvent → List RepairFailure → Prop
  | begun : CollectionPart ops collection [] []
  | uncounted (e : Error) : CollectionPart ops collection [⟨.getAllItems collection, .error e⟩] []
  | fetched {allFetched : List FetchedItem} {events : List RepairEvent} {failures : List RepairFailure} :
      ItemsPart ops (allFetched.filterMap fun fetched => ops.uid fetched.item) allFetched events failures →
      CollectionPart ops collection (⟨.getAllItems collection, .ok allFetched⟩ :: events) failures

inductive CollectionsPart (ops : ItemUids) : List String → List RepairEvent → List RepairFailure → Prop
  | collection {collection : String} {rest : List String} {events : List RepairEvent} {failures : List RepairFailure} :
      CollectionPart ops collection events failures → CollectionsPart ops (collection :: rest) events failures
  | cons {collection : String} {rest : List String} {events events' : List RepairEvent}
      {failures failures' : List RepairFailure} : CollectionVisit ops collection events failures →
      CollectionsPart ops rest events' failures' →
      CollectionsPart ops (collection :: rest) (events ++ events') (failures ++ failures')

/-- What a task goes through: its storage, or a part of it. -/
inductive StorageTask (ops : ItemUids) : List RepairEvent → List RepairFailure → Prop
  | visited {events : List RepairEvent} {failures : List RepairFailure} : StorageVisit ops events failures →
      StorageTask ops events failures
  | begun : StorageTask ops [] []
  | uncounted (e : Error) : StorageTask ops [⟨.discoverCollections, .error e⟩] []
  | discovered {collections : List String} {events : List RepairEvent} {failures : List RepairFailure} :
      CollectionsPart ops collections events failures →
      StorageTask ops (⟨.discoverCollections, .ok collections⟩ :: events) failures

/-! ## Paths -/

section Paths

variable {allUids : List String} {events : List RepairEvent}

/-- A call of `fetch_add`: the failure is not counted yet, or it is, and the job goes on. -/
theorem path_addFailed {α : Type} {next : RepairJob α} {job : RepairJob α}
    (h : Job.Path (.call .addFailed fun _ => next) events job) :
    events = [] ∨ ∃ rest, events = ⟨.addFailed, ()⟩ :: rest ∧ Job.Path next rest job := by
  obtain rfl | ⟨⟨⟩, rest, rfl, hnext⟩ := h.into_call
  · exact .inl rfl
  · exact .inr ⟨rest, rfl, hnext⟩

theorem candidateUid_part {item : Item} {job : RepairJob String}
    (h : Job.Path (candidateUid ops allUids item) events job) :
    events = [] ∨ events = [⟨.now, none⟩] ∨ ∃ uid, job = .done uid := by
  rw [candidateUid] at h
  split at h
  · obtain rfl | ⟨answer, rest, rfl, hnext⟩ := h.into_call
    · exact .inl rfl
    · cases answer with
      | none =>
        obtain ⟨rfl, -⟩ := Job.path_panic.mp hnext
        exact .inr (.inl rfl)
      | some now => exact .inr (.inr ⟨_, (Job.path_done.mp hnext).2⟩)
  · exact .inr (.inr ⟨_, (Job.path_done.mp h).2⟩)

theorem repairItem_part {fetched : FetchedItem} {job : RepairJob (List String)}
    (h : Job.Path (repairItem ops allUids fetched) events job) :
    (∃ allUids', job = .done allUids') ∨ ops.uid fetched.item = none ∧ ItemPart ops allUids fetched events := by
  rw [repairItem] at h
  split at h
  · exact .inl ⟨_, (Job.path_done.mp h).2⟩
  · next huid =>
    obtain ⟨k, hk, rfl⟩ | ⟨uid, tried, rest, rfl, hcandidate, h⟩ := h.into_bind
    · obtain rfl | rfl | ⟨uid, rfl⟩ := candidateUid_part hk
      · exact .inr ⟨huid, .begun⟩
      · exact .inr ⟨huid, .undated⟩
      · exact .inr ⟨huid, .tried (candidateUid_path.mp hk)⟩
    · rw [candidateUid_path] at hcandidate
      split at h
      · obtain rfl | ⟨rest, rfl, hend⟩ := path_addFailed h
        · exact .inr ⟨huid, by simpa using ItemPart.tried hcandidate⟩
        · exact .inl ⟨_, (Job.path_done.mp hend).2⟩
      · obtain rfl | ⟨answer, rest, rfl, hnext⟩ := h.into_call
        · exact .inr ⟨huid, by simpa using ItemPart.tried hcandidate⟩
        · cases answer with
          | ok => exact .inl ⟨_, (Job.path_done.mp hnext).2⟩
          | error e =>
            obtain rfl | ⟨rest, rfl, hend⟩ := path_addFailed hnext
            · exact .inr ⟨huid, .uncounted e hcandidate⟩
            · exact .inl ⟨_, (Job.path_done.mp hend).2⟩

theorem repairItems_part {items : List FetchedItem} {job : RepairJob Unit}
    (h : Job.Path (repairItems ops allUids items) events job) :
    job = .done () ∨ ∃ failures, ItemsPart ops allUids items events failures := by
  induction items generalizing allUids events with
  | nil => exact .inl (Job.path_done.mp h).2
  | cons fetched rest ih =>
    obtain ⟨k, hk, rfl⟩ | ⟨allUids', first, others, rfl, hfirst, hothers⟩ := h.into_bind
    · obtain ⟨allUids', rfl⟩ | ⟨huid, hpart⟩ := repairItem_part hk
      · obtain ⟨failures, hfirst⟩ := repairItem_path.mp hk
        obtain hdone | ⟨failures', hothers⟩ := ih (.nil (repairItems ops allUids' rest))
        · exact .inl hdone
        · exact .inr ⟨_, by simpa using ItemsPart.cons hfirst hothers⟩
      · exact .inr ⟨_, .item huid hpart⟩
    · obtain ⟨failures, hfirst⟩ := repairItem_path.mp hfirst
      exact (ih hothers).imp_right fun ⟨failures', hothers⟩ => ⟨_, .cons hfirst hothers⟩

theorem repairCollection_part {collection : String} {job : RepairJob Unit}
    (h : Job.Path (repairCollection ops collection) events job) :
    job = .done () ∨ ∃ failures, CollectionPart ops collection events failures := by
  obtain rfl | ⟨answer, rest, rfl, hnext⟩ := h.into_call
  · exact .inr ⟨_, .begun⟩
  · cases answer with
    | ok allFetched => exact (repairItems_part hnext).imp_right fun ⟨failures, hpart⟩ => ⟨failures, .fetched hpart⟩
    | error e =>
      obtain rfl | ⟨rest, rfl, hend⟩ := path_addFailed hnext
      · exact .inr ⟨_, .uncounted e⟩
      · exact .inl (Job.path_done.mp hend).2

theorem repairCollections_part {collections : List String} {job : RepairJob Unit}
    (h : Job.Path (Job.forEach (repairCollection ops) collections) events job) :
    job = .done () ∨ ∃ failures, CollectionsPart ops collections events failures := by
  induction collections generalizing events with
  | nil => exact .inl (Job.path_done.mp h).2
  | cons collection rest ih =>
    obtain ⟨k, hk, rfl⟩ | ⟨⟨⟩, first, others, rfl, hfirst, hothers⟩ := h.into_bind
    · obtain rfl | ⟨failures, hpart⟩ := repairCollection_part hk
      · obtain ⟨failures, hfirst⟩ := repairCollection_path.mp hk
        obtain hdone | ⟨failures', hothers⟩ := ih (.nil (Job.forEach (repairCollection ops) rest))
        · exact .inl hdone
        · exact .inr ⟨_, by simpa using CollectionsPart.cons hfirst hothers⟩
      · exact .inr ⟨failures, .collection hpart⟩
    · obtain ⟨failures, hfirst⟩ := repairCollection_path.mp hfirst
      exact (ih hothers).imp_right fun ⟨failures', hothers⟩ => ⟨_, .cons hfirst hothers⟩

/-- **The paths of a repair** from its first call are the parts of a visit, and whole visits. -/
theorem storageTask_of_path {job : RepairJob Unit} (h : Job.Path (repairStorage ops) events job) :
    ∃ failures, StorageTask ops events failures := by
  by_cases hjob : job = .done ()
  · obtain ⟨failures, hvisit⟩ := repairStorage_path.mp (hjob ▸ h)
    exact ⟨failures, .visited hvisit⟩
  · obtain rfl | ⟨answer, rest, rfl, hnext⟩ := h.into_call
    · exact ⟨_, .begun⟩
    · cases answer with
      | ok collections =>
        obtain hdone | ⟨failures, hpart⟩ := repairCollections_part hnext
        · exact absurd hdone hjob
        · exact ⟨failures, .discovered hpart⟩
      | error e =>
        obtain rfl | ⟨rest, rfl, hend⟩ := path_addFailed hnext
        · exact ⟨_, .uncounted e⟩
        · exact absurd (Job.path_done.mp hend).2 hjob

end Paths

/-! ## Failures are counted -/

section Counted

variable {allUids : List String} {events : List RepairEvent} {failures : List RepairFailure}

theorem ItemPart.counted {fetched : FetchedItem} (h : ItemPart ops allUids fetched events) : countFailed events = 0 := by
  cases h with
  | begun | undated => rfl
  | tried hcandidate => exact hcandidate.counted
  | uncounted e hcandidate =>
    rw [countFailed_append, hcandidate.counted]
    rfl

theorem ItemsPart.counted {items : List FetchedItem} (h : ItemsPart ops allUids items events failures) :
    countFailed events = failures.length := by
  induction h with
  | item _ hpart => exact hpart.counted
  | cons hfirst _ ih => rw [countFailed_append, List.length_append, hfirst.counted, ih]

theorem CollectionPart.counted {collection : String} (h : CollectionPart ops collection events failures) :
    countFailed events = failures.length := by
  cases h with
  | begun | uncounted => rfl
  | fetched hpart => exact hpart.counted

theorem CollectionsPart.counted {collections : List String} (h : CollectionsPart ops collections events failures) :
    countFailed events = failures.length := by
  induction h with
  | collection hpart => exact hpart.counted
  | cons hfirst _ ih => rw [countFailed_append, List.length_append, hfirst.counted, ih]

/-- **The counter is increased once for every failure** of what a task is done with. -/
theorem StorageTask.counted (h : StorageTask ops events failures) : countFailed events = failures.length := by
  cases h with
  | visited hvisit => exact hvisit.counted
  | begun | uncounted => rfl
  | discovered hpart => exact hpart.counted

end Counted

end Pimsync
