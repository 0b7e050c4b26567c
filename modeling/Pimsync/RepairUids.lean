import Pimsync.RepairTrace

/-!
# What a repair writes

One run of `repair_collection`, with the collection that it leaves behind.

- `Written`, `ItemsVisit.written`: the writes of a run, with the UIDs that they bring;
- `ItemsVisit.balance`: what is not updated is counted;
- `Evolves`, `ItemsVisit.covers`: every item of the collection has a UID after a run without failures;
- `repair_collection_iff`: when `repair_collection` does all that it should, and `repair_counter_wraps`: it does not always.
-/

namespace Pimsync

variable {ops : ItemUids} {collection : String} {allUids allUids' : List String} {events events' : List RepairEvent}
  {failures : List RepairFailure} {items : List FetchedItem}

/-- The items that have no UID. -/
def lacking (ops : ItemUids) (items : List FetchedItem) : List FetchedItem :=
  items.filter fun fetched => (ops.uid fetched.item).isNone

/-! ## Writes -/

/-- A call of `update_item`, and its result. -/
structure ItemWrite where
  href : String
  etag : String
  item : Item
  result : Except Error Unit

def RepairEvent.write? : RepairEvent → Option ItemWrite
  | ⟨.updateItem href etag item, result⟩ => some ⟨href, etag, item, result⟩
  | _ => none

/-- The items that were updated successfully. -/
def countUpdated (events : List RepairEvent) : ℕ :=
  (events.filterMap RepairEvent.write?).countP fun write => write.result.isOk

/-- A UID that is given to an item. -/
structure Assigned where
  fetched : FetchedItem
  uid : String
  result : Except Error Unit

/-- An item is written where it is, as it was read, with the UID. -/
def Assigned.write (ops : ItemUids) (a : Assigned) : ItemWrite :=
  ⟨a.fetched.href, a.fetched.etag, ops.withUid a.fetched.item a.uid, a.result⟩

/-- The writes of a run: they bring UIDs that are new to items that have none, at most one to each. -/
def Written (ops : ItemUids) (allUids : List String) (items : List FetchedItem) (events : List RepairEvent)
    (assigned : List Assigned) : Prop :=
  events.filterMap RepairEvent.write? = assigned.map (Assigned.write ops) ∧
    (assigned.map Assigned.fetched).Sublist (lacking ops items) ∧ (assigned.map Assigned.uid).Nodup ∧
    ∀ a ∈ assigned, a.uid ∉ allUids

theorem Candidate.writes {item : Item} {uid : String} (h : Candidate ops allUids item events uid) :
    events.filterMap RepairEvent.write? = [] := by
  cases h <;> rfl

/-- One item is written at most once, and its UID is known afterwards. -/
theorem ItemVisit.written {fetched : FetchedItem} (h : ItemVisit ops allUids fetched events allUids' failures) :
    ∃ assigned, Written ops allUids [fetched] events assigned ∧ allUids' = assigned.map Assigned.uid ++ allUids := by
  cases h with
  | kept uid huid => exact ⟨[], ⟨rfl, List.nil_sublist _, .nil, by simp⟩, rfl⟩
  | clash huid hcandidate hmem =>
    refine ⟨[], ⟨?_, List.nil_sublist _, .nil, by simp⟩, rfl⟩
    rw [List.filterMap_append, hcandidate.writes]
    rfl
  | @updated _ uid huid hcandidate hmem =>
    refine ⟨[⟨fetched, uid, .ok ()⟩], ⟨?_, by simp [lacking, huid], by simp, by simpa using hmem⟩, rfl⟩
    rw [List.filterMap_append, hcandidate.writes]
    rfl
  | @failed _ uid e huid hcandidate hmem =>
    refine ⟨[⟨fetched, uid, .error e⟩], ⟨?_, by simp [lacking, huid], by simp, by simpa using hmem⟩, rfl⟩
    rw [List.filterMap_append, hcandidate.writes]
    rfl

theorem ItemsVisit.written (h : ItemsVisit ops allUids items events failures) :
    ∃ assigned, Written ops allUids items events assigned := by
  induction h with
  | nil => exact ⟨[], rfl, List.nil_sublist _, .nil, by simp⟩
  | @cons allUids allUids' fetched rest _ _ _ _ hfirst _ ih =>
    obtain ⟨first, ⟨hwrites, hsub, hnodup, hnew⟩, rfl⟩ := hfirst.written
    obtain ⟨others, hwrites', hsub', hnodup', hnew'⟩ := ih
    refine ⟨first ++ others, ?_, ?_, ?_, ?_⟩
    · rw [List.filterMap_append, hwrites, hwrites', List.map_append]
    · rw [List.map_append, lacking, ← List.singleton_append, List.filter_append]
      exact hsub.append hsub'
    · rw [List.map_append, List.nodup_append]
      refine ⟨hnodup, hnodup', fun uid huid uid' huid' heq => ?_⟩
      obtain ⟨a, ha, rfl⟩ := List.mem_map.mp huid'
      exact hnew' a ha (List.mem_append_left _ (heq ▸ huid))
    · intro a ha
      obtain ha | ha := List.mem_append.mp ha
      · exact hnew a ha
      · exact fun hmem => hnew' a ha (List.mem_append_right _ hmem)

/-! ## The counter -/

theorem countUpdated_append : countUpdated (events ++ events') = countUpdated events + countUpdated events' := by
  rw [countUpdated, List.filterMap_append, List.countP_append]
  rfl

theorem Candidate.updated {item : Item} {uid : String} (h : Candidate ops allUids item events uid) :
    countUpdated events = 0 := by
  rw [countUpdated, h.writes]
  rfl

theorem ItemVisit.balance {fetched : FetchedItem} (h : ItemVisit ops allUids fetched events allUids' failures) :
    failures.length + countUpdated events = (lacking ops [fetched]).length := by
  cases h with
  | kept uid huid => simp [lacking, huid, countUpdated]
  | clash huid hcandidate | updated huid hcandidate | failed e huid hcandidate =>
    rw [countUpdated_append, hcandidate.updated]
    simp [lacking, huid, countUpdated, RepairEvent.write?, Except.isOk, Except.toBool]

/-- Every item without a UID is updated, or a failure. -/
theorem ItemsVisit.balance (h : ItemsVisit ops allUids items events failures) :
    failures.length + countUpdated events = (lacking ops items).length := by
  induction h with
  | nil => rfl
  | @cons _ _ fetched rest _ _ _ _ hfirst _ ih =>
    have hlacking : (lacking ops (fetched :: rest)).length = (lacking ops [fetched]).length + (lacking ops rest).length := by
      rw [lacking, ← List.singleton_append, List.filter_append, List.length_append]
      rfl
    rw [List.length_append, countUpdated_append, hlacking, ← hfirst.balance, ← ih]
    omega

/-- The counter after a run, modulo `2 ^ 32`. -/
theorem foldl_failedAfter (failed : UInt32) : ∀ events : List RepairEvent,
    events.foldl failedAfter failed = failed + UInt32.ofNat (countFailed events) := by
  intro events
  induction events generalizing failed with
  | nil => exact (UInt32.add_zero _).symm
  | cons event events ih =>
    have hcount : countFailed ([event] ++ events) = countFailed [event] + countFailed events := countFailed_append
    rw [List.foldl_cons, ih, failedAfter_eq, UInt32.add_assoc, ← UInt32.ofNat_add, ← hcount]
    rfl

/-- The counter grows by what it should if and only if it does not wrap. -/
theorem counter_iff (failed : UInt32) (n : ℕ) : (failed + UInt32.ofNat n).toNat = failed.toNat + n ↔
    failed.toNat + n < 2 ^ 32 := by
  rw [UInt32.toNat_add, UInt32.toNat_ofNat', Nat.add_mod_mod]
  exact ⟨fun h => h ▸ Nat.mod_lt _ (Nat.two_pow_pos 32), Nat.mod_eq_of_lt⟩

/-! ## The collection afterwards -/

/-- An item is stored: it has a new `etag`, and every other item is as it was. -/
def storeItem (content : List FetchedItem) (href etag : String) (item : Item) : List FetchedItem :=
  content.map fun fetched => if fetched.href = href then ⟨href, etag, item⟩ else fetched

/-- What a collection holds after a call. A write that fails may have stored the item. -/
def Stores (content : List FetchedItem) : RepairEvent → List FetchedItem → Prop
  | ⟨.getAllItems _, .ok fetched⟩, content' => fetched.Perm content ∧ content' = content
  | ⟨.updateItem href _ item, .ok ()⟩, content' => ∃ etag, content' = storeItem content href etag item
  | ⟨.updateItem href _ item, .error _⟩, content' => content' = content ∨ ∃ etag, content' = storeItem content href etag item
  | _, content' => content' = content

/-- What a collection holds after the calls of a run. -/
inductive Evolves : List FetchedItem → List RepairEvent → List FetchedItem → Prop
  | nil (content : List FetchedItem) : Evolves content [] content
  | cons {content content' content'' : List FetchedItem} {event : RepairEvent} {events : List RepairEvent} :
      Stores content event content' → Evolves content' events content'' → Evolves content (event :: events) content''

theorem evolves_append {content content'' : List FetchedItem} : Evolves content (events ++ events') content'' ↔
    ∃ content', Evolves content events content' ∧ Evolves content' events' content'' := by
  induction events generalizing content with
  | nil =>
    constructor
    · exact fun h => ⟨content, .nil _, h⟩
    · rintro ⟨content', ⟨⟩, h⟩
      exact h
  | cons event events ih =>
    constructor
    · rintro (_ | ⟨hstores, h⟩)
      obtain ⟨content', h, h'⟩ := ih.mp h
      exact ⟨content', .cons hstores h, h'⟩
    · rintro ⟨content', _ | ⟨hstores, h⟩, h'⟩
      exact .cons hstores (ih.mpr ⟨content', h, h'⟩)

/-- Every item has a UID, but for those that are still to be visited. -/
def Covers (ops : ItemUids) (items content : List FetchedItem) : Prop :=
  ∀ fetched ∈ content, ops.uid fetched.item ≠ none ∨ ∃ later ∈ lacking ops items, later.href = fetched.href

theorem Candidate.evolves {item : Item} {uid : String} {content content' : List FetchedItem}
    (h : Candidate ops allUids item events uid) (he : Evolves content events content') : content' = content := by
  cases h with
  | hash => cases he; rfl
  | dated =>
    cases he with
    | cons hstores he => cases he; exact hstores

theorem ItemVisit.covers (hops : ∀ item uid, ops.uid (ops.withUid item uid) = some uid) {fetched : FetchedItem}
    {content content' : List FetchedItem} (h : ItemVisit ops allUids fetched events allUids' [])
    (he : Evolves content events content') (hcovers : Covers ops (fetched :: items) content) :
    Covers ops items content' := by
  cases h with
  | kept uid huid =>
    cases he
    simpa [Covers, lacking, huid] using hcovers
  | @updated _ uid huid hcandidate hmem =>
    obtain ⟨content₁, he₁, he₂⟩ := evolves_append.mp he
    obtain rfl := hcandidate.evolves he₁
    cases he₂ with
    | cons hstores he₂ =>
      cases he₂
      obtain ⟨etag, rfl⟩ := hstores
      intro stored hstored
      obtain ⟨before, hbefore, rfl⟩ := List.mem_map.mp hstored
      by_cases hhref : before.href = fetched.href
      · rw [if_pos hhref]
        exact .inl (by simp [hops])
      · rw [if_neg hhref]
        refine (hcovers before hbefore).imp id ?_
        rintro ⟨later, hlater, hlaterHref⟩
        rw [lacking, List.filter_cons_of_pos (by simp [huid])] at hlater
        obtain rfl | hlater := List.mem_cons.mp hlater
        · exact absurd hlaterHref.symm hhref
        · exact ⟨later, hlater, hlaterHref⟩

theorem ItemsVisit.covers (hops : ∀ item uid, ops.uid (ops.withUid item uid) = some uid)
    {content content' : List FetchedItem}
    (h : ItemsVisit ops allUids items events failures) (hfailures : failures = []) (he : Evolves content events content')
    (hcovers : Covers ops items content) : ∀ fetched ∈ content', ops.uid fetched.item ≠ none := by
  induction h generalizing content with
  | nil =>
    cases he
    exact fun fetched hmem => (hcovers fetched hmem).resolve_right (by simp [lacking])
  | cons hfirst _ ih =>
    obtain ⟨rfl, rfl⟩ := List.append_eq_nil_iff.mp hfailures
    obtain ⟨content₁, he₁, he₂⟩ := evolves_append.mp he
    exact ih rfl he₂ (hfirst.covers hops he₁ hcovers)

/-- Nothing is done where every item has a UID. -/
theorem repairItems_kept (h : ∀ fetched ∈ items, ops.uid fetched.item ≠ none) (allUids : List String) :
    repairItems ops allUids items = .done () := by
  induction items with
  | nil => rfl
  | cons fetched rest ih =>
    obtain ⟨uid, huid⟩ := Option.ne_none_iff_exists'.mp (h fetched List.mem_cons_self)
    rw [repairItems, repairItem, huid]
    exact ih fun later hlater => h later (List.mem_cons_of_mem _ hlater)

/-- A run writes nothing to a collection in which every item has a UID. -/
theorem repairCollection_kept {content content' : List FetchedItem} {job : RepairJob Unit}
    (h : ∀ fetched ∈ content, ops.uid fetched.item ≠ none) (hpath : Job.Path (repairCollection ops collection) events job)
    (he : Evolves content events content') : events.filterMap RepairEvent.write? = [] := by
  rw [repairCollection] at hpath
  cases hpath with
  | nil => rfl
  | @cons _ _ answer rest _ hpath =>
    cases answer with
    | error e =>
      cases hpath with
      | nil => rfl
      | cons hpath =>
        obtain ⟨rfl, -⟩ := Job.path_done.mp hpath
        rfl
    | ok fetched =>
      cases he with
      | cons hstores _ =>
        have hitems : Job.Path (repairItems ops _ fetched) rest job := hpath
        rw [repairItems_kept fun item hmem => h item (hstores.1.mem_iff.mp hmem)] at hitems
        obtain ⟨rfl, -⟩ := Job.path_done.mp hitems
        rfl

/-! ## One run -/

theorem candidateUid_panic {item : Item} (h : Job.Path (candidateUid ops allUids item) events .panic) :
    ⟨.now, none⟩ ∈ events := by
  rw [candidateUid] at h
  split at h
  · obtain ⟨answer, rest, rfl, hrest⟩ := (Job.path_call Job.panic_ne_call).mp h
    cases answer with
    | none => exact List.mem_cons_self
    | some now => cases (Job.path_done.mp hrest).2
  · cases (Job.path_done.mp h).2

theorem repairItem_panic {fetched : FetchedItem} (h : Job.Path (repairItem ops allUids fetched) events .panic) :
    ⟨.now, none⟩ ∈ events := by
  rw [repairItem] at h
  split at h
  · cases (Job.path_done.mp h).2
  · obtain h | ⟨uid, tried, rest, rfl, -, hrest⟩ := Job.path_bind_panic.mp h
    · exact candidateUid_panic h
    · split at hrest
      · obtain ⟨-, _, -, hend⟩ := (Job.path_call Job.panic_ne_call).mp hrest
        cases (Job.path_done.mp hend).2
      · obtain ⟨answer, _, -, hend⟩ := (Job.path_call Job.panic_ne_call).mp hrest
        cases answer with
        | ok => cases (Job.path_done.mp hend).2
        | error e =>
          obtain ⟨-, _, -, hend⟩ := (Job.path_call Job.panic_ne_call).mp hend
          cases (Job.path_done.mp hend).2

/-- The only panic is that of a clock before the epoch. -/
theorem repairItems_panic (h : Job.Path (repairItems ops allUids items) events .panic) : ⟨.now, none⟩ ∈ events := by
  induction items generalizing allUids events with
  | nil => cases (Job.path_done.mp h).2
  | cons fetched rest ih =>
    obtain h | ⟨uids, first, others, rfl, -, hothers⟩ := Job.path_bind_panic.mp h
    · exact repairItem_panic h
    · exact List.mem_append_right _ (ih hothers)

/-- What a run of `repair_collection` should do with the items `fetched`, on a counter that holds `failed` before. -/
structure Repairs (ops : ItemUids) (collection : String) (fetched : List FetchedItem) (failed : UInt32)
    (events : List RepairEvent) : Prop where
  written : ∃ assigned, Written ops (fetched.filterMap fun item => ops.uid item.item) fetched events assigned
  counted : (events.foldl failedAfter failed).toNat = failed.toNat + ((lacking ops fetched).length - countUpdated events)
  /-- After a run without failures, a second run writes nothing. -/
  again : ∀ content content' content'', Evolves content (⟨.getAllItems collection, .ok fetched⟩ :: events) content' →
    countUpdated events = (lacking ops fetched).length →
      ∀ events' job, Job.Path (repairCollection ops collection) events' job →
      Evolves content' events' content'' → events'.filterMap RepairEvent.write? = []

/-- **One repair**: the run ends, and it does all that it should if and only if the counter does not wrap. -/
theorem repair_collection_iff (hops : ∀ item uid, ops.uid (ops.withUid item uid) = some uid) {fetched : List FetchedItem}
    {job : RepairJob Unit}
    (hpath : Job.Path (repairCollection ops collection) (⟨.getAllItems collection, .ok fetched⟩ :: events) job)
    (hend : ∀ c next, job ≠ .call c next) (hclock : ⟨.now, none⟩ ∉ events) (failed : UInt32) :
    job = .done () ∧ (Repairs ops collection fetched failed events ↔
      failed.toNat + ((lacking ops fetched).length - countUpdated events) < 2 ^ 32) := by
  have hitems : Job.Path (repairItems ops (fetched.filterMap fun item => ops.uid item.item) fetched) events job := by
    cases hpath with
    | cons hpath => exact hpath
  obtain rfl : job = .done () := by
    cases job with
    | done => rfl
    | panic => exact absurd (repairItems_panic hitems) hclock
    | call c next => exact absurd rfl (hend c next)
  obtain ⟨failures, hvisit⟩ := repairItems_path.mp hitems
  have hbalance := hvisit.balance
  have hcount : countFailed events = (lacking ops fetched).length - countUpdated events := by
    rw [hvisit.counted]
    omega
  refine ⟨rfl, fun h => ?_, fun h => ⟨hvisit.written, ?_, ?_⟩⟩
  · exact (counter_iff ..).mp (by rw [← h.counted, foldl_failedAfter, hcount])
  · rw [foldl_failedAfter, hcount, (counter_iff ..).mpr h]
  · intro content content' content'' he hupdated events' job' hpath' he'
    refine repairCollection_kept ?_ hpath' he'
    cases he with
    | cons hstores he =>
      obtain ⟨hperm, rfl⟩ := hstores
      refine hvisit.covers hops (List.eq_nil_of_length_eq_zero (by omega)) he fun item hmem => ?_
      by_cases huid : ops.uid item.item = none
      · exact .inr ⟨item, List.mem_filter.mpr ⟨hperm.mem_iff.mpr hmem, by simp [huid]⟩, rfl⟩
      · exact .inl huid

def twins : List FetchedItem := [⟨"1.ics", "a", ⟨"UID;X=1:"⟩⟩, ⟨"2.ics", "b", ⟨"UID;X=1:"⟩⟩]

/-- The second of two identical items takes its UID from the clock. -/
def repairTwins : List RepairEvent :=
  [⟨.updateItem "1.ics" "a" ⟨"UID:e3b0"⟩, .ok ()⟩, ⟨.now, some 17⟩, ⟨.updateItem "2.ics" "b" ⟨"UID:e3b0.17"⟩, .ok ()⟩]

theorem repairTwins_path : Job.Path (repairCollection bareItems "work")
    (⟨.getAllItems "work", .ok twins⟩ :: repairTwins) (.done ()) :=
  repairCollection_path.mpr ⟨_, .fetched (.cons (.updated rfl (.hash (by decide)) (by decide))
    (.cons (.updated rfl (.dated 17 (by decide)) (by decide)) (.nil _)))⟩

theorem repairTwins_clock : ⟨.now, none⟩ ∉ repairTwins := by
  intro h
  simp only [repairTwins, List.mem_cons, List.not_mem_nil, or_false] at h
  obtain h | h | h := h <;> cases h

theorem repair_collection_iff_twins : Job.done () = (.done () : RepairJob Unit) ∧
    (Repairs bareItems "work" twins 0 repairTwins ↔
      (0 : UInt32).toNat + ((lacking bareItems twins).length - countUpdated repairTwins) < 2 ^ 32) :=
  repair_collection_iff bareItems_uid_withUid repairTwins_path nofun repairTwins_clock 0

/-- **The counter wraps**: it grows to zero. -/
theorem repair_counter_wraps : ¬ ∀ (collection : String) (fetched : List FetchedItem) (events : List RepairEvent)
    (job : RepairJob Unit) (failed : UInt32),
    Job.Path (repairCollection bareItems collection) (⟨.getAllItems collection, .ok fetched⟩ :: events) job →
      (∀ c next, job ≠ .call c next) → ⟨.now, none⟩ ∉ events → Repairs bareItems collection fetched failed events := by
  intro h
  have hpath : Job.Path (repairCollection bareItems "work") [⟨.getAllItems "work", .ok [⟨"1.ics", "a", ⟨"UID;X=1:"⟩⟩]⟩,
      ⟨.updateItem "1.ics" "a" ⟨"UID:e3b0"⟩, .error ["read-only"]⟩, ⟨.addFailed, ()⟩] (.done ()) :=
    repairCollection_path.mpr ⟨_, .fetched (.cons (.failed ["read-only"] rfl (.hash (by decide)) (by decide)) (.nil _))⟩
  refine absurd (h _ _ _ _ 4294967295 hpath nofun fun hmem => ?_).counted (by decide)
  simp only [List.mem_cons, List.not_mem_nil, or_false] at hmem
  obtain hmem | hmem := hmem <;> cases hmem

end Pimsync
