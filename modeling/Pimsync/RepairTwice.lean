import Pimsync.RepairRuns
import Pimsync.RepairUids

/-!
# Repairing twice

What all storages hold, while the tasks of `repair_storages` call them side by side. A storage may be configured under
several names, so that its tasks get in each other's way.

- `Contents.Grows`, `stores_grows`: a repair keeps what is there, and what it brings has a UID;
- `leaves_uids`: after a repair in which nothing went wrong, every item has a UID;
- `repair_twice`: a second one writes nothing.
-/

namespace Pimsync

variable {S : Type} {ops : ItemUids}

/-! ## Contents -/

/-- What a storage holds: the hrefs of its collections, and the items of each. -/
structure Contents where
  collections : List String
  items : String → List FetchedItem

namespace Contents

variable {c c' c'' : Contents} {event : RepairEvent} {collection href : String}

/-- An item is stored, in whichever collections it is. -/
def store (c : Contents) (href etag : String) (item : Item) : Contents :=
  { c with items := fun collection => storeItem (c.items collection) href etag item }

/-- What a storage holds after a call. A write that fails may have stored the item. -/
def After (c : Contents) : RepairEvent → Contents → Prop
  | ⟨.discoverCollections, .ok hrefs⟩, c' => hrefs.Perm c.collections ∧ c' = c
  | ⟨.getAllItems collection, .ok fetched⟩, c' => fetched.Perm (c.items collection) ∧ c' = c
  | ⟨.updateItem href _ item, .ok ()⟩, c' => ∃ etag, c' = c.store href etag item
  | ⟨.updateItem href _ item, .error _⟩, c' => c' = c ∨ ∃ etag, c' = c.store href etag item
  | _, c' => c' = c

/-- Every item of a collection has a UID. -/
def HasUids (ops : ItemUids) (c : Contents) (collection : String) : Prop :=
  ∀ fetched ∈ c.items collection, ops.uid fetched.item ≠ none

/-- The collections are the same, and an item is as it was, or has a UID. -/
structure Grows (ops : ItemUids) (c c' : Contents) : Prop where
  collections : c'.collections = c.collections
  items : ∀ collection, ∀ fetched ∈ c'.items collection, ops.uid fetched.item ≠ none ∨ fetched ∈ c.items collection

theorem Grows.refl (c : Contents) : Grows ops c c := ⟨rfl, fun _ _ h => .inr h⟩

theorem Grows.trans (h : Grows ops c c') (h' : Grows ops c' c'') : Grows ops c c'' where
  collections := h'.collections.trans h.collections
  items collection fetched hmem := (h'.items collection fetched hmem).elim .inl (h.items collection fetched)

theorem mem_store {etag : String} {item : Item} {fetched : FetchedItem}
    (h : fetched ∈ (c.store href etag item).items collection) :
    fetched = ⟨href, etag, item⟩ ∨ fetched.href ≠ href ∧ fetched ∈ c.items collection := by
  obtain ⟨before, hmem, rfl⟩ := List.mem_map.mp h
  by_cases hhref : before.href = href
  · exact .inl (if_pos hhref)
  · rw [if_neg hhref]
    exact .inr ⟨hhref, hmem⟩

theorem grows_store {etag : String} {item : Item} (hitem : ops.uid item ≠ none) : Grows ops c (c.store href etag item) :=
  ⟨rfl, fun _ _ hmem => (mem_store hmem).elim (fun h => .inl (h ▸ hitem)) fun h => .inr h.2⟩

end Contents

/-- A call that writes an item gives it a UID. -/
def RepairCall.GivesUid (ops : ItemUids) : RepairCall → Prop
  | .updateItem _ _ item => ops.uid item ≠ none
  | _ => True

def RepairCall.Writes : RepairCall → Prop
  | .updateItem _ _ _ => True
  | _ => False

namespace Contents

variable {c c' : Contents} {event : RepairEvent}

/-- A call that writes nothing changes nothing. -/
theorem After.same (h : c.After event c') (hcall : ¬ event.1.Writes) : c' = c := by
  obtain ⟨call, answer⟩ := event
  cases call with
  | discoverCollections | getAllItems =>
    cases answer with
    | ok => exact h.2
    | error => exact h
  | now | addFailed => exact h
  | updateItem => exact absurd trivial hcall

theorem After.grows (h : c.After event c') (hcall : event.1.GivesUid ops) : Grows ops c c' := by
  by_cases hwrites : event.1.Writes
  · obtain ⟨call, answer⟩ := event
    cases call with
    | updateItem href etag item =>
      cases answer with
      | ok =>
        obtain ⟨etag, rfl⟩ := h
        exact grows_store hcall
      | error =>
        obtain rfl | ⟨etag, rfl⟩ := h
        · exact .refl c'
        · exact grows_store hcall
    | _ => exact hwrites.elim
  · rw [h.same hwrites]
    exact .refl c

end Contents

/-! ## The calls of a task -/

theorem under_repairItem {allUids : List String} (hops : ∀ item uid, ops.uid (ops.withUid item uid) = some uid)
    (fetched : FetchedItem) :
    (repairItem ops allUids fetched).Under (fun _ => True) (RepairCall.GivesUid ops) := by
  have hcandidate : (candidateUid ops allUids fetched.item).Under (fun _ => True) (RepairCall.GivesUid ops) := by
    rw [candidateUid]
    split
    · refine .call trivial fun now _ => ?_
      cases now with
      | none => exact .panic
      | some now => exact .done _
    · exact .done _
  have hfailed : ∀ uids : List String, (Job.call (R := RepairCall.Answer) RepairCall.addFailed fun _ => pure uids).Under
      (fun _ => True) (RepairCall.GivesUid ops) := fun uids => .call trivial fun _ _ => .done _
  rw [repairItem]
  split
  · exact .done _
  · refine hcandidate.bind fun uid => ?_
    split
    · exact hfailed _
    · refine .call (by simp [RepairCall.GivesUid, hops]) fun answer _ => ?_
      cases answer with
      | ok => exact .done _
      | error => exact hfailed _

theorem under_repairItems (hops : ∀ item uid, ops.uid (ops.withUid item uid) = some uid) :
    ∀ (items : List FetchedItem) (allUids : List String),
      (repairItems ops allUids items).Under (fun _ => True) (RepairCall.GivesUid ops)
  | [], _ => .done ()
  | fetched :: rest, _ => (under_repairItem hops fetched).bind fun allUids => under_repairItems hops rest allUids

/-- What a repair writes has a UID. -/
theorem under_repairStorage (hops : ∀ item uid, ops.uid (ops.withUid item uid) = some uid) :
    (repairStorage ops).Under (fun _ => True) (RepairCall.GivesUid ops) := by
  have hfailed : (Job.call (R := RepairCall.Answer) RepairCall.addFailed fun _ => pure ()).Under
      (fun _ => True) (RepairCall.GivesUid ops) := .call trivial fun _ _ => .done _
  refine .call trivial fun answer _ => ?_
  cases answer with
  | error => exact hfailed
  | ok collections =>
    refine Job.under_forEach fun collection _ => .call trivial fun answer _ => ?_
    cases answer with
    | error => exact hfailed
    | ok fetched => exact under_repairItems hops fetched _

/-- A repair writes nothing where every item has a UID. -/
theorem Contents.under_repairStorage {c : Contents} (h : ∀ collection ∈ c.collections, c.HasUids ops collection) :
    (repairStorage ops).Under (fun event => c.After event c) (fun call => ¬ call.Writes) := by
  have hfailed : (Job.call (R := RepairCall.Answer) RepairCall.addFailed fun _ => pure ()).Under
      (fun event => c.After event c) (fun call => ¬ call.Writes) := .call id fun _ _ => .done _
  refine .call id fun answer hanswer => ?_
  cases answer with
  | error => exact hfailed
  | ok collections =>
    refine Job.under_forEach fun collection hmem => .call id fun answer hanswer' => ?_
    cases answer with
    | error => exact hfailed
    | ok fetched =>
      have huids := h collection (hanswer.1.mem_iff.mp hmem)
      have hkept : ∀ item ∈ fetched, ops.uid item.item ≠ none := fun item hitem =>
        huids item (hanswer'.1.mem_iff.mp hitem)
      show (repairItems ops _ fetched).Under _ _
      rw [repairItems_kept hkept]
      exact .done ()

theorem mem_callsOf {i : ℕ} {tr : List RepairLabel} {event : RepairEvent} : event ∈ callsOf i tr ↔ .call i event ∈ tr := by
  simp only [callsOf, List.mem_filterMap, List.mem_filter, decide_eq_true_eq]
  constructor
  · rintro ⟨label, ⟨hmem, htask⟩, hevent⟩
    cases label with
    | call j event' =>
      cases htask
      cases hevent
      exact hmem
    | _ => cases hevent
  · exact fun h => ⟨_, ⟨h, rfl⟩, rfl⟩

variable {storages : List (NamedStorage S)} {tr tr' : List RepairLabel} {t t' : RepairState S}

/-- Each task does what `repair_storage` does alone, as far as it has come. -/
theorem run_path (hr : (repairStorages S).Run (.initial ops storages) tr t) (i : ℕ) :
    ∃ job, Job.Path (repairStorage ops) (callsOf i tr) job := by
  have h := run_repairInv hr
  by_cases hi : i < storages.length
  · have hlt : i < t.tasks.length := by rwa [← List.length_map Prod.fst, h.tasks]
    have hat := h.task i _ (List.getElem?_eq_getElem hlt)
    generalize (t.tasks[i]).2 = phase at hat
    cases phase with
    | running job => exact ⟨job, hat.1⟩
    | ended | joined =>
      obtain ⟨job, hpath, -⟩ := hat
      exact ⟨job, hpath⟩
    | aborted => exact hat.elim
  · exact ⟨_, by rw [h.none i (by omega)]; exact .nil _⟩

/-! ## All storages -/

/-- A call, with the storage that it goes to. -/
def RepairLabel.stored? (storages : List (NamedStorage S)) : RepairLabel → Option (S × RepairEvent)
  | .call i event => storages[i]?.map fun storage => (storage.storage, event)
  | _ => none

/-- The calls of all tasks. -/
def storedCalls (storages : List (NamedStorage S)) (tr : List RepairLabel) : List (S × RepairEvent) :=
  tr.filterMap (RepairLabel.stored? storages)

theorem stored?_call {i : ℕ} {storage : NamedStorage S} (hi : storages[i]? = some storage) (event : RepairEvent) :
    (RepairLabel.call i event).stored? storages = some (storage.storage, event) := by
  rw [RepairLabel.stored?, hi]
  rfl

/-- What all storages hold: a call changes the one that it goes to. -/
def stores (S : Type) [DecidableEq S] : Lts (S → Contents) (S × RepairEvent) :=
  ⟨fun w call w' => ∃ c, (w call.1).After call.2 c ∧ w' = Function.update w call.1 c⟩

section Stores

variable [DecidableEq S] {w w' w'' : S → Contents} {calls : List (S × RepairEvent)}

/-- What all storages hold grows, where items are written with UIDs. -/
theorem stores_grows (hr : (stores S).Run w calls w') (hcalls : ∀ call ∈ calls, call.2.1.GivesUid ops) (s : S) :
    (w s).Grows ops (w' s) := by
  induction hr with
  | nil => exact .refl _
  | @snoc u v calls call _ _ hstep ih =>
    obtain ⟨c, hafter, rfl⟩ := hstep
    have hu := ih fun call hmem => hcalls call (List.mem_append_left _ hmem)
    by_cases hs : s = call.1
    · subst hs
      rw [Function.update_self]
      exact hu.trans (hafter.grows (hcalls call (List.mem_append_right _ (List.mem_singleton_self _))))
    · rwa [Function.update_of_ne hs]

/-- A call of a run, and what its storage holds from then on. -/
theorem stored_at (hw : (stores S).Run w (storedCalls storages tr) w')
    (hcalls : ∀ i event, .call i event ∈ tr → event.1.GivesUid ops) {i : ℕ} {storage : NamedStorage S}
    (hi : storages[i]? = some storage) {event : RepairEvent} (hmem : .call i event ∈ tr) :
    ∃ c c' : Contents, c.After event c' ∧ c'.Grows ops (w' storage.storage) := by
  have hcall : (storage.storage, event) ∈ storedCalls storages tr :=
    List.mem_filterMap.mpr ⟨_, hmem, stored?_call hi event⟩
  obtain ⟨pre, post, hsplit⟩ := List.append_of_mem hcall
  rw [hsplit] at hw
  obtain ⟨u, u', -, -, ⟨c, hafter, rfl⟩, hpost⟩ := hw.at_label
  have hrest : ∀ call ∈ post, call.2.1.GivesUid ops := by
    intro call hpost
    have hstored : call ∈ storedCalls storages tr := by
      rw [hsplit]
      exact List.mem_append_right _ (List.mem_cons_of_mem _ hpost)
    obtain ⟨label, hlabel, heq⟩ := List.mem_filterMap.mp hstored
    cases label with
    | call j event' =>
      obtain ⟨_, -, rfl⟩ := Option.map_eq_some_iff.mp heq
      exact hcalls j event' hlabel
    | _ => cases heq
  have hgrows := stores_grows hpost hrest storage.storage
  rw [Function.update_self] at hgrows
  exact ⟨_, c, hafter, hgrows⟩

end Stores

/-! ## After a repair -/

theorem ItemsVisit.updates {allUids : List String} {items : List FetchedItem} {events : List RepairEvent}
    {failures : List RepairFailure} (h : ItemsVisit ops allUids items events failures) (hfailures : failures = []) :
    ∀ fetched ∈ lacking ops items, ∃ etag item, ⟨.updateItem fetched.href etag item, .ok ()⟩ ∈ events := by
  induction h with
  | nil => simp [lacking]
  | @cons _ _ first rest _ _ _ _ hfirst _ ih =>
    obtain ⟨rfl, rfl⟩ := List.append_eq_nil_iff.mp hfailures
    intro fetched hmem
    obtain ⟨hmem, huid⟩ := List.mem_filter.mp hmem
    obtain rfl | hmem := List.mem_cons.mp hmem
    · cases hfirst with
      | kept uid hsome => simp [hsome] at huid
      | updated => exact ⟨_, _, List.mem_append_left _ (List.mem_append_right _ (List.mem_singleton_self _))⟩
    · obtain ⟨etag, item, hevent⟩ := ih rfl fetched (List.mem_filter.mpr ⟨hmem, huid⟩)
      exact ⟨etag, item, List.mem_append_right _ hevent⟩

/-- Where nothing fails, each collection is read, and every item that has no UID is written. -/
theorem CollectionsVisit.updates {collections : List String} {events : List RepairEvent} {failures : List RepairFailure}
    (h : CollectionsVisit ops collections events failures) (hfailures : failures = []) :
    ∀ collection ∈ collections, ∃ fetched, ⟨.getAllItems collection, .ok fetched⟩ ∈ events ∧
      ∀ item ∈ lacking ops fetched, ∃ etag new, ⟨.updateItem item.href etag new, .ok ()⟩ ∈ events := by
  induction h with
  | nil => simp
  | cons hfirst _ ih =>
    obtain ⟨rfl, rfl⟩ := List.append_eq_nil_iff.mp hfailures
    refine List.forall_mem_cons.mpr ⟨?_, fun collection hmem => ?_⟩
    · cases hfirst with
      | fetched hitems =>
        refine ⟨_, List.mem_append_left _ List.mem_cons_self, fun item hmem => ?_⟩
        obtain ⟨etag, new, hevent⟩ := hitems.updates rfl item hmem
        exact ⟨etag, new, List.mem_append_left _ (List.mem_cons_of_mem _ hevent)⟩
    · obtain ⟨fetched, hread, hupdates⟩ := ih rfl collection hmem
      refine ⟨fetched, List.mem_append_right _ hread, fun item hitem => ?_⟩
      obtain ⟨etag, new, hevent⟩ := hupdates item hitem
      exact ⟨etag, new, List.mem_append_right _ hevent⟩

section Twice

variable [DecidableEq S] {w w' w'' : S → Contents} (hops : ∀ item uid, ops.uid (ops.withUid item uid) = some uid)

include hops

omit [DecidableEq S] in
/-- What a run of `repair_storages` writes has a UID. -/
theorem run_givesUid (hr : (repairStorages S).Run (.initial ops storages) tr t) {i : ℕ} {event : RepairEvent}
    (h : .call i event ∈ tr) : event.1.GivesUid ops := by
  obtain ⟨job, hpath⟩ := run_path hr i
  exact ((under_repairStorage hops).path hpath fun _ _ => trivial).1 event (mem_callsOf.mpr h)

/-- **After a repair** in which nothing went wrong, every item of every storage has a UID. -/
theorem leaves_uids (hr : (repairStorages S).Run (.initial ops storages) tr t)
    (hvisits : ∀ i < storages.length, StorageVisit ops (callsOf i tr) [])
    (hw : (stores S).Run w (storedCalls storages tr) w') {storage : NamedStorage S} (hstorage : storage ∈ storages)
    {collection : String} (hcollection : collection ∈ (w' storage.storage).collections) :
    (w' storage.storage).HasUids ops collection := by
  obtain ⟨i, hi⟩ := List.mem_iff_getElem?.mp hstorage
  have hcalls : ∀ i event, .call i event ∈ tr → event.1.GivesUid ops := fun i event => run_givesUid hops hr
  have hvisit := hvisits i (List.getElem?_eq_some_iff.mp hi).1
  generalize hevents : callsOf i tr = events at hvisit
  have hat : ∀ event ∈ events, ∃ c c' : Contents, c.After event c' ∧ c'.Grows ops (w' storage.storage) := by
    intro event hmem
    rw [← hevents] at hmem
    exact stored_at hw hcalls hi (mem_callsOf.mp hmem)
  cases hvisit with
  | @discovered collections _ _ hcollections =>
    obtain ⟨c, c', ⟨hperm, rfl⟩, hgrows⟩ := hat _ List.mem_cons_self
    rw [hgrows.collections] at hcollection
    obtain ⟨fetched, hread, hupdates⟩ := hcollections.updates rfl collection (hperm.mem_iff.mpr hcollection)
    obtain ⟨c, c', ⟨hfetched, rfl⟩, hgrows⟩ := hat _ (List.mem_cons_of_mem _ hread)
    intro item hitem huid
    have hold : item ∈ fetched := hfetched.mem_iff.mpr ((hgrows.items _ item hitem).resolve_left (absurd huid))
    obtain ⟨etag, new, hupdate⟩ := hupdates item (List.mem_filter.mpr ⟨hold, by simp [huid]⟩)
    have hmem := List.mem_cons_of_mem (⟨.discoverCollections, .ok collections⟩ : RepairEvent) hupdate
    obtain ⟨c, c', ⟨etag', rfl⟩, hgrows⟩ := hat _ hmem
    obtain hstored | ⟨hne, -⟩ := Contents.mem_store ((hgrows.items _ item hitem).resolve_left (absurd huid))
    · have hnew : item.item = new := congrArg FetchedItem.item hstored
      rw [← hevents] at hmem
      exact hcalls i _ (mem_callsOf.mp hmem) (hnew ▸ huid)
    · exact hne rfl

end Twice

/-- A repair of storages in which every item has a UID writes nothing and leaves them as they are. -/
theorem run_unwritten [DecidableEq S] {w w' : S → Contents}
    (huids : ∀ storage ∈ storages, ∀ collection ∈ (w storage.storage).collections,
      (w storage.storage).HasUids ops collection)
    (hr : (repairStorages S).Run (.initial ops storages) tr t) (hw : (stores S).Run w (storedCalls storages tr) w') :
    w' = w ∧ ∀ i event, .call i event ∈ tr → ¬ event.1.Writes := by
  suffices h : ∀ w', (stores S).Run w (storedCalls storages tr) w' → w' = w ∧ ∀ i event, .call i event ∈ tr →
      ¬ event.1.Writes ∧ ∀ storage, storages[i]? = some storage → (w storage.storage).After event (w storage.storage) by
    obtain ⟨hsame, hcalls⟩ := h w' hw
    exact ⟨hsame, fun i event hmem => (hcalls i event hmem).1⟩
  refine (hr.history (I := fun tr s => (repairStorages S).Run (.initial ops storages) tr s ∧ ∀ w',
    (stores S).Run w (storedCalls storages tr) w' → w' = w ∧ ∀ i event, .call i event ∈ tr → ¬ event.1.Writes ∧
      ∀ storage, storages[i]? = some storage → (w storage.storage).After event (w storage.storage)) ⟨.nil _, ?_⟩ ?_).2
  · exact fun w' hw => ⟨hw.nil_eq.symm, by simp⟩
  rintro tr s label s' ⟨hr, ih⟩ - hs
  refine ⟨hr.snoc trivial hs, fun w' hw => ?_⟩
  rw [storedCalls, List.filterMap_append] at hw
  obtain ⟨u, hu, hlast⟩ := hw.split
  obtain ⟨rfl, hcalls⟩ := ih u hu
  cases hs with
  | call tasks failed i storage c next answer hi =>
    have hinv := run_repairInv hr
    have hstorage : storages[i]? = some storage := by
      rw [← hinv.tasks, List.getElem?_map, hi]
      rfl
    have hmem : storage ∈ storages := List.mem_of_getElem? hstorage
    have hok : ∀ event ∈ callsOf i tr, (u storage.storage).After event (u storage.storage) := fun event hevent =>
      (hcalls i event (mem_callsOf.mp hevent)).2 storage hstorage
    obtain ⟨-, hunder⟩ := (Contents.under_repairStorage (huids storage hmem)).path (hinv.task i _ hi).1 hok
    have hwrites : ¬ c.Writes := by
      cases hunder with
      | call hc _ => exact hc
    rw [List.filterMap_cons_some (stored?_call hstorage _)] at hlast
    obtain ⟨v, -, ⟨c', hafter, rfl⟩, hnil⟩ := hlast.uncons
    obtain rfl := hnil.nil_eq
    obtain rfl := hafter.same hwrites
    refine ⟨Function.update_eq_self _ _, fun j event hcall => ?_⟩
    obtain hcall | hcall := List.mem_append.mp hcall
    · exact hcalls j event hcall
    · cases List.mem_singleton.mp hcall
      refine ⟨hwrites, fun storage' hstorage' => ?_⟩
      rw [hstorage] at hstorage'
      cases hstorage'
      exact hafter
  | ended | panicked | joined | returned =>
    refine ⟨hlast.nil_eq.symm, fun j event hcall => hcalls j event ?_⟩
    simpa using hcall

/-- **A second repair writes nothing**: if nothing went wrong in a repair, every item has a UID afterwards, and another one
of any of the storages leaves them as they are, under whatever names they are configured. -/
theorem repair_twice [DecidableEq S] {w w' w'' : S → Contents} (hops : ∀ item uid, ops.uid (ops.withUid item uid) = some uid)
    (hr : (repairStorages S).Run (.initial ops storages) tr t) {result : Except Error Unit} (hresult : t.result = some result)
    (hfailures : failures tr = 0) (hpanicked : ∀ i, .panicked i ∉ tr)
    (hw : (stores S).Run w (storedCalls storages tr) w') {storages' : List (NamedStorage S)}
    (hstorages : ∀ storage' ∈ storages', ∃ storage ∈ storages, storage.storage = storage'.storage)
    (hr' : (repairStorages S).Run (.initial ops storages') tr' t') (hw' : (stores S).Run w' (storedCalls storages' tr') w'') :
    (∀ storage ∈ storages, ∀ collection ∈ (w' storage.storage).collections,
      (w' storage.storage).HasUids ops collection) ∧
    (∀ i event, .call i event ∈ tr' → ¬ event.1.Writes) ∧ w'' = w' := by
  have hinv := run_repairInv hr
  have hvisits := (repaired_iff hinv (hinv.result _ hresult).2).mpr
    ⟨hfailures, fun i _ hmem => absurd hmem (hpanicked i)⟩
  have huids : ∀ storage ∈ storages, ∀ collection ∈ (w' storage.storage).collections,
      (w' storage.storage).HasUids ops collection := fun storage hstorage collection =>
    leaves_uids hops hr hvisits hw hstorage
  have huids' : ∀ storage' ∈ storages', ∀ collection ∈ (w' storage'.storage).collections,
      (w' storage'.storage).HasUids ops collection := by
    intro storage' hmem
    obtain ⟨storage, hstorage, hsame⟩ := hstorages storage' hmem
    rw [← hsame]
    exact huids storage hstorage
  obtain ⟨hsame, hcalls⟩ := run_unwritten huids' hr' hw'
  exact ⟨huids, hcalls, hsame⟩

/-! ## One storage -/

/-- An item without a UID, in the only collection. -/
def oneItem : Contents := ⟨["work"], fun _ => [⟨"1.ics", "a", ⟨"UID;X=1:"⟩⟩]⟩

def oneRepaired : Contents := oneItem.store "1.ics" "b" ⟨"UID:e3b0"⟩

def repairOne : List RepairLabel :=
  [.call 0 ⟨.discoverCollections, .ok ["work"]⟩, .call 0 ⟨.getAllItems "work", .ok (oneItem.items "work")⟩,
    .call 0 ⟨.updateItem "1.ics" "a" ⟨"UID:e3b0"⟩, .ok ()⟩, .ended 0, .joined 0, .returned]

/-- Then its collection is read again. -/
def repairAgain : List RepairLabel :=
  [.call 0 ⟨.discoverCollections, .ok ["work"]⟩, .call 0 ⟨.getAllItems "work", .ok (oneRepaired.items "work")⟩]

theorem repairOne_run : (repairStorages Unit).Run (.initial bareItems [contacts]) repairOne
    ⟨[(contacts, .joined)], 0, some (.ok ())⟩ :=
  .cons (.call _ _ 0 contacts _ _ _ rfl) (.cons (.call _ _ 0 contacts _ _ _ rfl) (.cons (.call _ _ 0 contacts _ _ _ rfl)
    (.cons (.ended _ _ 0 contacts rfl) (.cons (.joined _ _ 0 contacts _ rfl) (.single (.returned _ _ (by simp)))))))

theorem repairOne_stored : (stores Unit).Run (fun _ => oneItem) (storedCalls [contacts] repairOne) fun _ => oneRepaired :=
  .cons ⟨oneItem, ⟨.refl _, rfl⟩, rfl⟩ (.cons ⟨oneItem, ⟨.refl _, rfl⟩, rfl⟩ (.single ⟨oneRepaired, ⟨"b", rfl⟩, rfl⟩))

theorem repair_twice_one : oneRepaired.HasUids bareItems "work" ∧
    ∀ i event, .call i event ∈ repairAgain → ¬ event.1.Writes := by
  have hr : (repairStorages Unit).Run (.initial bareItems [contacts]) repairAgain _ :=
    .cons (.call _ _ 0 contacts _ _ _ rfl) (.single (.call _ _ 0 contacts _ _ _ rfl))
  have hw : (stores Unit).Run (fun _ => oneRepaired) (storedCalls [contacts] repairAgain) fun _ => oneRepaired :=
    .cons ⟨oneRepaired, ⟨.refl _, rfl⟩, rfl⟩ (.single ⟨oneRepaired, ⟨.refl _, rfl⟩, rfl⟩)
  have h := repair_twice bareItems_uid_withUid repairOne_run rfl rfl (by simp [repairOne]) repairOne_stored
    (fun storage hmem => ⟨storage, hmem, rfl⟩) hr hw
  exact ⟨h.1 contacts (List.mem_singleton_self _) "work" (List.mem_singleton_self _), h.2.1⟩

end Pimsync
