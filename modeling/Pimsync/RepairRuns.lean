import Mathlib.Algebra.BigOperators.Group.Finset.Piecewise
import Pimsync.RepairParts

/-!
# The verdict of a repair

- `RepairInv`, `run_repairInv`: where the tasks of `repair_storages` are, and what the shared counter holds;
- `repair_not_stuck`: `repair_storages` waits for its tasks only;
- `failures_eq_sum`: the counter counts the failures of all tasks;
- `repair_ok_iff`: when it tells whether all was repaired;
- `repair_hides_panic`: it returns `Ok` when a task has panicked.
-/

namespace Pimsync

variable {S : Type} {ops : ItemUids} {storages : List (NamedStorage S)} {tr : List RepairLabel} {s s' : RepairState S}
  {label : RepairLabel} {i j : ℕ}

/-! ## What tasks do in a run -/

def RepairLabel.task? : RepairLabel → Option ℕ
  | .call i _ | .ended i | .panicked i | .joined i => some i
  | .returned => none

def RepairLabel.event? : RepairLabel → Option RepairEvent
  | .call _ event => some event
  | _ => none

/-- The calls of one task. -/
def callsOf (i : ℕ) (tr : List RepairLabel) : List RepairEvent :=
  (tr.filter fun label => label.task? = some i).filterMap RepairLabel.event?

/-- The failures that the tasks have counted. -/
def failures (tr : List RepairLabel) : ℕ := countFailed (tr.filterMap RepairLabel.event?)

theorem callsOf_snoc (i : ℕ) (tr : List RepairLabel) (label : RepairLabel) : callsOf i (tr ++ [label]) =
    callsOf i tr ++ if label.task? = some i then label.event?.toList else [] := by
  rw [callsOf, List.filter_append, List.filterMap_append]
  by_cases h : label.task? = some i
  · rw [if_pos h, List.filter_cons_of_pos (by simpa using h)]
    cases hevent : label.event? with
    | none => rw [List.filterMap_cons_none hevent]; rfl
    | some event => rw [List.filterMap_cons_some hevent]; rfl
  · rw [if_neg h, List.filter_cons_of_neg (by simpa using h)]
    rfl

@[simp] theorem callsOf_call (i : ℕ) (tr : List RepairLabel) (event : RepairEvent) :
    callsOf i (tr ++ [.call i event]) = callsOf i tr ++ [event] :=
  (callsOf_snoc ..).trans (by rw [if_pos (show (RepairLabel.call i event).task? = some i from rfl)]; rfl)

theorem callsOf_silent (i : ℕ) (h : label.event? = none) : callsOf i (tr ++ [label]) = callsOf i tr := by
  rw [callsOf_snoc, h]
  simp

theorem failures_silent (h : label.event? = none) : failures (tr ++ [label]) = failures tr := by
  rw [failures, List.filterMap_append, List.filterMap_cons_none h, List.filterMap_nil, List.append_nil]
  rfl

/-- The counter follows the failures. -/
theorem failedAfter_failures (i : ℕ) (tr : List RepairLabel) (event : RepairEvent) :
    failedAfter (UInt32.ofNat (failures tr)) event = UInt32.ofNat (failures (tr ++ [.call i event])) := by
  have hsnoc : failures (tr ++ [.call i event]) = failures tr + countFailed [event] := by
    rw [failures, List.filterMap_append, countFailed_append]
    rfl
  rw [hsnoc, UInt32.ofNat_add, failedAfter_eq]

/-- The failures of a run are those of its tasks. -/
theorem failures_eq_sum {n : ℕ} :
    (∀ i, n ≤ i → callsOf i tr = []) → failures tr = ∑ i ∈ Finset.range n, countFailed (callsOf i tr) := by
  induction tr using List.reverseRecOn with
  | nil => simp [failures, callsOf, countFailed]
  | append_singleton tr label ih =>
    intro hnone
    have htr : ∀ i, n ≤ i → callsOf i tr = [] := fun i hi =>
      (List.append_eq_nil_iff.mp ((callsOf_snoc ..).symm.trans (hnone i hi))).1
    cases hevent : label.event? with
    | none =>
      rw [failures_silent hevent, ih htr]
      exact Finset.sum_congr rfl fun i _ => by rw [callsOf_silent i hevent]
    | some event =>
      obtain ⟨j, rfl⟩ : ∃ j, label = .call j event := by cases label <;> cases hevent; exact ⟨_, rfl⟩
      have hj : j < n := by
        by_contra hj
        simpa using hnone j (not_lt.mp hj)
      have hcalls : ∀ i, countFailed (callsOf i (tr ++ [.call j event])) =
          countFailed (callsOf i tr) + if j = i then countFailed [event] else 0 := by
        intro i
        rw [callsOf_snoc, countFailed_append]
        by_cases hi : j = i <;> simp [RepairLabel.task?, RepairLabel.event?, hi, countFailed]
      have hsnoc : failures (tr ++ [.call j event]) = failures tr + countFailed [event] := by
        rw [failures, List.filterMap_append, countFailed_append]
        rfl
      rw [hsnoc, ih htr, Finset.sum_congr rfl fun i _ => hcalls i, Finset.sum_add_distrib, Finset.sum_ite_eq,
        if_pos (Finset.mem_range.mpr hj)]

/-- A run has no failure if and only if no task has. -/
theorem failures_eq_zero : failures tr = 0 ↔ ∀ i, countFailed (callsOf i tr) = 0 := by
  simp only [failures, countFailed, callsOf, List.countP_eq_zero, List.mem_filterMap, List.mem_filter, decide_eq_true_eq]
  constructor
  · rintro h i event ⟨label, ⟨hmem, -⟩, hevent⟩
    exact h event ⟨label, hmem, hevent⟩
  · rintro h event ⟨label, hmem, hevent⟩
    cases label with
    | call i event' => exact h i event ⟨_, ⟨hmem, rfl⟩, hevent⟩
    | _ => cases hevent

/-! ## The invariant -/

/-- Where a task is. -/
def TaskAt (ops : ItemUids) (tr : List RepairLabel) (i : ℕ) : RepairPhase → Prop
  | .running job => Job.Path (repairStorage ops) (callsOf i tr) job ∧ .panicked i ∉ tr
  | .ended _ | .joined => ∃ job, Job.Path (repairStorage ops) (callsOf i tr) job ∧ (.panicked i ∉ tr → job = .done ())
  | .aborted => False

/-- A step of one task leaves the others where they are. -/
theorem TaskAt.other {phase : RepairPhase} (h : TaskAt ops tr j phase) (hl : label.task? ≠ some j) :
    TaskAt ops (tr ++ [label]) j phase := by
  have hcalls : callsOf j (tr ++ [label]) = callsOf j tr := by rw [callsOf_snoc, if_neg hl, List.append_nil]
  have hpanicked : .panicked j ∈ tr ++ [label] ↔ .panicked j ∈ tr := by
    refine ⟨fun hmem => (List.mem_append.mp hmem).resolve_right fun hmem => ?_, List.mem_append_left _⟩
    rw [← List.mem_singleton.mp hmem] at hl
    exact hl rfl
  cases phase with
  | aborted => exact h
  | running | ended | joined => simpa only [TaskAt, hcalls, hpanicked] using h

/-- The invariant of `repair_storages`. -/
structure RepairInv (ops : ItemUids) (storages : List (NamedStorage S)) (tr : List RepairLabel)
    (s : RepairState S) : Prop where
  tasks : s.tasks.map Prod.fst = storages
  task : ∀ i t, s.tasks[i]? = some t → TaskAt ops tr i t.2
  none : ∀ i, storages.length ≤ i → callsOf i tr = []
  failed : s.failed = UInt32.ofNat (failures tr)
  result : ∀ result, s.result = some result → result = repairResult s.failed ∧ ∀ t ∈ s.tasks, t.2 = .joined

theorem repairInv_initial : RepairInv ops storages [] (.initial ops storages) where
  tasks := by simp [RepairState.initial, Function.comp_def]
  task i t ht := by
    obtain ⟨storage, -, rfl⟩ : ∃ storage, storages[i]? = some storage ∧ _ = t := by simpa [RepairState.initial] using ht
    exact ⟨.nil _, List.not_mem_nil⟩
  none _ _ := rfl
  failed := rfl
  result _ h := by cases h

/-- One task moves. -/
theorem RepairInv.move {tasks : List (NamedStorage S × RepairPhase)} {failed failed' : UInt32}
    (h : RepairInv ops storages tr ⟨tasks, failed, Option.none⟩) {storage : NamedStorage S} {phase phase' : RepairPhase}
    (hi : tasks[i]? = some (storage, phase)) (hl : label.task? = some i) (htask : TaskAt ops (tr ++ [label]) i phase')
    (hfailed : failed' = UInt32.ofNat (failures (tr ++ [label]))) :
    RepairInv ops storages (tr ++ [label]) ⟨tasks.set i (storage, phase'), failed', Option.none⟩ where
  tasks := (JoinSet.map_fst_set hi).trans h.tasks
  task j t ht := by
    by_cases hij : i = j
    · subst hij
      obtain rfl | ⟨hne, -⟩ := JoinSet.get_set ht
      · exact htask
      · exact absurd rfl hne
    · rw [List.getElem?_set_ne hij] at ht
      exact (h.task j t ht).other fun hj => hij (Option.some.inj (hl.symm.trans hj))
  none j hj := by
    have hlt : i < storages.length := by
      rw [← h.tasks, List.length_map]
      exact (List.getElem?_eq_some_iff.mp hi).1
    rw [callsOf_snoc, h.none j hj, hl, if_neg (by rw [Option.some_inj]; omega)]
    rfl
  failed := hfailed
  result _ h := by cases h

theorem step_repairInv (h : RepairInv ops storages tr s) (hs : (repairStorages S).step s label s') :
    RepairInv ops storages (tr ++ [label]) s' := by
  cases hs with
  | call tasks failed i storage c next answer hi =>
    obtain ⟨hpath, hpanicked⟩ := h.task i _ hi
    refine h.move hi rfl ⟨?_, by simpa using hpanicked⟩ ?_
    · rw [callsOf_call]
      exact hpath.snoc answer
    · rw [← failedAfter_failures, ← h.failed]
  | ended tasks failed i storage hi =>
    refine h.move hi rfl ⟨_, ?_, fun _ => rfl⟩ (by rw [failures_silent rfl, ← h.failed])
    rw [callsOf_silent i rfl]
    exact (h.task i _ hi).1
  | panicked tasks failed i storage job hi =>
    refine h.move hi rfl ⟨job, ?_, fun hno => absurd (by simp) hno⟩ (by rw [failures_silent rfl, ← h.failed])
    rw [callsOf_silent i rfl]
    exact (h.task i _ hi).1
  | joined tasks failed i storage end_ hi =>
    obtain ⟨job, hpath, hdone⟩ := h.task i _ hi
    refine h.move hi rfl ⟨job, ?_, fun hno => hdone fun hmem => hno (List.mem_append_left _ hmem)⟩
      (by rw [failures_silent rfl, ← h.failed])
    rw [callsOf_silent i rfl]
    exact hpath
  | returned tasks failed hall =>
    refine ⟨h.tasks, fun i t ht => (h.task i t ht).other nofun, fun i hi => ?_, ?_, fun result hresult => ?_⟩
    · rw [callsOf_silent i rfl, h.none i hi]
    · rw [failures_silent rfl, ← h.failed]
    · cases hresult
      exact ⟨rfl, hall⟩

/-- The invariant holds in every run. -/
theorem run_repairInv (hr : (repairStorages S).Run (.initial ops storages) tr s) : RepairInv ops storages tr s :=
  hr.history (I := RepairInv ops storages) repairInv_initial fun _ _ _ _ h _ hs => step_repairInv h hs

/-- Every call can be answered. -/
theorem RepairCall.nonempty_answer : ∀ c : RepairCall, Nonempty c.Answer
  | .discoverCollections => ⟨.ok []⟩
  | .getAllItems _ => ⟨.ok []⟩
  | .now => ⟨some 0⟩
  | .updateItem .. => ⟨.ok ()⟩
  | .addFailed => ⟨()⟩

/-- `repair_storages` waits for its tasks only: until it returns, there is a step. -/
theorem repair_not_stuck (hr : (repairStorages S).Run (.initial ops storages) tr s) (hs : s.result = none) :
    ¬ (repairStorages S).Stuck s := by
  intro hstuck
  obtain ⟨tasks, failed, result⟩ := s
  cases hs
  by_cases hall : ∀ t ∈ tasks, t.2 = .joined
  · exact hstuck _ _ (.returned tasks failed hall)
  · simp only [not_forall] at hall
    obtain ⟨⟨storage, phase⟩, hmem, hphase⟩ := hall
    obtain ⟨i, hi⟩ := List.mem_iff_getElem?.mp hmem
    have hat := (run_repairInv hr).task i _ hi
    cases phase with
    | running job =>
      cases job with
      | done => exact hstuck _ _ (.ended tasks failed i storage hi)
      | panic => exact hstuck _ _ (.panicked tasks failed i storage _ hi)
      | call c next =>
        obtain ⟨answer⟩ := c.nonempty_answer
        exact hstuck _ _ (.call tasks failed i storage c next answer hi)
    | ended end_ => exact hstuck _ _ (.joined tasks failed i storage end_ hi)
    | joined => exact absurd rfl hphase
    | aborted => exact hat.elim

/-! ## The verdict -/

theorem repairResult_eq_ok {n : ℕ} : repairResult (UInt32.ofNat n) = .ok () ↔ 2 ^ 32 ∣ n := by
  rw [repairResult, Nat.dvd_iff_mod_eq_zero]
  have hzero : UInt32.ofNat n = 0 ↔ n % 2 ^ 32 = 0 := by
    rw [← UInt32.toNat_inj, UInt32.toNat_ofNat', UInt32.toNat_zero]
  by_cases h : n % 2 ^ 32 = 0
  · rw [if_pos (hzero.mpr h)]
    exact iff_of_true rfl h
  · rw [if_neg (mt hzero.mp h)]
    exact iff_of_false nofun h

/-- All of a storage was repaired if and only if its task has come to its end without a failure. -/
theorem storageVisit_nil_iff {events : List RepairEvent} : StorageVisit ops events [] ↔
    Job.Path (repairStorage ops) events (.done ()) ∧ countFailed events = 0 := by
  constructor
  · intro h
    exact ⟨repairStorage_path.mpr ⟨_, h⟩, h.counted⟩
  · rintro ⟨hpath, hcount⟩
    obtain ⟨failures, h⟩ := repairStorage_path.mp hpath
    obtain rfl : failures = [] := List.eq_nil_of_length_eq_zero (h.counted.symm.trans hcount)
    exact h

/-- All was repaired if and only if there was no failure, and a task that panicked was through with its storage. -/
theorem repaired_iff (h : RepairInv ops storages tr s) (hjoined : ∀ t ∈ s.tasks, t.2 = .joined) :
    (∀ i < storages.length, StorageVisit ops (callsOf i tr) []) ↔
      failures tr = 0 ∧ ∀ i < storages.length, .panicked i ∈ tr → ∃ failed, StorageVisit ops (callsOf i tr) failed := by
  simp only [storageVisit_nil_iff]
  constructor
  · intro hall
    refine ⟨failures_eq_zero.mpr fun i => ?_, fun i hi _ => repairStorage_path.mp (hall i hi).1⟩
    by_cases hi : i < storages.length
    · exact (hall i hi).2
    · rw [h.none i (by omega)]
      rfl
  · rintro ⟨hfailures, hwork⟩ i hi
    refine ⟨?_, failures_eq_zero.mp hfailures i⟩
    have hlt : i < s.tasks.length := by rwa [← List.length_map Prod.fst, h.tasks]
    have hat := h.task i _ (List.getElem?_eq_getElem hlt)
    rw [hjoined _ (List.getElem_mem hlt)] at hat
    obtain ⟨job, hpath, hdone⟩ := hat
    obtain rfl : job = .done () := by
      by_cases hpanicked : .panicked i ∈ tr
      · exact hpath.unique (repairStorage_path.mpr (hwork i hi hpanicked))
      · exact hdone hpanicked
    exact hpath

/-- **The verdict of a repair** is right unless the failures are a multiple of `2 ^ 32`, or there is none and a task has
panicked before it was through with its storage. -/
theorem repair_ok_iff {result : Except Error Unit} (hr : (repairStorages S).Run (.initial ops storages) tr s)
    (hresult : s.result = some result) :
    ∃ failed : ℕ → List RepairFailure, (∀ i < storages.length, StorageTask ops (callsOf i tr) (failed i)) ∧
      ((result = .ok () ↔ ∀ i < storages.length, StorageVisit ops (callsOf i tr) []) ↔
        (2 ^ 32 ∣ ∑ i ∈ Finset.range storages.length, (failed i).length →
          ∑ i ∈ Finset.range storages.length, (failed i).length = 0) ∧
        (∑ i ∈ Finset.range storages.length, (failed i).length = 0 → ∀ i < storages.length, .panicked i ∈ tr →
          ∃ failed, StorageVisit ops (callsOf i tr) failed)) := by
  have h := run_repairInv hr
  obtain ⟨rfl, hjoined⟩ := h.result _ hresult
  have htask : ∀ i, ∃ failed, i < storages.length → StorageTask ops (callsOf i tr) failed := by
    intro i
    by_cases hi : i < storages.length
    · have hlt : i < s.tasks.length := by rwa [← List.length_map Prod.fst, h.tasks]
      have hat := h.task i _ (List.getElem?_eq_getElem hlt)
      rw [hjoined _ (List.getElem_mem hlt)] at hat
      obtain ⟨job, hpath, -⟩ := hat
      obtain ⟨failed, hfailed⟩ := storageTask_of_path hpath
      exact ⟨failed, fun _ => hfailed⟩
    · exact ⟨[], fun hlt => absurd hlt hi⟩
  choose failed hfailed using htask
  have hsum : ∑ i ∈ Finset.range storages.length, (failed i).length = failures tr := by
    rw [failures_eq_sum h.none]
    exact Finset.sum_congr rfl fun i hi => ((hfailed i (Finset.mem_range.mp hi)).counted).symm
  refine ⟨failed, hfailed, ?_⟩
  rw [hsum, h.failed, repairResult_eq_ok, repaired_iff h hjoined]
  constructor
  · intro hverdict
    exact ⟨fun hdvd => (hverdict.mp hdvd).1, fun hzero => (hverdict.mp (hzero ▸ Nat.dvd_zero _)).2⟩
  · rintro ⟨hwrap, hwork⟩
    exact ⟨fun hdvd => ⟨hwrap hdvd, hwork (hwrap hdvd)⟩, fun hall => hall.1 ▸ Nat.dvd_zero _⟩

/-! ### Two storages -/

def contacts : NamedStorage Unit := ⟨"contacts", (), ⟨0, []⟩⟩

def calendars : NamedStorage Unit := ⟨"calendars", (), ⟨0, []⟩⟩

/-- An item of one collection is given a UID, and the other collection cannot be fetched; the task of the other storage
panics while the items of its only collection are fetched. -/
def troubledRepair : List RepairLabel :=
  [.call 0 ⟨.discoverCollections, .ok ["friends", "work"]⟩, .call 1 ⟨.discoverCollections, .ok ["meetings"]⟩,
    .call 0 ⟨.getAllItems "friends", .ok [⟨"1.vcf", "a", ⟨"UID;X=1:"⟩⟩, ⟨"2.vcf", "b", ⟨"UID:2"⟩⟩]⟩, .panicked 1,
    .call 0 ⟨.updateItem "1.vcf" "a" ⟨"UID:e3b0"⟩, .ok ()⟩, .joined 1, .call 0 ⟨.getAllItems "work", .error ["not found"]⟩,
    .call 0 ⟨.addFailed, ()⟩, .ended 0, .joined 0, .returned]

theorem troubledRepair_run : (repairStorages Unit).Run (.initial bareItems [contacts, calendars]) troubledRepair
    ⟨[(contacts, .joined), (calendars, .joined)], 1, some (.error ["A total of 1 operations failed."])⟩ :=
  .cons (.call _ _ 0 contacts _ _ _ rfl) <| .cons (.call _ _ 1 calendars _ _ _ rfl) <|
  .cons (.call _ _ 0 contacts _ _ _ rfl) <| .cons (.panicked _ _ 1 calendars _ rfl) <|
  .cons (.call _ _ 0 contacts _ _ _ rfl) <| .cons (.joined _ _ 1 calendars _ rfl) <|
  .cons (.call _ _ 0 contacts _ _ _ rfl) <| .cons (.call _ _ 0 contacts _ _ _ rfl) <|
  .cons (.ended _ _ 0 contacts rfl) <| .cons (.joined _ _ 0 contacts _ rfl) <| .single (.returned _ _ (by simp))

theorem repair_ok_iff_troubledRepair :
    ∃ failed : ℕ → List RepairFailure, (∀ i < 2, StorageTask bareItems (callsOf i troubledRepair) (failed i)) ∧
      (((.error ["A total of 1 operations failed."] : Except Error Unit) = .ok () ↔
          ∀ i < 2, StorageVisit bareItems (callsOf i troubledRepair) []) ↔
        (2 ^ 32 ∣ ∑ i ∈ Finset.range 2, (failed i).length → ∑ i ∈ Finset.range 2, (failed i).length = 0) ∧
        (∑ i ∈ Finset.range 2, (failed i).length = 0 → ∀ i < 2, .panicked i ∈ troubledRepair →
          ∃ failed, StorageVisit bareItems (callsOf i troubledRepair) failed)) :=
  repair_ok_iff troubledRepair_run rfl

/-- **A panic is hidden**: the only task panics before its first call is answered, and the verdict is `Ok`. -/
theorem repair_hides_panic : ¬ ∀ (storages : List (NamedStorage Unit)) (tr : List RepairLabel) (s : RepairState Unit)
    (result : Except Error Unit), (repairStorages Unit).Run (.initial bareItems storages) tr s → s.result = some result →
      (result = .ok () ↔ ∀ i < storages.length, StorageVisit bareItems (callsOf i tr) []) := by
  intro h
  have hr : (repairStorages Unit).Run (.initial bareItems [contacts]) [.panicked 0, .joined 0, .returned]
      ⟨[(contacts, .joined)], 0, some (.ok ())⟩ :=
    .cons (.panicked _ _ 0 contacts _ rfl) (.cons (.joined _ _ 0 contacts _ rfl) (.single (.returned _ _ (by simp))))
  cases (h _ _ _ _ hr rfl).mp rfl 0 Nat.zero_lt_one

end Pimsync
