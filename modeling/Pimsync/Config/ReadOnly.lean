import Pimsync.Config.NamedPairsRuns
import Pimsync.Config.ParseStorages
import Pimsync.Config.StringFields

/-!
# Storages that are not written to

- `StorageCrate`, `DynStorage.performAll`: a storage under any sequence of operations;
- `initStorage_dyn`: what `init_storage` hands out for a block;
- `Guarded`, `initStorage_guarded`: it keeps to the `read_only` of the block;
- `read_only_respected`: so does every storage that a command works with.
-/

namespace Pimsync

variable {S Op τ : Type} {env : Outside S}

/-! ## Operations on a storage -/

/-- What an operation writes. -/
inductive WriteKind
  | item
  | collection
  | property

/-- The storages of the crate under the operations `Op`, with the state `τ` of everything outside. -/
structure StorageCrate (S Op τ : Type) where
  /-- Whether an operation writes, and what. -/
  writes : Op → Option WriteKind
  /-- What a storage does to its store when it performs an operation. -/
  perform : S → Op → τ → List Op × τ
  /-- The same for a `ReadOnlyStorage` around it. -/
  readOnly : S → Op → τ → List Op × τ

/-- An operation on a storage that was handed out. -/
def DynStorage.perform (crate : StorageCrate S Op τ) : DynStorage S → Op → τ → List Op × τ
  | .plain storage => crate.perform storage
  | .readOnly storage => crate.readOnly storage

/-- What a sequence of operations does to a store. -/
def forwarded (perform : Op → τ → List Op × τ) : List Op → τ → List Op
  | [], _ => []
  | op :: ops, t => (perform op t).1 ++ forwarded perform ops (perform op t).2

/-- What a sequence of operations on a storage that was handed out does to its store. -/
def DynStorage.performAll (crate : StorageCrate S Op τ) (storage : DynStorage S) : List Op → τ → List Op :=
  forwarded (storage.perform crate)

/-- What is relied on: reading does not write, and `ReadOnlyStorage` and `WebCalStorage` reject every write. -/
structure StorageCrate.Lawful (crate : StorageCrate S Op τ) (env : Outside S) : Prop where
  read : ∀ storage op t, crate.writes op = none → ∀ op' ∈ (crate.perform storage op t).1, crate.writes op' = none
  readOnly_read : ∀ storage op t, crate.writes op = none → crate.readOnly storage op t = crate.perform storage op t
  readOnly_write : ∀ storage op t, crate.writes op ≠ none → (crate.readOnly storage op t).1 = []
  webcal_write : ∀ client url collectionId op t, crate.writes op ≠ none →
    (crate.perform (env.webcal client url collectionId) op t).1 = []

/-- What no operation writes to, no sequence of operations writes to. -/
theorem forwarded_reads {P : Op → Prop} {perform : Op → τ → List Op × τ} (h : ∀ op t, ∀ op' ∈ (perform op t).1, P op') :
    ∀ (ops : List Op) (t : τ), ∀ op' ∈ forwarded perform ops t, P op'
  | [], _, _, hmem => by cases hmem
  | op :: ops, t, op', hmem => by
    obtain hmem | hmem := List.mem_append.mp hmem
    · exact h op t op' hmem
    · exact forwarded_reads h ops _ op' hmem

/-! ## What is handed out -/

/-- The storages that the crate builds, other than those of `webcal`. -/
inductive Bare (env : Outside S) : S → Prop
  | vdir (path : String) (fileext : Option String) (itemKind : ItemKind) : Bare env (env.vdir path fileext itemKind)
  | carddav {client : Client} {url : String} {segment : Option CollectionIdSegment} {discover : Bool} {storage : S} :
      env.carddav client url segment discover = .ok storage → Bare env storage
  | caldav {client : Client} {url : String} {segment : Option CollectionIdSegment} {discover : Bool} {storage : S} :
      env.caldav client url segment discover = .ok storage → Bare env storage
  | jmap {client : Client} {url : String} {itemKind : ItemKind} {storage : S} :
      env.jmap client url itemKind = .ok storage → Bare env storage

/-- The storage for a type and a `read_only` flag. -/
def DynStorage.Fits (env : Outside S) (type_ : String) (ro : Bool) (storage : DynStorage S) : Prop :=
  if type_ = "webcal" then ∃ client url collectionId, storage = .plain (env.webcal client url collectionId)
  else ∃ bare, Bare env bare ∧ storage = intoArc bare ro

theorem parseVdir_fits (itemKind : ItemKind) (ro : Bool) :
    (parseVdir env itemKind ro).Returns fun storage => ∃ bare, Bare env bare ∧ storage = intoArc bare ro := by
  refine Prog.returns_bind fun path => Prog.returns_bind fun path => Prog.returns_bind fun encoding => ?_
  split
  · exact Prog.returns_fail _
  · exact Prog.returns_bind fun _ => Prog.returns_bind fun fileext => Prog.returns_pure ⟨_, .vdir path fileext itemKind, rfl⟩

/-- In every branch of `parse_carddav` and `parse_caldav`, the flag reaches `into_arc`. -/
theorem parseDav_fits {kind : String}
    {finish : Client → String → Option CollectionIdSegment → Bool → Except Fault S} (ro : Bool)
    (hfinish : ∀ client url segment discover storage, finish client url segment discover = .ok storage → Bare env storage) :
    (parseDav env kind finish ro).Returns fun storage => ∃ bare, Bare env bare ∧ storage = intoArc bare ro := by
  refine Prog.returns_bind fun url => Prog.returns_bind fun _ => Prog.returns_bind fun segment =>
    Prog.returns_bind fun socket =>
    Prog.returns_bind fun auth => ?_
  cases socket with
  | some directive =>
    exact Prog.returns_bind fun socketPath => Prog.returns_bind fun userAgent =>
      (Prog.returns_lift _).bind fun bare hbare => Prog.returns_pure ⟨bare, hfinish _ _ _ _ _ hbare, rfl⟩
  | none =>
    exact Prog.returns_bind fun tls => Prog.returns_bind fun userAgent => Prog.returns_bind fun connector =>
      (Prog.returns_lift _).bind fun bare hbare => Prog.returns_pure ⟨bare, hfinish _ _ _ _ _ hbare, rfl⟩

theorem parseJmap_fits (itemKind : ItemKind) (ro : Bool) :
    (parseJmap env itemKind ro).Returns fun storage => ∃ bare, Bare env bare ∧ storage = intoArc bare ro :=
  Prog.returns_bind fun _ => Prog.returns_bind fun _ => Prog.returns_bind fun _ => Prog.returns_bind fun _ =>
    Prog.returns_bind fun _ => (Prog.returns_lift _).bind fun bare hbare => Prog.returns_pure ⟨bare, .jmap hbare, rfl⟩

theorem parseWebcal_fits :
    (parseWebcal env).Returns fun storage =>
    ∃ client url collectionId, storage = .plain (env.webcal client url collectionId) :=
  Prog.returns_bind fun _ => Prog.returns_bind fun _ => Prog.returns_bind fun _ => Prog.returns_bind fun _ =>
    Prog.returns_bind fun _ => Prog.returns_bind fun _ => Prog.returns_bind fun _ => Prog.returns_bind fun _ =>
    Prog.returns_pure ⟨_, _, _, rfl⟩

theorem parseStorage_fits (type_ : String) (ro : Bool) :
    (parseStorage env type_ ro).Returns (DynStorage.Fits env type_ ro) := by
  unfold parseStorage DynStorage.Fits
  split
  · exact parseVdir_fits _ _
  · exact parseVdir_fits _ _
  · exact parseDav_fits _ fun _ _ _ _ _ h => .carddav h
  · exact parseDav_fits _ fun _ _ _ _ _ h => .caldav h
  · exact parseWebcal_fits
  · exact parseJmap_fits _ _
  · exact parseJmap_fits _ _
  · exact Prog.returns_fail _

/-- **What `init_storage` hands out**: for a type and a flag, as the block has them. -/
theorem initStorage_dyn {config : Scfg} {storage : DynStorage S} {interval : Duration}
    (h : initStorageOutcome env config = .ok storage interval) :
    ∃ type_ child ro, config.named "type" = [⟨[type_], child⟩] ∧ (ro = true ↔ config.named "read_only" ≠ []) ∧
      storage.Fits env type_ ro := by
  have hinit : (initStorage env config).result = .ok (storage, interval) := by
    unfold initStorageOutcome at h
    split at h
    · next hinit => cases h; exact hinit
    · cases h
    · cases h
  obtain ⟨type_, htype, h₁⟩ := Prog.bind_result_ok.mp hinit
  obtain ⟨interval', -, h₂⟩ := Prog.bind_result_ok.mp h₁
  obtain ⟨ro, hro, h₃⟩ := Prog.bind_result_ok.mp h₂
  obtain ⟨storage', hstorage, h₄⟩ := Prog.bind_result_ok.mp h₃
  cases h₄
  obtain ⟨child, hn⟩ := Reader.takeParamFrom_ok htype
  refine ⟨type_, child, ro, hn, ?_, parseStorage_fits type_ ro _ _ hstorage⟩
  rw [Reader.parseReadOnly_ok hro, Reader.keeps_parseInterval (by decide), Reader.keeps_takeParamFrom (by decide)]

/-- A storage that keeps to the `read_only` of its block: with it, nothing is written; without, whoever does not use
`webcal` has the storage itself. -/
def Guarded (crate : StorageCrate S Op τ) (env : Outside S) (config : Scfg) (storage : DynStorage S) : Prop :=
  (config.named "read_only" ≠ [] → ∀ ops t, ∀ op ∈ storage.performAll crate ops t, crate.writes op = none) ∧
    (config.named "read_only" = [] → (∀ child, config.named "type" ≠ [⟨["webcal"], child⟩]) →
      ∃ bare, Bare env bare ∧ ∀ ops t, storage.performAll crate ops t = forwarded (crate.perform bare) ops t)

theorem initStorage_guarded {crate : StorageCrate S Op τ} (hcrate : crate.Lawful env) {config : Scfg}
    {storage : DynStorage S}
    {interval : Duration} (h : initStorageOutcome env config = .ok storage interval) : Guarded crate env config storage := by
  obtain ⟨type_, child, ro, htype, hro, hfits⟩ := initStorage_dyn h
  constructor
  · intro hreadOnly
    refine forwarded_reads fun op t op' hop' => ?_
    obtain rfl : ro = true := hro.mpr hreadOnly
    rw [DynStorage.Fits] at hfits
    split at hfits
    · obtain ⟨client, url, collectionId, rfl⟩ := hfits
      by_cases hop : crate.writes op = none
      · exact hcrate.read _ op t hop op' hop'
      · rw [DynStorage.perform, hcrate.webcal_write _ _ _ op t hop] at hop'
        cases hop'
    · obtain ⟨bare, -, rfl⟩ := hfits
      rw [intoArc, if_pos rfl, DynStorage.perform] at hop'
      by_cases hop : crate.writes op = none
      · rw [hcrate.readOnly_read _ op t hop] at hop'
        exact hcrate.read _ op t hop op' hop'
      · rw [hcrate.readOnly_write _ op t hop] at hop'
        cases hop'
  · intro hreadOnly hwebcal
    obtain rfl : ro = false := Bool.eq_false_iff.mpr fun hro' => hro.mp hro' hreadOnly
    rw [DynStorage.Fits, if_neg (by rintro rfl; exact hwebcal child htype)] at hfits
    obtain ⟨bare, hbare, rfl⟩ := hfits
    exact ⟨bare, hbare, fun _ _ => rfl⟩

/-! ## Every command -/

/-- `init_storage`, as `get_storage` calls it. -/
def PairsOutside.Inits (pairsEnv : PairsOutside (DynStorage S)) (env : Outside S) : Prop :=
  ∀ config name, pairsEnv.initStorage config name = initStorageOutcome env config

/-- `init_storage`, as the tasks of `parse_storages` call it. -/
def TaskInits (env : Outside S) (s : LoadState (DynStorage S)) : LoadLabel (DynStorage S) → Prop
  | .ended i outcome => ∀ task phase, s.tasks[i]? = some (task, phase) → outcome = initStorageOutcome env task.loaded.config
  | _ => True

/-- `init_storage` makes the storage from the block. -/
def Makes (env : Outside S) (config : Scfg) (storage : DynStorage S) : Prop :=
  ∃ interval, initStorageOutcome env config = .ok storage interval

/-- The storages of `parse_storages` are made from the blocks that it loaded. -/
structure MadeInv (env : Outside S) (s : LoadState (DynStorage S)) : Prop where
  ended : ∀ task outcome, (task, .ended outcome) ∈ s.tasks → outcome = initStorageOutcome env task.loaded.config
  joining : ∀ storages, s.main = .joining storages → ∀ named ∈ storages, Makes env named.loaded.config named.storage
  returned : ∀ storages, s.main = .returned (.ok storages) → ∀ named ∈ storages, Makes env named.loaded.config named.storage

section Made

variable {loop : Ran τ LoadEvent Error Unit} {tr : List (LoadLabel (DynStorage S))} {s s' : LoadState (DynStorage S)}
  {l : LoadLabel (DynStorage S)} {main : LoadMain (DynStorage S)} {tasks : List (Task × TaskPhase (DynStorage S))}

/-- A move of one task keeps what is true of those that have ended. -/
theorem MadeInv.ended_set (h : MadeInv env ⟨main, tasks⟩) {i : ℕ} {task : Task} {phase : TaskPhase (DynStorage S)}
    (hphase : ∀ outcome, phase = .ended outcome → outcome = initStorageOutcome env task.loaded.config) :
    ∀ task' outcome, (task', .ended outcome) ∈ tasks.set i (task, phase) →
    outcome = initStorageOutcome env task'.loaded.config := by
  intro task' outcome hmem
  obtain hmem | heq := List.mem_or_eq_of_mem_set hmem
  · exact h.ended task' outcome hmem
  · cases heq
    exact hphase outcome rfl

/-- Dropping the tasks leaves those that have ended. -/
theorem MadeInv.ended_abort (h : MadeInv env ⟨main, tasks⟩) :
    ∀ task outcome, (task, .ended outcome) ∈ JoinSet.abort tasks → outcome = initStorageOutcome env task.loaded.config := by
  intro task outcome hmem
  obtain ⟨⟨task', phase⟩, hmem', heq⟩ := List.mem_map.mp hmem
  cases phase <;> cases heq
  exact h.ended _ _ hmem'

theorem step_madeInv (h : MadeInv env s) (hok : TaskInits env s l) (hs : (parseStorages (DynStorage S) loop).step s l s') :
    MadeInv env s' := by
  cases hs with
  | load event rest tasks =>
    refine ⟨fun task outcome hmem => ?_, by simp, by simp⟩
    obtain hmem | hmem := List.mem_append.mp hmem
    · exact h.ended task outcome hmem
    · simp at hmem
  | loaded tasks => exact ⟨h.ended, fun storages hm => by cases hm; simp, by simp⟩
  | init main tasks i task point hi => exact ⟨h.ended_set nofun, h.joining, h.returned⟩
  | ended main tasks i task outcome hi =>
    exact ⟨h.ended_set fun _ he => by cases he; exact hok task _ hi, h.joining, h.returned⟩
  | join storages tasks i task storage interval hi =>
    refine ⟨h.ended_set nofun, fun storages' hm named hnamed => ?_, by simp⟩
    cases hm
    obtain hnamed | hnamed := List.mem_append.mp hnamed
    · exact h.joining storages rfl named hnamed
    · obtain rfl := List.mem_singleton.mp hnamed
      exact ⟨interval, (h.ended task _ (List.mem_of_getElem? hi)).symm⟩
  | fail | joinErr | joinPanic => exact ⟨h.ended_abort, by simp, by simp⟩
  | ret storages tasks hall => exact ⟨h.ended, by simp, fun storages' hm => by cases hm; exact h.joining storages rfl⟩

theorem run_madeInv (hr : (parseStorages (DynStorage S) loop).RunWith (TaskInits env) (.initial (DynStorage S) loop) tr s) :
    MadeInv env s :=
  hr.invariant (I := MadeInv env) ⟨by simp [LoadState.initial], by simp [LoadState.initial], by simp [LoadState.initial]⟩
    fun _ _ _ h hok hs => step_madeInv h hok hs

end Made

/-- **`read_only` is respected**, with every transport and by every command: by what `init_storage` hands out, by the
storages of the pairs, and by the storages that are repaired. -/
theorem read_only_respected {crate : StorageCrate S Op τ} (hcrate : crate.Lawful env) :
    (∀ config storage interval, initStorageOutcome env config = .ok storage interval → Guarded crate env config storage) ∧
      (∀ (pairsEnv : PairsOutside (DynStorage S)) (config : Config) (order : List (String × Scfg)) (dir : String)
        (tr : List (PairsLabel (DynStorage S))) (s : PairsState (DynStorage S)) (pairs : List (NamedPair (DynStorage S))),
        pairsEnv.Inits env → order.Perm config.pairList → expandTilde pairsEnv.home config.statusPath = .ok dir →
        (intoNamedPairs pairsEnv config.statusPath order).Run (.initial _ config) tr s → s.main = .returned (.ok pairs) →
        ∀ pair ∈ pairs, ∃ blockA blockB, config.storage pair.names.1 = some blockA ∧
        config.storage pair.names.2 = some blockB ∧
          Guarded crate env blockA pair.inner.storageA ∧ Guarded crate env blockB pair.inner.storageB) ∧
      ∀ (loop : Ran τ LoadEvent Error Unit) (tr : List (LoadLabel (DynStorage S))) (s : LoadState (DynStorage S))
        (storages : List (NamedStorage (DynStorage S))),
        (parseStorages (DynStorage S) loop).RunWith (TaskInits env) (.initial _ loop) tr s →
        s.main = .returned (.ok storages) →
        ∀ named ∈ storages, Guarded crate env named.loaded.config named.storage := by
  refine ⟨fun config storage interval h => initStorage_guarded hcrate h, ?_, ?_⟩
  · intro pairsEnv config order dir tr s pairs hinits horder hdir hr hmain pair hpair
    obtain ⟨p, -, hp⟩ := (run_pairs horder hdir hr hmain).2 pair hpair
    obtain ⟨-, task, -, hnames, ha, hb⟩ := pairOutcome_ok hp
    obtain ⟨blockA, hblockA, hinitA⟩ := storageOutcome_ok ha
    obtain ⟨blockB, hblockB, hinitB⟩ := storageOutcome_ok hb
    rw [hinits] at hinitA hinitB
    exact ⟨blockA, blockB, by rw [hnames]; exact hblockA, by rw [hnames]; exact hblockB, initStorage_guarded hcrate hinitA,
      initStorage_guarded hcrate hinitB⟩
  · intro loop tr s storages hr hmain named hnamed
    obtain ⟨interval, hinit⟩ := (run_madeInv hr).returned storages hmain named hnamed
    exact initStorage_guarded hcrate hinit

/-- Storages that are their own paths or URLs, wherever they are. -/
def ownPath : Outside String where
  home := .dir "/home/user"
  version := "0.5.0"
  httpProxy := none
  uri _ := .ok ()
  headerValue _ := .ok ()
  collectionId _ := .ok ()
  base64 credentials := credentials
  rootStore _ := .ok ()
  fingerprint _ := .ok ()
  clientAuth _ _ := .ok ()
  tlsConfig _ := .ok ()
  vdirBuilder _ := .ok ()
  vdir path _ _ := path
  carddav _ url _ _ := .ok url
  caldav _ url _ _ := .ok url
  webcal _ _ _ := "webcal"
  jmap _ url _ := .ok url

/-- The crate with one operation that reads and one that writes. -/
def readWrite : StorageCrate String Bool Unit where
  writes op := if op then some .item else none
  perform storage op t := (if op ∧ storage = "webcal" then [] else [op], t)
  readOnly _ op t := (if op then [] else [op], t)

theorem readWrite_lawful : readWrite.Lawful ownPath where
  read storage op t h := by cases op <;> simp_all [readWrite]
  readOnly_read storage op t h := by cases op <;> simp_all [readWrite]
  readOnly_write storage op t h := by cases op <;> simp_all [readWrite]
  webcal_write client url collectionId op t h := by cases op <;> simp_all [readWrite, ownPath]

theorem read_only_respected_vdir :
    let block : Scfg := [("type", ⟨["vdir/vcard"], none⟩), ("path", ⟨["~/cards"], none⟩), ("read_only", ⟨[], none⟩)]
    Guarded readWrite ownPath block (.readOnly "/home/user/cards") :=
  (read_only_respected readWrite_lawful).1 _ _ 300 rfl

end Pimsync
