import Pimsync.Config.Loaded
import Pimsync.Config.NamedPairsRuns

/-!
# The names that are read twice

`parse_config` reads the storages' names of a pair to know which storages to keep; `into_named_pairs` reads them again,
more strictly, to look the storages up.

- `PairTask.new_storage`: where the second reading goes through, the first has read the same names;
- `Cell.run_undefined`: `get_storage` says that a storage is not defined if and only if the configuration has none;
- `names_agree`: so it says that of a storage of a pair if and only if the text has no block of its name.
-/

namespace Pimsync

/-! ## Reading the names -/

/-- The directive that names the storage on a side. -/
def Side.field : Side → String
  | .a => "storage_a"
  | .b => "storage_b"

/-- The directive is there once, with one parameter. -/
def Scfg.Exact (child : Scfg) (field : String) : Prop := ∃ name block, child.named field = [⟨[name], block⟩]

/-- What the second reading has read. -/
theorem PairTask.new_named {dir pair : String} {child : Scfg} {task : PairTask}
    (h : PairTask.new dir (pair, child) = .ok task) (side : Side) :
    ∃ block, child.named side.field = [⟨[task.storage side], block⟩] := by
  obtain ⟨⟨a, rest⟩, ha, h⟩ := bind_eq_ok.mp h
  obtain ⟨⟨b, rest'⟩, hb, h⟩ := bind_eq_ok.mp h
  cases h
  obtain ⟨hna, rfl⟩ := takeSingleParamFromDirective_eq_ok.mp ha
  obtain ⟨hnb, -⟩ := takeSingleParamFromDirective_eq_ok.mp hb
  cases side with
  | a => exact hna
  | b =>
    rw [Scfg.named_remove_ne _ (by decide)] at hnb
    exact hnb

/-- The second reading goes through if and only if each directive is there once, with one parameter. -/
theorem PairTask.new_isOk {dir pair : String} {child : Scfg} :
    (∃ task, PairTask.new dir (pair, child) = .ok task) ↔ ∀ side : Side, child.Exact side.field := by
  constructor
  · rintro ⟨task, h⟩ side
    exact ⟨task.storage side, PairTask.new_named h side⟩
  · intro h
    obtain ⟨a, block, ha⟩ := h .a
    obtain ⟨b, block', hb⟩ := h .b
    have hb' : ((child.remove Side.a.field).2).named Side.b.field = [⟨[b], block'⟩] := by
      rw [Scfg.named_remove_ne _ (by decide)]; exact hb
    exact ⟨_, bind_eq_ok.mpr ⟨_, takeSingleParamFromDirective_eq_ok.mpr ⟨⟨block, ha⟩, rfl⟩,
      bind_eq_ok.mpr ⟨_, takeSingleParamFromDirective_eq_ok.mpr ⟨⟨block', hb'⟩, rfl⟩, rfl⟩⟩⟩

/-- Where the second reading goes through, the first has read the same names. -/
theorem PairTask.new_storage {dir pair : String} {child : Scfg} {task : PairTask}
    (h : PairTask.new dir (pair, child) = .ok task) (side : Side) :
    pairStorage child side.field = .ok (task.storage side) := by
  obtain ⟨block, hn⟩ := PairTask.new_named h side
  have hget : child.get side.field = some ⟨[task.storage side], block⟩ := by rw [Scfg.get, hn]; rfl
  exact bind_eq_ok.mpr ⟨_, orContext_eq_ok.mpr hget, orContext_eq_ok.mpr rfl⟩

/-- The storage on either side of a pair is one that the pair uses. -/
theorem UsesStorage.of_side {child : Scfg} {side : Side} {name : String} (h : pairStorage child side.field = .ok name) :
    UsesStorage child name := by
  cases side with
  | a => exact .inl h
  | b => exact .inr h

/-! ## Storages that are not defined -/

namespace Cell

variable {ι S : Type} [DecidableEq ι] {name : String} {s s' : Cell ι S} {c : ι}

/-- What `get_storage` says of a storage that is not in the configuration. -/
def notDefined (name : String) : Except Error (S × Duration) := bail s!"Storage {name} is not defined."

/-- No call has found the storage. -/
def Undefined (name : String) (s : Cell ι S) : Prop :=
  s.slot = none ∧ ∀ c, s.pc c = .idle ∨ s.pc c = .dropped ∨ s.pc c = .returned (notDefined name)

theorem step_undefined {l : ι × Act S} (h : s.Undefined name) (hs : Step name s l s') : s'.Undefined name := by
  obtain ⟨hslot, hpc⟩ := h
  have hrest : ∀ (c : ι) (p : Pc ι S), p = .idle ∨ p = .dropped ∨ p = .returned (notDefined name) →
      (s.go c p).Undefined name := fun c p hp =>
    ⟨hslot, forall_go (P := fun _ p => p = .idle ∨ p = .dropped ∨ p = .returned (notDefined name)) hp fun c' _ => hpc c'⟩
  cases hs with
  | undefined c _ _ => exact hrest c _ (.inr (.inr rfl))
  | drop c _ => exact hrest c _ (.inr (.inl rfl))
  | initOk c _ _ _ h | initErr c _ _ h | initPanic c _ h | notify c _ _ _ h =>
    rcases hpc c with he | he | he <;> rw [h] at he <;> cases he
  | enter c _ _ hsl | lock c _ _ hsl | seeRaw c _ _ _ hsl | swapRaw c _ _ _ hsl | swapNotRaw c _ _ _ hsl
  | lockPublish c _ _ _ _ hsl | swapReady c _ _ _ _ _ hsl | swapNotInitialising c _ _ _ _ _ hsl
  | seeInitialising c _ _ _ hsl | relock c _ _ hsl | readReady c _ _ _ _ hsl | readNotReady c _ _ _ hsl
  | seeReady c _ _ _ _ hsl => rw [hslot] at hsl; cases hsl
  | woken c _ _ h => rcases hpc c with he | he | he <;> rw [h] at he <;> cases he

/-- What goes wrong in `init_storage` is never that. -/
theorem initialising_ne_notDefined (name other : String) (e : Error) :
    (.error (s!"Initialising storage {name}" :: e) : Except Error (S × Duration)) ≠ notDefined other := by
  intro h
  have hhead : "Initialising storage " ++ name = "Storage " ++ other ++ " is not defined." :=
    (List.cons.inj (Except.error.inj h)).1
  have hchars : some 'I' = some 'S' := by
    simpa using congrArg (fun s => s.toList.head?) hhead
  cases hchars

/-- A storage that is in the configuration is there, and no call says that it is not. -/
def Known (name : String) (s : Cell ι S) : Prop :=
  s.value? ≠ none ∧ ∀ c, s.pc c ≠ .returned (notDefined name)

theorem step_known {l : ι × Act S} (hi : s.Inv) (h : s.Known name) (hs : Step name s l s') : s'.Known name := by
  obtain ⟨hvalue, hpc⟩ := h
  have hmoved : ∀ (c : ι) (p : Pc ι S), s'.pc = Function.update s.pc c p → p ≠ .returned (notDefined name) →
      ∀ c', s'.pc c' ≠ .returned (notDefined name) := by
    intro c p hp hne c'
    rw [hp]
    by_cases hc : c' = c
    · subst hc; rwa [Function.update_self]
    · rw [Function.update_of_ne hc]; exact hpc c'
  cases step_effect hi hs with
  | silent c p hp hv hset => exact ⟨hv ▸ hvalue, hmoved c p hp fun he => by rw [he] at hset; cases hset⟩
  | undefined c _ _ hv => exact absurd hv hvalue
  | start c scfg hp _ hv => exact ⟨by simp [hv], hmoved c _ hp (by simp)⟩
  | produce c scfg st d _ hp _ hv => exact ⟨hv ▸ hvalue, hmoved c _ hp (by simp)⟩
  | fail c scfg e _ hp _ hv =>
    exact ⟨hv ▸ hvalue, hmoved c _ hp fun he => initialising_ne_notDefined name name e (Pc.returned.inj he)⟩
  | panic c scfg _ hp _ hv => exact ⟨hv ▸ hvalue, hmoved c _ hp (by simp)⟩
  | publish c st d _ hp _ hv => exact ⟨by simp [hv], hmoved c _ hp (by simp)⟩
  | give c st d hp _ hv => exact ⟨hv ▸ hvalue, hmoved c _ hp (by simp [notDefined, bail])⟩
  | drop c _ hp hv => exact ⟨hv ▸ hvalue, hmoved c _ hp (by simp)⟩

/-- **A call that was made and not dropped has said that the storage is not defined** if and only if it is not. -/
theorem run_undefined {raw : Option Scfg} {tr : List (ι × Act S)} (hr : (getStorage name).Run (initial raw) tr s)
    (hidle : s.pc c ≠ .idle) (hdropped : s.pc c ≠ .dropped) : s.pc c = .returned (notDefined name) ↔ raw = none := by
  cases raw with
  | none =>
    have hinv := hr.invariant (I := Undefined name) ⟨rfl, fun _ => .inl rfl⟩ fun _ _ _ h _ hs => step_undefined h hs
    rcases hinv.2 c with h | h | h
    · exact absurd h hidle
    · exact absurd h hdropped
    · exact iff_of_true h rfl
  | some scfg =>
    have hinv := hr.invariant (I := fun s => s.Inv ∧ Known name s)
      ⟨inv_initial _, by simp [value?, initial], fun _ => by simp [initial]⟩
      fun _ _ _ h _ hs => ⟨step_inv h.1 hs, step_known h.1 h.2 hs⟩
    exact iff_of_false (hinv.2.2 c) (by simp)

end Cell

/-! ## What is kept -/

/-- The text has a storage block of that name. -/
def Scfg.Defines (text : Scfg) (name : String) : Prop := ∃ directive ∈ text.named "storage", directive.params = [name]

theorem places_eq_nil {name : String} {block : ℕ} {directives : List Directive} :
    places name block directives = [] ↔ ∀ directive ∈ directives, directive.params ≠ [name] := by
  rw [← List.length_eq_zero_iff, length_places, List.countP_eq_zero]
  simp

section Kept

variable {σ : Type} {exec : Exec σ} {scfg : String → Except Error Scfg} {rawConfig : String} {filter : FilterNames} {w : σ}
  {config : Config} {text : Scfg}

/-- The storages kept are those of the text that a pair uses. -/
theorem parseConfig_keeps (ht : scfg rawConfig = .ok text)
    (hconfig : (parseConfig scfg exec rawConfig filter w).result = .ok config) (name : String) :
    config.storage name ≠ none ↔
      text.Defines name ∧ ∃ pair child, config.pairs.lookup pair = some child ∧ UsesStorage child name := by
  obtain ⟨text', read, t, ht', hread, hpairs, hblocks⟩ := parseConfig_ok hconfig
  obtain rfl : text = text' := Except.ok.inj (ht.symm.trans ht')
  have hcons : read.Consistent := parsePairs_consistent (fun n => by simp) hread
  rw [← hpairs, ← hcons name, Config.storage, Ne, Option.map_eq_none_iff]
  obtain ⟨hnil, hlast⟩ := parseStorageBlocks_ok name _ hblocks
  constructor
  · intro hl
    by_contra hnot
    refine hl ((hnil ?_).trans (AList.lookup_empty name))
    rcases not_and_or.mp hnot with hd | hen
    · exact .inr (places_eq_nil.mpr fun directive hmem hp => hd ⟨directive, hmem, hp⟩)
    · exact .inl hen
  · rintro ⟨⟨directive, hmem, hp⟩, hen⟩ hl
    cases hlp : (places name 0 (text.named "storage")).getLast? with
    | none => exact places_eq_nil.mp (List.getLast?_eq_none_iff.mp hlp) directive hmem hp
    | some place =>
      obtain ⟨l, hl', -⟩ := hlast place hen hlp
      rw [hl] at hl'
      cases hl'

theorem mem_pairList {pair : String} {child : Scfg} :
    (pair, child) ∈ config.pairList ↔ config.pairs.lookup pair = some child := by
  rw [← Option.mem_def, AList.mem_lookup_iff]
  simp [Config.pairList, Sigma.exists]

/-- If `into_named_pairs` returns pairs, the second reading went through for all of them. -/
theorem run_new_isOk {S : Type} {env : PairsOutside S} {order : List (String × Scfg)} {tr : List (PairsLabel S)}
    {s : PairsState S} {pairs : List (NamedPair S)} (horder : order.Perm config.pairList)
    (hr : (intoNamedPairs env config.statusPath order).Run (.initial S config) tr s) (hmain : s.main = .returned (.ok pairs))
    {pair : String} {child : Scfg} (hl : config.pairs.lookup pair = some child) : ∀ side : Side, child.Exact side.field := by
  rcases hdir : expandTilde env.home config.statusPath with fault | dir
  · rcases run_fault hdir hr with rfl | rfl
    · cases hmain
    · cases fault <;> cases hmain
  have hkeys := keys_of_perm horder
  rcases run_pairsInv (hkeys.nodup_iff.mpr config.pairs.nodupKeys) hdir hr with rfl | h
  · cases hmain
  have hmem : pairOutcome env config.storage dir (pair, child) ∈ order.map (pairOutcome env config.storage dir) :=
    List.mem_map_of_mem (horder.mem_iff.mpr (mem_pairList.mpr hl))
  obtain ⟨built, -, hbuilt⟩ := List.mem_map.mp ((h.returned pairs hmain).mem_iff.mpr hmem)
  obtain ⟨-, task, hnew, -⟩ := pairOutcome_ok hbuilt.symm
  exact PairTask.new_isOk.mp ⟨task, hnew⟩

end Kept

/-- **The two readings agree**: whatever was read under whatever filter,

* where the second reading goes through, it reads the names that the first has read, and `get_storage` says of such a
  name that it is not defined if and only if the text has no block of it;
* the second reading goes through only where each of the two directives is there once, with one parameter, and no run of
  `into_named_pairs` returns pairs otherwise;
* every storage kept is one that a pair uses. -/
theorem names_agree {σ : Type} {exec : Exec σ} {scfg : String → Except Error Scfg} {rawConfig : String}
    {filter : FilterNames} {w : σ} {config : Config} {text : Scfg} (ht : scfg rawConfig = .ok text)
    (hconfig : (parseConfig scfg exec rawConfig filter w).result = .ok config) :
    (∀ pair child dir task, config.pairs.lookup pair = some child → PairTask.new dir (pair, child) = .ok task →
      ∀ side : Side, pairStorage child side.field = .ok (task.storage side) ∧
        (config.storage (task.storage side) ≠ none ↔ text.Defines (task.storage side)) ∧
        ∀ (ι S : Type) [DecidableEq ι] (tr : List (String × ι × Act S)) (s : String → Cell ι S) (c : ι),
          StorageBuilder.calls.Run (StorageBuilder.new config.storage) tr s →
          (s (task.storage side)).pc c ≠ .idle → (s (task.storage side)).pc c ≠ .dropped →
          ((s (task.storage side)).pc c = .returned (Cell.notDefined (task.storage side)) ↔
            ¬ text.Defines (task.storage side))) ∧
    (∀ pair child, config.pairs.lookup pair = some child → ¬ (∀ side : Side, child.Exact side.field) →
      (∀ dir task, PairTask.new dir (pair, child) ≠ .ok task) ∧
      ∀ (S : Type) (env : PairsOutside S) (order : List (String × Scfg)) (tr : List (PairsLabel S)) (s : PairsState S),
        order.Perm config.pairList → (intoNamedPairs env config.statusPath order).Run (.initial S config) tr s →
        ∀ pairs, s.main ≠ .returned (.ok pairs)) ∧
    ∀ name loaded, config.storages.lookup name = some loaded →
      ∃ pair child, config.pairs.lookup pair = some child ∧ UsesStorage child name := by
  refine ⟨fun pair child dir task hl hnew side => ?_, fun pair child hl hsloppy => ⟨fun dir task hnew => ?_, ?_⟩,
    fun name loaded hl => ?_⟩
  · have hread := PairTask.new_storage hnew side
    have hkept : config.storage (task.storage side) ≠ none ↔ text.Defines (task.storage side) := by
      rw [parseConfig_keeps ht hconfig]
      exact and_iff_left ⟨pair, child, hl, .of_side hread⟩
    refine ⟨hread, hkept, fun ι S _ tr s c hr hidle hdropped => ?_⟩
    rw [Cell.run_undefined (StorageBuilder.run_cell hr _) hidle hdropped, ← not_iff_not, not_not]
    exact hkept
  · exact hsloppy (PairTask.new_isOk.mp ⟨task, hnew⟩)
  · exact fun S env order tr s horder hr pairs hmain => hsloppy (run_new_isOk horder hr hmain hl)
  · have hkept : config.storage name ≠ none := by simp [Config.storage, hl]
    exact ((parseConfig_keeps ht hconfig name).mp hkept).2

/-- A text whose pair has one storage that it defines, and one that it does not. -/
def halfDefined : Scfg :=
  [("status_path", ⟨["/status"], none⟩),
    ("pair", ⟨["p"], some [("storage_a", ⟨["home"], none⟩), ("storage_b", ⟨["work"], none⟩)]⟩),
    ("storage", ⟨["home"], some (vdirBlock "/a")⟩)]

theorem names_agree_half : ∃ (config : Config) (s : String → Cell Bool String),
    (parseConfig (fun _ => .ok halfDefined) noExec "" .new ()).result = .ok config ∧
      StorageBuilder.calls.Run (StorageBuilder.new config.storage) [("work", true, .poll)] s ∧
      (s "work").pc true = .returned (Cell.notDefined "work") ∧ ¬ halfDefined.Defines "work" := by
  obtain ⟨config, hconfig, hl, hwork⟩ : ∃ config : Config,
      (parseConfig (fun _ => .ok halfDefined) noExec "" .new ()).result = .ok config ∧
      config.pairs.lookup "p" = some [("storage_a", ⟨["home"], none⟩), ("storage_b", ⟨["work"], none⟩)] ∧
      config.storage "work" = none := ⟨_, rfl, rfl, rfl⟩
  have hslot : (StorageBuilder.new (ι := Bool) (S := String) config.storage "work").slot = none := by
    simp [StorageBuilder.new, Cell.initial, hwork]
  have hstep : Cell.Step "work" (StorageBuilder.new (ι := Bool) (S := String) config.storage "work") (true, .poll) _ :=
    .undefined _ true rfl hslot
  have hrun : StorageBuilder.calls.Run (StorageBuilder.new config.storage) [("work", true, .poll)] _ :=
    Lts.Run.single ⟨_, hstep, rfl⟩
  have hnew : PairTask.new "/status" ("p", [("storage_a", ⟨["home"], none⟩), ("storage_b", ⟨["work"], none⟩)]) = .ok _ := rfl
  have hsays : (Function.update (StorageBuilder.new config.storage) "work"
      ((StorageBuilder.new (ι := Bool) (S := String) config.storage "work").go true
        (.returned (Cell.notDefined "work"))) "work").pc true = .returned (Cell.notDefined "work") := by
    rw [Function.update_self]; exact Cell.go_pc_self ..
  refine ⟨config, _, hconfig, hrun, hsays, ?_⟩
  exact (((names_agree rfl hconfig).1 "p" _ _ _ hl hnew .b).2.2 Bool String _ _ true hrun
    (fun h => by cases hsays.symm.trans h) (fun h => by cases hsays.symm.trans h)).mp hsays

end Pimsync
