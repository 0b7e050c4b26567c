import Mathlib.Data.List.Perm.Basic
import Pimsync.Config.Alike
import Pimsync.Config.Loaded
import Pimsync.Config.NamedPairsRuns
import Pimsync.Config.ReadOnly

/-!
# Configurations that say the same

- `alike_parseConfig`: `parse_config` runs the same commands for texts that say the same, and reads configurations that say
  the same;
- `pairOutcomes_same`: each pair comes to the same;
- `config_by_name`: so the same pairs come of both texts, in whatever order the tasks run.
-/

namespace Pimsync

variable {d d' : Directive} {c c' : Scfg} {name : String}

/-! ## Configurations -/

/-- The blocks say the same, and have the same place in the text. -/
structure Loaded.Same (a b : Loaded) : Prop where
  block : a.block = b.block
  config : a.config.Same b.config

/-- The same pairs, in the same order, whose blocks say the same. -/
def SamePairBlocks (a b : AList fun _ : String => Scfg) : Prop :=
  List.Forall₂ (fun p q => p.1 = q.1 ∧ Scfg.Same p.2 q.2) a.entries b.entries

/-- The same storages, whose blocks say the same. -/
def SameStorageBlocks (a b : AList fun _ : String => Loaded) : Prop :=
  ∀ name, Option.Rel Loaded.Same (a.lookup name) (b.lookup name)

structure Config.Same (a b : Config) : Prop where
  statusPath : a.statusPath = b.statusPath
  pairs : SamePairBlocks a.pairs b.pairs
  storages : SameStorageBlocks a.storages b.storages

structure PairsRead.Same (a b : PairsRead) : Prop where
  enabledPairs : a.enabledPairs = b.enabledPairs
  pairs : SamePairBlocks a.pairs b.pairs
  enabledStorages : a.enabledStorages = b.enabledStorages

/-- Nothing has been gathered yet. -/
theorem PairsRead.Same.initial (filter : FilterNames) : PairsRead.Same ⟨filter, ∅, []⟩ ⟨filter, ∅, []⟩ :=
  ⟨rfl, .nil, rfl⟩

theorem SamePairBlocks.mem_iff {a b : AList fun _ : String => Scfg} (h : SamePairBlocks a b) (name : String) :
    name ∈ a ↔ name ∈ b := by
  have hkeys : a.keys = b.keys := by
    have hmap : List.Forall₂ Eq (a.entries.map Sigma.fst) (b.entries.map Sigma.fst) :=
      List.forall₂_map_left_iff.mpr (List.forall₂_map_right_iff.mpr (h.imp fun _ _ hp => hp.1))
    rwa [List.forall₂_eq_eq_eq] at hmap
  rw [AList.mem_keys, AList.mem_keys, hkeys]

theorem SamePairBlocks.insert {a b : AList fun _ : String => Scfg} (h : SamePairBlocks a b) (hname : name ∉ a)
    (hc : c.Same c') : SamePairBlocks (a.insert name c) (b.insert name c') := by
  rw [SamePairBlocks, AList.entries_insert_of_notMem hname, AList.entries_insert_of_notMem ((h.mem_iff name).not.mp hname)]
  exact .cons ⟨rfl, hc⟩ h

theorem SameStorageBlocks.insert {a b : AList fun _ : String => Loaded} (h : SameStorageBlocks a b) (name : String)
    {l l' : Loaded} (hl : l.Same l') : SameStorageBlocks (a.insert name l) (b.insert name l') := by
  intro other
  by_cases hn : other = name
  · rw [hn, AList.lookup_insert, AList.lookup_insert]
    exact .some hl
  · rw [AList.lookup_insert_ne hn, AList.lookup_insert_ne hn]
    exact h other

theorem pairStorage_same (h : c.Same c') {field : String} (hfield : field ∈ directiveNames) :
    pairStorage c field = pairStorage c' field := by
  have hnamed := h field hfield
  simp only [pairStorage, Scfg.get]
  generalize c.named field = ds, c'.named field = ds' at hnamed
  cases hnamed with
  | nil => rfl
  | cons hd =>
    exact congrArg (fun params => orContext s!"{field} must include a parameter" params.head?) hd.params

theorem orContext_same {α β : Type} {V : α → β → Prop} (msg : String) {o : Option α} {o' : Option β}
    (h : Option.Rel V o o') : Prog.SameEnd V (orContext msg o) (orContext msg o') := by
  cases h with
  | none => exact .error _
  | some h => exact .ok h

/-- The pair loop of `parse_config` gathers the same. -/
theorem parsePairs_same {ds ds' : List Directive} {acc acc' : PairsRead} (hds : List.Forall₂ Directive.Same ds ds')
    (h : acc.Same acc') : Prog.SameEnd PairsRead.Same (parsePairs ds acc) (parsePairs ds' acc') := by
  induction hds generalizing acc acc' with
  | nil => exact .ok h
  | cons hd hds ih =>
    unfold parsePairs
    rw [hd.takeSingleParam, h.enabledPairs]
    refine (Prog.SameEnd.refl _).bind fun name _ hname => ?_
    subst hname
    by_cases hmem : name ∈ acc.pairs
    · rw [if_pos hmem, if_pos ((h.pairs.mem_iff name).mp hmem)]
      exact .error _
    · rw [if_neg hmem, if_neg ((h.pairs.mem_iff name).not.mp hmem)]
      rcases hw : acc'.enabledPairs.wants name with ⟨_ | _, enabledPairs⟩
      · exact ih ⟨rfl, h.pairs, h.enabledStorages⟩
      · refine (orContext_same _ hd.child).bind fun c c' hc => ?_
        rw [pairStorage_same hc (by decide), pairStorage_same hc (by decide), h.enabledStorages]
        refine (Prog.SameEnd.refl _).bind fun nameA _ hA => ?_
        refine (Prog.SameEnd.refl _).bind fun nameB _ hB => ?_
        subst hA hB
        exact ih ⟨rfl, h.pairs.insert hmem hc, rfl⟩

section ParseConfig

variable {σ : Type} (exec : Exec σ)

/-- The storage loop of `parse_config` runs the same commands, and reads the same. -/
theorem alike_parseStorageBlocks (enabledStorages : List String) {ds ds' : List Directive} (block : ℕ)
    {storages storages' : AList fun _ : String => Loaded} (hds : List.Forall₂ Directive.Same ds ds')
    (h : SameStorageBlocks storages storages') : Alike SameStorageBlocks
      (parseStorageBlocks exec enabledStorages block ds storages)
      (parseStorageBlocks exec enabledStorages block ds' storages') := by
  induction hds generalizing block storages storages' with
  | nil => exact Prog.matches_pure h
  | cons hd hds ih =>
    unfold parseStorageBlocks
    rw [hd.takeSingleParam]
    refine (Prog.matches_lift (.refl _)).bindEq fun name => ?_
    split
    · exact ih (block + 1) h
    · exact (Prog.matches_lift (orContext_same _ hd.child)).bind fun c c' hc =>
        ((alike_resolveStorageCmds exec hc).mapError _).bind fun r r' hr => ih (block + 1) (h.insert name ⟨rfl, hr⟩)

/-- `parse_config` runs the same commands for two texts that say the same, and reads the same. -/
theorem alike_parseConfig (scfg : String → Except Error Scfg) {raw raw' : String} (filter : FilterNames)
    (h : Prog.SameEnd Scfg.Same (scfg raw) (scfg raw')) :
    Alike Config.Same (parseConfig scfg exec raw filter) (parseConfig scfg exec raw' filter) := by
  refine (Prog.matches_lift (h.mapError _)).bind fun c c' hc =>
    ((alike_resolveCmdInplace exec hc (by decide)).mapError _).bind fun c c' hc =>
      (Prog.matches_lift (hc.takeSingleParamFromDirective (by decide))).bind fun x y hxy => ?_
  obtain ⟨statusPath, c⟩ := x
  obtain ⟨statusPath', c'⟩ := y
  obtain ⟨rfl, hc⟩ := hxy
  refine (Prog.matches_lift (parsePairs_same (hc "pair" (by decide)) (.initial filter))).bind fun read read' hread => ?_
  rw [hread.enabledPairs, hread.enabledStorages]
  exact (Prog.matches_lift (.refl _)).bindEq fun _ =>
    (alike_parseStorageBlocks exec _ 0 (hc "storage" (by decide)) fun _ => .none).bind fun _ _ hstorages =>
      Prog.matches_pure ⟨rfl, hread.pairs, hstorages⟩

end ParseConfig

/-! ## The pairs that come of them -/

theorem Config.Same.storage {a b : Config} (h : a.Same b) (name : String) :
    Option.Rel Scfg.Same (a.storage name) (b.storage name) := by
  have hlookup := h.storages name
  simp only [Config.storage]
  generalize a.storages.lookup name = o, b.storages.lookup name = o' at hlookup
  cases hlookup with
  | none => exact .none
  | some hl => exact .some hl.config

theorem Config.Same.pairList {a b : Config} (h : a.Same b) :
    List.Forall₂ (fun p q => p.1 = q.1 ∧ Scfg.Same p.2 q.2) a.pairList b.pairList :=
  List.forall₂_map_left_iff.mpr (List.forall₂_map_right_iff.mpr h.pairs)

/-- What the tasks of a pair have taken over says the same. -/
structure PairTask.Same (a b : PairTask) : Prop where
  name : a.name = b.name
  nameA : a.nameA = b.nameA
  nameB : a.nameB = b.nameB
  config : a.config.Same b.config
  statusDir : a.statusDir = b.statusDir

theorem PairTask.new_same (dir name : String) (h : c.Same c') :
    Prog.SameEnd PairTask.Same (PairTask.new dir (name, c)) (PairTask.new dir (name, c')) := by
  refine (h.takeSingleParamFromDirective (by decide)).bind fun a a' ha =>
    (ha.2.takeSingleParamFromDirective (by decide)).bind fun b b' hb => ?_
  exact .ok ⟨rfl, ha.1, hb.1, hb.2, rfl⟩

section Pairs

variable {S : Type} {outside : Outside S} {env : PairsOutside (DynStorage S)} {config config' : Config}

theorem PairTask.build_same {task task' : PairTask} (h : task.Same task') (a b : DynStorage S × Duration) :
    task.build env a b = task'.build env a b := by
  rw [PairTask.build, PairTask.build, h.name, h.nameA, h.nameB, h.statusDir]
  exact Prog.sameEnd_eq.mp (Reader.byName_buildPair _ _ _ _ _ a b _ _ h.config).1

variable (hinits : env.Inits outside)

include hinits

theorem storageOutcome_same (h : config.Same config') (name : String) :
    storageOutcome env config.storage name = storageOutcome env config'.storage name := by
  have hstorage := h.storage name
  unfold storageOutcome
  generalize config.storage name = o, config'.storage name = o' at hstorage
  cases hstorage with
  | none => rfl
  | some hc => simp only [hinits _ name, initStorageOutcome_same outside hc]

/-- What becomes of a pair depends on what its block and those of its storages say. -/
theorem pairOutcome_same (h : config.Same config') (dir name : String) (hc : c.Same c') :
    pairOutcome env config.storage dir (name, c) = pairOutcome env config'.storage dir (name, c') := by
  refine Prog.sameEnd_eq.mp (((PairTask.new_same dir name hc).mapError _).bind fun task task' htask => ?_)
  unfold taskOutcome
  rw [htask.nameA, htask.nameB, storageOutcome_same hinits h, storageOutcome_same hinits h]
  simp only [PairTask.build_same htask]
  exact .refl _

theorem pairOutcomes_same (h : config.Same config') (dir : String) :
    config.pairList.map (pairOutcome env config.storage dir) =
      config'.pairList.map (pairOutcome env config'.storage dir) := by
  have hmap : List.Forall₂ Eq (config.pairList.map (pairOutcome env config.storage dir))
      (config'.pairList.map (pairOutcome env config'.storage dir)) :=
    List.forall₂_map_left_iff.mpr <| List.forall₂_map_right_iff.mpr <| h.pairList.imp fun ⟨name, c⟩ ⟨name', c'⟩ hp => by
      obtain ⟨rfl, hc⟩ := hp
      exact pairOutcome_same hinits h dir name hc
  rwa [List.forall₂_eq_eq_eq] at hmap

end Pairs

section Returned

variable {S : Type} {env : PairsOutside S} {config : Config} {order : List (String × Scfg)} {tr : List (PairsLabel S)}
  {s : PairsState S} {r : Except Error (List (NamedPair S))}

/-- `into_named_pairs` returned what the pairs come to: all of them, or an error if one of them fails. -/
def ReturnsOf (outcomes : List (Except Fault (NamedPair S))) : Except Error (List (NamedPair S)) → Prop
  | .ok pairs => (pairs.map .ok).Perm outcomes
  | .error _ => ∃ fault, .error fault ∈ outcomes

theorem run_returnsOf {dir : String} (horder : order.Perm config.pairList)
    (hdir : expandTilde env.home config.statusPath = .ok dir)
    (hr : (intoNamedPairs env config.statusPath order).Run (.initial S config) tr s) (hmain : s.main = .returned r) :
    ReturnsOf (config.pairList.map (pairOutcome env config.storage dir)) r := by
  have hperm := horder.map (pairOutcome env config.storage dir)
  obtain rfl | h := run_pairsInv ((keys_of_perm horder).nodup_iff.mpr config.pairs.nodupKeys) hdir hr
  · cases hmain
  · cases r with
    | ok pairs => exact (h.returned pairs hmain).trans hperm
    | error e =>
      obtain ⟨pair, hpair, fault, hfault⟩ := h.failed e hmain
      exact ⟨fault, hperm.mem_iff.mp (hfault ▸ List.mem_map_of_mem hpair)⟩

theorem run_fault_returned {fault : Fault} (hf : expandTilde env.home config.statusPath = .error fault)
    (hr : (intoNamedPairs env config.statusPath order).Run (.initial S config) tr s) (hmain : s.main = .returned r) :
    ∃ e, r = .error e := by
  obtain rfl | rfl := run_fault hf hr
  · cases hmain
  · cases fault with
    | err e => exact ⟨_, (PairsMain.returned.inj hmain).symm⟩
    | panic => cases hmain

/-- Both are errors, or both are the same pairs, perhaps in another order. -/
def SameReturns : Except Error (List (NamedPair S)) → Except Error (List (NamedPair S)) → Prop
  | .ok pairs, .ok pairs' => pairs.Perm pairs'
  | .error _, .error _ => True
  | _, _ => False

theorem ReturnsOf.same {outcomes : List (Except Fault (NamedPair S))} {r r' : Except Error (List (NamedPair S))}
    (h : ReturnsOf outcomes r) (h' : ReturnsOf outcomes r') : SameReturns r r' := by
  -- pairs that all came out, and a fault among them
  have hnot : ∀ {pairs : List (NamedPair S)} {fault : Fault}, (pairs.map .ok).Perm outcomes →
      .error fault ∉ outcomes := by
    intro pairs fault hperm hmem
    have := hperm.mem_iff.mpr hmem
    simp at this
  cases r with
  | ok pairs =>
    cases r' with
    | ok pairs' =>
      exact (List.map_perm_map_iff fun _ _ h => Except.ok.inj h).mp (List.Perm.trans h h'.symm)
    | error =>
      obtain ⟨fault, hfault⟩ := h'
      exact hnot h hfault
  | error =>
    cases r' with
    | ok pairs' =>
      obtain ⟨fault, hfault⟩ := h
      exact hnot h' hfault
    | error => trivial

end Returned

/-- **Configurations that say the same** do the same: `parse_config` runs the same commands, and if it fails it is with the
same error; and in whatever order the tasks of `into_named_pairs` take their steps, the same pairs come of both. -/
theorem config_by_name {σ S : Type} {scfg : String → Except Error Scfg} {exec : Exec σ} {filter : FilterNames}
    {outside : Outside S} {env : PairsOutside (DynStorage S)} {raw raw' : String} (hinits : env.Inits outside)
    (h : Prog.SameEnd Scfg.Same (scfg raw) (scfg raw')) (w : σ) :
    (parseConfig scfg exec raw filter w).world = (parseConfig scfg exec raw' filter w).world ∧
      (parseConfig scfg exec raw filter w).log = (parseConfig scfg exec raw' filter w).log ∧
      (∀ e, (parseConfig scfg exec raw filter w).result = .error e ↔
        (parseConfig scfg exec raw' filter w).result = .error e) ∧
      ∀ config config', (parseConfig scfg exec raw filter w).result = .ok config →
        (parseConfig scfg exec raw' filter w).result = .ok config' →
        ∀ (order order' : List (String × Scfg)) (tr tr' : List (PairsLabel (DynStorage S)))
          (s s' : PairsState (DynStorage S)) (r r' : Except Error (List (NamedPair (DynStorage S)))),
          order.Perm config.pairList → order'.Perm config'.pairList →
          (intoNamedPairs env config.statusPath order).Run (.initial _ config) tr s → s.main = .returned r →
          (intoNamedPairs env config'.statusPath order').Run (.initial _ config') tr' s' → s'.main = .returned r' →
          SameReturns r r' := by
  obtain ⟨hend, hworld, hlog⟩ := alike_parseConfig exec scfg filter h w w rfl
  refine ⟨hworld, hlog, fun e => ?_, ?_⟩
  · generalize (parseConfig scfg exec raw filter w).result = x, (parseConfig scfg exec raw' filter w).result = x' at hend
    cases hend with
    | ok => simp
    | error => rfl
  · intro config config' hconfig hconfig' order order' tr tr' s s' r r' horder horder' hr hmain hr' hmain'
    rw [hconfig, hconfig'] at hend
    have hsame : config.Same config' := by
      cases hend with
      | ok h => exact h
    cases hdir : expandTilde env.home config.statusPath with
    | ok dir =>
      have hreturns := run_returnsOf horder hdir hr hmain
      rw [pairOutcomes_same hinits hsame] at hreturns
      exact hreturns.same (run_returnsOf horder' (hsame.statusPath ▸ hdir) hr' hmain')
    | error fault =>
      obtain ⟨e, rfl⟩ := run_fault_returned hdir hr hmain
      obtain ⟨e', rfl⟩ := run_fault_returned (hsame.statusPath ▸ hdir) hr' hmain'
      trivial

/-- A text with a directive that nobody asks for, and another without it that names the storages of its pair the other way
round. -/
def saidTwice (text : String) : Except Error Scfg :=
  let storageA : String × Directive := ("storage_a", ⟨["home"], none⟩)
  let storageB : String × Directive := ("storage_b", ⟨["work"], none⟩)
  .ok [("status_path", ⟨["/status"], none⟩),
    ("pair", ⟨["p"], some (if text = "" then [storageA, storageB] else [storageB, storageA])⟩),
    ("storage", ⟨["home"], some (if text = "" then ("colour", ⟨["blue"], none⟩) :: vdirBlock "/cards" else vdirBlock "/cards")⟩),
    ("storage", ⟨["work"], some (vdirBlock "/cards")⟩)]

/-- Every storage is an address book. -/
def addressBooks : PairsOutside (DynStorage String) :=
  ⟨.dir "/home", fun _ => .ok (), fun _ => .addressBook, fun config _ => initStorageOutcome ownPath config⟩

/-- What is read of such a text, with this block of the pair and this one of its first storage. -/
def saidConfig (pair home : Scfg) : Config :=
  ⟨"/status", (∅ : AList _).insert "p" pair,
    ((∅ : AList _).insert "home" ⟨0, home⟩).insert "work" ⟨1, vdirBlock "/cards"⟩⟩

/-- A run that returns the pair. -/
theorem saidConfig_run (pair home : Scfg)
    (hnew : PairTask.new "/status" ("p", pair) = .ok ⟨"p", "home", "work", [], "/status"⟩)
    (hinit : initStorageOutcome ownPath home = .ok (.plain "/cards") 300) :
    ∃ (tr : List (PairsLabel (DynStorage String))) (s : PairsState (DynStorage String)) (named : NamedPair (DynStorage String)),
      (intoNamedPairs addressBooks "/status" (saidConfig pair home).pairList).Run (.initial _ (saidConfig pair home)) tr s ∧
        s.main = .returned (.ok [named]) := by
  let task : PairTask := ⟨"p", "home", "work", [], "/status"⟩
  let made : DynStorage String × Duration := (.plain "/cards", 300)
  obtain ⟨named, hnamed⟩ : ∃ named, task.build addressBooks made made = .ok named := ⟨_, rfl⟩
  have hdir : expandTilde addressBooks.home (saidConfig pair home).statusPath = .ok "/status" :=
    show expandTilde (.dir "/home") "/status" = .ok "/status" from rfl
  have hhome : (saidConfig pair home).storage task.nameA = some home := rfl
  have hwork : (saidConfig pair home).storage task.nameB = some (vdirBlock "/cards") := rfl
  obtain ⟨tr, s, hr, hmain⟩ := pair_run (a := made) (b := made) rfl hdir hnew (show "home" ≠ "work" by decide) hhome hwork
    hinit rfl hnamed
  exact ⟨tr, s, named, hr, hmain⟩

theorem config_by_name_said_twice : ∃ (config config' : Config) (tr tr' : List (PairsLabel (DynStorage String)))
    (s s' : PairsState (DynStorage String)) (named named' : NamedPair (DynStorage String)),
    (parseConfig saidTwice noExec "" .new ()).result = .ok config ∧
      (parseConfig saidTwice noExec "again" .new ()).result = .ok config' ∧
      (intoNamedPairs addressBooks config.statusPath config.pairList).Run (.initial _ config) tr s ∧
      s.main = .returned (.ok [named]) ∧
      (intoNamedPairs addressBooks config'.statusPath config'.pairList).Run (.initial _ config') tr' s' ∧
      s'.main = .returned (.ok [named']) ∧ [named].Perm [named'] := by
  let storageA : String × Directive := ("storage_a", ⟨["home"], none⟩)
  let storageB : String × Directive := ("storage_b", ⟨["work"], none⟩)
  have hsame : Prog.SameEnd Scfg.Same (saidTwice "") (saidTwice "again") :=
    .ok <| .cons _ (.refl _) <| .cons _ (.block _ _ _ (Scfg.same_swap (by decide) _ _ _)) <|
      .cons _ (.block _ _ _ (Scfg.same_ignored (by decide) _ _)) <| .refl _
  have hinits : addressBooks.Inits ownPath := fun _ _ => rfl
  let config : Config := saidConfig [storageA, storageB] (("colour", ⟨["blue"], none⟩) :: vdirBlock "/cards")
  let config' : Config := saidConfig [storageB, storageA] (vdirBlock "/cards")
  have hconfig : (parseConfig saidTwice noExec "" .new ()).result = .ok config := rfl
  have hconfig' : (parseConfig saidTwice noExec "again" .new ()).result = .ok config' := rfl
  obtain ⟨tr, s, named, hr, hmain⟩ := saidConfig_run [storageA, storageB] (("colour", ⟨["blue"], none⟩) :: vdirBlock "/cards")
    rfl rfl
  obtain ⟨tr', s', named', hr', hmain'⟩ := saidConfig_run [storageB, storageA] (vdirBlock "/cards") rfl rfl
  have hperm : SameReturns (.ok [named]) (.ok [named']) := (config_by_name hinits hsame ()).2.2.2 config config' hconfig
    hconfig' _ _ tr tr' s s' _ _ (.refl _) (.refl _) hr hmain hr' hmain'
  exact ⟨config, config', tr, tr', s, s', named, named', hconfig, hconfig', hr, hmain, hr', hmain', hperm⟩

end Pimsync
