import Pimsync.Config.Loaded
import Pimsync.Config.NamedPairsRuns

/-!
# Status databases

Where the status databases of the pairs are, for any names.

- `resolve_statusPath`: the path of a status database, component by component;
- `status_paths_iff`: when all of them are in the status directory, each in its own file;
- `statusNames_of_slashless`: names without slashes are such;
- `status_path_escapes`: a name that leads out of the directory.
-/

namespace Pimsync

open LexPath

variable {S : Type}

/-- The status database of a name. -/
def statusPath (dir name : String) : String := pathJoin dir s!"{name}.status"

/-- The last component of it. -/
def statusFile (name : String) : List Char := filePart name.toList ++ ".status".toList

theorem slash_notMem_statusFile (name : String) : '/' ∉ statusFile name := by
  intro h
  obtain h | h := List.mem_append.mp h
  · exact slash_notMem_filePart h
  · exact absurd h (by decide)

/-- It is none of the components with a meaning of their own. -/
theorem statusFile_ne (name : String) {c : List Char} (hc : c.length < 7) : statusFile name ≠ c := by
  rintro rfl
  have hlength : 7 ≤ (statusFile name).length := by
    rw [statusFile, List.length_append]
    exact Nat.le_add_left ..
  omega

theorem statusFile_inj {name name' : String} : statusFile name = statusFile name' ↔
    filePart name.toList = filePart name'.toList :=
  List.append_left_inj _

/-- **Where a status database is**: its last component is made from what follows the last slash of the name, and the rest
of the name is resolved from the status directory. -/
theorem resolve_statusPath (dir name : String) : resolve (statusPath dir name).toList =
    ((resolve (join dir.toList (dirPart name.toList))).1,
      statusFile name :: (resolve (join dir.toList (dirPart name.toList))).2) := by
  have hname : (s!"{name}.status").toList = dirPart name.toList ++ statusFile name := by
    rw [statusFile, ← List.append_assoc, dirPart_append_filePart]
    exact String.toList_append
  have hslash := slash_notMem_statusFile name
  rw [statusPath, pathJoin_toList, hname, resolve_join_append isPrefix_dirPart fun h => hslash (List.mem_of_mem_head? h),
    components_file hslash (statusFile_ne name (by decide)) (statusFile_ne name (by decide)), Resolved.extend]
  simp only [List.foldl_cons, List.foldl_nil, push]
  rw [if_neg (show ¬ IsParent (statusFile name) from statusFile_ne name (by decide))]

/-! ## The status databases of a configuration -/

/-- The pair has its status database where its name says. -/
theorem buildPair_statusPath {collectionId : String → Except Error Unit} {itemKind : S → ItemKind} {statusDir name : String}
    {names : String × String} {a b : S × Duration} {config : Scfg} {pair : NamedPair S}
    (h : (buildPair collectionId itemKind statusDir name names a b config).result = .ok pair) :
    pair.statusPath = statusPath statusDir name := by
  obtain ⟨_, -, h⟩ := Prog.bind_result_ok.mp h
  obtain ⟨_, -, h⟩ := Prog.bind_result_ok.mp h
  obtain ⟨_, -, h⟩ := Prog.bind_result_ok.mp h
  obtain ⟨_, -, h⟩ := Prog.bind_result_ok.mp h
  obtain ⟨_, -, h⟩ := Prog.bind_result_ok.mp h
  obtain ⟨_, -, h⟩ := Prog.bind_result_ok.mp h
  obtain ⟨_, -, h⟩ := Prog.bind_result_ok.mp h
  obtain ⟨_, -, h⟩ := Prog.bind_result_ok.mp h
  cases ha : itemKind a.1 <;> cases hb : itemKind b.1 <;> rw [ha, hb] at h <;> cases h <;> rfl

theorem PairTask.new_statusDir {dir : String} {pair : String × Scfg} {task : PairTask}
    (h : PairTask.new dir pair = .ok task) :
    task.statusDir = dir := by
  obtain ⟨_, -, h⟩ := bind_eq_ok.mp h
  obtain ⟨_, -, h⟩ := bind_eq_ok.mp h
  cases h
  rfl

theorem pairOutcome_statusPath {env : PairsOutside S} {raw : String → Option Scfg} {dir : String} {p : String × Scfg}
    {pair : NamedPair S} (h : pairOutcome env raw dir p = .ok pair) : pair.statusPath = statusPath dir pair.name := by
  obtain ⟨task, a, b, hnew, -, -, hbuild⟩ := pairOutcome_built h
  rw [buildPair_statusPath hbuild, (buildPair_ok hbuild).1, PairTask.new_statusDir hnew]

/-- The names lead back to the status directory, and to a file of their own. -/
def StatusNames (dir : String) (names : List String) : Prop :=
  (∀ name ∈ names, resolve (join dir.toList (dirPart name.toList)) = resolve dir.toList) ∧
    (names.map fun name => filePart name.toList).Nodup

/-- Names without slashes are such. -/
theorem statusNames_of_slashless (dir : String) {names : List String} (hnames : names.Nodup)
    (h : ∀ name ∈ names, '/' ∉ name.toList) :
    StatusNames dir names := by
  refine ⟨fun name hname => by rw [dirPart_eq_nil (h name hname), resolve_join_nil], ?_⟩
  refine List.Nodup.map_on (fun name hname name' hname' heq => ?_) hnames
  rw [filePart_eq_self (h name hname), filePart_eq_self (h name' hname')] at heq
  exact String.toList_inj.mp heq

/-- Each pair has a file of its own, and it is directly in the status directory. -/
def OwnStatusFiles (dir : String) (pairs : List (NamedPair S)) : Prop :=
  pairs.Pairwise (fun p q => resolve p.statusPath.toList ≠ resolve q.statusPath.toList) ∧
    ∀ pair ∈ pairs, DirectlyInside dir.toList pair.statusPath.toList

theorem ownStatusFiles_iff {dir : String} {pairs : List (NamedPair S)}
    (h : ∀ pair ∈ pairs, pair.statusPath = statusPath dir pair.name) :
    OwnStatusFiles dir pairs ↔ StatusNames dir (pairs.map NamedPair.name) := by
  have hinside : (∀ pair ∈ pairs, DirectlyInside dir.toList pair.statusPath.toList) ↔
      ∀ pair ∈ pairs, resolve (join dir.toList (dirPart pair.name.toList)) = resolve dir.toList := by
    refine forall₂_congr fun pair hpair => ?_
    rw [h pair hpair, DirectlyInside, resolve_statusPath]
    constructor
    · rintro ⟨file, -, hfile⟩
      simp only [Prod.mk.injEq, List.cons.injEq] at hfile
      exact Prod.ext hfile.1 hfile.2.2
    · intro hdir
      exact ⟨statusFile pair.name, statusFile_ne _ (by decide), by rw [hdir]⟩
  rw [OwnStatusFiles, StatusNames, hinside]
  constructor
  · rintro ⟨hapart, hdir⟩
    refine ⟨by simpa using hdir, ?_⟩
    rw [List.map_map, List.Nodup, List.pairwise_map]
    refine hapart.imp_of_mem fun hp hq hne heq => hne ?_
    rw [h _ hp, h _ hq, resolve_statusPath, resolve_statusPath, hdir _ hp, hdir _ hq, statusFile_inj.mpr heq]
  · rintro ⟨hdir, hnodup⟩
    have hdir : ∀ pair ∈ pairs, resolve (join dir.toList (dirPart pair.name.toList)) = resolve dir.toList := by
      simpa using hdir
    refine ⟨?_, hdir⟩
    rw [List.map_map, List.Nodup, List.pairwise_map] at hnodup
    refine hnodup.imp_of_mem fun hp hq hne heq => hne ?_
    rw [h _ hp, h _ hq, resolve_statusPath, resolve_statusPath, hdir _ hp, hdir _ hq] at heq
    simp only [Prod.mk.injEq, List.cons.injEq] at heq
    exact statusFile_inj.mp heq.2.1

variable {env : PairsOutside S} {config : Config} {order : List (String × Scfg)} {tr : List (PairsLabel S)}
  {s : PairsState S}
  {pairs : List (NamedPair S)} {dir : String}

/-- The pairs that are returned have the names of the configuration, and their status databases where the names say. -/
theorem run_statusPath (horder : order.Perm config.pairList) (hdir : expandTilde env.home config.statusPath = .ok dir)
    (hr : (intoNamedPairs env config.statusPath order).Run (.initial S config) tr s)
    (hmain : s.main = .returned (.ok pairs)) :
    (pairs.map NamedPair.name).Perm config.pairs.keys ∧ ∀ pair ∈ pairs, pair.statusPath = statusPath dir pair.name := by
  obtain ⟨hnames, hbuilt⟩ := run_pairs horder hdir hr hmain
  refine ⟨hnames, fun pair hpair => ?_⟩
  obtain ⟨p, -, hp⟩ := hbuilt pair hpair
  exact pairOutcome_statusPath hp

/-- The order of names means nothing. -/
theorem StatusNames.perm {names names' : List String} (h : names.Perm names') :
    StatusNames dir names ↔ StatusNames dir names' :=
  and_congr (forall_congr' fun name => by rw [h.mem_iff]) (h.map _).nodup_iff

/-- **Where status databases are**: all of them are in the status directory, each in its own file, if and only if the
names of the pairs lead there. -/
theorem status_paths_iff (horder : order.Perm config.pairList) (hdir : expandTilde env.home config.statusPath = .ok dir)
    (hr : (intoNamedPairs env config.statusPath order).Run (.initial S config) tr s)
    (hmain : s.main = .returned (.ok pairs)) :
    OwnStatusFiles dir pairs ↔ StatusNames dir config.pairs.keys := by
  obtain ⟨hnames, hpaths⟩ := run_statusPath horder hdir hr hmain
  rw [ownStatusFiles_iff hpaths, StatusNames.perm hnames]

theorem p_ne_dot : "p" ≠ "./p" := by decide

/-- The databases of `p` and `q` are apart; those of `p` and `./p` are the same file. -/
theorem status_paths_iff_two : ∃ (tr tr' : List (PairsLabel String)) (s s' : PairsState String) (p q p' dot : NamedPair String),
    (intoNamedPairs namesOnly "/status" (sharingPairs "q" p_ne_q).pairList).Run (.initial String (sharingPairs "q" p_ne_q)) tr s ∧
      s.main = .returned (.ok [q, p]) ∧ OwnStatusFiles "/status" [q, p] ∧
    (intoNamedPairs namesOnly "/status" (sharingPairs "./p" p_ne_dot).pairList).Run
        (.initial String (sharingPairs "./p" p_ne_dot)) tr' s' ∧
      s'.main = .returned (.ok [dot, p']) ∧ ¬ OwnStatusFiles "/status" [dot, p'] := by
  have hdir : expandTilde namesOnly.home "/status" = .ok "/status" := rfl
  obtain ⟨tr, s, p, q, hrun, hmain⟩ := sharingPairs_run "q" p_ne_q
  obtain ⟨tr', s', p', dot, hrun', hmain'⟩ := sharingPairs_run "./p" p_ne_dot
  have hnames : StatusNames "/status" (sharingPairs "q" p_ne_q).pairs.keys := ⟨by decide, by decide⟩
  have hnames' : ¬ StatusNames "/status" (sharingPairs "./p" p_ne_dot).pairs.keys := fun h => absurd h.2 (by decide)
  exact ⟨tr, tr', s, s', p, q, p', dot, hrun, hmain, (status_paths_iff (.refl _) hdir hrun hmain).mpr hnames, hrun', hmain',
    (status_paths_iff (.refl _) hdir hrun' hmain').not.mpr hnames'⟩

/-- The text of one pair, and of its storages. -/
def pairText (name : String) : Scfg :=
  [("status_path", ⟨["/status"], none⟩), ("pair", ⟨[name], some [("storage_a", ⟨["home"], none⟩), ("storage_b", ⟨["work"], none⟩)]⟩),
    ("storage", ⟨["home"], some (vdirBlock "/cards")⟩), ("storage", ⟨["work"], some (vdirBlock "/cards")⟩)]

/-- **A status database outside of the status directory**: that of a pair called `../p`. -/
theorem status_path_escapes : ¬ ∀ (scfg : String → Except Error Scfg) (rawConfig : String) (enabledPairs : FilterNames)
    (config : Config) (order : List (String × Scfg)) (tr : List (PairsLabel String)) (s : PairsState String)
    (pairs : List (NamedPair String)) (dir : String),
    (parseConfig scfg noExec rawConfig enabledPairs ()).result = .ok config →
      order.Perm config.pairList → expandTilde namesOnly.home config.statusPath = .ok dir →
      (intoNamedPairs namesOnly config.statusPath order).Run (.initial String config) tr s →
      s.main = .returned (.ok pairs) → OwnStatusFiles dir pairs := by
  intro h
  let config := onePair "../p" (vdirBlock "/cards")
  obtain ⟨tr, s, pair, hrun, hmain⟩ := onePair_run "../p" (vdirBlock "/cards")
  have hdir : expandTilde .unknown "/status" = .ok "/status" := rfl
  have hrun : (intoNamedPairs namesOnly config.statusPath config.pairList).Run (.initial String config) tr s := hrun
  have hown := h (fun _ => .ok (pairText "../p")) "" .new config _ tr s [pair] "/status" rfl (.refl _) hdir hrun hmain
  obtain ⟨hnames, hpaths⟩ := run_statusPath (.refl _) hdir hrun hmain
  have hleads := ((ownStatusFiles_iff hpaths).mp hown).1 "../p" (hnames.mem_iff.mpr (List.mem_singleton_self _))
  exact absurd hleads (by decide)

end Pimsync
