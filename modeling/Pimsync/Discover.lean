import Pimsync.Conflict

/-!
# `discover`

`discover` asks the storages of one pair after the other for their collections, and shows what they answer.

- `discover_run`: it shows what every storage answers, in the order of the pairs, up to the first that fails.
-/

namespace Pimsync

variable {σ S : Type}

/-- A collection that `discover_collections` has found. -/
structure DiscoveredCollection where
  id : String
  href : String

/-- What `discover` does. -/
inductive DiscoverEvent (S : Type)
  /-- What `discover_collections` returns for the storage on one side. -/
  | discovered (pair : NamedPair S) (side : Side) (result : Except Error (List DiscoveredCollection))
  | print (text : String)

def Side.letter : Side → String
  | .a => "a"
  | .b => "b"

/-- The name of the storage on one side. -/
def NamedPair.storageName (pair : NamedPair S) : Side → String
  | .a => pair.names.1
  | .b => pair.names.2

section Discover

variable (discoverCollections : S → σ → Except Error (List DiscoveredCollection) × σ)

/-- What `NamedPair::discover` prints for a storage. -/
def shownCollections (pair : NamedPair S) (side : Side) (disco : List DiscoveredCollection) : List (DiscoverEvent S) :=
  .print s!"For pair {pair.name}, storage {side.letter}/{pair.storageName side}:" ::
    disco.map fun collection => .print s!"- id={collection.id} href={collection.href}"

/-- What `NamedPair::discover` does with one storage. -/
def discoverSide (pair : NamedPair S) (side : Side) : Prog (World σ) (DiscoverEvent S) Error Unit := do
  let disco ← Prog.outside (discoverCollections (pair.inner.on side))
  Prog.emit (.discovered pair side disco)
  let disco ← Prog.lift disco
  Prog.emitAll (shownCollections pair side disco)

/-- `NamedPair::discover`. -/
def NamedPair.discover (pair : NamedPair S) : Prog (World σ) (DiscoverEvent S) Error Unit := do
  discoverSide discoverCollections pair .a
  discoverSide discoverCollections pair .b

/-- `discover`. -/
def discover : List (NamedPair S) → Prog (World σ) (DiscoverEvent S) Error Unit
  | [] => return ()
  | pair :: pairs => do
    pair.discover discoverCollections
    discover pairs

end Discover

/-! ## What is shown -/

/-- The storages of the pairs, in the order in which they are asked. -/
def sides (pairs : List (NamedPair S)) : List (NamedPair S × Side) := pairs.flatMap fun pair => [(pair, .a), (pair, .b)]

/-- The line that comes before the collections of a storage. -/
def headline (pair letter storage : String) : String := s!"For pair {pair}, storage {letter}/{storage}:"

/-- All that is done with a storage that answers: a line for the storage, and then one for each of its collections. -/
def listing (pair : NamedPair S) (side : Side) (disco : List DiscoveredCollection) : List (DiscoverEvent S) :=
  [.discovered pair side (.ok disco),
    .print (match side with
      | .a => headline pair.name "a" pair.names.1
      | .b => headline pair.name "b" pair.names.2)] ++
    disco.map fun collection => .print s!"- id={collection.id} href={collection.href}"

theorem shownCollections_eq (pair : NamedPair S) (side : Side) (disco : List DiscoveredCollection) :
    .discovered pair side (.ok disco) :: shownCollections pair side disco = listing pair side disco := by
  cases side <;> rfl

section Run

variable {discoverCollections : S → σ → Except Error (List DiscoveredCollection) × σ}

/-- Storages that are asked one after the other, and their answers. -/
inductive Answered (discoverCollections : S → σ → Except Error (List DiscoveredCollection) × σ) :
    σ → List ((NamedPair S × Side) × List DiscoveredCollection) → σ → Prop
  | nil (s : σ) : Answered discoverCollections s [] s
  | cons {s s' t : σ} {asked : List ((NamedPair S × Side) × List DiscoveredCollection)} (pair : NamedPair S) (side : Side)
      (disco : List DiscoveredCollection) : discoverCollections (pair.inner.on side) s = (.ok disco, s') →
      Answered discoverCollections s' asked t → Answered discoverCollections s (((pair, side), disco) :: asked) t

/-- All that is shown of storages that have answered. -/
def listings (asked : List ((NamedPair S × Side) × List DiscoveredCollection)) : List (DiscoverEvent S) :=
  asked.flatMap fun answer => listing answer.1.1 answer.1.2 answer.2

/-- How `discover` ends, for the storages that it goes through: they have all answered, or one has failed. -/
inductive DiscoverTrace (discoverCollections : S → σ → Except Error (List DiscoveredCollection) × σ) (s : σ)
    (todo : List (NamedPair S × Side)) : List (DiscoverEvent S) → Except Error Unit → Prop
  | done (asked : List ((NamedPair S × Side) × List DiscoveredCollection)) (t : σ) :
      Answered discoverCollections s asked t → asked.map Prod.fst = todo →
      DiscoverTrace discoverCollections s todo (listings asked) (.ok ())
  | failed (asked : List ((NamedPair S × Side) × List DiscoveredCollection)) (t t' : σ) (pair : NamedPair S) (side : Side)
      (rest : List (NamedPair S × Side)) (e : Error) : Answered discoverCollections s asked t →
      asked.map Prod.fst ++ (pair, side) :: rest = todo →
      discoverCollections (pair.inner.on side) t = (.error e, t') →
      DiscoverTrace discoverCollections s todo (listings asked ++ [.discovered pair side (.error e)]) (.error e)

/-- One more storage that answers. -/
theorem DiscoverTrace.cons {s s' : σ} {pair : NamedPair S} {side : Side} {disco : List DiscoveredCollection}
    {todo : List (NamedPair S × Side)} {log : List (DiscoverEvent S)} {r : Except Error Unit}
    (hs : discoverCollections (pair.inner.on side) s = (.ok disco, s'))
    (h : DiscoverTrace discoverCollections s' todo log r) :
    DiscoverTrace discoverCollections s ((pair, side) :: todo) (listing pair side disco ++ log) r := by
  cases h with
  | done asked t hasked htodo =>
    exact .done (((pair, side), disco) :: asked) t (.cons pair side disco hs hasked) (by simp [htodo])
  | failed asked t t' pair' side' rest e hasked htodo he =>
    rw [← List.append_assoc]
    exact .failed (((pair, side), disco) :: asked) t t' pair' side' rest e (.cons pair side disco hs hasked)
      (by simp [← htodo]) he

/-- What is done with one storage, and then with the others. -/
theorem discoverSide_trace {p : Prog (World σ) (DiscoverEvent S) Error Unit} {todo : List (NamedPair S × Side)}
    (hp : ∀ w, DiscoverTrace discoverCollections w.outside todo (p w).log (p w).result) (pair : NamedPair S) (side : Side)
    (w : World σ) : DiscoverTrace discoverCollections w.outside ((pair, side) :: todo)
      ((discoverSide discoverCollections pair side >>= fun _ => p) w).log
      ((discoverSide discoverCollections pair side >>= fun _ => p) w).result := by
  rcases hs : discoverCollections (pair.inner.on side) w.outside with ⟨e | disco, s'⟩
  · have hrun : discoverSide discoverCollections pair side w =
        ⟨.error e, { w with outside := s' }, [.discovered pair side (.error e)]⟩ := by
      simp [discoverSide, Prog.bind_run, hs]
    rw [Prog.bind_run_error hrun]
    exact .failed [] w.outside s' pair side todo e (.nil _) rfl hs
  · have hrun : discoverSide discoverCollections pair side w =
        ⟨.ok (), { w with outside := s' }, listing pair side disco⟩ := by
      simp [discoverSide, Prog.bind_run, hs, ← shownCollections_eq]
    rw [Prog.bind_run_ok hrun]
    exact (hp { w with outside := s' }).cons hs

/-- **What `discover` shows** of each storage, one after the other, until one of them fails. -/
theorem discover_run : ∀ (pairs : List (NamedPair S)) (w : World σ),
    DiscoverTrace discoverCollections w.outside (sides pairs) (discover discoverCollections pairs w).log
      (discover discoverCollections pairs w).result
  | [], w => .done [] w.outside (.nil _) rfl
  | pair :: pairs, w => by
    rw [discover, NamedPair.discover, bind_assoc]
    exact discoverSide_trace (discoverSide_trace (discover_run pairs) pair .b) pair .a w

end Run

/-- A storage with two collections, and one that cannot be reached. -/
def oneDown : String → Unit → Except Error (List DiscoveredCollection) × Unit
  | "home", s => (.ok [⟨"work", "/work/"⟩, ⟨"family", "/family/"⟩], s)
  | _, s => (.error ["connection refused"], s)

def cardsPair : NamedPair String :=
  ⟨"cards", ⟨"home", "away", [], none, none, .twoWaySync⟩, "/status/cards", none, ("home", "away"), (0, 0)⟩

theorem discover_run_oneDown : ∃ log r, DiscoverTrace oneDown () (sides [cardsPair, cardsPair]) log r ∧
    r = .error ["connection refused"] ∧
    log = [.discovered cardsPair .a (.ok [⟨"work", "/work/"⟩, ⟨"family", "/family/"⟩]),
      .print "For pair cards, storage a/home:", .print "- id=work href=/work/", .print "- id=family href=/family/",
      .discovered cardsPair .b (.error ["connection refused"])] :=
  ⟨_, _, discover_run [cardsPair, cardsPair] ⟨[], ()⟩, rfl, rfl⟩

end Pimsync
