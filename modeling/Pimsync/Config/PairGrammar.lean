import Pimsync.Config.ByName
import Pimsync.Config.StorageGrammar

/-!
# The grammar of a pair

`Scfg.SaysPair` is what a pair's block says: its storages, its collections, and its policies (`PairSettings`).

- `follows_buildPair`: the parsers of a pair read what the grammar says;
- `pairOutcome_iff`: a pair is made of what its block says, and of storages of one kind.
-/

namespace Pimsync

/-! ## Collections -/

/-- What a directive `collections` says. -/
def Directive.SaysCollections (d : Directive) : Collections → Prop
  | .all => " ".intercalate d.params = "all"
  | .fromA => " ".intercalate d.params = "from a"
  | .fromB => " ".intercalate d.params = "from b"
  | .named _ | .mapped _ _ _ => False

section Collection

variable (collectionId : String → Except Error Unit)

/-- What the block of a `collection` says of one side: an id or a href. -/
def Scfg.SaysReference (block : Scfg) (side : Side) : CollectionDescription → Prop
  | .id id => block.Says (idField side) (some id) ∧ block.named (hrefField side) = [] ∧ collectionId id = .ok ()
  | .href href => block.named (idField side) = [] ∧ block.Says (hrefField side) (some href)

/-- What a directive `collection` says. -/
def Directive.SaysCollection (d : Directive) : Collections → Prop
  | .named id => d.params = [id] ∧ collectionId id = .ok ()
  | .mapped name a b => d.params = [] ∧ ∃ block : Scfg, d.child = some block ∧ block.Says "alias" (some name) ∧
      block.SaysReference collectionId .a a ∧ block.SaysReference collectionId .b b
  | .all | .fromA | .fromB => False

/-- What a pair's block says of its collections: those of `collections` come first. -/
def Scfg.SaysCollections (c : Scfg) (collections : List Collections) : Prop :=
  ∃ plural singular, List.Forall₂ Directive.SaysCollections (c.named "collections") plural ∧
    List.Forall₂ (Directive.SaysCollection collectionId) (c.named "collection") singular ∧ collections = plural ++ singular

end Collection

/-! ## Policies -/

/-- What is said once, or not at all. -/
def Scfg.SaysMaybe {α : Type} (c : Scfg) (name : String) (P : Directive → α → Prop) : Option α → Prop
  | none => c.named name = []
  | some a => ∃ d, c.named name = [d] ∧ P d a

def OnEmpty.word : OnEmpty → String
  | .skip => "skip"
  | .sync => "sync"

def OnDelete.word : OnDelete → String
  | .skip => "skip"
  | .sync => "sync"

/-- What follows `keep a` or `keep b` is not looked at. -/
def Directive.SaysResolution (d : Directive) : ConflictResolution → Prop
  | .keepA => ∃ rest, d.params = "keep" :: "a" :: rest
  | .keepB => ∃ rest, d.params = "keep" :: "b" :: rest
  | .cmd command => d.params = "cmd" :: command.command :: command.args

def Scfg.SaysMode (c : Scfg) : Mode → Prop
  | .oneWaySync => ∃ child, c.named "one_way" = [⟨[], child⟩]
  | .twoWaySync => c.named "one_way" = []

/-! ## Pairs -/

/-- The settings of a pair. -/
structure PairSettings where
  nameA : String
  nameB : String
  collections : List Collections
  onEmpty : Option OnEmpty
  onDelete : Option OnDelete
  conflictResolution : Option ConflictResolution
  mode : Mode

/-- What a pair's block says besides the names of its storages. -/
structure Scfg.SaysPolicies (collectionId : String → Except Error Unit) (c : Scfg) (p : PairSettings) : Prop where
  collections : c.SaysCollections collectionId p.collections
  onEmpty : c.SaysMaybe "on_empty" (fun d onEmpty => d.params = [OnEmpty.word onEmpty]) p.onEmpty
  onDelete : c.SaysMaybe "on_delete" (fun d onDelete => d.params = [OnDelete.word onDelete]) p.onDelete
  conflictResolution : c.SaysMaybe "conflict_resolution" Directive.SaysResolution p.conflictResolution
  mode : c.SaysMode p.mode

/-- **What a pair's block says.** -/
structure Scfg.SaysPair (collectionId : String → Except Error Unit) (c : Scfg) (p : PairSettings) : Prop extends
    c.SaysPolicies collectionId p where
  nameA : c.Says "storage_a" (some p.nameA)
  nameB : c.Says "storage_b" (some p.nameB)

/-- The pair with these settings. -/
def PairSettings.pair {S : Type} (p : PairSettings) (dir name : String) (a b : S × Duration) : NamedPair S :=
  ⟨name, initPair p.collections (a.1, b.1) p.onEmpty p.onDelete p.mode, pathJoin dir s!"{name}.status",
    p.conflictResolution, (p.nameA, p.nameB), (a.2, b.2)⟩

/-! ## The parsers of directives -/

section Directives

theorem parseCollectionsDirective_ok {d : Directive} {collections : Collections} :
    parseCollectionsDirective (" ".intercalate d.params) = .ok collections ↔ d.SaysCollections collections := by
  unfold parseCollectionsDirective Directive.SaysCollections bail
  split_ifs with hall ha hb <;> cases collections <;> simp_all

theorem parseOnEmpty_ok {d : Directive} {onEmpty : OnEmpty} : parseOnEmpty d = .ok onEmpty ↔ d.params = [onEmpty.word] := by
  simp only [parseOnEmpty, bind_eq_ok, context_eq_ok, takeSingleParam_eq_ok]
  constructor
  · rintro ⟨v, hv, h⟩
    split at h <;> cases h <;> exact hv
  · intro h
    refine ⟨_, h, ?_⟩
    cases onEmpty <;> rfl

theorem parseOnDelete_ok {d : Directive} {onDelete : OnDelete} :
    parseOnDelete d = .ok onDelete ↔ d.params = [onDelete.word] := by
  simp only [parseOnDelete, bind_eq_ok, context_eq_ok, takeSingleParam_eq_ok]
  constructor
  · rintro ⟨v, hv, h⟩
    split at h <;> cases h <;> exact hv
  · intro h
    refine ⟨_, h, ?_⟩
    cases onDelete <;> rfl

theorem parseConflictResolution_ok {d : Directive} {resolution : ConflictResolution} :
    parseConflictResolution d = .ok resolution ↔ d.SaysResolution resolution := by
  obtain ⟨params, child⟩ := d
  unfold parseConflictResolution
  dsimp only
  split
  · next args =>
    cases args with
    | nil => cases resolution <;> simp [RawCommand.fromArgs, orContext, Except.map, Directive.SaysResolution]
    | cons command args =>
      cases resolution with
      | keepA | keepB => simp [RawCommand.fromArgs, orContext, Except.map, Directive.SaysResolution]
      | cmd c =>
        obtain ⟨command', args'⟩ := c
        simp [RawCommand.fromArgs, orContext, Except.map, Directive.SaysResolution]
  · cases resolution <;> simp [Directive.SaysResolution]
  · cases resolution <;> simp [Directive.SaysResolution]
  · next c rest ha hb => cases resolution <;> simp_all [Directive.SaysResolution, bail]
  · cases resolution <;> simp [Directive.SaysResolution, bail]
  · next param rest hcmd hkeep _ => cases resolution <;> simp_all [Directive.SaysResolution, bail]
  · cases resolution <;> simp [Directive.SaysResolution, bail]

end Directives

namespace Reader

section Collection

variable (collectionId : String → Except Error Unit)

theorem flattenSingleVec_eq_some {l : List String} {v : String} : flattenSingleVec l = some v ↔ l = [v] := by
  unfold flattenSingleVec
  split <;> simp_all

/-- What is made of the two directives of a side. -/
theorem parseIndividualCollection_ok {c : Scfg} {side : Side} {reference : CollectionDescription} :
    (∃ id href, c.named (idField side) = Option.toList id ∧ c.named (hrefField side) = Option.toList href ∧
      parseIndividualCollection collectionId id href = .ok reference) ↔ c.SaysReference collectionId side reference := by
  constructor
  · rintro ⟨id, href, hid, hhref, h⟩
    cases id with
    | none =>
      cases href with
      | none => cases h
      | some href =>
        obtain ⟨v, hv, h⟩ := bind_eq_ok.mp h
        cases h
        obtain ⟨params, child⟩ := href
        obtain rfl : params = [v] := flattenSingleVec_eq_some.mp (orContext_eq_ok.mp hv)
        exact ⟨hid, child, hhref⟩
    | some id =>
      cases href with
      | none =>
        obtain ⟨v, hv, h⟩ := bind_eq_ok.mp h
        obtain ⟨⟨⟩, hvalid, h⟩ := bind_eq_ok.mp h
        cases h
        obtain ⟨params, child⟩ := id
        obtain rfl : params = [v] := flattenSingleVec_eq_some.mp (orContext_eq_ok.mp hv)
        exact ⟨⟨child, hid⟩, hhref, context_eq_ok.mp hvalid⟩
      | some href => cases h
  · intro h
    cases reference with
    | id v =>
      obtain ⟨⟨child, hid⟩, hhref, hvalid⟩ := h
      exact ⟨some ⟨[v], child⟩, none, hid, hhref, bind_eq_ok.mpr ⟨v, rfl, bind_eq_ok.mpr
        ⟨(), context_eq_ok.mpr hvalid, rfl⟩⟩⟩
    | href v =>
      obtain ⟨hid, child, hhref⟩ := h
      exact ⟨none, some ⟨[v], child⟩, hid, hhref, rfl⟩

theorem follows_parseCollectionBlock : (parseCollectionBlock collectionId).Follows
    ["alias", "id_a", "href_a", "id_b", "href_b"] fun c collections => ∃ name a b, collections = .mapped name a b ∧
      c.Says "alias" (some name) ∧ c.SaysReference collectionId .a a ∧ c.SaysReference collectionId .b b := by
  have hmapped : ∀ name idA hrefA idB hrefB, (do
      let a ← lift (parseIndividualCollection collectionId idA hrefA)
      let b ← lift (parseIndividualCollection collectionId idB hrefB)
      return .mapped name a b : Reader Collections).Follows [] fun _ collections =>
        ∃ a, parseIndividualCollection collectionId idA hrefA = .ok a ∧
          ∃ b, parseIndividualCollection collectionId idB hrefB = .ok b ∧ collections = .mapped name a b :=
    fun name idA hrefA idB hrefB => (follows_lift _).bindSilent fun a => (follows_lift _).bindSilent fun b => follows_pure _
  refine ((follows_takeParamFrom "alias").bind _ (by decide) fun name =>
    (follows_takeDirective "id_a").bind _ (by decide) fun idA =>
    (follows_takeDirective "href_a").bind _ (by decide) fun hrefA =>
    (follows_takeDirective "id_b").bind _ (by decide) fun idB =>
    (follows_takeDirective "href_b").bindSilent fun hrefB =>
    hmapped name idA hrefA idB hrefB).of_iff fun c collections => ?_
  constructor
  · rintro ⟨name, hname, idA, hidA, hrefA, hhrefA, idB, hidB, hrefB, hhrefB, a, ha, b, hb, rfl⟩
    exact ⟨name, a, b, rfl, hname, (parseIndividualCollection_ok collectionId).mp ⟨idA, hrefA, hidA, hhrefA, ha⟩,
      (parseIndividualCollection_ok collectionId).mp ⟨idB, hrefB, hidB, hhrefB, hb⟩⟩
  · rintro ⟨name, a, b, rfl, hname, ha, hb⟩
    obtain ⟨idA, hrefA, hidA, hhrefA, ha⟩ := (parseIndividualCollection_ok collectionId).mpr ha
    obtain ⟨idB, hrefB, hidB, hhrefB, hb⟩ := (parseIndividualCollection_ok collectionId).mpr hb
    exact ⟨name, hname, idA, hidA, hrefA, hhrefA, idB, hidB, hrefB, hhrefB, a, ha, b, hb, rfl⟩

theorem follows_parseCollectionDirective (d : Directive) : (parseCollectionDirective collectionId d).Follows [] fun _ c =>
    d.SaysCollection collectionId c := by
  obtain ⟨params, child⟩ := d
  match params with
  | [] =>
    refine ((follows_lift _).bindSilent fun block =>
      follows_liftFault (parseCollectionBlock collectionId block).result).of_iff fun _ collections => ?_
    simp only [orContext_eq_ok, (follows_parseCollectionBlock collectionId).ok]
    constructor
    · rintro ⟨block, hblock, name, a, b, rfl, hname, ha, hb⟩
      exact ⟨rfl, block, hblock, hname, ha, hb⟩
    · intro h
      cases collections with
      | mapped name a b =>
        obtain ⟨-, block, hblock, hname, ha, hb⟩ := h
        exact ⟨block, hblock, name, a, b, rfl, hname, ha, hb⟩
      | named => cases h.1
      | all | fromA | fromB => exact h.elim
  | [id] =>
    refine (((follows_check _).check (follows_pure (Collections.named id)))).of_iff fun _ collections => ?_
    rw [context_eq_ok]
    constructor
    · rintro ⟨hvalid, rfl⟩
      exact ⟨rfl, hvalid⟩
    · intro h
      cases collections with
      | named => obtain ⟨hid, hvalid⟩ := h; cases hid; exact ⟨hvalid, rfl⟩
      | mapped => cases h.1
      | all | fromA | fromB => exact h.elim
  | _ :: _ :: _ =>
    refine (follows_bail _).of_iff fun _ collections => ⟨False.elim, fun h => ?_⟩
    cases collections with
    | named | mapped => cases h.1
    | all | fromA | fromB => exact h

theorem follows_parsePairCollections : (parsePairCollections collectionId).Follows ["collections", "collection"]
    fun c collections => c.SaysCollections collectionId collections := by
  have hgetD : ∀ {c : Scfg} {name : String}, (c.remove name).1.getD [] = c.named name := by
    intro c name
    by_cases h : c.named name = []
    · rw [Scfg.remove_fst_eq_none.mpr h, h, Option.getD_none]
    · rw [Scfg.remove_fst_eq_some.mpr ⟨rfl, h⟩, Option.getD_some]
  have hplural : ∀ ds : List Directive, (ds.mapM fun d =>
      lift (parseCollectionsDirective (" ".intercalate d.params))).Follows [] fun _ collections =>
      List.Forall₂ Directive.SaysCollections ds collections :=
    follows_mapM fun d => (follows_lift _).of_iff fun _ _ => parseCollectionsDirective_ok
  refine ((follows_remove "collections").bind _ (by decide) fun plural =>
    (hplural _).bind _ (by decide) fun collections =>
    (follows_remove "collection").bindSilent fun singular =>
    (follows_mapM (follows_parseCollectionDirective collectionId) _).bindSilent fun collections' =>
    follows_pure (collections ++ collections')).of_iff fun c collections => ?_
  constructor
  · rintro ⟨_, rfl, plural, hplural, _, rfl, singular, hsingular, rfl⟩
    rw [hgetD] at hplural hsingular
    exact ⟨plural, singular, hplural, hsingular, rfl⟩
  · rintro ⟨plural, singular, hplural, hsingular, rfl⟩
    exact ⟨_, rfl, plural, by rwa [hgetD], _, rfl, singular, by rwa [hgetD], rfl⟩

end Collection

/-! ## The parser of pairs -/

/-- What is made of a directive that there may be. -/
theorem saysMaybe_iff {α : Type} {c : Scfg} {name : String} {f : Directive → Except Error α} {P : Directive → α → Prop}
    (hf : ∀ d a, f d = .ok a ↔ P d a) {a : Option α} :
    (∃ d, c.named name = Option.toList d ∧ d.mapM f = .ok a) ↔ c.SaysMaybe name P a := by
  constructor
  · rintro ⟨_ | d, hd, h⟩
    · obtain rfl := mapM_none_ok.mp h
      exact hd
    · obtain ⟨a', ha', rfl⟩ := mapM_some_ok.mp h
      exact ⟨d, hd, (hf d a').mp ha'⟩
  · intro h
    cases a with
    | none => exact ⟨none, h, mapM_none_ok.mpr rfl⟩
    | some a =>
      obtain ⟨d, hd, ha⟩ := h
      exact ⟨some d, hd, mapM_some_ok.mpr ⟨a, (hf d a).mpr ha, rfl⟩⟩

/-- A directive that there may be, what is made of it, and a parser for other names. -/
theorem follows_maybe {α β : Type} {name : String} {g : Directive → Except Error α} {P : Directive → α → Prop}
    {r : Option Directive → Reader (Option α)} {f : Option α → Reader β} {H : Option α → Scfg → β → Prop}
    (hg : ∀ d a, g d = .ok a ↔ P d a) (hr : ∀ d, (r d).Follows [] fun _ v => d.mapM g = .ok v) (names : List String)
    (hdisj : name ∉ names) (hf : ∀ v, (f v).Follows names (H v)) :
    (takeDirective name >>= fun d => r d >>= f).Follows (name :: names) fun c b => ∃ v, c.SaysMaybe name P v ∧ H v c b := by
  have hnames : ∀ other ∈ names, other ∉ [name] := by
    intro other hmem hother
    exact hdisj (List.mem_singleton.mp hother ▸ hmem)
  have hrest : ∀ d, (r d >>= f).Follows names fun c b => ∃ v, d.mapM g = .ok v ∧ H v c b :=
    fun d => (hr d).bind names (by simp) hf
  refine ((follows_takeDirective name).bind names hnames hrest).of_iff fun c b => ?_
  simp only [← saysMaybe_iff hg]
  constructor
  · rintro ⟨d, hd, v, hv, hb⟩
    exact ⟨v, ⟨d, hd, hv⟩, hb⟩
  · rintro ⟨v, ⟨d, hd, hv⟩, hb⟩
    exact ⟨d, hd, v, hv, hb⟩

theorem follows_parseMode : parseMode.Follows ["one_way"] fun c mode => c.SaysMode mode := by
  refine (follows_optional (H := fun d mode => d.params = [] ∧ mode = .oneWaySync) (follows_pure Mode.twoWaySync)
    fun d => ?_).of_iff fun c mode => ?_
  · dsimp only
    split
    · next h => exact (follows_bail _).of_iff fun _ mode => ⟨False.elim, fun hd => h hd.1⟩
    · next h => exact (follows_pure _).of_iff fun _ mode => ⟨fun hmode => ⟨not_not.mp h, hmode⟩, And.right⟩
  · cases mode with
    | twoWaySync => simp [Scfg.SaysMode]
    | oneWaySync =>
      constructor
      · rintro (⟨-, h⟩ | ⟨⟨params, child⟩, hd, rfl, -⟩)
        · cases h
        · exact ⟨child, hd⟩
      · rintro ⟨child, hd⟩
        exact .inr ⟨_, hd, rfl, rfl⟩

theorem saysMaybe_congr {α : Type} {c c' : Scfg} {name : String} {P : Directive → α → Prop} {a : Option α}
    (h : c'.named name = c.named name) : c'.SaysMaybe name P a ↔ c.SaysMaybe name P a := by
  cases a <;> simp only [Scfg.SaysMaybe, h]

/-- The directives of a pair other than those that name its storages. -/
def policyNames : List String := ["collections", "collection", "on_empty", "on_delete", "conflict_resolution", "one_way"]

theorem saysPolicies_congr {collectionId : String → Except Error Unit} {c c' : Scfg} {p : PairSettings}
    (h : ∀ name ∈ policyNames, c'.named name = c.named name) :
    c'.SaysPolicies collectionId p ↔ c.SaysPolicies collectionId p := by
  have hcollections : c'.SaysCollections collectionId p.collections ↔ c.SaysCollections collectionId p.collections := by
    rw [Scfg.SaysCollections, Scfg.SaysCollections, h _ (by decide), h _ (by decide)]
  have hmode : c'.SaysMode p.mode ↔ c.SaysMode p.mode := by
    cases p.mode <;> simp only [Scfg.SaysMode, h "one_way" (by decide)]
  constructor
  · rintro ⟨h₁, h₂, h₃, h₄, h₅⟩
    exact ⟨hcollections.mp h₁, (saysMaybe_congr (h _ (by decide))).mp h₂, (saysMaybe_congr (h _ (by decide))).mp h₃,
      (saysMaybe_congr (h _ (by decide))).mp h₄, hmode.mp h₅⟩
  · rintro ⟨h₁, h₂, h₃, h₄, h₅⟩
    exact ⟨hcollections.mpr h₁, (saysMaybe_congr (h _ (by decide))).mpr h₂, (saysMaybe_congr (h _ (by decide))).mpr h₃,
      (saysMaybe_congr (h _ (by decide))).mpr h₄, hmode.mpr h₅⟩

/-- A pair is made of its policies, and of two storages of one kind. -/
theorem follows_buildPair {S : Type} (collectionId : String → Except Error Unit) (itemKind : S → ItemKind)
    (statusDir name nameA nameB : String) (a b : S × Duration) :
    (buildPair collectionId itemKind statusDir name (nameA, nameB) a b).Follows policyNames fun c pair =>
      ∃ p : PairSettings, p.nameA = nameA ∧ p.nameB = nameB ∧ c.SaysPolicies collectionId p ∧
        itemKind a.1 = itemKind b.1 ∧ pair = p.pair statusDir name a b := by
  -- whatever is returned for storages of one kind, and fails for others
  have hpair : ∀ (p : PairSettings) (r : Reader (NamedPair S)), (itemKind a.1 = itemKind b.1 → r = pure (p.pair statusDir name a b)) →
      (itemKind a.1 ≠ itemKind b.1 → ∃ msg, r = bail msg) →
      r.Follows [] fun _ pair => itemKind a.1 = itemKind b.1 ∧ pair = p.pair statusDir name a b := by
    intro p r hsame hdiffer
    by_cases hkind : itemKind a.1 = itemKind b.1
    · rw [hsame hkind]
      exact (follows_pure _).of_iff fun _ _ => (and_iff_right hkind).symm
    · obtain ⟨msg, rfl⟩ := hdiffer hkind
      exact (follows_bail _).of_iff fun _ _ => ⟨False.elim, fun h => hkind h.1⟩
  have hread : (buildPair collectionId itemKind statusDir name (nameA, nameB) a b).Follows policyNames fun c pair =>
      ∃ collections, c.SaysCollections collectionId collections ∧
      ∃ onEmpty, c.SaysMaybe "on_empty" (fun d onEmpty => d.params = [onEmpty.word]) onEmpty ∧
      ∃ onDelete, c.SaysMaybe "on_delete" (fun d onDelete => d.params = [onDelete.word]) onDelete ∧
      ∃ resolution, c.SaysMaybe "conflict_resolution" Directive.SaysResolution resolution ∧
      ∃ mode, c.SaysMode mode ∧ itemKind a.1 = itemKind b.1 ∧
        pair = (⟨nameA, nameB, collections, onEmpty, onDelete, resolution, mode⟩ : PairSettings).pair statusDir name a b :=
    (follows_parsePairCollections collectionId).bind _ (by decide) fun collections =>
    follows_maybe (fun _ _ => parseOnEmpty_ok) (fun _ => (follows_lift _).context _) _ (by decide) fun onEmpty =>
    follows_maybe (fun _ _ => parseOnDelete_ok) (fun _ => (follows_lift _).context _) _ (by decide) fun onDelete =>
    follows_maybe (fun _ _ => parseConflictResolution_ok) (fun _ => follows_lift _) _ (by decide) fun resolution =>
    follows_parseMode.bindSilent fun mode =>
    hpair ⟨nameA, nameB, collections, onEmpty, onDelete, resolution, mode⟩ _ (fun h => by rw [h]; cases itemKind b.1 <;> rfl)
      fun h => by
        cases ha : itemKind a.1 <;> cases hb : itemKind b.1
        · exact absurd (ha.trans hb.symm) h
        · exact ⟨_, rfl⟩
        · exact ⟨_, rfl⟩
        · exact absurd (ha.trans hb.symm) h
  refine hread.of_iff fun c pair => ?_
  constructor
  · rintro ⟨collections, hcollections, onEmpty, hempty, onDelete, hdelete, resolution, hresolution, mode, hmode, hkind, rfl⟩
    exact ⟨_, rfl, rfl, ⟨hcollections, hempty, hdelete, hresolution, hmode⟩, hkind, rfl⟩
  · rintro ⟨⟨_, _, collections, onEmpty, onDelete, resolution, mode⟩, rfl, rfl, hp, hkind, rfl⟩
    exact ⟨collections, hp.collections, onEmpty, hp.onEmpty, onDelete, hp.onDelete, resolution, hp.conflictResolution, mode,
      hp.mode, hkind, rfl⟩

end Reader

/-! ## Pairs that are made -/

/-- The task of a pair takes over the names of its storages, and the rest of its block. -/
theorem PairTask.new_ok {dir name : String} {c : Scfg} {task : PairTask} : PairTask.new dir (name, c) = .ok task ↔
    ∃ nameA nameB, c.Says "storage_a" (some nameA) ∧ c.Says "storage_b" (some nameB) ∧
      task = ⟨name, nameA, nameB, ((c.remove "storage_a").2.remove "storage_b").2, dir⟩ := by
  simp only [PairTask.new, bind_eq_ok, takeSingleParamFromDirective_eq_ok, Prod.exists]
  constructor
  · rintro ⟨nameA, rest, ⟨ha, rfl⟩, nameB, rest', ⟨⟨child, hb⟩, rfl⟩, h⟩
    cases h
    rw [Scfg.named_remove_ne _ (by decide)] at hb
    exact ⟨nameA, nameB, ha, ⟨child, hb⟩, rfl⟩
  · rintro ⟨nameA, nameB, ha, ⟨child, hb⟩, rfl⟩
    refine ⟨nameA, _, ⟨ha, rfl⟩, nameB, _, ⟨⟨child, ?_⟩, rfl⟩, rfl⟩
    rw [Scfg.named_remove_ne _ (by decide)]
    exact hb

section Outcome

variable {S : Type} {env : PairsOutside S} {raw : String → Option Scfg} {dir name : String} {c : Scfg} {pair : NamedPair S}

/-- **A pair comes of what its block says**, and of what its storages come to. -/
theorem pairOutcome_iff : pairOutcome env raw dir (name, c) = .ok pair ↔ ∃ p a b, c.SaysPair env.collectionId p ∧
    storageOutcome env raw p.nameA = .ok a ∧ storageOutcome env raw p.nameB = .ok b ∧
      env.itemKind a.1 = env.itemKind b.1 ∧ pair = p.pair dir name a b := by
  let rest : Scfg := ((c.remove "storage_a").2.remove "storage_b").2
  have hrest : ∀ name ∈ Reader.policyNames, rest.named name = c.named name := by
    intro name hname
    have hne : name ≠ "storage_a" ∧ name ≠ "storage_b" := by
      constructor <;> rintro rfl <;> exact absurd hname (by decide)
    exact (Scfg.named_remove_ne _ hne.2).trans (Scfg.named_remove_ne _ hne.1)
  constructor
  · intro h
    obtain ⟨task, a, b, hnew, ha, hb, hbuild⟩ := pairOutcome_built h
    obtain ⟨nameA, nameB, hsaysA, hsaysB, rfl⟩ := PairTask.new_ok.mp hnew
    obtain ⟨p, rfl, rfl, hp, hkind, rfl⟩ := (Reader.follows_buildPair _ _ _ _ _ _ a b).ok.mp hbuild
    exact ⟨p, a, b, ⟨(Reader.saysPolicies_congr hrest).mp hp, hsaysA, hsaysB⟩, ha, hb, hkind, rfl⟩
  · rintro ⟨p, a, b, hp, ha, hb, hkind, rfl⟩
    have hnew : PairTask.new dir (name, c) = .ok ⟨name, p.nameA, p.nameB, rest, dir⟩ :=
      PairTask.new_ok.mpr ⟨p.nameA, p.nameB, hp.nameA, hp.nameB, rfl⟩
    have hbuild := (Reader.follows_buildPair env.collectionId env.itemKind dir name p.nameA p.nameB a b).ok.mpr
      ⟨p, rfl, rfl, (Reader.saysPolicies_congr hrest).mpr hp.toSaysPolicies, hkind, rfl⟩
    calc pairOutcome env raw dir (name, c) = taskOutcome env raw ⟨name, p.nameA, p.nameB, rest, dir⟩ := by
          rw [pairOutcome, hnew]
          rfl
      _ = .ok (p.pair dir name a b) := by
          rw [taskOutcome, ha, hb]
          exact hbuild

end Outcome

end Pimsync
