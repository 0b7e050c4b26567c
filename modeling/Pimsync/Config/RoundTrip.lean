import Pimsync.Config.Said

/-!
# What is written is what is read

`PairSettings.render` is a block that says the settings of a pair.

- `saysPair_render`: the block of a pair says its settings;
- `pairOutcome_render`: the pair that is made from it has them.
-/

namespace Pimsync

/-! ## The block of a pair -/

def CollectionDescription.render (side : Side) : CollectionDescription → String × Directive
  | .id v => (idField side, ⟨[v], none⟩)
  | .href v => (hrefField side, ⟨[v], none⟩)

/-- The directive `collections` for some, `collection` for the others. -/
def Collections.render : Collections → String × Directive
  | .all => ("collections", ⟨["all"], none⟩)
  | .fromA => ("collections", ⟨["from", "a"], none⟩)
  | .fromB => ("collections", ⟨["from", "b"], none⟩)
  | .named id => ("collection", ⟨[id], none⟩)
  | .mapped name a b => ("collection", ⟨[], some [("alias", ⟨[name], none⟩), a.render .a, b.render .b]⟩)

/-- They are said by a directive `collections`. -/
def Collections.plural : Collections → Bool
  | .all | .fromA | .fromB => true
  | .named _ | .mapped _ _ _ => false

def ConflictResolution.params : ConflictResolution → List String
  | .keepA => ["keep", "a"]
  | .keepB => ["keep", "b"]
  | .cmd command => "cmd" :: command.command :: command.args

def Mode.render : Mode → Scfg
  | .oneWaySync => [("one_way", ⟨[], none⟩)]
  | .twoWaySync => []

/-- A directive, if there is something to say. -/
def renderMaybe {α : Type} (name : String) (params : α → List String) (a : Option α) : Scfg :=
  (a.map fun a => (name, ⟨params a, none⟩)).toList

/-- A block that says the settings. -/
def PairSettings.render (p : PairSettings) : Scfg :=
  [("storage_a", ⟨[p.nameA], none⟩), ("storage_b", ⟨[p.nameB], none⟩)] ++ p.collections.map Collections.render ++
    renderMaybe "on_empty" (fun onEmpty => [OnEmpty.word onEmpty]) p.onEmpty ++
    renderMaybe "on_delete" (fun onDelete => [OnDelete.word onDelete]) p.onDelete ++
    renderMaybe "conflict_resolution" ConflictResolution.params p.conflictResolution ++ p.mode.render

/-- The settings as they are read: what `collections` says comes first. -/
def PairSettings.sorted (p : PairSettings) : PairSettings :=
  { p with collections := p.collections.filter Collections.plural ++ p.collections.filter fun c => !c.plural }

/-- The ids are ids of collections. -/
def CollectionDescription.Valid (collectionId : String → Except Error Unit) : CollectionDescription → Prop
  | .id v => collectionId v = .ok ()
  | .href _ => True

def Collections.Valid (collectionId : String → Except Error Unit) : Collections → Prop
  | .all | .fromA | .fromB => True
  | .named id => collectionId id = .ok ()
  | .mapped _ a b => a.Valid collectionId ∧ b.Valid collectionId

section Says

variable {collectionId : String → Except Error Unit}

theorem saysReference_render {c : Scfg} {side : Side} {reference : CollectionDescription}
    (hvalid : reference.Valid collectionId) (h : ∀ name, name = idField side ∨ name = hrefField side →
      c.named name = Scfg.named [reference.render side] name) : c.SaysReference collectionId side reference := by
  have hne : idField side ≠ hrefField side := by cases side <;> decide
  cases reference with
  | id id =>
    refine ⟨⟨none, ?_⟩, ?_, hvalid⟩
    · rw [h _ (.inl rfl), CollectionDescription.render, Scfg.named_cons, if_pos rfl, Scfg.named_nil]
    · rw [h _ (.inr rfl), CollectionDescription.render, Scfg.named_cons, if_neg hne, Scfg.named_nil]
  | href href =>
    refine ⟨?_, none, ?_⟩
    · rw [h _ (.inl rfl), CollectionDescription.render, Scfg.named_cons, if_neg hne.symm, Scfg.named_nil]
    · rw [h _ (.inr rfl), CollectionDescription.render, Scfg.named_cons, if_pos rfl, Scfg.named_nil]

theorem saysCollection_render {c : Collections} (hvalid : c.Valid collectionId) (hplural : c.plural = false) :
    c.render.2.SaysCollection collectionId c := by
  cases c with
  | all | fromA | fromB => cases hplural
  | named id => exact ⟨rfl, hvalid⟩
  | mapped name a b =>
    refine ⟨rfl, _, rfl, ⟨none, ?_⟩, saysReference_render hvalid.1 ?_, saysReference_render hvalid.2 ?_⟩
    · cases a <;> cases b <;> rfl
    · rintro _ (rfl | rfl) <;> cases a <;> cases b <;> rfl
    · rintro _ (rfl | rfl) <;> cases a <;> cases b <;> rfl

theorem saysCollections_render {c : Collections} (hplural : c.plural = true) : c.render.2.SaysCollections c := by
  cases c with
  | all | fromA | fromB => rfl
  | named | mapped => cases hplural

theorem named_renderMaybe {α : Type} (name other : String) (params : α → List String) (a : Option α) :
    (renderMaybe name params a).named other = if name = other then (a.map fun a => ⟨params a, none⟩).toList else [] := by
  cases a <;> simp [renderMaybe, Scfg.named_cons]

theorem named_mode (mode : Mode) (other : String) : mode.render.named other =
    if "one_way" = other ∧ mode = .oneWaySync then [⟨[], none⟩] else [] := by
  cases mode <;> simp [Mode.render, Scfg.named_cons]

theorem named_collections (other : String) : ∀ l : List Collections, Scfg.named (l.map Collections.render) other =
    (l.filter fun c => decide (c.render.1 = other)).map fun c => c.render.2
  | [] => rfl
  | c :: l => by
    rw [List.map_cons, Scfg.named_cons (n := c.render.1), named_collections other l]
    by_cases h : c.render.1 = other <;> simp [h]

theorem named_plural (l : List Collections) : Scfg.named (l.map Collections.render) "collections" =
    (l.filter Collections.plural).map fun c => c.render.2 := by
  rw [named_collections, List.filter_congr fun c _ => show decide (c.render.1 = "collections") = c.plural by cases c <;> rfl]

theorem named_singular (l : List Collections) : Scfg.named (l.map Collections.render) "collection" =
    (l.filter fun c => !c.plural).map fun c => c.render.2 := by
  rw [named_collections, List.filter_congr fun c _ => show decide (c.render.1 = "collection") = !c.plural by cases c <;> rfl]

theorem named_collections_ne {other : String} (h : other ≠ "collections") (h' : other ≠ "collection") (l : List Collections) :
    Scfg.named (l.map Collections.render) other = [] := by
  rw [named_collections, List.map_eq_nil_iff, List.filter_eq_nil_iff]
  intro c _ hc
  cases c with
  | all | fromA | fromB => exact h (of_decide_eq_true hc).symm
  | named | mapped => exact h' (of_decide_eq_true hc).symm

theorem saysMaybe_render {α : Type} {c : Scfg} {name : String} (params : α → List String) {P : Directive → α → Prop}
    {a : Option α} (h : c.named name = (a.map fun a => ⟨params a, none⟩).toList) (hP : ∀ a, P ⟨params a, none⟩ a) :
    c.SaysMaybe name P a := by
  cases a with
  | none => exact h
  | some a => exact ⟨_, h, hP a⟩

theorem forall₂_map_of {α β : Type} {R : α → β → Prop} {f : β → α} : ∀ {l : List β}, (∀ b ∈ l, R (f b) b) →
    List.Forall₂ R (l.map f) l
  | [], _ => .nil
  | _ :: _, h => .cons (h _ (List.mem_cons_self ..)) (forall₂_map_of fun b hb => h b (List.mem_cons_of_mem _ hb))

/-- What the block of a pair holds under a name. -/
theorem PairSettings.named_render (p : PairSettings) (name : String) : p.render.named name =
    (if "storage_a" = name then [⟨[p.nameA], none⟩] else []) ++ (if "storage_b" = name then [⟨[p.nameB], none⟩] else []) ++
    Scfg.named (p.collections.map Collections.render) name ++
    (if "on_empty" = name then (p.onEmpty.map fun onEmpty => ⟨[OnEmpty.word onEmpty], none⟩).toList else []) ++
    (if "on_delete" = name then (p.onDelete.map fun onDelete => ⟨[OnDelete.word onDelete], none⟩).toList else []) ++
    (if "conflict_resolution" = name then (p.conflictResolution.map fun r => ⟨r.params, none⟩).toList else []) ++
    if "one_way" = name ∧ p.mode = .oneWaySync then [⟨[], none⟩] else [] := by
  simp only [PairSettings.render, Scfg.named_append, named_renderMaybe, named_mode, Scfg.named_cons, Scfg.named_nil]
  by_cases ha : "storage_a" = name <;> by_cases hb : "storage_b" = name <;> simp [ha, hb]

/-- **The block says the settings.** -/
theorem saysPair_render {p : PairSettings} (hvalid : ∀ c ∈ p.collections, c.Valid collectionId) :
    p.render.SaysPair collectionId p.sorted where
  nameA := ⟨none, by simp [p.named_render, PairSettings.sorted, named_collections_ne]⟩
  nameB := ⟨none, by simp [p.named_render, PairSettings.sorted, named_collections_ne]⟩
  collections := by
    refine ⟨p.collections.filter Collections.plural, p.collections.filter fun c => !c.plural, ?_, ?_, rfl⟩
    · rw [show p.render.named "collections" = _ by simpa [named_plural] using p.named_render "collections"]
      exact forall₂_map_of fun c hc => saysCollections_render (List.mem_filter.mp hc).2
    · rw [show p.render.named "collection" = _ by simpa [named_singular] using p.named_render "collection"]
      refine forall₂_map_of fun c hc => saysCollection_render (hvalid c (List.mem_filter.mp hc).1) ?_
      simpa using (List.mem_filter.mp hc).2
  onEmpty := saysMaybe_render (fun onEmpty => [OnEmpty.word onEmpty])
    (by simp [p.named_render, PairSettings.sorted, named_collections_ne]) fun _ => rfl
  onDelete := saysMaybe_render (fun onDelete => [OnDelete.word onDelete])
    (by simp [p.named_render, PairSettings.sorted, named_collections_ne]) fun _ => rfl
  conflictResolution := saysMaybe_render ConflictResolution.params
    (by simp [p.named_render, PairSettings.sorted, named_collections_ne]) fun resolution => by
      cases resolution with
      | keepA | keepB => exact ⟨[], rfl⟩
      | cmd command => rfl
  mode := by
    cases hmode : p.sorted.mode with
    | oneWaySync =>
      have hmode : p.mode = .oneWaySync := hmode
      exact ⟨none, by simp [p.named_render, hmode, named_collections_ne]⟩
    | twoWaySync =>
      have hmode : p.mode = .twoWaySync := hmode
      simp [Scfg.SaysMode, p.named_render, hmode, named_collections_ne]

end Says

/-- **What is written is what is read**: a pair whose block was rendered has the settings that it was rendered from, what
`collections` says of them first. -/
theorem pairOutcome_render {S : Type} {env : PairsOutside S} {raw : String → Option Scfg} {dir name : String}
    {p : PairSettings} {a b : S × Duration} (hvalid : ∀ c ∈ p.collections, c.Valid env.collectionId)
    (ha : storageOutcome env raw p.nameA = .ok a) (hb : storageOutcome env raw p.nameB = .ok b)
    (hkind : env.itemKind a.1 = env.itemKind b.1) :
    pairOutcome env raw dir (name, p.render) = .ok (p.sorted.pair dir name a b) :=
  pairOutcome_iff.mpr ⟨p.sorted, a, b, saysPair_render hvalid, ha, hb, hkind, rfl⟩

end Pimsync
