import Pimsync.ConflictWrites

/-!
# What an upload leaves behind

`upload_resolved_item` and `upload_resolved_property` are two optional writes, in an order that the outside decides. A write
takes effect in full or changes nothing (`Atomic`), so after both every side holds what was resolved, or what it held
before. `Uploaded` is all that holds afterwards.

- `OptionalWrite`, `uploaded_of_writes`: from two optional writes to an upload, for any kind of value;
- `uploadBoth_uploaded`: the two writes, in either order;
- `upload_resolved`: both, in the words of their storages.
-/

namespace Pimsync

variable {σ S α : Type}

/-- The side whose write failed. -/
def ResolveEvent.failed? : ResolveEvent → Option Side
  | .updated side _ _ _ (.error _) => some side
  | .propertySet side _ _ _ (.error _) => some side
  | _ => none

/-! ## Two optional writes -/

/-- What is at the two places of a conflict, what is resolved, and everything else. -/
structure Places (σ α : Type) where
  view : Side → σ → Option α
  /-- The value that a conflict is resolved to. -/
  Resolved : α → Prop
  /-- Everything else is the same in both states. -/
  Rest : σ → σ → Prop
  refl : ∀ s, Rest s s
  trans : ∀ {s t u}, Rest s t → Rest t u → Rest s u
  /-- The two places are not one and the same. -/
  Apart : Prop

namespace Places

variable (places : Places σ α)

/-- A place holds what is resolved. -/
def Holds (side : Side) (s : σ) : Prop := ∃ a, places.view side s = some a ∧ places.Resolved a

/-- A write that takes effect in full, or changes nothing and fails. -/
inductive Write (side : Side) (s s' : σ) : Except Error Unit → Prop
  | done : places.Holds side s' → (places.Apart → places.view side.other s' = places.view side.other s) →
      (places.view side.other s' = places.view side.other s ∨ places.Holds side.other s') → places.Rest s s' →
      Write side s s' (.ok ())
  | failed (e : Error) : (∀ side, places.view side s' = places.view side s) → places.Rest s s' →
      Write side s s' (.error e)

/-- A write that is left out where nothing differs. -/
inductive OptionalWrite (differs : Side → Prop) (write : Side → Except Error Unit → ResolveEvent) (side : Side) (s : σ) :
    σ → Except Error Unit → List ResolveEvent → Prop
  | skipped : ¬ differs side → OptionalWrite differs write side s s (.ok ()) []
  | written (s' : σ) (result : Except Error Unit) : differs side → places.Write side s s' result →
      OptionalWrite differs write side s s' result [write side result]

/-- **What an upload leaves.** -/
structure Uploaded (differs : Side → Prop) (s s' : σ) (log : List ResolveEvent) (result : Except Stop Unit) : Prop where
  /-- It succeeds if and only if no write fails. -/
  ok_iff : result = .ok () ↔ ∀ event ∈ log, event.failed? = none
  /-- Both sides hold the value. -/
  resolved : result = .ok () → ∀ side, places.Holds side s'
  /-- A side that held the value is not written. -/
  skipped : ∀ side, ¬ differs side → ∀ event ∈ log, event.write? ≠ some side
  /-- Each side holds the value, or what it held. -/
  either : ∀ side, places.Holds side s' ∨ places.view side s' = places.view side s
  /-- A side whose write failed holds what it held. -/
  kept : places.Apart → ∀ side, (∃ event ∈ log, event.failed? = some side) → places.view side s' = places.view side s
  rest : places.Rest s s'

variable {places} {differs : Side → Prop} {write : Side → Except Error Unit → ResolveEvent} {side : Side} {s s' : σ}
  {result : Except Error Unit} {log : List ResolveEvent}

namespace OptionalWrite

theorem rest (h : places.OptionalWrite differs write side s s' result log) : places.Rest s s' := by
  cases h with
  | skipped => exact places.refl s
  | written s' result _ hw => cases hw <;> assumption

/-- The other side keeps what it held, or holds the value. -/
theorem other (h : places.OptionalWrite differs write side s s' result log) :
    places.view side.other s' = places.view side.other s ∨ places.Holds side.other s' := by
  cases h with
  | skipped => exact .inl rfl
  | written s' result _ hw =>
    cases hw with
    | done _ _ hother _ => exact hother
    | failed e hview _ => exact .inl (hview _)

theorem apart (h : places.OptionalWrite differs write side s s' result log) (ha : places.Apart) :
    places.view side.other s' = places.view side.other s := by
  cases h with
  | skipped => rfl
  | written s' result _ hw =>
    cases hw with
    | done _ hother _ _ => exact hother ha
    | failed e hview _ => exact hview _

/-- The side holds the value if all is well. -/
theorem holds (h : places.OptionalWrite differs write side s s' result log) (hs : ¬ differs side → places.Holds side s)
    (hr : result = .ok ()) : places.Holds side s' := by
  cases h with
  | skipped hd => exact hs hd
  | written s' result _ hw =>
    cases hw with
    | done hh => exact hh
    | failed => cases hr

theorem failed (h : places.OptionalWrite differs write side s s' result log) (hr : result ≠ .ok ()) :
    ∀ side, places.view side s' = places.view side s := by
  cases h with
  | skipped => exact absurd rfl hr
  | written s' result _ hw =>
    cases hw with
    | done => exact absurd rfl hr
    | failed e hview _ => exact hview

/-- Only a side that differs is written. -/
theorem differs_of_write (h : places.OptionalWrite differs write side s s' result log)
    (hw : ∀ side result, (write side result).write? = some side) {event : ResolveEvent} (he : event ∈ log) {place : Side}
    (hwrite : event.write? = some place) : differs place := by
  cases h with
  | skipped => cases he
  | written s' result hd _ =>
    obtain rfl := List.mem_singleton.mp he
    rw [hw] at hwrite
    cases hwrite
    exact hd

/-- An event tells of a failure on the side that was written, if that is how the write ended. -/
theorem of_failed (h : places.OptionalWrite differs write side s s' result log)
    (hf : ∀ side result, (write side result).failed? = if result = .ok () then none else some side) {event : ResolveEvent}
    (he : event ∈ log) {place : Side} (hfailed : event.failed? = some place) : place = side ∧ result ≠ .ok () := by
  cases h with
  | skipped => cases he
  | written s' result hd _ =>
    obtain rfl := List.mem_singleton.mp he
    rw [hf] at hfailed
    split at hfailed
    · cases hfailed
    · next hr =>
      cases hfailed
      exact ⟨rfl, hr⟩

theorem ok_iff (h : places.OptionalWrite differs write side s s' result log)
    (hf : ∀ side result, (write side result).failed? = if result = .ok () then none else some side) :
    result = .ok () ↔ ∀ event ∈ log, event.failed? = none := by
  cases h with
  | skipped => simp
  | written s' result _ _ => simp [hf]

end OptionalWrite

/-- Both writes are well. -/
theorem results_ok {first : Side} {r₁ r₂ : Except Error Unit} :
    (do if Side.a = first then r₁ else r₂
        if Side.b = first then r₁ else r₂).mapError Stop.err = .ok () ↔ r₁ = .ok () ∧ r₂ = .ok () := by
  cases first <;> rcases r₁ with e | ⟨⟩ <;> rcases r₂ with e' | ⟨⟩ <;> simp [Except.mapError, bind, Except.bind]

/-- **Two optional writes make an upload.** -/
theorem uploaded_of_writes {first : Side} {s₁ s₂ : σ} {r₁ r₂ e₁ e₂ : Except Error Unit} {log₁ log₂ : List ResolveEvent}
    (h₁ : places.OptionalWrite differs write first s s₁ r₁ log₁)
    (h₂ : places.OptionalWrite differs write first.other s₁ s₂ r₂ log₂) (hs : ∀ side, ¬ differs side → places.Holds side s)
    (he₁ : e₁ = .ok () ↔ r₁ = .ok ()) (he₂ : e₂ = .ok () ↔ r₂ = .ok ())
    (hw : ∀ side result, (write side result).write? = some side)
    (hf : ∀ side result, (write side result).failed? = if result = .ok () then none else some side) :
    places.Uploaded differs s s₂ (log₁ ++ log₂) ((do
      if Side.a = first then e₁ else e₂
      if Side.b = first then e₁ else e₂).mapError .err) := by
  have hsides : ∀ side, side = first ∨ side = first.other := by cases first <;> rintro (_ | _) <;> simp [Side.other]
  have hother : first.other.other = first := by cases first <;> rfl
  have hne : first.other ≠ first := by cases first <;> simp [Side.other]
  -- The first write is not undone by the second, nor the second side touched by the first.
  have hback := h₂.other
  have hback' := h₂.apart
  rw [hother] at hback hback'
  have hskip : ¬ differs first.other → places.Holds first.other s₁ := fun hd =>
    h₁.other.elim (fun hv => by rw [Holds, hv]; exact hs _ hd) id
  refine ⟨?_, ?_, ?_, ?_, ?_, places.trans h₁.rest h₂.rest⟩
  · rw [results_ok, he₁, he₂, h₁.ok_iff hf, h₂.ok_iff hf]
    simp only [List.mem_append, or_imp, forall_and]
  · intro hr side
    obtain ⟨hr₁, hr₂⟩ := results_ok.mp hr
    rw [he₁] at hr₁
    rw [he₂] at hr₂
    obtain rfl | rfl := hsides side
    · exact hback.elim (fun hv => by rw [Holds, hv]; exact h₁.holds (hs _) hr₁) id
    · exact h₂.holds hskip hr₂
  · intro side hd event he hside
    rcases List.mem_append.mp he with he | he
    · exact hd (h₁.differs_of_write hw he hside)
    · exact hd (h₂.differs_of_write hw he hside)
  · intro side
    obtain rfl | rfl := hsides side
    · by_cases hr : r₁ = .ok ()
      · have hholds := h₁.holds (hs _) hr
        exact .inl (hback.elim (fun hv => by rw [Holds, hv]; exact hholds) id)
      · exact hback.elim (fun hv => .inr (hv.trans (h₁.failed hr _))) .inl
    · by_cases hr : r₂ = .ok ()
      · exact .inl (h₂.holds hskip hr)
      · have hv := h₂.failed hr first.other
        exact h₁.other.elim (fun hv' => .inr (hv.trans hv')) fun hh => .inl (by rw [Holds, hv]; exact hh)
  · rintro ha side ⟨event, he, hfailed⟩
    rcases List.mem_append.mp he with he | he
    · obtain ⟨rfl, hr⟩ := h₁.of_failed hf he hfailed
      exact (hback' ha).trans (h₁.failed hr _)
    · obtain ⟨rfl, hr⟩ := h₂.of_failed hf he hfailed
      exact (h₂.failed hr _).trans (h₁.apart ha)

/-- Nothing at the places changes before the upload. -/
theorem Uploaded.after {s₀ : σ} {result : Except Stop Unit} (h : places.Uploaded differs s s' log result)
    (hview : ∀ side, places.view side s = places.view side s₀) (hrest : places.Rest s₀ s) :
    places.Uploaded differs s₀ s' log result where
  ok_iff := h.ok_iff
  resolved := h.resolved
  skipped := h.skipped
  either side := by rw [← hview side]; exact h.either side
  kept ha side he := by rw [← hview side]; exact h.kept ha side he
  rest := places.trans hrest h.rest

variable [DecidablePred differs] {out : ResolveOutside σ S}
  {task : Side → Prog (World σ) ResolveEvent Stop (Except Error Unit)}

variable (differs) in
/-- One of the tasks of an upload is an optional write. -/
theorem optionalTask_write (htask : ∀ side (w : World σ), ∃ result returned t,
      task side w = ⟨.ok returned, { w with outside := t }, [write side result]⟩ ∧ (returned = .ok () ↔ result = .ok ()) ∧
        places.Write side w.outside t result) (side : Side) (w : World σ) :
    ∃ result returned t log, ((if differs side then some (task side) else none).getD (return .ok ())) w =
        ⟨.ok returned, { w with outside := t }, log⟩ ∧ (returned = .ok () ↔ result = .ok ()) ∧
      places.OptionalWrite differs write side w.outside t result log := by
  by_cases hd : differs side
  · obtain ⟨result, returned, t, hrun, hreturned, hwrite⟩ := htask side w
    exact ⟨result, returned, t, _, by simpa [hd] using hrun, hreturned, .written t result hd hwrite⟩
  · exact ⟨.ok (), .ok (), w.outside, [], by simp [hd], Iff.rfl, .skipped hd⟩

/-- **What `uploadBoth` leaves**, if each of its tasks is a write. -/
theorem uploadBoth_uploaded (htask : ∀ side (w : World σ), ∃ result returned t,
      task side w = ⟨.ok returned, { w with outside := t }, [write side result]⟩ ∧ (returned = .ok () ↔ result = .ok ()) ∧
        places.Write side w.outside t result)
    (hfirst : ∀ s, (∀ side, places.view side (out.first s).2 = places.view side s) ∧ places.Rest s (out.first s).2)
    (hw : ∀ side result, (write side result).write? = some side)
    (hf : ∀ side result, (write side result).failed? = if result = .ok () then none else some side)
    (w : World σ) (hs : ∀ side, ¬ differs side → places.Holds side w.outside) :
    places.Uploaded differs w.outside
      (uploadBoth out (fun side => if differs side then some (task side) else none) w).world.outside
      (uploadBoth out (fun side => if differs side then some (task side) else none) w).log
      (uploadBoth out (fun side => if differs side then some (task side) else none) w).result := by
  obtain ⟨hview, hrest⟩ := hfirst w.outside
  obtain ⟨r₁, e₁, t₁, log₁, hrun₁, he₁, h₁⟩ := optionalTask_write differs htask (out.first w.outside).1
    { w with outside := (out.first w.outside).2 }
  obtain ⟨r₂, e₂, t₂, log₂, hrun₂, he₂, h₂⟩ := optionalTask_write differs htask (out.first w.outside).1.other
    { w with outside := t₁ }
  rw [uploadBoth_run out (fun side => if differs side then some (task side) else none) hrun₁ hrun₂]
  have hs' : ∀ side, ¬ differs side → places.Holds side (out.first w.outside).2 := fun side hd => by
    rw [Holds, hview side]
    exact hs side hd
  exact (uploaded_of_writes h₁ h₂ hs' he₁ he₂ hw hf).after hview hrest

end Places

/-! ## The storages -/

/-- A storage takes a write in full, or changes nothing and returns an error; `Item`s are the same if their hashes are. -/
structure Atomic (out : ResolveOutside σ S) (item : S → String → σ → Option Item)
    (property : S → String → Property → σ → Option String) :
    Prop where
  /-- Nothing is written before the writes. -/
  first : ∀ s, (∀ st href, item st href (out.first s).2 = item st href s) ∧
    ∀ st href prop, property st href prop (out.first s).2 = property st href prop s
  updateItem : ∀ st href etag new s s' result, out.updateItem st href etag new s = (result, s') →
    (∀ st' href' prop, property st' href' prop s' = property st' href' prop s) ∧
      (result = .ok () ∧ (∃ held, item st href s' = some held ∧ out.hash held = out.hash new) ∧
          (∀ st' href', (st', href') ≠ (st, href) → item st' href' s' = item st' href' s) ∨
        (∃ e, result = .error e) ∧ ∀ st' href', item st' href' s' = item st' href' s)
  setProperty : ∀ st href prop value s s' result, out.setProperty st href prop value s = (result, s') →
    (∀ st' href', item st' href' s' = item st' href' s) ∧
      (result = .ok () ∧ property st href prop s' = some value ∧
          (∀ st' href' prop', (st', href', prop') ≠ (st, href, prop) →
            property st' href' prop' s' = property st' href' prop' s) ∨
        (∃ e, result = .error e) ∧ ∀ st' href' prop', property st' href' prop' s' = property st' href' prop' s)

section Uploads

variable {out : ResolveOutside σ S} {item : S → String → σ → Option Item}
  {property : S → String → Property → σ → Option String}

variable (out item property) (pair : NamedPair S)

/-- The places of an item in conflict. -/
def itemPlaces (ref : Side → ItemVersion) (new : Item) : Places σ Item where
  view side := item (pair.inner.on side) (ref side).href
  Resolved held := out.hash held = out.hash new
  Rest s s' := (∀ st href, (∀ side, (st, href) ≠ (pair.inner.on side, (ref side).href)) → item st href s' = item st href s) ∧
    ∀ st href prop, property st href prop s' = property st href prop s
  refl _ := ⟨fun _ _ _ => rfl, fun _ _ _ => rfl⟩
  trans h h' := ⟨fun st href hne => (h'.1 st href hne).trans (h.1 st href hne), fun st href prop =>
    (h'.2 st href prop).trans (h.2 st href prop)⟩
  Apart := ∀ side : Side, (pair.inner.on side.other, (ref side.other).href) ≠ (pair.inner.on side, (ref side).href)

/-- The places of a property in conflict. -/
def propertyPlaces (prop : Property) (mapping : ResolvedMapping) (value : String) : Places σ String where
  view side := property (pair.inner.on side) (mapping.href side) prop
  Resolved held := held = value
  Rest s s' := (∀ st href prop', (∀ side, (st, href, prop') ≠ (pair.inner.on side, mapping.href side, prop)) →
      property st href prop' s' = property st href prop' s) ∧
    ∀ st href, item st href s' = item st href s
  refl _ := ⟨fun _ _ _ _ => rfl, fun _ _ => rfl⟩
  trans h h' := ⟨fun st href prop' hne => (h'.1 st href prop' hne).trans (h.1 st href prop' hne), fun st href =>
    (h'.2 st href).trans (h.2 st href)⟩
  Apart := ∀ side : Side, (pair.inner.on side.other, mapping.href side.other) ≠ (pair.inner.on side, mapping.href side)

variable {out item property pair}

theorem itemPlaces_write (hatomic : Atomic out item property) (ref : Side → ItemVersion) (new : Item) (side : Side) (s : σ) :
    (itemPlaces out item property pair ref new).Write side s
      (out.updateItem (pair.inner.on side) (ref side).href (ref side).etag new s).2
      (out.updateItem (pair.inner.on side) (ref side).href (ref side).etag new s).1 := by
  rcases hu : out.updateItem (pair.inner.on side) (ref side).href (ref side).etag new s with ⟨result, s'⟩
  obtain ⟨hprops, ⟨rfl, hheld, hrest⟩ | ⟨⟨e, rfl⟩, hrest⟩⟩ := hatomic.updateItem _ _ _ _ _ _ _ hu
  · refine .done hheld (fun ha => hrest _ _ (ha side)) ?_ ⟨fun st href hne => hrest st href (hne side), hprops⟩
    by_cases hsame : (pair.inner.on side.other, (ref side.other).href) = (pair.inner.on side, (ref side).href)
    · obtain ⟨hst, hhref⟩ := Prod.mk.inj hsame
      refine .inr ?_
      simpa only [Places.Holds, itemPlaces, hst, hhref] using hheld
    · exact .inl (hrest _ _ hsame)
  · exact .failed e (fun _ => hrest _ _) ⟨fun st href _ => hrest st href, hprops⟩

theorem propertyPlaces_write (hatomic : Atomic out item property) (prop : Property)
    (mapping : ResolvedMapping) (value : String)
    (side : Side) (s : σ) : (propertyPlaces item property pair prop mapping value).Write side s
      (out.setProperty (pair.inner.on side) (mapping.href side) prop value s).2
      (out.setProperty (pair.inner.on side) (mapping.href side) prop value s).1 := by
  rcases hu : out.setProperty (pair.inner.on side) (mapping.href side) prop value s with ⟨result, s'⟩
  obtain ⟨hitems, ⟨rfl, hheld, hrest⟩ | ⟨⟨e, rfl⟩, hrest⟩⟩ := hatomic.setProperty _ _ _ _ _ _ _ hu
  · refine .done ⟨value, hheld, rfl⟩ (fun ha => hrest _ _ _ fun h => ha side (by simp_all)) ?_
      ⟨fun st href prop' hne => hrest st href prop' (hne side), hitems⟩
    by_cases hsame : (pair.inner.on side.other, mapping.href side.other, prop) =
        (pair.inner.on side, mapping.href side, prop)
    · obtain ⟨hst, hhref⟩ : pair.inner.on side.other = pair.inner.on side ∧ mapping.href side.other = mapping.href side := by
        simpa using hsame
      refine .inr ⟨value, ?_, rfl⟩
      simpa only [propertyPlaces, hst, hhref] using hheld
    · exact .inl (hrest _ _ _ hsame)
  · exact .failed e (fun _ => hrest _ _ _) ⟨fun st href prop' _ => hrest st href prop', hitems⟩

theorem failed_updated (side : Side) (href etag : String) (new : Item) (result : Except Error Unit) :
    (ResolveEvent.updated side href etag new result).failed? = if result = .ok () then none else some side := by
  rcases result with e | ⟨⟩ <;> rfl

theorem failed_propertySet (side : Side) (href : String) (prop : Property) (value : String) (result : Except Error Unit) :
    (ResolveEvent.propertySet side href prop value result).failed? = if result = .ok () then none else some side := by
  rcases result with e | ⟨⟩ <;> rfl

/-- **Resolving an item or a property**: after a success both sides hold the value, after a failure each holds the value or
what it held; a side that held the value is not written, and nothing else changes. -/
theorem upload_resolved (hatomic : Atomic out item property) (pair : NamedPair S) (w : World σ) :
    (∀ (ref : Side → ItemVersion) (orig : Side → Item) (new : Item),
      (∀ side, item (pair.inner.on side) (ref side).href w.outside = some (orig side)) →
      (itemPlaces out item property pair ref new).Uploaded (fun side => out.hash new ≠ out.hash (orig side)) w.outside
        (uploadResolvedItem out pair ref orig new w).world.outside (uploadResolvedItem out pair ref orig new w).log
        (uploadResolvedItem out pair ref orig new w).result) ∧
    ∀ (prop : Property) (mapping : ResolvedMapping) (orig : Side → String) (value : String),
      (∀ side, property (pair.inner.on side) (mapping.href side) prop w.outside = some (orig side)) →
      (propertyPlaces item property pair prop mapping value).Uploaded (fun side => value ≠ orig side) w.outside
        (uploadResolvedProperty out pair prop mapping orig value w).world.outside
        (uploadResolvedProperty out pair prop mapping orig value w).log
        (uploadResolvedProperty out pair prop mapping orig value w).result := by
  refine ⟨fun ref orig new hheld => ?_, fun prop mapping orig value hheld => ?_⟩
  · refine Places.uploadBoth_uploaded (fun side w => ?_) (fun s => ?_) (fun _ _ => rfl)
      (fun side => failed_updated side (ref side).href (ref side).etag new) w fun side hd => ?_
    · exact ⟨_, _, _, updateItem_run out pair side (ref side) new w, context_eq_ok,
        itemPlaces_write hatomic ref new side w.outside⟩
    · exact ⟨fun side => (hatomic.first s).1 _ _, fun st href _ => (hatomic.first s).1 st href, (hatomic.first s).2⟩
    · exact ⟨orig side, hheld side, (not_ne_iff.mp hd).symm⟩
  · refine Places.uploadBoth_uploaded (fun side w => ?_) (fun s => ?_) (fun _ _ => rfl)
      (fun side => failed_propertySet side (mapping.href side) prop value) w fun side hd => ?_
    · exact ⟨_, _, _, setProperty_run out pair side prop mapping value w, context_eq_ok,
        propertyPlaces_write hatomic prop mapping value side w.outside⟩
    · exact ⟨fun side => (hatomic.first s).2 _ _ _, fun st href prop' _ => (hatomic.first s).2 st href prop',
        (hatomic.first s).1⟩
    · exact ⟨orig side, hheld side, (not_ne_iff.mp hd).symm⟩

end Uploads

/-- Two storages with an item each, whose properties cannot be changed. -/
def twoShelves : ResolveOutside (Side → Item) Side where
  hash := Item.text
  ident := Item.text
  tempFile _ s := ((.ok (), .ok ()), s)
  merge _ a b s := (⟨.ok (), .ok (true, "exit status: 0"), .ok (), .ok (), .ok a, .ok b⟩, s)
  updateItem st href _ new s := if href = "item" then (.ok (), Function.update s st new) else (.error ["not found"], s)
  setProperty _ _ _ _ s := (.error ["read-only"], s)
  first s := (.b, s)

theorem twoShelves_atomic : Atomic twoShelves (fun st href s => if href = "item" then some (s st) else none)
    (fun _ _ _ _ => some "red") where
  first _ := ⟨fun _ _ => rfl, fun _ _ _ => rfl⟩
  updateItem st href etag new s s' result h := by
    refine ⟨fun _ _ _ => rfl, ?_⟩
    by_cases hhref : href = "item"
    · obtain ⟨rfl, rfl⟩ : .ok () = result ∧ Function.update s st new = s' := by simpa [twoShelves, hhref] using h
      refine .inl ⟨rfl, ⟨new, by simp [hhref], rfl⟩, fun st' href' hne => ?_⟩
      by_cases hhref' : href' = "item"
      · have hst : st' ≠ st := fun hst => hne (by rw [hst, hhref, hhref'])
        simp [Function.update_of_ne hst]
      · simp [hhref']
    · obtain ⟨rfl, rfl⟩ : .error ["not found"] = result ∧ s = s' := by simpa [twoShelves, hhref] using h
      exact .inr ⟨⟨_, rfl⟩, fun _ _ => rfl⟩
  setProperty st href prop value s s' result h := by
    obtain ⟨rfl, rfl⟩ : .error ["read-only"] = result ∧ s = s' := by simpa [twoShelves] using h
    exact ⟨fun _ _ => rfl, .inr ⟨⟨_, rfl⟩, fun _ _ _ => rfl⟩⟩

def shelvesPair : NamedPair Side := ⟨"shelves", ⟨.a, .b, [], none, none, .twoWaySync⟩, "/status/shelves", none,
  ("a", "b"), (0, 0)⟩

theorem upload_resolved_twoShelves :
    let s : Side → Item := fun side => if side = .a then ⟨"one"⟩ else ⟨"two"⟩
    (itemPlaces twoShelves (fun st href s => if href = "item" then some (s st) else none)
      (fun _ _ _ _ => some "red") shelvesPair
        (fun _ => ⟨"item", "1"⟩) ⟨"one"⟩).Uploaded (fun side => twoShelves.hash ⟨"one"⟩ ≠ twoShelves.hash (s side)) s
        (uploadResolvedItem twoShelves shelvesPair (fun _ => ⟨"item", "1"⟩) s ⟨"one"⟩ ⟨[], s⟩).world.outside
        (uploadResolvedItem twoShelves shelvesPair (fun _ => ⟨"item", "1"⟩) s ⟨"one"⟩ ⟨[], s⟩).log
        (uploadResolvedItem twoShelves shelvesPair (fun _ => ⟨"item", "1"⟩) s ⟨"one"⟩ ⟨[], s⟩).result ∧
      (propertyPlaces (fun st href s => if href = "item" then some (s st) else none) (fun _ _ _ _ => some "red") shelvesPair
        .colour ⟨"c", "c", "c"⟩ "blue").Uploaded (fun _ => "blue" ≠ "red") s
        (uploadResolvedProperty twoShelves shelvesPair .colour ⟨"c", "c", "c"⟩ (fun _ => "red") "blue" ⟨[], s⟩).world.outside
        (uploadResolvedProperty twoShelves shelvesPair .colour ⟨"c", "c", "c"⟩ (fun _ => "red") "blue" ⟨[], s⟩).log
        (uploadResolvedProperty twoShelves shelvesPair .colour ⟨"c", "c", "c"⟩ (fun _ => "red") "blue" ⟨[], s⟩).result := by
  intro s
  have h := upload_resolved twoShelves_atomic shelvesPair ⟨[], s⟩
  exact ⟨h.1 (fun _ => ⟨"item", "1"⟩) s ⟨"one"⟩ fun side => by cases side <;> rfl,
    h.2 .colour ⟨"c", "c", "c"⟩ (fun _ => "red") "blue" fun _ => rfl⟩

end Pimsync
