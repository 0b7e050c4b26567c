import Mathlib.Data.List.Forall2
import Pimsync.Base.Prog

/-!
# Two programs that do the same

`Matches V R L p q`: from worlds that `R` relates, `p` and `q` end with results that `V` relates or with the same error, in
worlds that `R` relates again, and record events that `L` relates. The rules go through both programs side by side:

- `Matches.bind`, `Matches.bindEq`, `Matches.mapM`, `matches_ask`: sequences, loops, and queries to both worlds;
- `Matches.attempt`, `Matches.mapError`, `Matches.mapLog`: what is done with results and events.
-/

namespace Prog

variable {σ σ' ε ε' ι ι' E E' α α' β β' : Type}

/-! ## Ends and records -/

/-- Both end well, in related results, or both fail with one error. -/
inductive SameEnd (V : α → β → Prop) : Except E α → Except E β → Prop
  | ok {a : α} {b : β} : V a b → SameEnd V (.ok a) (.ok b)
  | error (e : E) : SameEnd V (.error e) (.error e)

theorem SameEnd.refl (r : Except E α) : SameEnd Eq r r := by
  cases r with
  | ok => exact .ok rfl
  | error e => exact .error e

theorem sameEnd_eq {r r' : Except E α} : SameEnd Eq r r' ↔ r = r' := by
  constructor
  · rintro (rfl | e) <;> rfl
  · rintro rfl
    exact .refl r

theorem SameEnd.mono {V W : α → β → Prop} {r : Except E α} {r' : Except E β} (h : SameEnd V r r')
    (hVW : ∀ a b, V a b → W a b) : SameEnd W r r' := by
  cases h with
  | ok h => exact .ok (hVW _ _ h)
  | error e => exact .error e

theorem SameEnd.mapError {V : α → β → Prop} {r : Except E α} {r' : Except E β} (h : SameEnd V r r') (g : E → E') :
    SameEnd V (r.mapError g) (r'.mapError g) := by
  cases h with
  | ok h => exact .ok h
  | error e => exact .error (g e)

theorem SameEnd.bind {V : α → β → Prop} {W : α' → β' → Prop} {r : Except E α} {r' : Except E β} {f : α → Except E α'}
    {g : β → Except E β'} (h : SameEnd V r r') (hf : ∀ a b, V a b → SameEnd W (f a) (g b)) :
    SameEnd W (r >>= f) (r' >>= g) := by
  cases h with
  | ok h => exact hf _ _ h
  | error e => exact .error e

/-- A relation of what two programs record that is built up part by part. -/
class LogRel (L : List ε → List ε' → Prop) : Prop where
  nil : L [] []
  append {k l : List ε} {k' l' : List ε'} : L k k' → L l l' → L (k ++ l) (k' ++ l')

instance : LogRel (@Eq (List ε)) := ⟨rfl, fun h h' => congrArg₂ _ h h'⟩

/-- The same is recorded, but for the events that are not kept. -/
def SameKept (kept : ε → Bool) (l l' : List ε) : Prop := l.filter kept = l'.filter kept

instance (kept : ε → Bool) : LogRel (SameKept kept) where
  nil := rfl
  append h h' := by rw [SameKept, List.filter_append, List.filter_append, h, h']

/-- Nothing is said of what is recorded. -/
def AnyLog (_ : List ε) (_ : List ε') : Prop := True

instance : LogRel (@AnyLog ε ε') := ⟨trivial, fun _ _ => trivial⟩

/-! ## The rules -/

def Matches (V : α → β → Prop) (R : σ → σ' → Prop) (L : List ε → List ε' → Prop) (p : Prog σ ε E α)
    (q : Prog σ' ε' E β) : Prop :=
  ∀ s t, R s t → SameEnd V (p s).result (q t).result ∧ R (p s).world (q t).world ∧ L (p s).log (q t).log

section Rules

variable {V : α → β → Prop} {W : α' → β' → Prop} {R : σ → σ' → Prop} {L : List ε → List ε' → Prop} {p : Prog σ ε E α}
  {q : Prog σ' ε' E β} {f : α → Prog σ ε E α'} {g : β → Prog σ' ε' E β'}

theorem Matches.mono {V' : α → β → Prop} (h : Matches V R L p q) (hV : ∀ a b, V a b → V' a b) : Matches V' R L p q :=
  fun s t hst => (h s t hst).imp_left fun hend => hend.mono hV

/-- A program does what it does. -/
theorem Matches.refl (p : Prog σ ε E α) : Matches Eq Eq Eq p p := by
  rintro s _ rfl
  exact ⟨.refl _, rfl, rfl⟩

variable [LogRel L]

theorem matches_lift {r : Except E α} {r' : Except E β} (h : SameEnd V r r') : Matches V R L (lift r) (lift r') :=
  fun _ _ hst => ⟨h, hst, LogRel.nil⟩

theorem matches_pure {a : α} {b : β} (h : V a b) : Matches V R L (pure a : Prog σ ε E α) (pure b) :=
  fun _ _ hst => ⟨.ok h, hst, LogRel.nil⟩

theorem matches_fail (e : E) : Matches V R L (fail e) (fail e) := fun _ _ hst => ⟨.error e, hst, LogRel.nil⟩

omit [LogRel L] in
theorem matches_emit {e : ε} {e' : ε'} (h : L [e] [e']) :
    Matches Eq R L (emit e : Prog σ ε E Unit) (emit e' : Prog σ' ε' E Unit) := fun _ _ hst => ⟨.ok rfl, hst, h⟩

omit [LogRel L] in
theorem matches_emitSame {kept : ε → Bool} (e : ε) :
    Matches Eq R (SameKept kept) (emit e : Prog σ ε E Unit) (emit e) := matches_emit rfl

/-- Two queries that have related answers, and leave related worlds. -/
theorem matches_ask {f : σ → α × σ} {g : σ' → β × σ'} (h : ∀ s t, R s t → V (f s).1 (g t).1 ∧ R (f s).2 (g t).2) :
    Matches V R L (ask f : Prog σ ε E α) (ask g) := fun s t hst =>
  ⟨.ok (h s t hst).1, (h s t hst).2, LogRel.nil⟩

/-- Sequences match if their parts do. -/
theorem Matches.bind (hp : Matches V R L p q) (hf : ∀ a b, V a b → Matches W R L (f a) (g b)) :
    Matches W R L (p >>= f) (q >>= g) := by
  intro s t hst
  obtain ⟨hend, hworld, hlog⟩ := hp s t hst
  rw [bind_run, bind_run]
  generalize p s = ran, q t = ran' at hend hworld hlog ⊢
  obtain ⟨r, u, l⟩ := ran
  obtain ⟨r', v, l'⟩ := ran'
  change SameEnd V r r' at hend
  cases hend with
  | ok hab =>
    obtain ⟨hend', hworld', hlog'⟩ := hf _ _ hab u v hworld
    exact ⟨hend', hworld', LogRel.append hlog hlog'⟩
  | error e => exact ⟨.error e, hworld, hlog⟩

/-- A sequence whose first parts have the same result. -/
theorem Matches.bindEq {q : Prog σ' ε' E α} {g : α → Prog σ' ε' E β'} (hp : Matches Eq R L p q)
    (hf : ∀ a, Matches W R L (f a) (g a)) : Matches W R L (p >>= f) (q >>= g) :=
  hp.bind fun a _ h => h ▸ hf a

/-- Loops match if their rounds do. -/
theorem Matches.mapM {X : ι → ι' → Prop} {f : ι → Prog σ ε E α} {g : ι' → Prog σ' ε' E β} {xs : List ι} {ys : List ι'}
    (h : List.Forall₂ X xs ys) (hf : ∀ x y, X x y → Matches V R L (f x) (g y)) :
    Matches (List.Forall₂ V) R L (xs.mapM f) (ys.mapM g) := by
  induction h with
  | nil => exact matches_pure .nil
  | cons hxy _ ih =>
    rw [List.mapM_cons, List.mapM_cons]
    exact (hf _ _ hxy).bind fun _ _ hab => ih.bind fun _ _ hrest => matches_pure (.cons hab hrest)

theorem Matches.mapMEq {X : ι → ι' → Prop} {f : ι → Prog σ ε E α} {g : ι' → Prog σ' ε' E α} {xs : List ι} {ys : List ι'}
    (h : List.Forall₂ X xs ys) (hf : ∀ x y, X x y → Matches Eq R L (f x) (g y)) :
    Matches Eq R L (xs.mapM f) (ys.mapM g) := (Matches.mapM h hf).mono fun l l' hl => by
  rwa [List.forall₂_eq_eq_eq] at hl

omit [LogRel L]

theorem Matches.attempt (h : Matches V R L p q) :
    Matches (SameEnd V) R L (p.attempt : Prog σ ε E' (Except E α)) q.attempt := fun s t hst =>
  (h s t hst).imp_left .ok

theorem Matches.attemptEq {q : Prog σ' ε' E α} (h : Matches Eq R L p q) :
    Matches Eq R L (p.attempt : Prog σ ε E' (Except E α)) q.attempt := h.attempt.mono fun _ _ => sameEnd_eq.mp

theorem Matches.mapError (h : Matches V R L p q) (g : E → E') : Matches V R L (p.mapError g) (q.mapError g) :=
  fun s t hst => (h s t hst).imp_left fun hend => hend.mapError g

end Rules

/-- Renamed events are kept as the new names are. -/
theorem Matches.mapLog {V : α → β → Prop} {R : σ → σ' → Prop} {kept : ε' → Bool} {p : Prog σ ε E α} {q : Prog σ' ε E β}
    {g : ε → ε'} (h : Matches V R (SameKept (kept ∘ g)) p q) : Matches V R (SameKept kept) (p.mapLog g) (q.mapLog g) := by
  intro s t hst
  obtain ⟨hend, hworld, hlog⟩ := h s t hst
  refine ⟨hend, hworld, ?_⟩
  rw [SameKept, mapLog_run, mapLog_run, List.filter_map, List.filter_map, hlog]

end Prog
