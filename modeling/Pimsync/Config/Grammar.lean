import Mathlib.Data.List.Forall2
import Pimsync.Config.ClientConfig

/-!
# Parsers and their grammars

`Reader.Follows names G p`: the parser `p` takes the directives of `names` and accepts what the grammar `G` has. A grammar
says what a block has to hold under each name; it knows of no order in which directives are taken. The rules go along with
the parser:

- `Follows.bind`: parsers of different names, one after the other;
- `follows_takeDirective`, `follows_optional`, `follows_mapM`: one directive, one that there may be, all of a name.
-/

namespace Pimsync
namespace Reader

variable {α β : Type} {names names' : List String} {G : Scfg → α → Prop} {p : Reader α} {f : α → Reader β}

/-! ## Following a grammar -/

/-- The parser accepts what the grammar has, leaves what is not called by one of `names`, and looks at nothing else. -/
structure Follows (names : List String) (G : Scfg → α → Prop) (p : Reader α) : Prop where
  ok : ∀ {c a}, (p c).result = .ok a ↔ G c a
  keeps : ∀ name ∉ names, p.Keeps name
  congr : ∀ {c c' a}, (∀ name ∈ names, c'.named name = c.named name) → G c a → G c' a

theorem Follows.of_iff {G' : Scfg → α → Prop} (hp : p.Follows names G) (h : ∀ c a, G c a ↔ G' c a) : p.Follows names G' where
  ok := hp.ok.trans (h _ _)
  keeps := hp.keeps
  congr hc ha := (h _ _).mp (hp.congr hc ((h _ _).mpr ha))

/-- Names may be added that are not taken. -/
theorem Follows.weaken (hp : p.Follows names G) (h : names ⊆ names') : p.Follows names' G where
  ok := hp.ok
  keeps name hname := hp.keeps name fun hmem => hname (h hmem)
  congr hc := hp.congr fun name hname => hc name (h hname)

/-- A parser that takes nothing. -/
theorem follows_silent {G : α → Prop} (hok : ∀ {c a}, (p c).result = .ok a ↔ G a) (hworld : ∀ c, (p c).world = c) :
    p.Follows [] fun _ => G where
  ok := hok
  keeps _ _ c := by rw [hworld]
  congr _ h := h

theorem follows_pure (a : α) : (pure a : Reader α).Follows [] fun _ b => b = a :=
  follows_silent (by simp [eq_comm]) fun _ => rfl

theorem follows_lift (r : Except Error α) : (lift r).Follows [] fun _ a => r = .ok a :=
  follows_silent lift_ok fun _ => rfl

theorem follows_liftFault (r : Except Fault α) : Follows [] (fun _ a => r = .ok a) (Prog.lift r : Reader α) :=
  follows_silent Iff.rfl fun _ => rfl

theorem follows_bail (msg : String) : (bail msg : Reader α).Follows [] fun _ _ => False :=
  follows_silent (by simp [bail]) fun _ => rfl

theorem follows_emit (r : Read) : Follows [] (fun _ _ => True) (Prog.emit r : Reader Unit) :=
  follows_silent (by simp) fun _ => rfl

theorem Follows.context (hp : p.Follows names G) (msg : String) : (p.context msg).Follows names G where
  ok := context_ok.trans hp.ok
  keeps name hname := (hp.keeps name hname).context msg
  congr := hp.congr

/-- One parser after the other, of different names: each has to accept what the block says. -/
theorem Follows.bind (hp : p.Follows names G) (names' : List String) {H : α → Scfg → β → Prop}
    (hdisj : ∀ name ∈ names', name ∉ names) (hf : ∀ a, (f a).Follows names' (H a)) : (p >>= f).Follows (names ++ names') fun c b => ∃ a, G c a ∧ H a c b where
  ok := by
    intro c b
    rw [Prog.bind_result_ok]
    refine exists_congr fun a => and_congr hp.ok ((hf a).ok.trans ?_)
    -- the second parser finds what was there for the first
    have hnamed : ∀ name ∈ names', (p c).world.named name = c.named name := fun name hname =>
      hp.keeps name (hdisj name hname) c
    exact ⟨(hf a).congr fun name hname => (hnamed name hname).symm, (hf a).congr hnamed⟩
  keeps name hname := by
    rw [List.mem_append, not_or] at hname
    exact (hp.keeps name hname.1).bind fun a => (hf a).keeps name hname.2
  congr := by
    rintro c c' b h ⟨a, ha, hb⟩
    exact ⟨a, hp.congr (fun name hname => h name (List.mem_append_left _ hname)) ha,
      (hf a).congr (fun name hname => h name (List.mem_append_right _ hname)) hb⟩

/-- One parser after another, the second of which takes nothing. -/
theorem Follows.bindSilent {H : α → β → Prop} (hp : p.Follows names G) (hf : ∀ a, (f a).Follows [] fun _ => H a) :
    (p >>= f).Follows names fun c b => ∃ a, G c a ∧ H a b := by
  have hbind := hp.bind [] (by simp) hf
  rwa [List.append_nil] at hbind

/-- A check, and a parser after it. -/
theorem Follows.check {q : Reader Unit} {r : Prop} {p : Reader α} (hq : q.Follows [] fun _ _ => r) (hp : p.Follows names G) :
    (q >>= fun _ => p).Follows names fun c a => r ∧ G c a :=
  (hq.bind names (by simp) fun _ => hp).of_iff fun _ _ => by simp

/-- The checks that a value has to pass. -/
theorem follows_check (r : Except Error Unit) : (lift r).Follows [] fun _ _ => r = .ok () := follows_lift r

/-! ## Directives -/

theorem follows_takeDirective (name : String) :
    (takeDirective name).Follows [name] fun c d => c.named name = d.toList where
  ok := takeDirective_ok
  keeps _ hother := keeps_takeDirective (by simpa using hother)
  congr h hd := (h name (by simp)).trans hd

/-- A directive that there may be, once. -/
theorem follows_optional {name : String} {f : Option Directive → Reader α} {G : α → Prop} {H : Directive → α → Prop}
    (hnone : (f none).Follows [] fun _ => G) (hsome : ∀ d, (f (some d)).Follows [] fun _ => H d) :
    (takeDirective name >>= f).Follows [name] fun c a => c.named name = [] ∧ G a ∨ ∃ d, c.named name = [d] ∧ H d a := by
  have hf : ∀ d, (f d).Follows [] fun _ a => d.elim (G a) (H · a) := by
    rintro (_ | d)
    · exact hnone
    · exact hsome d
  refine ((follows_takeDirective name).bindSilent hf).of_iff fun c a => ?_
  constructor
  · rintro ⟨_ | d, hd, ha⟩
    · exact .inl ⟨hd, ha⟩
    · exact .inr ⟨d, hd, ha⟩
  · rintro (⟨hd, ha⟩ | ⟨d, hd, ha⟩)
    · exact ⟨none, hd, ha⟩
    · exact ⟨some d, hd, ha⟩

/-- A parser for a directive that there is, and another if there is none. -/
theorem follows_cases {q : Reader α} {f : Directive → Reader α} {G : Scfg → α → Prop} {H : Directive → Scfg → α → Prop}
    (d : Option Directive) (hnone : q.Follows names G) (hsome : ∀ d, (f d).Follows names (H d)) :
    (match d with | some d => f d | none => q).Follows names fun c a => d.elim (G c a) (H · c a) := by
  cases d with
  | none => exact hnone
  | some d => exact hsome d

/-- The one parameter of a directive. -/
theorem follows_param (d : Directive) : (lift (takeSingleParam d)).Follows [] fun _ v => d.params = [v] :=
  (follows_lift _).of_iff fun _ _ => takeSingleParam_eq_ok

theorem exists_params_iff {c : Scfg} {name : String} {P : String → Prop} :
    (∃ d, c.named name = [d] ∧ ∃ v, d.params = [v] ∧ P v) ↔ ∃ v, c.Says name (some v) ∧ P v := by
  constructor
  · rintro ⟨⟨params, child⟩, hd, v, rfl, hv⟩
    exact ⟨v, ⟨child, hd⟩, hv⟩
  · rintro ⟨v, ⟨child, hd⟩, hv⟩
    exact ⟨_, hd, v, rfl, hv⟩

/-- A directive with one parameter, and what is done without it. -/
theorem follows_value {name msg : String} {f : String → Reader α} {q : Reader α} {G : α → Prop} {H : String → α → Prop}
    (hnone : q.Follows [] fun _ => G) (hf : ∀ v, (f v).Follows [] fun _ => H v) :
    (do match ← takeDirective name with
        | some directive =>
          let param ← (lift (takeSingleParam directive)).context msg
          f param
        | none => q).Follows [name] fun c a => c.Says name none ∧ G a ∨ ∃ v, c.Says name (some v) ∧ H v a :=
  (follows_optional hnone fun d => ((follows_param d).context msg).bindSilent hf).of_iff fun _ _ =>
    or_congr Iff.rfl exists_params_iff

theorem follows_takeParam (name : String) : (takeParam name).Follows [name] fun c v => c.Says name v := by
  refine (follows_optional (H := fun d v => ∃ s, d.params = [s] ∧ v = some s) (follows_pure none) fun d => ?_).of_iff
    fun c v => ?_
  · exact ((follows_emit _).bindSilent fun _ => (follows_param d).bindSilent fun v => follows_pure _).of_iff fun _ v => by simp
  · rw [exists_params_iff]
    cases v <;> simp [Scfg.Says]

theorem follows_takeParamFrom (name : String) : (takeParamFrom name).Follows [name] fun c v => c.Says name (some v) where
  ok := takeParamFrom_eq_ok
  keeps _ hother := keeps_takeParamFrom (by simpa using hother)
  congr h := (Scfg.Says.congr (h name (by simp))).mpr

/-- All directives of a name. -/
theorem follows_remove (name : String) :
    Follows [name] (fun c ds => ds = (c.remove name).1) (Prog.ask fun config => config.remove name) where
  ok := by simp [eq_comm]
  keeps other hother c := Scfg.named_remove_ne c (by simpa using hother)
  congr h hds := by rw [hds, Scfg.remove, Scfg.remove, h name (by simp)]

/-- Each of the elements of a list. -/
theorem follows_mapM {f : Directive → Reader α} {G : Directive → α → Prop} (hf : ∀ d, (f d).Follows [] fun _ => G d) :
    ∀ ds : List Directive, (ds.mapM f).Follows [] fun _ as => List.Forall₂ G ds as
  | [] => (follows_pure []).of_iff fun _ as => List.forall₂_nil_left_iff.symm
  | d :: ds => by
    rw [List.mapM_cons]
    refine ((hf d).bindSilent fun a => (follows_mapM hf ds).bindSilent fun as => follows_pure (a :: as)).of_iff fun _ as => ?_
    constructor
    · rintro ⟨a, ha, as', has, rfl⟩
      exact .cons ha has
    · rintro (_ | ⟨ha, has⟩)
      exact ⟨_, ha, _, has, rfl⟩

end Reader

end Pimsync
