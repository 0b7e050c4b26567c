import Mathlib.Data.List.Basic

/-!
# Blocks of directives, and taking directives from them

A configuration text is parsed by the `scfg` crate into a block: named directives in file order, each with parameters
and perhaps a block of its own. `remove`, `get` and `add` are the crate's operations; the functions after them are those
of `scfg_util`, which take a directive from a block and hand back the block without it.
-/

namespace Pimsync

/-! ## Errors -/

/-- An `anyhow::Error`: its messages, the outermost context first. -/
abbrev Error := List String

/-- `.context(msg)` on a result. -/
def context {α : Type} (msg : String) (r : Except Error α) : Except Error α := r.mapError (msg :: ·)

/-- `.context(msg)` on an option. -/
def orContext {α : Type} (msg : String) : Option α → Except Error α
  | some a => .ok a
  | none => .error [msg]

/-- `bail!`. -/
def bail {α : Type} (msg : String) : Except Error α := .error [msg]

theorem context_eq_ok {α : Type} {msg : String} {r : Except Error α} {a : α} :
    context msg r = .ok a ↔ r = .ok a := by
  cases r <;> simp [context, Except.mapError]

theorem orContext_eq_ok {α : Type} {msg : String} {o : Option α} {a : α} : orContext msg o = .ok a ↔ o = some a := by
  cases o <;> simp [orContext]

theorem bind_eq_ok {α β : Type} {r : Except Error α} {f : α → Except Error β} {b : β} :
    (r >>= f) = .ok b ↔ ∃ a, r = .ok a ∧ f a = .ok b := by
  cases r <;> simp [bind, Except.bind]

/-! ## Blocks -/

structure Directive where
  params : List String
  child : Option (List (String × Directive))

/-- A block: its directives with their names, in file order. -/
abbrev Scfg := List (String × Directive)

namespace Scfg

/-- All directives of a name, in file order. -/
def named (config : Scfg) (name : String) : List Directive := (config.filter (·.1 == name)).map (·.2)

/-- `Scfg::remove`: all directives of a name, if there is one, and the block without them. -/
def remove (config : Scfg) (name : String) : Option (List Directive) × Scfg :=
  (if (named config name).isEmpty then none else some (named config name), config.filter (·.1 != name))

/-- `Scfg::get`: the first directive of a name. -/
def get (config : Scfg) (name : String) : Option Directive := (named config name).head?

/-- `Scfg::add`, and what the caller then does to the directive it adds. -/
def add (config : Scfg) (name : String) (d : Directive) : Scfg := config ++ [(name, d)]

@[simp] theorem named_nil (name : String) : named [] name = [] := rfl

theorem named_cons (n : String) (d : Directive) (config : Scfg) (name : String) :
    named ((n, d) :: config) name = if n = name then d :: named config name else named config name := by
  by_cases h : n = name <;> simp [named, h]

theorem named_append (c₁ c₂ : Scfg) (name : String) : named (c₁ ++ c₂) name = named c₁ name ++ named c₂ name := by
  simp [named]

@[simp] theorem named_remove_self (config : Scfg) (name : String) : named (remove config name).2 name = [] := by
  simp [named, remove, List.filter_filter]

theorem named_remove_ne (config : Scfg) {name other : String} (h : other ≠ name) :
    named (remove config name).2 other = named config other := by
  simp only [named, remove, List.filter_filter]
  congr 1
  apply List.filter_congr
  rintro ⟨n, d⟩ _
  by_cases hn : n = other
  · subst hn; simp [h]
  · simp [hn]

theorem remove_fst_eq_none {config : Scfg} {name : String} : (remove config name).1 = none ↔ named config name = [] := by
  simp [remove]

theorem remove_fst_eq_some {config : Scfg} {name : String} {ds : List Directive} :
    (remove config name).1 = some ds ↔ ds = named config name ∧ named config name ≠ [] := by
  by_cases h : named config name = []
  · simp [remove, h]
  · simp only [remove, List.isEmpty_iff, h, ↓reduceIte, Option.some.injEq, ne_eq, not_false_eq_true, and_true]
    exact eq_comm

@[simp] theorem named_add_self (config : Scfg) (name : String) (d : Directive) :
    named (add config name d) name = named config name ++ [d] := by
  simp [add, named_append, named_cons]

theorem named_add_ne (config : Scfg) {name other : String} (h : other ≠ name) (d : Directive) :
    named (add config name d) other = named config other := by
  simp [add, named_append, named_cons, Ne.symm h]

end Scfg

/-! ## `scfg_util` -/

/-- `flatten_single_vec`. -/
def flattenSingleVec {α : Type} : List α → Option α
  | [a] => some a
  | _ => none

/-- `take_single_directive`. -/
def takeSingleDirective (config : Scfg) (name : String) : Except Error (Option Directive × Scfg) :=
  match config.remove name with
  | (none, rest) => .ok (none, rest)
  | (some [directive], rest) => .ok (some directive, rest)
  | (some _, _) => bail s!"{name} may only be specified once per block."

/-- `take_single_param`. The parameters are taken out; what is left of the directive is its block. -/
def takeSingleParam (directive : Directive) : Except Error String :=
  match directive.params with
  | [] => bail "a parameter must be specified"
  | [param] => .ok param
  | _ => bail "no more than one parameter must be specified"

/-- `take_single_param_from_directive`. -/
def takeSingleParamFromDirective (config : Scfg) (name : String) : Except Error (String × Scfg) := do
  let (directive, rest) ← takeSingleDirective config name
  let directive ← orContext s!"directive {name} not found" directive
  let param ← context s!"Parsing directive {name}" (takeSingleParam directive)
  return (param, rest)

/-- Taking a directive succeeds when there is at most one, and takes just that. -/
theorem takeSingleDirective_eq_ok {config rest : Scfg} {name : String} {d : Option Directive} :
    takeSingleDirective config name = .ok (d, rest) ↔
      config.named name = d.toList ∧ rest = (config.remove name).2 := by
  rcases h : config.remove name with ⟨_ | ds, r⟩
  · have hn := Scfg.remove_fst_eq_none.mp (congrArg Prod.fst h)
    simp only [takeSingleDirective, h, hn, Except.ok.injEq, Prod.mk.injEq]
    cases d <;> simp [eq_comm]
  · obtain ⟨rfl, hn⟩ := Scfg.remove_fst_eq_some.mp (congrArg Prod.fst h)
    match hl : config.named name, hn with
    | [x], _ =>
      simp only [takeSingleDirective, h, hl, Except.ok.injEq, Prod.mk.injEq]
      cases d <;> simp [eq_comm]
    | x :: y :: xs, _ =>
      simp only [takeSingleDirective, h, hl, bail, reduceCtorEq, false_iff, not_and]
      cases d <;> simp

theorem takeSingleParam_eq_ok {d : Directive} {param : String} : takeSingleParam d = .ok param ↔ d.params = [param] := by
  unfold takeSingleParam bail
  split <;> simp_all

theorem takeSingleParamFromDirective_eq_ok {config rest : Scfg} {name param : String} :
    takeSingleParamFromDirective config name = .ok (param, rest) ↔
      (∃ child, config.named name = [⟨[param], child⟩]) ∧ rest = (config.remove name).2 := by
  simp only [takeSingleParamFromDirective, bind_eq_ok, orContext_eq_ok, context_eq_ok, takeSingleParam_eq_ok,
    Prod.exists, takeSingleDirective_eq_ok]
  constructor
  · rintro ⟨_, _, ⟨hn, rfl⟩, ⟨p, child⟩, rfl, _, rfl, h⟩
    cases h
    exact ⟨⟨child, hn⟩, rfl⟩
  · rintro ⟨⟨child, hn⟩, rfl⟩
    exact ⟨some ⟨[param], child⟩, _, ⟨hn, rfl⟩, _, rfl, _, rfl, rfl⟩

end Pimsync
