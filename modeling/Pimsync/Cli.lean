import Mathlib.Data.List.Basic

/-!
# Names given on the command line

`FilterNames` is a set of names to look for; without one, every name is wanted. The set is a list whose order stands for
the iteration order of the `HashSet`. `asked` is the set that the sub-parsers of `Cli::parse` push.
-/

namespace Pimsync

/-- `FilterNames`. -/
structure FilterNames where
  names : Option (List String)

namespace FilterNames

/-- `FilterNames::new`. -/
def new : FilterNames := ⟨none⟩

/-- `FilterNames::push`. -/
def push (filter : FilterNames) (name : String) : FilterNames :=
  let set := filter.names.getD []
  if name ∈ set then ⟨some set⟩ else ⟨some (set ++ [name])⟩

/-- `FilterNames::wants`: a name that was asked for is wanted once. -/
def wants (filter : FilterNames) (name : String) : Bool × FilterNames :=
  match filter.names with
  | some set => (name ∈ set, ⟨some (set.filter (· ≠ name))⟩)
  | none => (true, filter)

/-- `FilterNames::next_missing`. -/
def nextMissing (filter : FilterNames) : Option String := filter.names.bind List.head?

/-- `name` is one of the names to load: it was asked for, or none was. -/
def Selects (filter : FilterNames) (name : String) : Prop := ∀ set, filter.names = some set → name ∈ set

theorem wants_fst {filter : FilterNames} {name : String} : (filter.wants name).1 = true ↔ filter.Selects name := by
  obtain ⟨_ | set⟩ := filter <;> simp [wants, Selects]

theorem wants_none {filter : FilterNames} (h : filter.names = none) (name : String) :
    filter.wants name = (true, filter) := by
  simp [wants, h]

theorem wants_some {filter : FilterNames} {set : List String} (h : filter.names = some set) (name : String) :
    filter.wants name = (decide (name ∈ set), ⟨some (set.filter (· ≠ name))⟩) := by
  simp [wants, h]

/-- Nothing is missing if and only if no name is left to look for. -/
theorem nextMissing_eq_none {filter : FilterNames} :
    filter.nextMissing = none ↔ ∀ set, filter.names = some set → set = [] := by
  obtain ⟨_ | set⟩ := filter <;> simp [nextMissing]

/-! ## The names of a command line -/

/-- What the sub-parsers make of the names on the command line: each is pushed in its turn. -/
def asked (names : List String) : FilterNames := names.foldl push new

/-- A pushed name is looked for, and so is what was before. -/
theorem push_names (filter : FilterNames) (name : String) : ∃ set, (filter.push name).names = some set ∧
    ∀ other, other ∈ set ↔ other ∈ filter.names.getD [] ∨ other = name := by
  by_cases h : name ∈ filter.names.getD []
  · refine ⟨filter.names.getD [], by simp [push, h], fun other => ?_⟩
    refine ⟨.inl, ?_⟩
    rintro (ho | rfl)
    · exact ho
    · exact h
  · exact ⟨filter.names.getD [] ++ [name], by simp [push, h], fun other => by simp⟩

theorem foldl_push_names : ∀ (names : List String) {filter : FilterNames} {set : List String}, filter.names = some set →
    ∃ set', (names.foldl push filter).names = some set' ∧ ∀ other, other ∈ set' ↔ other ∈ set ∨ other ∈ names
  | [], filter, set, h => ⟨set, h, fun other => by simp⟩
  | name :: names, filter, set, h => by
    obtain ⟨set₁, h₁, hmem₁⟩ := push_names filter name
    obtain ⟨set₂, h₂, hmem₂⟩ := foldl_push_names names h₁
    refine ⟨set₂, h₂, fun other => ?_⟩
    rw [hmem₂, hmem₁, h, List.mem_cons, or_assoc]
    rfl

/-- The names asked for are looked for, whatever their order and however often each is given. -/
theorem asked_names {names : List String} (h : names ≠ []) :
    ∃ set, (asked names).names = some set ∧ ∀ other, other ∈ set ↔ other ∈ names := by
  cases names with
  | nil => exact absurd rfl h
  | cons name names =>
    obtain ⟨set, h₁, hmem₁⟩ := push_names new name
    obtain ⟨set', h', hmem⟩ := foldl_push_names names h₁
    refine ⟨set', h', fun other => ?_⟩
    rw [hmem, hmem₁, List.mem_cons]
    simp [new]

end FilterNames

end Pimsync
