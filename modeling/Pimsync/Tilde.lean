import Pimsync.Path

/-!
# The tilde

`expand_tilde` looks at the first two characters of a path, `~` and `/`, and joins what follows to the home directory.

- `firstTilde_iff`: the paths whose first component is the tilde;
- `parts_expanded`: the components of a path that is expanded;
- `expandTilde_expands_iff`: when the home directory takes the place of the tilde.
-/

namespace Pimsync

open LexPath

variable {home path : String} {rest : List Char}

/-- The first component of the path is the tilde. -/
def FirstTilde (path : String) : Prop := (parts path.toList).head? = some (.normal ['~'])

/-- The home directory takes the place of a first component that is the tilde; other paths stay as they are. -/
def ExpandsTilde (home path : String) (r : Except Fault String) : Prop :=
  ∃ expanded, r = .ok expanded ∧
    (FirstTilde path → parts expanded.toList = parts home.toList ++ (parts path.toList).tail) ∧
    (¬ FirstTilde path → expanded = path)

/-- **The tilde is the first component** of a path if it is the path, or stands before its first slash. -/
theorem firstTilde_iff : FirstTilde path ↔ path.toList = ['~'] ∨ ∃ rest, path.toList = '~' :: '/' :: rest := by
  rw [FirstTilde, head?_parts (by decide) (by decide) (by decide)]
  constructor
  · intro h
    obtain ⟨-, hpath⟩ := firstSegment_cases path.toList
    rw [h] at hpath
    exact hpath
  · rintro (h | ⟨rest, h⟩)
    · rw [h]
      rfl
    · rw [h]
      rfl

theorem parts_tilde_slash : parts ('~' :: '/' :: rest) = .normal ['~'] :: (components rest).map Component.of := by
  have hcomponents : components (['~'] ++ '/' :: rest) = ['~'] :: components rest :=
    components_segment (by decide) (by decide) (by decide)
  have hparts : parts ('~' :: '/' :: rest) = (components (['~'] ++ '/' :: rest)).map Component.of := rfl
  rw [hparts, hcomponents]
  rfl

/-! ## What is expanded -/

theorem expandTilde_slash (h : path.toList = '~' :: '/' :: rest) :
    expandTilde (.dir home) path = .ok (pathJoin home (String.ofList rest)) := by
  rw [expandTilde, h]
  rfl

theorem expandTilde_other (h : ∀ rest, path.toList ≠ '~' :: '/' :: rest) : expandTilde (.dir home) path = .ok path := by
  rw [expandTilde]
  split
  · next rest heq => exact absurd heq (h rest)
  · rfl

/-- **The components of a path that is expanded**: those of the home directory and those after the tilde, unless another
slash follows. -/
theorem parts_expanded (hhome : home.toList.head? = some '/') :
    parts (pathJoin home (String.ofList rest)).toList = parts home.toList ++ (components rest).map Component.of ↔
      (rest.head? = some '/' → parts home.toList = [.rootDir]) := by
  rw [pathJoin_toList, String.toList_ofList]
  by_cases hslash : rest.head? = some '/'
  · -- the rest is absolute, so it takes the place of the home directory
    obtain ⟨rest', rfl⟩ := List.head?_eq_some_iff.mp hslash
    have hjoin : join home.toList ('/' :: rest') = '/' :: rest' := if_pos rfl
    have hparts : parts ('/' :: rest') = [.rootDir] ++ (components ('/' :: rest')).map Component.of := by
      rw [parts_slash, components_slash]
      rfl
    rw [hjoin, hparts, List.append_left_inj, eq_comm]
    exact (imp_iff_right hslash).symm
  · exact iff_of_true (parts_join hhome hslash) fun h => absurd h hslash

/-- **When the home directory takes the place of the tilde**: there is a slash after the tilde, and no other one after
that, or the home directory is the root. -/
theorem expandTilde_expands_iff (hhome : home.toList.head? = some '/') (path : String) :
    ExpandsTilde home path (expandTilde (.dir home) path) ↔
      path ≠ "~" ∧ (['~', '/', '/'] <+: path.toList → parts home.toList = [.rootDir]) := by
  by_cases hslash : ∃ rest, path.toList = '~' :: '/' :: rest
  · obtain ⟨rest, hrest⟩ := hslash
    have hfirst : FirstTilde path := firstTilde_iff.mpr (.inr ⟨rest, hrest⟩)
    have hne : path ≠ "~" := by
      rintro rfl
      cases hrest
    have hstart : ['~', '/', '/'] <+: path.toList ↔ rest.head? = some '/' := by
      rw [hrest, List.cons_prefix_cons, List.cons_prefix_cons, List.head?_eq_some_iff]
      exact ⟨fun ⟨_, _, t, ht⟩ => ⟨t, ht.symm⟩, fun ⟨t, ht⟩ => ⟨rfl, rfl, t, ht.symm⟩⟩
    rw [hstart, ← parts_expanded hhome, expandTilde_slash hrest, ExpandsTilde, hrest, parts_tilde_slash, List.tail_cons]
    constructor
    · rintro ⟨expanded, hok, hexpands, -⟩
      cases hok
      exact ⟨hne, hexpands hfirst⟩
    · rintro ⟨-, hexpands⟩
      exact ⟨_, rfl, fun _ => hexpands, fun hother => absurd hfirst hother⟩
  · have hother : ∀ rest, path.toList ≠ '~' :: '/' :: rest := fun rest hrest => hslash ⟨rest, hrest⟩
    rw [expandTilde_other hother]
    by_cases halone : path.toList = ['~']
    · have hpath : path = "~" := String.toList_inj.mp halone
      refine iff_of_false ?_ fun h => h.1 hpath
      rintro ⟨expanded, hok, hexpands, -⟩
      cases hok
      -- the tilde alone is no path from the root
      have hparts := congrArg List.head? (hexpands (firstTilde_iff.mpr (.inl halone)))
      have hroot : (parts home.toList).head? = some .rootDir := by
        rw [parts, if_pos hhome]
        rfl
      rw [List.head?_append, hroot, halone] at hparts
      cases hparts
    · have hfirst : ¬ FirstTilde path := by
        rw [firstTilde_iff]
        exact fun h => h.elim halone hslash
      refine iff_of_true ⟨path, rfl, fun h => absurd h hfirst, fun _ => rfl⟩ ⟨?_, ?_⟩
      · rintro rfl
        exact halone rfl
      · rintro ⟨t, ht⟩
        exact absurd ht.symm (hother _)

/-- A path in the home directory. -/
theorem expandTilde_expands_calendars :
    ExpandsTilde "/home/alice" "~/calendars" (expandTilde (.dir "/home/alice") "~/calendars") := by
  refine (expandTilde_expands_iff rfl "~/calendars").mpr ⟨by decide, ?_⟩
  decide

/-- The tilde alone is not expanded, and the home directory is lost if two slashes follow it. -/
theorem expandTilde_tilde : ¬ ExpandsTilde "/home/alice" "~" (expandTilde (.dir "/home/alice") "~") ∧
    ¬ ExpandsTilde "/home/alice" "~//etc" (expandTilde (.dir "/home/alice") "~//etc") := by
  have hfirst : FirstTilde "~" ∧ FirstTilde "~//etc" :=
    ⟨firstTilde_iff.mpr (.inl rfl), firstTilde_iff.mpr (.inr ⟨['/', 'e', 't', 'c'], rfl⟩)⟩
  constructor
  · rintro ⟨expanded, hok, hexpands, -⟩
    cases hok
    exact absurd (hexpands hfirst.1) (by decide)
  · rintro ⟨expanded, hok, hexpands, -⟩
    have hexpanded : expanded = "/etc" := by
      cases hok
      decide
    subst hexpanded
    exact absurd (hexpands hfirst.2) (by decide)

end Pimsync
