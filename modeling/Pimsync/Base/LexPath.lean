import Mathlib.Data.List.DropRight

/-!
# Paths, component by component

- `join`: a path under a base, as the source's paths are joined;
- `resolve`: the components of a path, without `.` and with every `..` resolved lexically, the last component first;
- `resolve_join_append`: what follows a slash is resolved from where the part before it leads;
- `DirectlyInside`: a path is that of a directory and one more component;
- `parts`: the components of a path, first to last, with every `..` as it is written.
-/

namespace LexPath

/-- An absolute path takes the place of the base. -/
def join (base path : List Char) : List Char :=
  if path.head? = some '/' then path
  else if base = [] ∨ base.getLast? = some '/' then base ++ path
  else base ++ '/' :: path

def components (path : List Char) : List (List Char) := (path.splitOn '/').filter fun c => c ≠ [] ∧ c ≠ ['.']

def IsParent (c : List Char) : Prop := c = ['.', '.']

instance : DecidablePred IsParent := fun c => inferInstanceAs (Decidable (c = ['.', '.']))

/-- One component more. There is nothing above the root. -/
def push (absolute : Bool) (parts : List (List Char)) (c : List Char) : List (List Char) :=
  if IsParent c then
    match parts with
    | [] => if absolute then [] else [c]
    | last :: rest => if IsParent last then c :: last :: rest else rest
  else c :: parts

/-- Whether a path is absolute, and its components, the last one first. -/
abbrev Resolved := Bool × List (List Char)

def Resolved.extend (r : Resolved) (cs : List (List Char)) : Resolved := (r.1, cs.foldl (push r.1) r.2)

def resolve (path : List Char) : Resolved := Resolved.extend (path.head? = some '/', []) (components path)

/-- The path is that of the directory and one more component. -/
def DirectlyInside (dir path : List Char) : Prop :=
  ∃ file, ¬ IsParent file ∧ resolve path = ((resolve dir).1, file :: (resolve dir).2)

variable {base dir file path rest : List Char}

/-- What may stand before a relative path. -/
def IsPrefix (path : List Char) : Prop := path = [] ∨ path.getLast? = some '/'

theorem components_append (h : IsPrefix path) : components (path ++ rest) = components path ++ components rest := by
  obtain rfl | h := h
  · simp [components]
  · obtain ⟨start, rfl⟩ := List.getLast?_eq_some_iff.mp h
    have hlast : components (start ++ ['/']) = components start := by
      simp [components, List.splitOn_append_cons_self, List.filter_append]
    rw [hlast, List.append_assoc, List.singleton_append, components, List.splitOn_append_cons_self, List.filter_append]
    rfl

/-- A path without slashes is its own component. -/
theorem components_file (h : '/' ∉ file) (hne : file ≠ []) (hdot : file ≠ ['.']) : components file = [file] := by
  simp [components, List.splitOn_eq_singleton h, hne, hdot]

theorem resolve_append (h : IsPrefix path) (hrest : rest.head? ≠ some '/') :
    resolve (path ++ rest) = (resolve path).extend (components rest) := by
  have habsolute : (path ++ rest).head? = some '/' ↔ path.head? = some '/' := by
    cases path with
    | nil => simp [hrest]
    | cons => simp
  simp only [resolve, Resolved.extend, components_append h, List.foldl_append, habsolute]

/-- A prefix of a path can be joined first. -/
theorem join_append (h : IsPrefix dir) (hrest : rest.head? ≠ some '/') :
    join base (dir ++ rest) = join base dir ++ rest ∧ IsPrefix (join base dir) := by
  have hhead : (dir ++ rest).head? = some '/' ↔ dir.head? = some '/' := by
    cases dir with
    | nil => simp [hrest]
    | cons => simp
  by_cases habsolute : dir.head? = some '/'
  · rw [join, if_pos (hhead.mpr habsolute), join, if_pos habsolute]
    exact ⟨rfl, h⟩
  · rw [join, if_neg (mt hhead.mp habsolute), join, if_neg habsolute]
    by_cases hbase : base = [] ∨ base.getLast? = some '/'
    · rw [if_pos hbase, if_pos hbase, List.append_assoc]
      refine ⟨rfl, ?_⟩
      obtain rfl | hlast := h
      · simpa [IsPrefix] using hbase
      · exact .inr (by simp [hlast])
    · rw [if_neg hbase, if_neg hbase, List.append_assoc]
      refine ⟨rfl, .inr ?_⟩
      obtain rfl | hlast := h
      · simp
      · simp [List.getLast?_cons, hlast]

/-- **What comes after a slash** is resolved from where the part before it leads. -/
theorem resolve_join_append (h : IsPrefix dir) (hrest : rest.head? ≠ some '/') :
    resolve (join base (dir ++ rest)) = (resolve (join base dir)).extend (components rest) := by
  obtain ⟨hjoin, hprefix⟩ : join base (dir ++ rest) = _ ∧ IsPrefix (join base dir) := join_append h hrest
  rw [hjoin, resolve_append hprefix hrest]

theorem components_join_nil : components (join base []) = components base := by
  rw [join, if_neg (by simp)]
  split
  · rw [List.append_nil]
  · simp [components, List.splitOn_append_cons_self, List.filter_append]

theorem head?_join_nil (h : base ≠ []) : (join base []).head? = base.head? := by
  cases base with
  | nil => exact absurd rfl h
  | cons c base =>
    rw [join, if_neg (by simp)]
    split
    · rw [List.append_nil]
    · rfl

/-- Nothing leads nowhere. -/
theorem resolve_join_nil : resolve (join base []) = resolve base := by
  cases base with
  | nil => rfl
  | cons c base => rw [resolve, resolve, components_join_nil, head?_join_nil (List.cons_ne_nil _ _)]

/-! ## Directory and file -/

/-- The part of a path up to its last slash. -/
def dirPart (path : List Char) : List Char := path.rdropWhile (· ≠ '/')

/-- The part of a path after its last slash. -/
def filePart (path : List Char) : List Char := path.rtakeWhile (· ≠ '/')

theorem dirPart_append_filePart : dirPart path ++ filePart path = path := List.rdropWhile_append_rtakeWhile

theorem slash_notMem_filePart : '/' ∉ filePart path := fun h => by simpa using List.mem_rtakeWhile_imp h

theorem isPrefix_dirPart : IsPrefix (dirPart path) := by
  by_cases h : dirPart path = []
  · exact .inl h
  · have hlast := List.rdropWhile_last_not _ path h
    refine .inr ?_
    rw [List.getLast?_eq_some_getLast h, Option.some_inj]
    exact Classical.not_not.mp (mt decide_eq_true hlast)

/-- Where there is no slash, a path is a file. -/
theorem dirPart_eq_nil (h : '/' ∉ path) : dirPart path = [] := by
  rw [dirPart, List.rdropWhile_eq_nil_iff]
  rintro c hc
  simpa using fun hslash : c = '/' => h (hslash ▸ hc)

theorem filePart_eq_self (h : '/' ∉ path) : filePart path = path := by
  rw [filePart, List.rtakeWhile_eq_self_iff]
  rintro c hc
  simpa using fun hslash : c = '/' => h (hslash ▸ hc)

/-! ## Components in their order -/

inductive Component
  | rootDir
  | curDir
  | parentDir
  | normal (name : List Char)
  deriving DecidableEq

/-- What stands between two slashes. -/
def Component.of (c : List Char) : Component := if IsParent c then .parentDir else .normal c

/-- What stands before the first slash. -/
def firstSegment (path : List Char) : List Char := path.takeWhile (· ≠ '/')

/-- The components of a path, the first one first. A `.` is one only at the start. -/
def parts (path : List Char) : List Component :=
  (if path.head? = some '/' then [.rootDir] else if firstSegment path = ['.'] then [.curDir] else []) ++
    (components path).map Component.of

theorem components_slash : components ('/' :: rest) = components rest := by
  have h : components (['/'] ++ rest) = components ['/'] ++ components rest := components_append (.inr rfl)
  exact h

theorem components_segment (h : '/' ∉ file) (hne : file ≠ []) (hdot : file ≠ ['.']) :
    components (file ++ '/' :: rest) = file :: components rest := by
  rw [components, List.splitOn_append_cons_self, List.filter_append, ← components, ← components, components_file h hne hdot]
  rfl

theorem parts_slash : parts ('/' :: rest) = .rootDir :: (components rest).map Component.of := by
  rw [parts, components_slash]
  rfl

/-- A relative path under an absolute one follows it. -/
theorem parts_join (hbase : base.head? = some '/') (hrest : rest.head? ≠ some '/') :
    parts (join base rest) = parts base ++ (components rest).map Component.of := by
  have hne : base ≠ [] := by
    rintro rfl
    cases hbase
  obtain ⟨hjoin, hprefix⟩ : join base ([] ++ rest) = join base [] ++ rest ∧ IsPrefix (join base []) :=
    join_append (.inl rfl) hrest
  have hhead : (join base [] ++ rest).head? = some '/' := by
    rw [List.head?_append, head?_join_nil hne, hbase]
    rfl
  rw [List.nil_append] at hjoin
  rw [parts, hjoin, if_pos hhead, components_append hprefix, components_join_nil, List.map_append, parts, if_pos hbase,
    List.append_assoc]

/-- A path is its first segment, or has a slash after it. -/
theorem firstSegment_cases (path : List Char) : '/' ∉ firstSegment path ∧
    (path = firstSegment path ∨ ∃ rest, path = firstSegment path ++ '/' :: rest) := by
  have hslash : '/' ∉ firstSegment path := fun h => by simpa using List.mem_takeWhile_imp h
  have hsplit : firstSegment path ++ path.dropWhile (· ≠ '/') = path := List.takeWhile_append_dropWhile
  refine ⟨hslash, ?_⟩
  cases hdrop : path.dropWhile (· ≠ '/') with
  | nil =>
    rw [hdrop, List.append_nil] at hsplit
    exact .inl hsplit.symm
  | cons c rest =>
    have hc : c = '/' := by
      have hhead := List.head?_dropWhile_not (fun c : Char => decide (c ≠ '/')) path
      rw [hdrop] at hhead
      simpa using hhead
    rw [hdrop, hc] at hsplit
    exact .inr ⟨rest, hsplit.symm⟩

theorem Component.of_eq_normal {c d : List Char} (h : ¬ IsParent c) : Component.of d = .normal c ↔ d = c := by
  rw [Component.of]
  split
  · next hd => exact iff_of_false (fun heq => by cases heq) fun heq => h (heq ▸ hd)
  · exact Component.normal.injEq .. ▸ Iff.rfl

/-- **The first component of a path** is its first segment, if that has no meaning of its own. -/
theorem head?_parts {c : List Char} (hne : c ≠ []) (hdot : c ≠ ['.']) (hparent : ¬ IsParent c) :
    (parts path).head? = some (.normal c) ↔ firstSegment path = c := by
  obtain ⟨hslash, hpath⟩ := firstSegment_cases path
  rw [parts]
  by_cases habsolute : path.head? = some '/'
  · have hnil : firstSegment path = [] := by
      obtain ⟨rest, rfl⟩ := List.head?_eq_some_iff.mp habsolute
      rfl
    rw [if_pos habsolute, hnil]
    exact iff_of_false (fun h => by cases h) (Ne.symm hne)
  · rw [if_neg habsolute]
    by_cases hcur : firstSegment path = ['.']
    · rw [if_pos hcur, hcur]
      exact iff_of_false (fun h => by cases h) (Ne.symm hdot)
    · rw [if_neg hcur, List.nil_append, List.head?_map]
      by_cases hnil : firstSegment path = []
      · have hempty : path = [] := by
          obtain h | ⟨rest, h⟩ := hpath
          · rwa [hnil] at h
          · rw [hnil] at h
            exact absurd (h ▸ rfl) habsolute
        rw [hnil, hempty]
        exact iff_of_false (fun h => by cases h) (Ne.symm hne)
      · have hcomponents : ∃ tail, components path = firstSegment path :: tail := by
          obtain h | ⟨rest, h⟩ := hpath
          · exact ⟨[], (congrArg components h).trans (components_file hslash hnil hcur)⟩
          · exact ⟨components rest, (congrArg components h).trans (components_segment hslash hnil hcur)⟩
        obtain ⟨tail, htail⟩ := hcomponents
        rw [htail, List.head?_cons, Option.map_some, Option.some_inj, Component.of_eq_normal hparent]

end LexPath
