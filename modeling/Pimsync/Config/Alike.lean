import Pimsync.Base.Matches
import Pimsync.Config.Pair

/-!
# Blocks that say the same

Directives are taken by their names. The order of directives with different names, and directives that nobody asks for, make
no difference in a block: such blocks are `Scfg.Same`.

- `byName_initStorage`, `byName_buildPair`: storages and pairs are made alike from blocks that are the same;
- `alike_resolveStorageCmds`: the same commands are run for them, and the blocks that are left are the same.
-/

namespace Pimsync

/-! ## Directives and blocks -/

/-- The names by which directives are looked for. -/
def directiveNames : List String :=
  ["status_path", "pair", "storage", "storage_a", "storage_b", "collections", "collection", "alias", "id_a", "href_a", "id_b",
    "href_b", "on_empty", "on_delete", "conflict_resolution", "one_way", "type", "interval", "read_only", "path", "encoding",
    "fileext", "url", "collection_id_segment", "socket", "username", "password", "user_agent", "tls_root", "tls_fingerprint",
    "auth_cert", "collection_id", "cmd", "shell"]

/-- The same parameters, and blocks that say the same under each name. -/
inductive Directive.Same : Directive → Directive → Prop
  | plain (params : List String) : Same ⟨params, none⟩ ⟨params, none⟩
  | block (params : List String) (c c' : Scfg) :
      (∀ name ∈ directiveNames, List.Forall₂ Directive.Same (Scfg.named c name) (Scfg.named c' name)) →
      Same ⟨params, some c⟩ ⟨params, some c'⟩

/-- The blocks say the same under each name. -/
def Scfg.Same (c c' : Scfg) : Prop :=
  ∀ name ∈ directiveNames, List.Forall₂ Directive.Same (c.named name) (c'.named name)

variable {d d' : Directive} {c c' : Scfg} {name : String}

theorem Directive.Same.params (h : d.Same d') : d.params = d'.params := by cases h <;> rfl

theorem Directive.Same.child (h : d.Same d') : Option.Rel Scfg.Same d.child d'.child := by
  cases h with
  | plain => exact .none
  | block _ _ _ h => exact .some h

theorem Scfg.Same.remove (h : c.Same c') (name : String) : (c.remove name).2.Same (c'.remove name).2 := by
  intro other hother
  by_cases hn : other = name
  · rw [hn, named_remove_self, named_remove_self]
    exact .nil
  · rw [named_remove_ne _ hn, named_remove_ne _ hn]
    exact h other hother

theorem Scfg.Same.add (h : c.Same c') (name : String) (hd : d.Same d') : (c.add name d).Same (c'.add name d') := by
  intro other hother
  by_cases hn : other = name
  · rw [hn, named_add_self, named_add_self]
    exact List.rel_append (hn ▸ h other hother) (.cons hd .nil)
  · rw [named_add_ne _ hn, named_add_ne _ hn]
    exact h other hother

mutual

/-- A directive says what it says. -/
theorem Directive.Same.refl : ∀ d : Directive, d.Same d
  | ⟨params, none⟩ => .plain params
  | ⟨params, some c⟩ => .block params c c fun name _ => Scfg.named_same c name

theorem Scfg.named_same : ∀ (c : Scfg) (name : String), List.Forall₂ Directive.Same (c.named name) (c.named name)
  | [], _ => .nil
  | (n, d) :: c, name => by
    rw [Scfg.named_cons]
    split
    · exact .cons (Directive.Same.refl d) (Scfg.named_same c name)
    · exact Scfg.named_same c name

end

theorem Scfg.Same.refl (c : Scfg) : c.Same c := fun name _ => c.named_same name

theorem Scfg.Same.cons (name : String) (hd : d.Same d') (h : c.Same c') : Scfg.Same ((name, d) :: c) ((name, d') :: c') := by
  intro other hother
  rw [Scfg.named_cons, Scfg.named_cons]
  split
  · exact .cons hd (h other hother)
  · exact h other hother

/-- Directives with different names may change places. -/
theorem Scfg.same_swap {name' : String} (hne : name ≠ name') (d d' : Directive) (c : Scfg) :
    Scfg.Same ((name, d) :: (name', d') :: c) ((name', d') :: (name, d) :: c) := by
  intro other _
  have hnamed : Scfg.named ((name, d) :: (name', d') :: c) other = Scfg.named ((name', d') :: (name, d) :: c) other := by
    simp only [Scfg.named_cons]
    split_ifs with h h'
    · exact absurd (h.trans h'.symm) hne
    · rfl
    · rfl
    · rfl
  rw [hnamed]
  exact Scfg.named_same _ other

/-- A directive that nobody asks for may be there, or not. -/
theorem Scfg.same_ignored (hname : name ∉ directiveNames) (d : Directive) (c : Scfg) : Scfg.Same ((name, d) :: c) c := by
  intro other hother
  have hne : name ≠ other := by
    rintro rfl
    exact hname hother
  rw [Scfg.named_cons, if_neg hne]
  exact c.named_same other

/-! ## Taking directives -/

theorem Directive.Same.takeSingleParam (h : d.Same d') : Pimsync.takeSingleParam d = Pimsync.takeSingleParam d' := by
  rw [Pimsync.takeSingleParam, Pimsync.takeSingleParam, h.params]

theorem Scfg.Same.removed (h : c.Same c') (hn : name ∈ directiveNames) :
    Option.Rel (List.Forall₂ Directive.Same) (c.remove name).1 (c'.remove name).1 := by
  have hnamed := h name hn
  simp only [Scfg.remove]
  generalize c.named name = ds, c'.named name = ds' at hnamed
  cases hnamed with
  | nil => exact .none
  | cons hd hds => exact .some (.cons hd hds)

theorem Scfg.Same.takeSingleDirective (h : c.Same c') (hn : name ∈ directiveNames) :
    Prog.SameEnd (fun x y => Option.Rel Directive.Same x.1 y.1 ∧ x.2.Same y.2) (Pimsync.takeSingleDirective c name)
      (Pimsync.takeSingleDirective c' name) := by
  have hremoved := h.removed hn
  have hrest := h.remove name
  unfold Pimsync.takeSingleDirective
  generalize c.remove name = r, c'.remove name = r' at hremoved hrest
  obtain ⟨ds, rest⟩ := r
  obtain ⟨ds', rest'⟩ := r'
  cases hremoved with
  | none => exact .ok ⟨.none, hrest⟩
  | some hds =>
    cases hds with
    | nil => exact .error _
    | cons hd hds =>
      cases hds with
      | nil => exact .ok ⟨.some hd, hrest⟩
      | cons => exact .error _

/-- The one parameter of a directive is taken, and what is left. -/
theorem Scfg.Same.takeSingleParamFromDirective (h : c.Same c') (hn : name ∈ directiveNames) :
    Prog.SameEnd (fun x y => x.1 = y.1 ∧ x.2.Same y.2) (Pimsync.takeSingleParamFromDirective c name)
      (Pimsync.takeSingleParamFromDirective c' name) := by
  refine (h.takeSingleDirective hn).bind fun x y hxy => ?_
  obtain ⟨d, rest⟩ := x
  obtain ⟨d', rest'⟩ := y
  obtain ⟨hd, hrest⟩ := hxy
  cases hd with
  | none => exact .error _
  | some hd =>
    refine .bind (.ok hd) fun d d' hd => ?_
    rw [hd.takeSingleParam]
    exact (Prog.SameEnd.refl _).bind fun a b hab => .ok ⟨hab, hrest⟩

namespace Reader

variable {α β : Type} {V : α → β → Prop} {p : Reader α} {q : Reader β}

/-- Two parsers do the same with blocks that are the same. -/
abbrev ByName (V : α → β → Prop) (p : Reader α) (q : Reader β) : Prop := Prog.Matches V Scfg.Same Prog.AnyLog p q

theorem byName_lift {r : Except Error α} {r' : Except Error β} (h : Prog.SameEnd V r r') : ByName V (lift r) (lift r') :=
  Prog.matches_lift (h.mapError _)

theorem byName_bail (msg : String) : ByName V (bail msg) (bail msg) := Prog.matches_fail _

theorem ByName.context (h : ByName V p q) (msg : String) : ByName V (p.context msg) (q.context msg) := h.mapError _

theorem byName_take (hn : name ∈ directiveNames) :
    ByName (Option.Rel Directive.Same) (takeDirective name) (takeDirective name) := by
  intro c c' h
  have hend := h.takeSingleDirective hn
  unfold takeDirective
  generalize takeSingleDirective c name = r, takeSingleDirective c' name = r' at hend
  cases hend with
  | ok hd => exact ⟨.ok hd.1, hd.2, trivial⟩
  | error e => exact ⟨.error _, h, trivial⟩

/-- What is taken under a name, and what is done with it. -/
theorem byName_takeDirective {f : Option Directive → Reader α} {g : Option Directive → Reader β}
    (hn : name ∈ directiveNames) (hnone : ByName V (f none) (g none))
    (hsome : ∀ d d', d.Same d' → ByName V (f (some d)) (g (some d'))) :
    ByName V (takeDirective name >>= f) (takeDirective name >>= g) := by
  refine (byName_take hn).bind fun d d' hd => ?_
  cases hd with
  | none => exact hnone
  | some hd => exact hsome _ _ hd

theorem byName_remove (hn : name ∈ directiveNames) :
    ByName (Option.Rel (List.Forall₂ Directive.Same)) (Prog.ask fun config => config.remove name)
      (Prog.ask fun config => config.remove name) :=
  Prog.matches_ask fun _ _ h => ⟨h.removed hn, h.remove name⟩

theorem byName_takeParam (hn : name ∈ directiveNames) : ByName Eq (takeParam name) (takeParam name) := by
  refine byName_takeDirective hn (Prog.matches_pure rfl) fun d d' h => ?_
  refine (Prog.matches_emit trivial).bindEq fun _ => ?_
  rw [h.takeSingleParam]
  exact (byName_lift (.refl _)).bindEq fun _ => Prog.matches_pure rfl

theorem byName_takeParamFrom (hn : name ∈ directiveNames) : ByName Eq (takeParamFrom name) (takeParamFrom name) := by
  refine byName_takeDirective hn (byName_bail _) fun d d' h => ?_
  refine (Prog.matches_emit trivial).bindEq fun _ => ?_
  rw [h.takeSingleParam]
  exact (byName_lift (.refl _)).context _

/-! ## Storages -/

theorem byName_parseInterval : ByName Eq parseInterval parseInterval := by
  refine byName_takeDirective (by decide) (Prog.matches_pure rfl) fun d d' h => ?_
  simp only [h.takeSingleParam]
  exact ((byName_lift (.refl _)).context _).bindEq fun _ => (byName_lift (.refl _)).context _

theorem byName_parseCollectionIdSegment : ByName Eq parseCollectionIdSegment parseCollectionIdSegment := by
  refine byName_takeDirective (by decide) (Prog.matches_pure rfl) fun d d' h => ?_
  simp only [h.takeSingleParam]
  refine ((byName_lift (.refl _)).context _).bindEq fun param => ?_
  split
  · exact Prog.matches_pure rfl
  · exact Prog.matches_pure rfl
  · exact byName_bail _

theorem byName_parseFileext : ByName Eq parseFileext parseFileext := by
  refine byName_takeDirective (by decide) (Prog.matches_pure rfl) fun d d' h => ?_
  simp only [h.takeSingleParam]
  exact (byName_lift (.refl _)).bindEq fun _ => Prog.matches_pure rfl

theorem byName_parseReadOnly : ByName Eq parseReadOnly parseReadOnly := by
  refine byName_takeDirective (by decide) (Prog.matches_pure rfl) fun d d' h => ?_
  simp only [h.params]
  split
  · exact byName_bail _
  · exact Prog.matches_pure rfl

section Storages

variable {S : Type} (env : Outside S)

theorem byName_parseAuth : ByName Eq (parseAuth env) (parseAuth env) := by
  refine (byName_takeParam (by decide)).bindEq fun username => ?_
  cases username with
  | none => exact Prog.matches_pure rfl
  | some username =>
    exact (byName_takeParam (by decide)).bindEq fun _ => ((byName_lift (.refl _)).context _).bindEq fun _ =>
      Prog.matches_pure rfl

theorem byName_parseUserAgent : ByName Eq (parseUserAgent env) (parseUserAgent env) := by
  refine byName_takeDirective (by decide) (Prog.matches_pure rfl) fun d d' h => ?_
  simp only [h.params]
  split
  · exact byName_bail _
  · exact ((byName_lift (.refl _)).context _).bindEq fun _ => Prog.matches_pure rfl

theorem byName_parseTlsRoot : ByName Eq (parseTlsRoot env) (parseTlsRoot env) := by
  refine byName_takeDirective (by decide) (Prog.matches_pure rfl) fun d d' h => ?_
  simp only [h.takeSingleParam]
  exact ((byName_lift (.refl _)).context _).bindEq fun _ => (byName_lift (.refl _)).bindEq fun _ => Prog.matches_pure rfl

theorem byName_parseTlsFingerprint : ByName Eq (parseTlsFingerprint env) (parseTlsFingerprint env) := by
  refine byName_takeDirective (by decide) (Prog.matches_pure rfl) fun d d' h => ?_
  simp only [h.takeSingleParam]
  exact ((byName_lift (.refl _)).context _).bindEq fun _ => (byName_lift (.refl _)).bindEq fun _ => Prog.matches_pure rfl

theorem byName_parseAuthCert : ByName Eq (parseAuthCert env) (parseAuthCert env) := by
  refine byName_takeDirective (by decide) (Prog.matches_pure rfl) fun d d' h => ?_
  simp only [h.params]
  split
  · exact byName_bail _
  · exact (byName_lift (.refl _)).bindEq fun _ => Prog.matches_pure rfl

theorem byName_parseTlsConfig : ByName Eq (parseTlsConfig env) (parseTlsConfig env) :=
  (byName_parseTlsRoot env).bindEq fun _ => (byName_parseTlsFingerprint env).bindEq fun _ =>
    (byName_parseAuthCert env).bindEq fun _ => (byName_lift (.refl _)).bindEq fun _ => Prog.matches_pure rfl

theorem byName_proxyConnector (tls : TlsConfig) : ByName Eq (proxyConnector env tls) (proxyConnector env tls) := by
  unfold proxyConnector
  split
  · exact ((byName_lift (.refl _)).context _).bindEq fun _ => Prog.matches_pure rfl
  · exact Prog.matches_pure rfl

theorem byName_parseVdir (itemKind : ItemKind) (ro : Bool) :
    ByName Eq (parseVdir env itemKind ro) (parseVdir env itemKind ro) := by
  refine (byName_takeParamFrom (by decide)).bindEq fun path =>
    ((Prog.matches_lift (.refl _)).mapError _).bindEq fun path => ?_
  refine (byName_remove (by decide)).bind fun encoding encoding' hencoding => ?_
  cases hencoding with
  | some => exact byName_bail _
  | none => exact (byName_lift (.refl _)).bindEq fun _ => byName_parseFileext.bindEq fun _ => Prog.matches_pure rfl

/-- `parse_carddav` and `parse_caldav`. -/
theorem byName_parseDav (kind : String) (finish : Client → String → Option CollectionIdSegment → Bool → Except Fault S)
    (ro : Bool) : ByName Eq (parseDav env kind finish ro) (parseDav env kind finish ro) := by
  refine (byName_takeParamFrom (by decide)).bindEq fun url => ((byName_lift (.refl _)).context _).bindEq fun _ =>
    byName_parseCollectionIdSegment.bindEq fun segment => byName_takeDirective (by decide) ?_ fun d d' h => ?_
  · exact ((byName_parseAuth env).context _).bindEq fun _ => (byName_parseTlsConfig env).bindEq fun tls =>
      (byName_parseUserAgent env).bindEq fun _ => (byName_proxyConnector env tls).bindEq fun _ =>
        (Prog.matches_lift (.refl _)).bindEq fun _ => Prog.matches_pure rfl
  · simp only [h.takeSingleParam]
    exact ((byName_parseAuth env).context _).bindEq fun _ => ((byName_lift (.refl _)).context _).bindEq fun _ =>
      (byName_parseUserAgent env).bindEq fun _ => (Prog.matches_lift (.refl _)).bindEq fun _ => Prog.matches_pure rfl

theorem byName_parseWebcal : ByName Eq (parseWebcal env) (parseWebcal env) :=
  ((byName_takeParamFrom (by decide)).context _).bindEq fun _ => (byName_lift (.refl _)).bindEq fun _ =>
    ((byName_parseAuth env).context _).bindEq fun _ => (byName_parseTlsConfig env).bindEq fun tls =>
      (byName_parseUserAgent env).bindEq fun _ => (byName_takeParamFrom (by decide)).bindEq fun _ =>
        ((byName_lift (.refl _)).context _).bindEq fun _ => (byName_proxyConnector env tls).bindEq fun _ =>
          Prog.matches_pure rfl

theorem byName_parseJmap (itemKind : ItemKind) (ro : Bool) :
    ByName Eq (parseJmap env itemKind ro) (parseJmap env itemKind ro) :=
  (byName_takeParamFrom (by decide)).bindEq fun _ => ((byName_parseAuth env).context _).bindEq fun _ =>
    (byName_parseTlsConfig env).bindEq fun tls => (byName_parseUserAgent env).bindEq fun _ =>
      (byName_proxyConnector env tls).bindEq fun _ => (Prog.matches_lift (.refl _)).bindEq fun _ => Prog.matches_pure rfl

theorem byName_parseStorage (type_ : String) (ro : Bool) :
    ByName Eq (parseStorage env type_ ro) (parseStorage env type_ ro) := by
  unfold parseStorage
  split
  · exact byName_parseVdir env .calendar ro
  · exact byName_parseVdir env .addressBook ro
  · exact byName_parseDav env _ _ ro
  · exact byName_parseDav env _ _ ro
  · exact byName_parseWebcal env
  · exact byName_parseJmap env .calendar ro
  · exact byName_parseJmap env .addressBook ro
  · exact byName_bail _

/-- A storage is made alike from blocks that are the same. -/
theorem byName_initStorage : ByName Eq (initStorage env) (initStorage env) :=
  (byName_takeParamFrom (by decide)).bindEq fun type_ => byName_parseInterval.bindEq fun _ =>
    byName_parseReadOnly.bindEq fun ro => (byName_parseStorage env type_ ro).bindEq fun _ => Prog.matches_pure rfl

end Storages

/-! ## Pairs -/

/-- What becomes of a directive that there may be. -/
theorem mapM_same {β : Type} {f : Directive → Except Error β} (hf : ∀ d d', d.Same d' → f d = f d')
    {o o' : Option Directive} (h : Option.Rel Directive.Same o o') : o.mapM f = o'.mapM f := by
  cases h with
  | none => rfl
  | some h => simp only [Option.mapM_some, hf _ _ h]

theorem parseOnEmpty_same (d d' : Directive) (h : d.Same d') : parseOnEmpty d = parseOnEmpty d' := by
  rw [parseOnEmpty, parseOnEmpty, h.takeSingleParam]

theorem parseOnDelete_same (d d' : Directive) (h : d.Same d') : parseOnDelete d = parseOnDelete d' := by
  rw [parseOnDelete, parseOnDelete, h.takeSingleParam]

theorem parseConflictResolution_same (d d' : Directive) (h : d.Same d') :
    parseConflictResolution d = parseConflictResolution d' := by
  rw [parseConflictResolution, parseConflictResolution, h.params]

theorem byName_parseMode : ByName Eq parseMode parseMode := by
  refine byName_takeDirective (by decide) (Prog.matches_pure rfl) fun d d' h => ?_
  simp only [h.params]
  split
  · exact byName_bail _
  · exact Prog.matches_pure rfl

section Collection

variable (collectionId : String → Except Error Unit)

theorem parseIndividualCollection_same {id id' href href' : Option Directive} (hid : Option.Rel Directive.Same id id')
    (hhref : Option.Rel Directive.Same href href') :
    parseIndividualCollection collectionId id href = parseIndividualCollection collectionId id' href' := by
  cases hid with
  | none =>
    cases hhref with
    | none => rfl
    | some h => simp only [parseIndividualCollection, h.params]
  | some h =>
    cases hhref with
    | none => simp only [parseIndividualCollection, h.params]
    | some => rfl

theorem byName_parseCollectionBlock :
    ByName Eq (parseCollectionBlock collectionId) (parseCollectionBlock collectionId) := by
  refine (byName_takeParamFrom (by decide)).bindEq fun _ => (byName_take (by decide)).bind fun _ _ hidA =>
    (byName_take (by decide)).bind fun _ _ hhrefA => (byName_take (by decide)).bind fun _ _ hidB =>
      (byName_take (by decide)).bind fun _ _ hhrefB => ?_
  rw [parseIndividualCollection_same collectionId hidA hhrefA, parseIndividualCollection_same collectionId hidB hhrefB]
  exact (byName_lift (.refl _)).bindEq fun _ => (byName_lift (.refl _)).bindEq fun _ => Prog.matches_pure rfl

theorem byName_parseCollectionDirective (h : d.Same d') :
    ByName Eq (parseCollectionDirective collectionId d) (parseCollectionDirective collectionId d') := by
  have hchild := h.child
  obtain ⟨params, child⟩ := d
  obtain ⟨params', child'⟩ := d'
  obtain rfl : params = params' := h.params
  match params with
  | [] =>
    refine (byName_lift (V := Scfg.Same) ?_).bind fun c c' hc => Prog.matches_lift ?_
    · cases hchild with
      | none => exact .error _
      | some hc => exact .ok hc
    · exact (byName_parseCollectionBlock collectionId c c' hc).1
  | [_] => exact (byName_lift (.refl _)).bindEq fun _ => Prog.matches_pure rfl
  | _ :: _ :: _ => exact byName_bail _

theorem byName_parsePairCollections :
    ByName Eq (parsePairCollections collectionId) (parsePairCollections collectionId) := by
  have hgetD : ∀ {ds ds' : Option (List Directive)}, Option.Rel (List.Forall₂ Directive.Same) ds ds' →
      List.Forall₂ Directive.Same (ds.getD []) (ds'.getD []) := by
    rintro _ _ (h | _)
    · exact h
    · exact .nil
  refine (byName_remove (by decide)).bind fun plural plural' hplural =>
    (Prog.Matches.mapMEq (hgetD hplural) fun d d' h => ?_).bindEq fun named =>
      (byName_remove (by decide)).bind fun singular singular' hsingular =>
        (Prog.Matches.mapMEq (hgetD hsingular) fun d d' h => byName_parseCollectionDirective collectionId h).bindEq
          fun collections => Prog.matches_pure rfl
  rw [h.params]
  exact byName_lift (.refl _)

end Collection

/-- A pair is made alike from blocks that are the same. -/
theorem byName_buildPair {S : Type} (collectionId : String → Except Error Unit) (itemKind : S → ItemKind)
    (statusDir name : String) (names : String × String) (a b : S × Duration) :
    ByName Eq (buildPair collectionId itemKind statusDir name names a b)
      (buildPair collectionId itemKind statusDir name names a b) := by
  refine (byName_parsePairCollections collectionId).bindEq fun collections =>
    (byName_take (by decide)).bind fun _ _ hempty => ?_
  rw [mapM_same parseOnEmpty_same hempty]
  refine ((byName_lift (.refl _)).context _).bindEq fun _ => (byName_take (by decide)).bind fun _ _ hdelete => ?_
  rw [mapM_same parseOnDelete_same hdelete]
  refine ((byName_lift (.refl _)).context _).bindEq fun _ => (byName_take (by decide)).bind fun _ _ hresolution => ?_
  rw [mapM_same parseConflictResolution_same hresolution]
  refine (byName_lift (.refl _)).bindEq fun _ => byName_parseMode.bindEq fun _ => ?_
  split
  · exact byName_bail _
  · exact byName_bail _
  · exact Prog.matches_pure rfl
  · exact Prog.matches_pure rfl

end Reader

/-! ## Commands -/

/-- Two programs that act alike. -/
abbrev Alike {σ ε E α β : Type} (V : α → β → Prop) (p : Prog σ ε E α) (q : Prog σ ε E β) : Prop :=
  Prog.Matches V Eq Eq p q

theorem rawCmd_same (h : c.Same c') : rawCmd c = rawCmd c' := by
  refine Prog.sameEnd_eq.mp ((h.takeSingleDirective (by decide)).bind fun x y hxy => ?_)
  obtain ⟨cmd, rest⟩ := x
  obtain ⟨cmd', rest'⟩ := y
  obtain ⟨hcmd, hrest⟩ := hxy
  cases hcmd with
  | some hcmd =>
    simp only [hcmd.params]
    exact .refl _
  | none =>
    refine (hrest.takeSingleDirective (by decide)).bind fun x y hxy => ?_
    obtain ⟨shell, rest⟩ := x
    obtain ⟨shell', rest'⟩ := y
    cases hxy.1 with
    | none => exact .error _
    | some hshell =>
      simp only [hshell.params]
      exact .refl _

section Commands

variable {σ : Type} (exec : Exec σ)

theorem alike_resolveValue (name : String) (h : d.Same d') :
    Alike Eq (resolveValue exec name d) (resolveValue exec name d') := by
  have hchild := h.child
  obtain ⟨params, child⟩ := d
  obtain ⟨params', child'⟩ := d'
  obtain rfl : params = params' := h.params
  match params with
  | [] =>
    refine (Prog.matches_lift (V := Scfg.Same) ?_).bind fun c c' hc => ?_
    · cases hchild with
      | none => exact .error _
      | some hc => exact .ok hc
    · rw [rawCmd_same hc]
      exact .refl _
  | [_] => exact .refl _
  | _ :: _ :: _ => exact .refl _

theorem alike_resolveCmdInplace (h : c.Same c') (hn : name ∈ directiveNames) :
    Alike Scfg.Same (resolveCmdInplace exec c name) (resolveCmdInplace exec c' name) := by
  refine (Prog.matches_lift (h.takeSingleDirective hn)).bind fun x y hxy => ?_
  obtain ⟨d, rest⟩ := x
  obtain ⟨d', rest'⟩ := y
  obtain ⟨hd, hrest⟩ := hxy
  cases hd with
  | none => exact Prog.matches_pure hrest
  | some hd => exact (alike_resolveValue exec name hd).bindEq fun value => Prog.matches_pure (hrest.add name (.refl _))

theorem alike_resolveFields : ∀ {names : List String} {c c' : Scfg}, (∀ name ∈ names, name ∈ directiveNames) →
    c.Same c' → Alike Scfg.Same (resolveFields exec names c) (resolveFields exec names c')
  | [], _, _, _, h => Prog.matches_pure h
  | _ :: _, _, _, hnames, h =>
    ((alike_resolveCmdInplace exec h (hnames _ (List.mem_cons_self ..))).mapError _).bind fun _ _ h' =>
      alike_resolveFields (fun name hmem => hnames name (List.mem_cons_of_mem _ hmem)) h'

theorem storageType_same (h : c.Same c') : storageType c = storageType c' := by
  have hnamed := h "type" (by decide)
  simp only [storageType, Scfg.get]
  generalize c.named "type" = ds, c'.named "type" = ds' at hnamed
  cases hnamed with
  | nil => rfl
  | cons hd =>
    exact congrArg (fun params => orContext "type directive must specify one parameter" params.head?) hd.params

theorem dynamicFields_names {type_ : String} {fields : List String} (h : dynamicFields type_ = some fields) :
    ∀ name ∈ fields, name ∈ directiveNames := by
  unfold dynamicFields at h
  split at h <;> cases h <;> decide

theorem alike_resolveStorageCmds (h : c.Same c') :
    Alike Scfg.Same (resolveStorageCmds exec c) (resolveStorageCmds exec c') := by
  unfold resolveStorageCmds
  rw [storageType_same h]
  refine (Prog.matches_lift (.refl _)).bindEq fun type_ => ?_
  cases hfields : dynamicFields type_ with
  | none => exact Prog.matches_fail _
  | some fields => exact alike_resolveFields exec (dynamicFields_names hfields) h

end Commands

theorem initStorageOutcome_same {S : Type} (env : Outside S) (h : c.Same c') :
    initStorageOutcome env c = initStorageOutcome env c' := by
  rw [initStorageOutcome, initStorageOutcome, Prog.sameEnd_eq.mp (Reader.byName_initStorage env c c' h).1]

end Pimsync
