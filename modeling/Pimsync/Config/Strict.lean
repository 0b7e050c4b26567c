import Pimsync.Config.Directives

/-!
# Directives beside their documented form

`Documented` is the form that pimsync.conf(5) gives a directive, `Tolerates` lists what is accepted beside it.

- `rawCmd_isOk`, `collections_accepts_iff`, …: what is accepted of the directives that carry more than a value;
- `strict_iff`: a directive that is not documented is rejected if and only if it is not of a form that is tolerated.
-/

namespace Pimsync

variable {d : Directive}

/-! ## Commands -/

/-- The block has a command: one `cmd` that is not empty or, without a `cmd`, one `shell`. -/
def Scfg.Command (block : Scfg) : Prop :=
  (∃ c, block.named "cmd" = [c] ∧ c.params ≠ []) ∨ block.named "cmd" = [] ∧ ∃ c, block.named "shell" = [c]

theorem fromArgs_isSome {args : List String} : (∃ cmd, RawCommand.fromArgs args = some cmd) ↔ args ≠ [] := by
  cases args <;> simp [RawCommand.fromArgs]

theorem rawCmd_isOk {block : Scfg} : (∃ cmd, rawCmd block = .ok cmd) ↔ block.Command := by
  constructor
  · rintro ⟨cmd, h⟩
    obtain ⟨⟨c, rest⟩, h₁, h⟩ := bind_eq_ok.mp h
    obtain ⟨hc, rfl⟩ := takeSingleDirective_eq_ok.mp h₁
    cases c with
    | some c => exact .inl ⟨c, hc, fromArgs_isSome.mp ⟨cmd, orContext_eq_ok.mp h⟩⟩
    | none =>
      obtain ⟨⟨c, rest⟩, h₂, h⟩ := bind_eq_ok.mp h
      obtain ⟨hsh, -⟩ := takeSingleDirective_eq_ok.mp h₂
      rw [Scfg.named_remove_ne _ (by decide)] at hsh
      cases c with
      | some c => exact .inr ⟨hc, c, hsh⟩
      | none => cases h
  · rintro (⟨c, hc, hp⟩ | ⟨hc, c, hsh⟩)
    · obtain ⟨cmd, hcmd⟩ := fromArgs_isSome.mpr hp
      exact ⟨cmd, bind_eq_ok.mpr ⟨(some c, _), takeSingleDirective_eq_ok.mpr ⟨hc, rfl⟩, orContext_eq_ok.mpr hcmd⟩⟩
    · have hkept : (block.remove "cmd").2.named "shell" = [c] := (Scfg.named_remove_ne block (by decide)).trans hsh
      exact ⟨_, bind_eq_ok.mpr ⟨(none, _), takeSingleDirective_eq_ok.mpr ⟨hc, rfl⟩,
        bind_eq_ok.mpr ⟨(some c, _), takeSingleDirective_eq_ok.mpr ⟨hkept, rfl⟩, rfl⟩⟩⟩

/-- A dynamic directive is accepted with one value and any block, or with a block that has a command. -/
theorem dynamic_accepts_iff {name : String} : (Field.dynamic name).Accepts d ↔
    (d.OneValue fun _ => True) ∨ ∃ block, d = ⟨[], some block⟩ ∧ Scfg.Command block := by
  constructor
  · rintro ⟨σ, exec, s, storage, storage', hd, h⟩
    obtain ⟨⟨d', rest⟩, h₁, h⟩ := Prog.bind_result_ok.mp h
    obtain ⟨hn, -⟩ := takeSingleDirective_eq_ok.mp h₁
    rw [hn, Option.mem_toList] at hd
    obtain rfl : d' = some d := hd
    obtain ⟨value, hv, -⟩ := Prog.bind_result_ok.mp h
    obtain ⟨_ | ⟨v, _ | ⟨v', params⟩⟩, child⟩ := d
    · obtain ⟨block, hb, hv⟩ := Prog.bind_result_ok.mp hv
      obtain ⟨cmd, hcmd, -⟩ := Prog.bind_result_ok.mp hv
      obtain rfl : child = some block := orContext_eq_ok.mp hb
      exact .inr ⟨block, rfl, rawCmd_isOk.mp ⟨cmd, hcmd⟩⟩
    · exact .inl ⟨v, child, rfl, trivial⟩
    · cases hv
  · intro h
    have hvalue : ∃ value, (resolveValue printSecret name d ()).result = .ok value := by
      rcases h with ⟨v, child, rfl, -⟩ | ⟨block, rfl, hblock⟩
      · exact ⟨v, rfl⟩
      · obtain ⟨cmd, hcmd⟩ := rawCmd_isOk.mpr hblock
        have houtput : outputValue name (printSecret cmd ()).1 = .ok "secret" := by
          have htrim : trim "secret\n" = "secret" := rfl
          simp [outputValue, printSecret, htrim, bind, Except.bind, pure, Except.pure]
        exact ⟨"secret", Prog.bind_result_ok.mpr ⟨block, rfl, Prog.bind_result_ok.mpr ⟨cmd, hcmd,
          Prog.bind_result_ok.mpr ⟨_, rfl, houtput⟩⟩⟩⟩
    obtain ⟨value, hvalue⟩ := hvalue
    refine ⟨Unit, printSecret, (), [(name, d)], Scfg.add [] name ⟨[value], none⟩, ?_, ?_⟩
    · rw [Reader.named_single]; exact List.mem_singleton_self d
    · have htake : takeSingleDirective [(name, d)] name = .ok (some d, []) :=
        takeSingleDirective_eq_ok.mpr ⟨Reader.named_single name d, by simp [Scfg.remove]⟩
      exact Prog.bind_result_ok.mpr ⟨_, htake, Prog.bind_result_ok.mpr ⟨value, hvalue, rfl⟩⟩

theorem cmd_accepts_iff : Field.cmd.Accepts d ↔ d.params ≠ [] := by
  constructor
  · rintro ⟨block, cmd, hd, h⟩
    rcases rawCmd_isOk.mp ⟨cmd, h⟩ with ⟨c, hc, hp⟩ | ⟨hc, -⟩
    · rw [hc, List.mem_singleton] at hd
      exact hd ▸ hp
    · rw [hc] at hd; cases hd
  · intro h
    have hcommand : Scfg.Command [("cmd", d)] := .inl ⟨d, Reader.named_single "cmd" d, h⟩
    obtain ⟨cmd, hcmd⟩ := rawCmd_isOk.mpr hcommand
    exact ⟨_, cmd, by rw [Reader.named_single]; exact List.mem_singleton_self d, hcmd⟩

theorem shell_accepts : Field.shell.Accepts d := by
  have hcommand : Scfg.Command [("shell", d)] := .inr ⟨rfl, d, Reader.named_single "shell" d⟩
  obtain ⟨cmd, hcmd⟩ := rawCmd_isOk.mpr hcommand
  exact ⟨_, cmd, rfl, by rw [Reader.named_single]; exact List.mem_singleton_self d, hcmd⟩

/-! ## Collections -/

/-- A word without a space is joined from nothing but itself. -/
theorem joined_word {params : List String} {word : String} (hspace : ' ' ∉ word.toList) (hword : word ≠ "") :
    " ".intercalate params = word ↔ params = [word] := by
  constructor
  · intro h
    rcases params with _ | ⟨p, _ | ⟨q, params⟩⟩
    · exact absurd h.symm (by simpa using hword)
    · rw [String.intercalate_singleton] at h
      rw [h]
    · rw [String.intercalate_cons_cons] at h
      refine absurd ?_ hspace
      simp [← h]
  · rintro rfl
    exact String.intercalate_singleton

/-- Two words are joined from themselves, or from the text they make. -/
theorem joined_words {params : List String} {a b : String} (ha : ' ' ∉ a.toList) (hb : ' ' ∉ b.toList) (hword : b ≠ "") :
    " ".intercalate params = a ++ " " ++ b ↔ params = [a ++ " " ++ b] ∨ params = [a, b] := by
  constructor
  · intro h
    rcases params with _ | ⟨p, _ | ⟨q, params⟩⟩
    · have := congrArg String.toList h
      simp at this
    · rw [String.intercalate_singleton] at h
      exact .inl (by rw [h])
    · rw [String.intercalate_cons_cons] at h
      have hchars : p.toList ++ ' ' :: (" ".intercalate (q :: params)).toList = a.toList ++ ' ' :: b.toList := by
        simpa using congrArg String.toList h
      have hpa : p.toList = a.toList ∧ (" ".intercalate (q :: params)).toList = b.toList := by
        rcases List.append_eq_append_iff.mp hchars with ⟨x, hx, hrest⟩ | ⟨x, hx, hrest⟩
        · rcases x with _ | ⟨c, x⟩
          · exact ⟨by simpa using hx.symm, (List.cons.inj hrest).2⟩
          · obtain ⟨rfl, -⟩ := List.cons.inj hrest
            exact absurd (by rw [hx]; simp) ha
        · rcases x with _ | ⟨c, x⟩
          · exact ⟨by simpa using hx, (List.cons.inj hrest).2.symm⟩
          · have htail : b.toList = x ++ ' ' :: (" ".intercalate (q :: params)).toList := (List.cons.inj hrest).2
            exact absurd (by rw [htail]; simp) hb
      obtain rfl := String.toList_injective hpa.1
      have hrest := (joined_word hb hword).mp (String.toList_injective hpa.2)
      exact .inr (by rw [hrest])
  · rintro (rfl | rfl)
    · exact String.intercalate_singleton
    · rw [String.intercalate_cons_cons, String.intercalate_singleton]

/-- The values of `collections`, and the texts that are taken for them. -/
theorem joined_collections {params : List String} : (∃ c, parseCollectionsDirective (" ".intercalate params) = .ok c) ↔
    params ∈ [["all"], ["from", "a"], ["from", "b"], ["from a"], ["from b"]] := by
  have hall : " ".intercalate params = "all" ↔ params = ["all"] := joined_word (by decide) (by decide)
  have ha : " ".intercalate params = "from a" ↔ params = ["from a"] ∨ params = ["from", "a"] :=
    joined_words (a := "from") (b := "a") (by decide) (by decide) (by decide)
  have hb : " ".intercalate params = "from b" ↔ params = ["from b"] ∨ params = ["from", "b"] :=
    joined_words (a := "from") (b := "b") (by decide) (by decide) (by decide)
  unfold parseCollectionsDirective
  simp only [hall, ha, hb, List.mem_cons, List.not_mem_nil, or_false]
  constructor
  · rintro ⟨c, h⟩
    split at h
    · tauto
    split at h
    · tauto
    split at h
    · tauto
    · cases h
  · intro h
    split
    · exact ⟨_, rfl⟩
    split
    · exact ⟨_, rfl⟩
    split
    · exact ⟨_, rfl⟩
    · tauto

/-- A parser that goes through a list went through each of its entries. -/
theorem mapM_passes {α β : Type} {f : α → Reader β} : ∀ {l : List α} {config : Scfg} {r : List β},
    (l.mapM f config).result = .ok r → ∀ x ∈ l, ∃ config' y, (f x config').result = .ok y
  | [], _, _, _, _, hx => by cases hx
  | head :: l, config, r, h, x, hx => by
    rw [List.mapM_cons] at h
    obtain ⟨y, hy, h⟩ := Prog.bind_result_ok.mp h
    obtain ⟨ys, hys, -⟩ := Prog.bind_result_ok.mp h
    rcases List.mem_cons.mp hx with rfl | hx
    · exact ⟨config, y, hy⟩
    · exact mapM_passes hys x hx

theorem keeps_mapM {α β : Type} {name : String} {f : α → Reader β} (hf : ∀ x, (f x).Keeps name) :
    ∀ {l : List α}, (l.mapM f).Keeps name
  | [] => by
    rw [List.mapM_nil]
    exact Reader.keeps_pure _
  | x :: l => by
    rw [List.mapM_cons]
    exact (hf x).bind fun _ => (keeps_mapM hf).bind fun _ => Reader.keeps_pure _

theorem removed_getD (config : Scfg) (name : String) : (config.remove name).1.getD [] = config.named name := by
  cases h : (config.remove name).1 with
  | none => exact (Scfg.remove_fst_eq_none.mp h).symm
  | some l => exact (Scfg.remove_fst_eq_some.mp h).1

theorem collections_accepts_iff : Field.collections.Accepts d ↔
    d.params ∈ [["all"], ["from", "a"], ["from", "b"], ["from a"], ["from b"]] := by
  rw [← joined_collections]
  constructor
  · rintro ⟨collectionId, config, r, hd, h⟩
    obtain ⟨removed, hremoved, h⟩ := Prog.bind_result_ok.mp h
    obtain rfl : (config.remove "collections").1 = removed := Except.ok.inj hremoved
    obtain ⟨plural, hplural, -⟩ := Prog.bind_result_ok.mp h
    rw [removed_getD] at hplural
    obtain ⟨config', c, hc⟩ := mapM_passes hplural d hd
    exact ⟨c, Reader.lift_ok.mp hc⟩
  · rintro ⟨c, hc⟩
    refine ⟨fun _ => .ok (), Reader.passes_single (a := [c]) ?_⟩
    refine Prog.bind_result_ok.mpr ⟨some [d], by simp [Scfg.remove, Scfg.named], ?_⟩
    refine Prog.bind_result_ok.mpr ⟨[c], ?_, ?_⟩
    · rw [Option.getD_some, List.mapM_cons]
      exact Prog.bind_result_ok.mpr ⟨c, Reader.lift_ok.mpr hc, rfl⟩
    · refine Prog.bind_result_ok.mpr ⟨none, congrArg Except.ok (Scfg.remove_fst_eq_none.mpr ?_), rfl⟩
      refine (keeps_mapM (fun _ => Reader.keeps_lift _) _).trans ?_
      simp [Scfg.remove, Scfg.named]

/-- What becomes of a `collection` does not depend on the rest of the pair. -/
theorem parseCollectionDirective_result (collectionId : String → Except Error Unit) (d : Directive) (config config' : Scfg) :
    (parseCollectionDirective collectionId d config).result = (parseCollectionDirective collectionId d config').result := by
  obtain ⟨_ | ⟨v, _ | ⟨v', params⟩⟩, child⟩ := d
  · cases child <;> rfl
  · simp only [parseCollectionDirective]
    rw [Prog.bind_run, Prog.bind_run]
    cases context "Parsing collection id" (collectionId v) <;> rfl
  · rfl

/-- A `collection` is accepted with an id and any block, or with a block that is a mapping. -/
theorem parseCollectionDirective_isOk : (∃ collectionId config c,
    (parseCollectionDirective collectionId d config).result = .ok c) ↔
      (d.OneValue fun _ => True) ∨ ∃ block, d = ⟨[], some block⟩ ∧ Scfg.Mapping block := by
  constructor
  · rintro ⟨collectionId, config, c, h⟩
    obtain ⟨_ | ⟨v, _ | ⟨v', params⟩⟩, child⟩ := d
    · obtain ⟨block, hb, h⟩ := Prog.bind_result_ok.mp h
      obtain rfl : child = some block := orContext_eq_ok.mp (Reader.lift_ok.mp hb)
      exact .inr ⟨block, rfl, parseCollectionBlock_isOk.mp ⟨collectionId, c, h⟩⟩
    · exact .inl ⟨v, child, rfl, trivial⟩
    · cases h
  · rintro (⟨v, child, rfl, -⟩ | ⟨block, rfl, hmapping⟩)
    · exact ⟨fun _ => .ok (), [], .named v, rfl⟩
    · obtain ⟨collectionId, c, h⟩ := parseCollectionBlock_isOk.mpr hmapping
      exact ⟨collectionId, [], c, Prog.bind_result_ok.mpr ⟨block, rfl, h⟩⟩

theorem collection_accepts_iff : Field.collection.Accepts d ↔
    (d.OneValue fun _ => True) ∨ ∃ block, d = ⟨[], some block⟩ ∧ Scfg.Mapping block := by
  rw [← parseCollectionDirective_isOk]
  constructor
  · rintro ⟨collectionId, config, r, hd, h⟩
    obtain ⟨removed, hremoved, h⟩ := Prog.bind_result_ok.mp h
    obtain rfl : (config.remove "collections").1 = removed := Except.ok.inj hremoved
    obtain ⟨plural, -, h⟩ := Prog.bind_result_ok.mp h
    obtain ⟨removed', hremoved', h⟩ := Prog.bind_result_ok.mp h
    obtain ⟨singular, hsingular, -⟩ := Prog.bind_result_ok.mp h
    obtain rfl := Except.ok.inj hremoved'
    rw [removed_getD, keeps_mapM (fun _ => Reader.keeps_lift _)] at hsingular
    have hkept : (config.remove "collections").2.named "collection" = config.named "collection" :=
      Scfg.named_remove_ne config (by decide)
    obtain ⟨config', c, hc⟩ := mapM_passes hsingular d (hkept ▸ hd)
    exact ⟨collectionId, config', c, hc⟩
  · rintro ⟨collectionId, config, c, hc⟩
    refine ⟨collectionId, Reader.passes_single (a := [c]) ?_⟩
    refine Prog.bind_result_ok.mpr ⟨none, by simp [Scfg.remove, Scfg.named], ?_⟩
    refine Prog.bind_result_ok.mpr ⟨[], rfl, ?_⟩
    refine Prog.bind_result_ok.mpr ⟨some [d], ?_, ?_⟩
    · have hsome : (Scfg.remove ((Scfg.remove [("collection", d)] "collections").2) "collection").1 = some [d] := by
        simp [Scfg.remove, Scfg.named]
      exact congrArg Except.ok hsome
    · refine Prog.bind_result_ok.mpr ⟨[c], ?_, rfl⟩
      rw [Option.getD_some, List.mapM_cons]
      exact Prog.bind_result_ok.mpr ⟨c, (parseCollectionDirective_result collectionId d _ config).trans hc, rfl⟩

/-! ## The others -/

theorem conflictResolution_accepts_iff : Field.conflictResolution.Accepts d ↔
    (∃ c args, d.params = "cmd" :: c :: args) ∨ ∃ side ∈ ["a", "b"], ∃ rest, d.params = "keep" :: side :: rest := by
  obtain ⟨params, child⟩ := d
  constructor
  · rintro ⟨r, h⟩
    unfold parseConflictResolution at h
    dsimp only at h ⊢
    split at h
    · next args =>
      cases args with
      | nil => cases h
      | cons c args => exact .inl ⟨c, args, rfl⟩
    · next rest => exact .inr ⟨"a", by simp, rest, rfl⟩
    · next rest => exact .inr ⟨"b", by simp, rest, rfl⟩
    all_goals cases h
  · rintro (⟨c, args, rfl⟩ | ⟨side, hside, rest, rfl⟩)
    · exact ⟨.cmd ⟨c, args⟩, rfl⟩
    · obtain rfl | rfl : side = "a" ∨ side = "b" := by simpa using hside
      · exact ⟨.keepA, rfl⟩
      · exact ⟨.keepB, rfl⟩

/-- A parser of a flag goes through directives without parameters. -/
theorem flag_accepts_iff {α : Type} {name msg : String} {f : Option Directive → Reader α} {a : α}
    (hf : ∀ d, f (some d) = if d.params ≠ [] then Reader.bail msg else pure a) :
    (Reader.takeDirective name >>= f).Passes name d ↔ d.params = [] := by
  constructor
  · rintro ⟨config, flag, hd, h⟩
    obtain ⟨-, h⟩ := Reader.takeDirective_bind_ok hd h
    rw [hf] at h
    split at h
    · cases h
    · next hp => exact not_not.mp hp
  · intro h
    refine Reader.passes_takeDirective (a := a) ?_
    rw [hf, if_neg (not_not.mpr h)]
    rfl

theorem oneWay_accepts_iff : Field.oneWay.Accepts d ↔ d.params = [] := flag_accepts_iff fun _ => rfl

theorem readOnly_accepts_iff : Field.readOnly.Accepts d ↔ d.params = [] := flag_accepts_iff fun _ => rfl

theorem userAgent_accepts_iff : Field.userAgent.Accepts d ↔ "".intercalate d.params ≠ "" := by
  constructor
  · rintro ⟨S, env, config, userAgent, hd, h⟩
    obtain ⟨-, h⟩ := Reader.takeDirective_bind_ok hd h
    dsimp only at h
    split at h
    · cases h
    · next hp => exact hp
  · intro h
    refine ⟨Unit, .permissive, Reader.passes_takeDirective (a := "".intercalate d.params) ?_⟩
    dsimp only
    rw [if_neg h]
    rfl

theorem authCert_accepts_iff : Field.authCert.Accepts d ↔ d.params ≠ [] := by
  constructor
  · rintro ⟨S, env, config, clientAuth, hd, h⟩
    obtain ⟨-, h⟩ := Reader.takeDirective_bind_ok hd h
    intro hp
    simp [hp, Reader.bail] at h
  · intro h
    obtain ⟨_ | ⟨first, rest⟩, child⟩ := d
    · exact absurd rfl h
    · exact ⟨Unit, .permissive, Reader.passes_takeDirective (a := some (first, rest.head?)) rfl⟩

theorem keeps_parseCollectionIdSegment : parseCollectionIdSegment.Keeps "socket" := by
  refine (Reader.keeps_takeDirective (by decide)).bind fun d => ?_
  cases d with
  | none => exact Reader.keeps_pure _
  | some d =>
    refine ((Reader.keeps_lift _).context _).bind fun param => ?_
    split <;> exact fun _ => rfl

theorem socket_accepts_iff : Field.socket.Accepts d ↔ d.OneValue fun _ => True := by
  constructor
  · rintro ⟨S, env, kind, finish, ro, config, storage, hd, h⟩
    obtain ⟨url, -, h⟩ := Prog.bind_result_ok.mp h
    obtain ⟨_, -, h⟩ := Prog.bind_result_ok.mp h
    obtain ⟨segment, -, h⟩ := Prog.bind_result_ok.mp h
    obtain ⟨socket, hsocket, h⟩ := Prog.bind_result_ok.mp h
    obtain ⟨auth, -, h⟩ := Prog.bind_result_ok.mp h
    rw [Reader.takeDirective_ok, keeps_parseCollectionIdSegment, (Reader.keeps_lift _).context,
      Reader.keeps_takeParamFrom (by decide)] at hsocket
    rw [hsocket, Option.mem_toList] at hd
    obtain rfl : socket = some d := hd
    obtain ⟨v, hv, -⟩ := Reader.param_ok.mp h
    exact oneValue_iff.mpr ⟨v, hv, trivial⟩
  · rintro ⟨v, child, rfl, -⟩
    exact ⟨Unit, .permissive, "carddav", fun _ _ _ _ => .ok (), true, [("url", ⟨["u"], none⟩), ("socket", ⟨[v], child⟩)],
      .readOnly (), by simp [Scfg.named], rfl⟩

theorem encoding_rejected : ¬ Field.encoding.Accepts d := by
  rintro ⟨S, env, itemKind, ro, config, storage, hd, h⟩
  obtain ⟨path, -, h⟩ := Prog.bind_result_ok.mp h
  obtain ⟨path', -, h⟩ := Prog.bind_result_ok.mp h
  obtain ⟨encoding, hencoding, h⟩ := Prog.bind_result_ok.mp h
  have hsome : encoding.isSome = true := by
    rw [Option.isSome_iff_ne_none]
    rintro rfl
    have hnone := Scfg.remove_fst_eq_none.mp (Except.ok.inj hencoding)
    have hkept : (Reader.takeParamFrom "path" config).world.named "encoding" = config.named "encoding" :=
      Reader.keeps_takeParamFrom (by decide) config
    rw [← hkept] at hd
    have hnone' : (Reader.takeParamFrom "path" config).world.named "encoding" = [] := hnone
    rw [hnone'] at hd
    cases hd
  rw [if_pos hsome] at h
  cases h

/-! ## The documented forms -/

/-- The keywords among the values of a directive; without keywords, any value may stand. -/
def ValueField.Keyword : ValueField → String → Prop
  | .onEmpty, v | .onDelete, v => v ∈ ["skip", "sync"]
  | .type, v => v ∈ storageTypes
  | .collectionIdSegment, v => v ∈ ["last", "second-last"]
  | _, _ => True

/-- What the block of a `collection` may hold. -/
def mappingNames : List String := ["alias", "id_a", "href_a", "id_b", "href_b"]

/-- The form of the directive in pimsync.conf(5), which knows neither `socket` nor `encoding`. -/
def Field.Documented : Field → Directive → Prop
  | .value field, d => ∃ v, d = ⟨[v], none⟩ ∧ field.Keyword v
  | .dynamic _, d => (∃ v, d = ⟨[v], none⟩) ∨ ∃ block, d = ⟨[], some block⟩ ∧
      ∃ name ∈ ["cmd", "shell"], ∃ args, args ≠ [] ∧ block = [(name, ⟨args, none⟩)]
  | .cmd, d | .shell, d => d.params ≠ [] ∧ d.child = none
  | .collections, d => d.params ∈ [["all"], ["from", "a"], ["from", "b"]] ∧ d.child = none
  | .collection, d => (∃ id, d = ⟨[id], none⟩) ∨ ∃ block, d = ⟨[], some block⟩ ∧ Scfg.Mapping block ∧
      ∀ entry ∈ block, entry.1 ∈ mappingNames ∧ entry.2.child = none
  | .conflictResolution, d => ((∃ command args, d.params = "cmd" :: command :: args) ∨ d.params = ["keep", "a"] ∨
      d.params = ["keep", "b"]) ∧ d.child = none
  | .oneWay, d | .readOnly, d => d = ⟨[], none⟩
  | .userAgent, d => ∃ v, d = ⟨[v], none⟩
  | .authCert, d => ((∃ bundle, d.params = [bundle]) ∨ ∃ certificate key, d.params = [certificate, key]) ∧ d.child = none
  | .socket, _ | .encoding, _ => False

/-- What is accepted beside the documented form: a block that is not looked at, what stands in a block beside the
directives that are read, parameters that are dropped or joined, a `shell` without any, and `socket`. -/
def Field.Tolerates : Field → Directive → Prop
  | .value field, d => ∃ v block, d = ⟨[v], some block⟩ ∧ field.Fits v
  | .dynamic _, d => (∃ v block, d = ⟨[v], some block⟩) ∨ ∃ block, d = ⟨[], some block⟩ ∧ Scfg.Command block ∧
      (block.length ≠ 1 ∨ ∃ entry ∈ block, entry.2.params = [] ∨ entry.2.child ≠ none)
  | .cmd, d => d.params ≠ [] ∧ d.child ≠ none
  | .shell, d => d.params = [] ∨ d.child ≠ none
  | .collections, d => d.params = ["from a"] ∨ d.params = ["from b"] ∨
      d.params ∈ [["all"], ["from", "a"], ["from", "b"]] ∧ d.child ≠ none
  | .collection, d => (∃ id block, d = ⟨[id], some block⟩) ∨ ∃ block, d = ⟨[], some block⟩ ∧ Scfg.Mapping block ∧
      ∃ entry ∈ block, entry.1 ∉ mappingNames ∨ entry.2.child ≠ none
  | .conflictResolution, d => (∃ command args, d.params = "cmd" :: command :: args) ∧ d.child ≠ none ∨
      ∃ side ∈ ["a", "b"], ∃ rest, d.params = "keep" :: side :: rest ∧ (rest ≠ [] ∨ d.child ≠ none)
  | .oneWay, d | .readOnly, d => ∃ block, d = ⟨[], some block⟩
  | .userAgent, d => "".intercalate d.params ≠ "" ∧ (d.params.length ≠ 1 ∨ d.child ≠ none)
  | .authCert, d => d.params ≠ [] ∧ (2 < d.params.length ∨ d.child ≠ none)
  | .socket, d => ∃ v child, d = ⟨[v], child⟩
  | .encoding, _ => False

/-- What fits is a keyword, where there are keywords. -/
theorem ValueField.Fits.keyword : ∀ {field : ValueField} {v : String}, field.Fits v → field.Keyword v
  | .onEmpty, _, h | .onDelete, _, h | .type, _, h | .collectionIdSegment, _, h => h
  | .storage _, _, _ | .alias, _, _ | .id _, _, _ | .href _, _, _ | .interval, _, _ | .path, _, _ | .fileext, _, _
  | .url, _, _ | .username, _, _ | .password, _, _ | .collectionId, _, _ | .tlsRoot, _, _
  | .tlsFingerprint, _, _ => trivial

/-- One value is accepted as it is documented, but for a block. -/
theorem oneValue_strict_iff {P Q : String → Prop} (hPQ : ∀ v, P v → Q v) :
    (d.OneValue P → ∃ v, d = ⟨[v], none⟩ ∧ Q v) ↔ ¬ ∃ v block, d = ⟨[v], some block⟩ ∧ P v := by
  constructor
  · rintro h ⟨v, block, rfl, hv⟩
    obtain ⟨w, hw, -⟩ := h ⟨v, some block, rfl, hv⟩
    cases hw
  · rintro h ⟨v, _ | block, rfl, hv⟩
    · exact ⟨v, rfl, hPQ v hv⟩
    · exact absurd ⟨v, block, rfl, hv⟩ h

/-- A block with a command holds just that, or something beside. -/
theorem command_strict_iff {block : Scfg} (h : Scfg.Command block) :
    (∃ name ∈ ["cmd", "shell"], ∃ args, args ≠ [] ∧ block = [(name, ⟨args, none⟩)]) ↔
      ¬ (block.length ≠ 1 ∨ ∃ entry ∈ block, entry.2.params = [] ∨ entry.2.child ≠ none) := by
  constructor
  · rintro ⟨name, -, args, hargs, rfl⟩
    simp [hargs]
  · intro hnot
    rw [not_or, not_not] at hnot
    obtain ⟨⟨name, params, child⟩, rfl⟩ := List.length_eq_one_iff.mp hnot.1
    obtain ⟨hp, rfl⟩ : params ≠ [] ∧ child = none := by simpa using hnot.2
    refine ⟨name, ?_, params, hp, rfl⟩
    rcases h with ⟨c, hc, -⟩ | ⟨-, c, hc⟩
    · by_contra hname
      rw [Scfg.named_cons, if_neg (by simp_all)] at hc
      cases hc
    · by_contra hname
      rw [Scfg.named_cons, if_neg (by simp_all)] at hc
      cases hc

/-- A directive without parameters is accepted as it is documented, but for a block. -/
theorem flag_strict_iff : (d.params = [] → d = ⟨[], none⟩) ↔ ¬ ∃ block, d = ⟨[], some block⟩ := by
  obtain ⟨params, _ | block⟩ := d <;> simp

/-- A directive with a value or a block is accepted as it is documented, but for a block beside the value, and for what
is not documented of a block. -/
theorem valueOrBlock_strict_iff {A D T : Scfg → Prop} (h : ∀ block, A block → (D block ↔ ¬ T block)) :
    ((d.OneValue fun _ => True) ∨ (∃ block, d = ⟨[], some block⟩ ∧ A block) →
      (∃ v, d = ⟨[v], none⟩) ∨ ∃ block, d = ⟨[], some block⟩ ∧ D block) ↔
    ¬ ((∃ v block, d = ⟨[v], some block⟩) ∨ ∃ block, d = ⟨[], some block⟩ ∧ A block ∧ T block) := by
  constructor
  · rintro haccept (⟨v, block, rfl⟩ | ⟨block, rfl, ha, ht⟩)
    · rcases haccept (.inl ⟨v, some block, rfl, trivial⟩) with ⟨w, hw⟩ | ⟨b, hb, -⟩
      · cases hw
      · cases hb
    · rcases haccept (.inr ⟨block, rfl, ha⟩) with ⟨w, hw⟩ | ⟨b, hb, hd⟩
      · cases hw
      · cases hb
        exact (h block ha).mp hd ht
  · rintro hnot (⟨v, _ | block, rfl, -⟩ | ⟨block, rfl, ha⟩)
    · exact .inl ⟨v, rfl⟩
    · exact absurd (.inl ⟨v, block, rfl⟩) hnot
    · exact .inr ⟨block, rfl, (h block ha).mpr fun ht => hnot (.inr ⟨block, rfl, ha, ht⟩)⟩

/-- A mapping holds just that, or something beside. -/
theorem mapping_strict_iff {block : Scfg} (h : Scfg.Mapping block) :
    (Scfg.Mapping block ∧ ∀ entry ∈ block, entry.1 ∈ mappingNames ∧ entry.2.child = none) ↔
      ¬ ∃ entry ∈ block, entry.1 ∉ mappingNames ∨ entry.2.child ≠ none := by
  rw [and_iff_right h]
  simp only [not_exists, not_and, not_or, not_not]

theorem collections_strict_iff :
    (Field.collections.Accepts d → Field.collections.Documented d) ↔ ¬ Field.collections.Tolerates d := by
  rw [collections_accepts_iff]
  have hsplit : d.params ∈ [["all"], ["from", "a"], ["from", "b"], ["from a"], ["from b"]] ↔
      d.params ∈ [["all"], ["from", "a"], ["from", "b"]] ∨ d.params = ["from a"] ∨ d.params = ["from b"] := by
    simp only [List.mem_cons, List.not_mem_nil, or_false]
    tauto
  have hjoined : d.params = ["from a"] ∨ d.params = ["from b"] → d.params ∉ [["all"], ["from", "a"], ["from", "b"]] := by
    rintro (h | h) <;> rw [h] <;> decide
  rw [hsplit]
  simp only [Field.Documented, Field.Tolerates]
  tauto

theorem conflictResolution_strict_iff : (Field.conflictResolution.Accepts d → Field.conflictResolution.Documented d) ↔
    ¬ Field.conflictResolution.Tolerates d := by
  rw [conflictResolution_accepts_iff]
  constructor
  · rintro h (⟨⟨command, args, hp⟩, hc⟩ | ⟨side, hside, rest, hp, hmore⟩)
    · exact hc (h (.inl ⟨command, args, hp⟩)).2
    · obtain ⟨hform, hc⟩ := h (.inr ⟨side, hside, rest, hp⟩)
      rw [hp] at hform
      rcases hmore with hrest | hchild
      · simp [hrest] at hform
      · exact hchild hc
  · rintro hnot (⟨command, args, hp⟩ | ⟨side, hside, rest, hp⟩)
    · exact ⟨.inl ⟨command, args, hp⟩, by_contra fun hc => hnot (.inl ⟨⟨command, args, hp⟩, hc⟩)⟩
    · have hmore : rest = [] ∧ d.child = none := by
        by_contra hmore
        exact hnot (.inr ⟨side, hside, rest, hp, not_and_or.mp hmore⟩)
      obtain ⟨rfl, hc⟩ := hmore
      obtain rfl | rfl : side = "a" ∨ side = "b" := by simpa using hside
      · exact ⟨.inr (.inl hp), hc⟩
      · exact ⟨.inr (.inr hp), hc⟩

theorem userAgent_strict_iff :
    (Field.userAgent.Accepts d → Field.userAgent.Documented d) ↔ ¬ Field.userAgent.Tolerates d := by
  rw [userAgent_accepts_iff]
  have hform : (∃ v, d = ⟨[v], none⟩) ↔ d.params.length = 1 ∧ d.child = none := by
    obtain ⟨params, child⟩ := d
    simp [List.length_eq_one_iff]
  simp only [Field.Documented, Field.Tolerates, hform]
  tauto

theorem authCert_strict_iff :
    (Field.authCert.Accepts d → Field.authCert.Documented d) ↔ ¬ Field.authCert.Tolerates d := by
  rw [authCert_accepts_iff]
  obtain ⟨_ | ⟨first, _ | ⟨second, _ | ⟨third, params⟩⟩⟩, child⟩ := d <;>
    simp [Field.Documented, Field.Tolerates]

/-- **Strictness**: a directive that the function accepts is documented, if and only if it is not one of those that the
function tolerates. -/
theorem strict_iff (field : Field) (d : Directive) : (field.Accepts d → field.Documented d) ↔ ¬ field.Tolerates d := by
  cases field with
  | value field =>
    rw [show (Field.value field).Accepts d ↔ d.OneValue field.Fits from ValueField.accepts_iff]
    exact oneValue_strict_iff fun v hv => hv.keyword
  | dynamic name =>
    rw [dynamic_accepts_iff]
    exact valueOrBlock_strict_iff fun block => command_strict_iff
  | cmd =>
    rw [cmd_accepts_iff]
    simp only [Field.Documented, Field.Tolerates]
    tauto
  | shell =>
    simp only [Field.Documented, Field.Tolerates, shell_accepts, true_imp_iff]
    tauto
  | collections => exact collections_strict_iff
  | collection =>
    rw [collection_accepts_iff]
    exact valueOrBlock_strict_iff fun block => mapping_strict_iff
  | conflictResolution => exact conflictResolution_strict_iff
  | oneWay =>
    rw [oneWay_accepts_iff]
    exact flag_strict_iff
  | readOnly =>
    rw [readOnly_accepts_iff]
    exact flag_strict_iff
  | userAgent => exact userAgent_strict_iff
  | authCert => exact authCert_strict_iff
  | socket =>
    rw [socket_accepts_iff]
    simp [Field.Documented, Field.Tolerates, Directive.OneValue]
  | encoding => simp [Field.Tolerates, encoding_rejected]

/-- **Parameters that are dropped**: `conflict_resolution keep a b` is taken for `conflict_resolution keep a`. -/
theorem keep_drops_parameters : ¬ ∀ (field : Field) (d : Directive), field.Accepts d → field.Documented d := by
  intro h
  have haccepts : Field.conflictResolution.Accepts ⟨["keep", "a", "b"], none⟩ := ⟨.keepA, rfl⟩
  have hform := (h _ _ haccepts).1
  simp at hform

end Pimsync
