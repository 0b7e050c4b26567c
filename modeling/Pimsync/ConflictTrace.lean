import Pimsync.Conflict

/-!
# The trace of a resolution

What one round does, from the smallest part to the largest: `Uploads` are the writes of one resolved conflict, `MergeTrace`
and `ItemTrace` the round of an item, `ChooseTrace` and `PropertyTrace` that of a property.

- `uploadBoth_log`, `runMergeCommand_run`: the two operations a round is made of;
- `promptLoop_trace`: what a prompt shows, from what one answer shows;
- `resolveItem_trace`, `resolveProperty_trace`: the rounds of the two loops.
-/

namespace Pimsync

variable {σ S D : Type}

/-! ## Uploads -/

/-- The writes of a resolved conflict: at most one for each side that differs, in some order, as the storages answer. -/
def Uploads (differs : Side → Prop) [DecidablePred differs] (answer : Side → σ → Except Error Unit)
    (write : Side → Except Error Unit → ResolveEvent) (log : List ResolveEvent) : Prop :=
  ∃ (first : Side) (result : Side → Except Error Unit), (∀ side, differs side → ∃ s, answer side s = result side) ∧
    log = [first, first.other].filterMap fun side => if differs side then some (write side (result side)) else none

section Uploads

variable (out : ResolveOutside σ S) (differs : Side → Prop) [DecidablePred differs]
  {answer : Side → σ → Except Error Unit} {task : Side → Prog (World σ) ResolveEvent Stop (Except Error Unit)}
  {write : Side → Except Error Unit → ResolveEvent}

/-- One of the two tasks of an upload. -/
theorem optionalTask_run
    (h : ∀ side w, ∃ returned w', task side w = ⟨.ok returned, w', [write side (answer side w.outside)]⟩)
    (side : Side) (w : World σ) : ∃ result returned w', (differs side → ∃ s, answer side s = result) ∧
      ((if differs side then some (task side) else none).getD (return .ok ())) w =
        ⟨.ok returned, w', (if differs side then some (write side result) else none).toList⟩ := by
  by_cases hd : differs side
  · obtain ⟨returned, w', hrun⟩ := h side w
    exact ⟨_, returned, w', fun _ => ⟨_, rfl⟩, by simpa [hd] using hrun⟩
  · exact ⟨.ok (), .ok (), w, fun h => absurd h hd, by simp [hd]⟩

/-- What `uploadBoth` leaves, if its tasks leave this. -/
theorem uploadBoth_run (tasks : Side → Option (Prog (World σ) ResolveEvent Stop (Except Error Unit))) {w w₁ w₂ : World σ}
    {r₁ r₂ : Except Error Unit} {log₁ log₂ : List ResolveEvent}
    (h₁ : ((tasks (out.first w.outside).1).getD (return .ok ())) { w with outside := (out.first w.outside).2 } =
      ⟨.ok r₁, w₁, log₁⟩)
    (h₂ : ((tasks (out.first w.outside).1.other).getD (return .ok ())) w₁ = ⟨.ok r₂, w₂, log₂⟩) :
    uploadBoth out tasks w = ⟨(do
      if Side.a = (out.first w.outside).1 then r₁ else r₂
      if Side.b = (out.first w.outside).1 then r₁ else r₂).mapError .err, w₂, log₁ ++ log₂⟩ := by
  simp only [uploadBoth, Prog.bind_run, Prog.outside_run, h₁, h₂, Prog.lift_run]
  cases (out.first w.outside).1 <;> rcases r₁ with e | ⟨⟩ <;> rcases r₂ with e' | ⟨⟩ <;>
    simp [Except.mapError, bind, Except.bind]

theorem uploadBoth_log
    (h : ∀ side w, ∃ returned w', task side w = ⟨.ok returned, w', [write side (answer side w.outside)]⟩) (w : World σ) :
    Uploads differs answer write (uploadBoth out (fun side => if differs side then some (task side) else none) w).log ∧
      ∃ r : Except Error Unit,
        (uploadBoth out (fun side => if differs side then some (task side) else none) w).result = r.mapError .err := by
  obtain ⟨result₁, r₁, w₁, hanswer₁, h₁⟩ := optionalTask_run differs h (out.first w.outside).1
    { w with outside := (out.first w.outside).2 }
  obtain ⟨result₂, r₂, w₂, hanswer₂, h₂⟩ := optionalTask_run differs h (out.first w.outside).1.other w₁
  rw [uploadBoth_run out (fun side => if differs side then some (task side) else none) h₁ h₂]
  have hne : (out.first w.outside).1.other ≠ (out.first w.outside).1 := by
    cases (out.first w.outside).1 <;> simp [Side.other]
  refine ⟨⟨(out.first w.outside).1, fun side => if side = (out.first w.outside).1 then result₁ else result₂,
    fun side hd => ?_, ?_⟩, _, rfl⟩
  · by_cases hside : side = (out.first w.outside).1
    · subst hside
      simpa using hanswer₁ hd
    · obtain rfl : (out.first w.outside).1.other = side := by
        revert hside
        cases (out.first w.outside).1 <;> cases side <;> simp [Side.other]
      simpa [hne] using hanswer₂ hd
  clear hanswer₁ hanswer₂
  simp only [List.filterMap_cons, List.filterMap_nil, hne, if_true, if_false]
  split <;> split <;> simp_all

end Uploads

/-! ## Prompts -/

section Prompt

variable {ε α : Type} (term : TermEvent → ε) (msg : String) (Response : String → List ε → Except Stop (Option α) → Prop)

/-- What a prompt shows and returns, if `Response` is what comes of a line. -/
inductive PromptLoopTrace : List ε → Except Stop α → Prop
  | flushErr (e : Error) : PromptLoopTrace [term (.print msg), term (.turn (.flushErr e))] (.error (.err e))
  | readErr (e : Error) : PromptLoopTrace [term (.print msg), term (.turn (.readErr e))]
      (.error (.err ("Reading response from stdin" :: e)))
  | answered (line : String) (log : List ε) (answer : α) : Response line log (.ok (some answer)) →
      PromptLoopTrace ([term (.print msg), term (.turn (.read line))] ++ log) (.ok answer)
  | failed (line : String) (log : List ε) (stop : Stop) : Response line log (.error stop) →
      PromptLoopTrace ([term (.print msg), term (.turn (.read line))] ++ log) (.error stop)
  | again (line : String) (log log' : List ε) (r : Except Stop α) : Response line log (.ok none) →
      PromptLoopTrace log' r → PromptLoopTrace ([term (.print msg), term (.turn (.read line))] ++ log ++ log') r
  | hang (log : List ε) : Response "" log (.ok none) →
      PromptLoopTrace ([term (.print msg), term (.turn (.read ""))] ++ log) (.error .hang)

variable {term msg Response}

theorem promptLoop_trace {response : String → Prog (World σ) ε Stop (Option α)}
    (h : ∀ line w, Response line (response line w).log (response line w).result) : ∀ (turns : List Turn) (w : World σ),
    PromptLoopTrace term msg Response (promptLoop term msg response turns w).log
      (promptLoop term msg response turns w).result
  | [], w => by
    have hr := h "" w
    rcases hp : response "" w with ⟨stop | _ | answer, w', log⟩ <;> rw [hp] at hr
    · simpa [promptLoop, Prog.bind_run, hp] using PromptLoopTrace.failed "" log stop hr
    · simpa [promptLoop, Prog.bind_run, hp] using PromptLoopTrace.hang log hr
    · simpa [promptLoop, Prog.bind_run, hp] using PromptLoopTrace.answered "" log answer hr
  | .flushErr e :: turns, w => by simpa [promptLoop, Prog.bind_run] using PromptLoopTrace.flushErr e
  | .readErr e :: turns, w => by simpa [promptLoop, Prog.bind_run] using PromptLoopTrace.readErr e
  | .read line :: turns, w => by
    have hr := h line { w with turns }
    rcases hp : response line { w with turns } with ⟨stop | _ | answer, w', log⟩ <;> rw [hp] at hr
    · simpa [promptLoop, Prog.bind_run, hp] using PromptLoopTrace.failed line log stop hr
    · simpa [promptLoop, Prog.bind_run, hp] using
        PromptLoopTrace.again line log _ _ hr (promptLoop_trace h turns w')
    · simpa [promptLoop, Prog.bind_run, hp] using PromptLoopTrace.answered line log answer hr

end Prompt

/-! ## Rounds -/

/-- The merge command only prints. -/
def Notes (log : List ResolveEvent) : Prop := ∀ event ∈ log, ∃ text, event = .term (.print text)

section Rounds

variable (out : ResolveOutside σ S) (rawCmd : RawCommand) (pair : NamedPair S)

/-- A text that `run_merge_command` returns for two texts. -/
def Merges (a b text : String) : Prop :=
  ∃ s w, (mergeResult (σ := σ) (out.merge rawCmd a b s).1 w).result = .ok text

/-- The writes of an item that was merged. -/
def ItemUploads (info : ConflictInfo) (text : String) : List ResolveEvent → Prop :=
  Uploads (fun side => out.hash ⟨text⟩ ≠ out.hash (info.on side).data)
    (fun side s => (out.updateItem (pair.inner.on side) (info.on side).state.version.href
      (info.on side).state.version.etag ⟨text⟩ s).1)
    fun side => .updated side (info.on side).state.version.href (info.on side).state.version.etag ⟨text⟩

/-- What is done with an item that the user accepted. -/
inductive MergeTrace (info : ConflictInfo) : List ResolveEvent → Except Stop Unit → Prop
  | fileFailed (running : String) (e : Error) : MergeTrace info [.term (.info running)] (.error (.err e))
  | refused (running : String) (notes : List ResolveEvent) (e : Error) : Notes notes → MergeTrace info
      ([.term (.info running)] ++ notes ++ [.merged rawCmd info.a.data.text info.b.data.text (.error e),
        .term (.error "Error resolving conflict" e)]) (.ok ())
  | uploadFailed (running : String) (notes : List ResolveEvent) (text : String) (uploads : List ResolveEvent) (e : Error) :
      Notes notes → ItemUploads out pair info text uploads →
      Merges out rawCmd info.a.data.text info.b.data.text text → MergeTrace info
      ([.term (.info running)] ++ notes ++ [.merged rawCmd info.a.data.text info.b.data.text (.ok text)] ++ uploads)
      (.error (.err e))
  | uploaded (running : String) (notes : List ResolveEvent) (text : String) (uploads : List ResolveEvent) :
      Notes notes → ItemUploads out pair info text uploads →
      Merges out rawCmd info.a.data.text info.b.data.text text → MergeTrace info
      ([.term (.info running)] ++ notes ++ [.merged rawCmd info.a.data.text info.b.data.text (.ok text)] ++ uploads ++
        [.term (.info s!"Resolved conflict for '{out.ident (Item.mk text)}'.")]) (.ok ())

/-- **What one round for an item does**, and whether the loop goes on. -/
inductive ItemTrace (info : ConflictInfo) : List ResolveEvent → Except Stop Bool → Prop
  | promptFailed (heading : String) (log : List TermEvent) (e : Error) :
      PromptTrace "Resolve it manually?" log (.error (.err e)) →
      ItemTrace info ([.term (.print heading)] ++ log.map .term) (.error (.err e))
  | no (heading : String) (log : List TermEvent) : PromptTrace "Resolve it manually?" log (.ok .no) →
      ItemTrace info ([.term (.print heading)] ++ log.map .term) (.ok true)
  | quit (heading : String) (log : List TermEvent) : PromptTrace "Resolve it manually?" log (.ok .quit) →
      ItemTrace info ([.term (.print heading)] ++ log.map .term ++
        [.term (.print s!"Skipping all remaining conflicts for pair \"{pair.name}\".")]) (.ok false)
  | yes (heading : String) (log : List TermEvent) (trace : List ResolveEvent) (r : Except Stop Unit) :
      PromptTrace "Resolve it manually?" log (.ok .yes) → MergeTrace out rawCmd pair info trace r →
      ItemTrace info ([.term (.print heading)] ++ log.map .term ++ trace) (r.map fun _ => true)

/-- The lines that need no merge command. -/
def PropertyChoice.ofResponse (response : String) : Option PropertyChoice :=
  match toLowercase (trim response) with
  | "a" => some .a
  | "b" => some .b
  | "s" => some .skip
  | "q" => some .quit
  | _ => none

/-- What `choose_property_value` makes of a line. -/
inductive ChooseTrace (valueA valueB : String) : String → List ResolveEvent → Except Stop (Option PropertyChoice) → Prop
  | known (line : String) : toLowercase (trim line) ≠ "e" →
      ChooseTrace valueA valueB line [] (.ok (PropertyChoice.ofResponse line))
  | fileFailed (line : String) (e : Error) : toLowercase (trim line) = "e" →
      ChooseTrace valueA valueB line [] (.error (.err e))
  | edited (line : String) (notes : List ResolveEvent) (text : String) : toLowercase (trim line) = "e" → Notes notes →
      Merges out rawCmd valueA valueB text →
      ChooseTrace valueA valueB line (notes ++ [.merged rawCmd valueA valueB (.ok text)]) (.ok (some (.custom (trim text))))
  | refused (line : String) (notes : List ResolveEvent) (e : Error) : toLowercase (trim line) = "e" → Notes notes →
      ChooseTrace valueA valueB line
        (notes ++ [.merged rawCmd valueA valueB (.error e), .term (.error "Error editing property" e)]) (.ok none)

/-- The prompt for a property. -/
def ChoicePrompt (conflict : PropertyConflict) : List ResolveEvent → Except Stop PropertyChoice → Prop :=
  PromptLoopTrace ResolveEvent.term "Keep (A), (B), (E)dit, (S)kip, or (Q)uit? "
    (ChooseTrace out rawCmd conflict.valueA conflict.valueB)

/-- The value that a choice stands for. -/
def PropertyChoice.value (conflict : PropertyConflict) : PropertyChoice → Option String
  | .a => some conflict.valueA
  | .b => some conflict.valueB
  | .custom value => some value
  | .skip | .quit => none

/-- The writes of a property with a value that was chosen. -/
def PropertyUploads (conflict : PropertyConflict) (value : String) : List ResolveEvent → Prop :=
  Uploads (fun side => value ≠ conflict.value side)
    (fun side s => (out.setProperty (pair.inner.on side) (conflict.mapping.href side) conflict.property value s).1)
    fun side => .propertySet side (conflict.mapping.href side) conflict.property value

/-- **What one round for a property does**, and whether the loop goes on. -/
inductive PropertyTrace (conflict : PropertyConflict) : List ResolveEvent → Except Stop Bool → Prop
  | promptFailed (heading : List String) (log : List ResolveEvent) (stop : Stop) :
      ChoicePrompt out rawCmd conflict log (.error stop) →
      PropertyTrace conflict (heading.map (.term <| .print ·) ++ log) (.error stop)
  | skip (heading : List String) (log : List ResolveEvent) : ChoicePrompt out rawCmd conflict log (.ok .skip) →
      PropertyTrace conflict (heading.map (.term <| .print ·) ++ log ++ [.chosen .skip]) (.ok true)
  | quit (heading : List String) (log : List ResolveEvent) : ChoicePrompt out rawCmd conflict log (.ok .quit) →
      PropertyTrace conflict (heading.map (.term <| .print ·) ++ log ++ [.chosen .quit,
        .term (.print s!"Skipping all remaining properties for pair \"{pair.name}\".")]) (.ok false)
  | resolved (heading : List String) (log : List ResolveEvent) (choice : PropertyChoice) (value : String)
      (uploads : List ResolveEvent) (r : Except Stop Unit) : ChoicePrompt out rawCmd conflict log (.ok choice) →
      choice.value conflict = some value → PropertyUploads out pair conflict value uploads →
      PropertyTrace conflict (heading.map (.term <| .print ·) ++ log ++ [.chosen choice,
        .term (.info s!"Resolved property '{conflict.property.name}' to '{value}'")] ++ uploads) (r.map fun _ => true)

/-! ## Running -/

theorem writeToTempFile_log (data : String) (w : World σ) : (writeToTempFile out data w).log = [] := by
  simp only [writeToTempFile, Prog.bind_run, Prog.outside_run, Prog.lift_run]
  split <;> simp_all

theorem mergeResult_emits (run : MergeRun) : (mergeResult (σ := σ) run).Emits fun event =>
    event = .term (.print "Resulting values are not identical on both sides.") := by
  refine (Prog.emits_lift _).bind fun _ => (Prog.emits_lift _).bind fun status => ?_
  split
  · exact Prog.emits_fail _
  · refine (Prog.emits_lift _).bind fun _ => (Prog.emits_lift _).bind fun _ => ?_
    refine (Prog.emits_lift _).bind fun newA => (Prog.emits_lift _).bind fun newB => ?_
    split
    · exact Prog.emits_fail _
    split
    · exact Prog.emits_fail _
    split
    · exact Prog.Emits.bind (Prog.emits_emit rfl) fun _ => Prog.emits_fail _
    · exact Prog.emits_pure _

theorem mergeResult_notes (run : MergeRun) (w : World σ) : Notes (mergeResult run w).log :=
  fun event he => ⟨_, mergeResult_emits run w event he⟩

theorem runMergeCommand_run (a b : String) (w : World σ) : ∃ notes result w', Notes notes ∧
    (∀ text, result = .ok text → Merges out rawCmd a b text) ∧
    runMergeCommand out rawCmd a b w = ⟨result, w', notes ++ [.merged rawCmd a b result]⟩ := by
  rcases hm : mergeResult (out.merge rawCmd a b w.outside).1 { w with outside := (out.merge rawCmd a b w.outside).2 }
    with ⟨result, w', notes⟩
  have hnotes := mergeResult_notes (out.merge rawCmd a b w.outside).1
    { w with outside := (out.merge rawCmd a b w.outside).2 }
  rw [hm] at hnotes
  exact ⟨notes, result, w', hnotes, fun text htext => ⟨_, _, by rw [hm, htext]⟩, by simp [runMergeCommand, Prog.bind_run, hm]⟩

theorem updateItem_run (side : Side) (ref : ItemVersion) (new : Item) (w : World σ) : updateItem out pair side ref new w =
    ⟨.ok (context s!"uploading resolved item into {side.name}"
        (out.updateItem (pair.inner.on side) ref.href ref.etag new w.outside).1),
      { w with outside := (out.updateItem (pair.inner.on side) ref.href ref.etag new w.outside).2 },
      [.updated side ref.href ref.etag new (out.updateItem (pair.inner.on side) ref.href ref.etag new w.outside).1]⟩ := rfl

theorem setProperty_run (side : Side) (property : Property) (mapping : ResolvedMapping) (value : String) (w : World σ) :
    setProperty out pair side property mapping value w =
      ⟨.ok (context s!"setting resolved property on {side.name}"
          (out.setProperty (pair.inner.on side) (mapping.href side) property value w.outside).1),
        { w with outside := (out.setProperty (pair.inner.on side) (mapping.href side) property value w.outside).2 },
        [.propertySet side (mapping.href side) property value
          (out.setProperty (pair.inner.on side) (mapping.href side) property value w.outside).1]⟩ := rfl

theorem uploadResolvedItem_trace (info : ConflictInfo) (text : String) (w : World σ) :
    ItemUploads out pair info text (uploadResolvedItem out pair (fun side => (info.on side).state.version)
        (fun side => (info.on side).data) ⟨text⟩ w).log ∧
      ∃ r : Except Error Unit, (uploadResolvedItem out pair (fun side => (info.on side).state.version)
        (fun side => (info.on side).data) ⟨text⟩ w).result = r.mapError .err :=
  uploadBoth_log out _ (fun side w => ⟨_, _, updateItem_run out pair side (info.on side).state.version ⟨text⟩ w⟩) w

theorem uploadResolvedProperty_trace (conflict : PropertyConflict) (value : String) (w : World σ) :
    PropertyUploads out pair conflict value
        (uploadResolvedProperty out pair conflict.property conflict.mapping conflict.value value w).log ∧
      ∃ r : Except Error Unit,
        (uploadResolvedProperty out pair conflict.property conflict.mapping conflict.value value w).result =
        r.mapError .err :=
  uploadBoth_log out _ (fun side w =>
    ⟨_, _, setProperty_run out pair side conflict.property conflict.mapping value w⟩) w

theorem mergeItem_trace (info : ConflictInfo) (w : World σ) :
    MergeTrace out rawCmd pair info (mergeItem out pair rawCmd info w).log (mergeItem out pair rawCmd info w).result := by
  have hA := writeToTempFile_log out info.a.data.text w
  rcases ha : writeToTempFile out info.a.data.text w with ⟨e | ⟨⟩, w₁, log₁⟩ <;> rw [ha] at hA <;> cases hA
  · simpa [mergeItem, Prog.bind_run, Prog.context, ha, Except.mapError] using MergeTrace.fileFailed _ _
  have hB := writeToTempFile_log out info.b.data.text w₁
  rcases hb : writeToTempFile out info.b.data.text w₁ with ⟨e | ⟨⟩, w₂, log₂⟩ <;> rw [hb] at hB <;> cases hB
  · simpa [mergeItem, Prog.bind_run, Prog.context, ha, hb, Except.mapError] using MergeTrace.fileFailed _ _
  obtain ⟨notes, result, w₃, hnotes, hmerges, hm⟩ := runMergeCommand_run out rawCmd info.a.data.text info.b.data.text w₂
  cases result with
  | error e =>
    simpa [mergeItem, Prog.bind_run, Prog.context, ha, hb, hm, Except.mapError] using MergeTrace.refused _ notes e hnotes
  | ok text =>
    obtain ⟨huploads, r, hr⟩ := uploadResolvedItem_trace out pair info text w₃
    rcases hu : uploadResolvedItem out pair (fun side => (info.on side).state.version) (fun side => (info.on side).data)
      ⟨text⟩ w₃ with ⟨result, w₄, uploads⟩
    rw [hu] at huploads hr
    obtain rfl : result = r.mapError .err := hr
    rcases r with e | ⟨⟩
    · simpa [mergeItem, Prog.bind_run, Prog.context, ha, hb, hm, hu, Except.mapError] using
        MergeTrace.uploadFailed _ notes text uploads e hnotes huploads (hmerges text rfl)
    · simpa [mergeItem, Prog.bind_run, Prog.context, ha, hb, hm, hu, Except.mapError] using
        MergeTrace.uploaded _ notes text uploads hnotes huploads (hmerges text rfl)

theorem resolveItem_trace (total i : ℕ) (info : ConflictInfo) (w : World σ) :
    ItemTrace out rawCmd pair info (resolveItem out pair rawCmd total i info w).log
      (resolveItem out pair rawCmd total i info w).result := by
  have hprompt := (continueSkipOrQuit_trace "Resolve it manually?" w).1
  rcases hp : continueSkipOrQuit "Resolve it manually?" w with ⟨stop | answer, w', log⟩ <;> rw [hp] at hprompt
  · obtain ⟨e, rfl⟩ := hprompt.error
    simpa [resolveItem, Prog.bind_run, hp] using ItemTrace.promptFailed _ log e hprompt
  · cases answer with
    | yes =>
      have hmerge := mergeItem_trace out rawCmd pair info w'
      rcases hm : mergeItem out pair rawCmd info w' with ⟨result, w'', trace⟩
      rw [hm] at hmerge
      have h : ItemTrace out rawCmd pair info _ _ :=
        ItemTrace.yes s!"Next is item {i + 1}/{total}, with uid \"{info.a.state.uid}\"." log trace
        result hprompt hmerge
      cases result <;> simpa [resolveItem, Prog.bind_run, hp, hm, Except.map] using h
    | no => simpa [resolveItem, Prog.bind_run, hp] using ItemTrace.no _ log hprompt
    | quit => simpa [resolveItem, Prog.bind_run, hp, Except.map] using ItemTrace.quit _ log hprompt

theorem chooseResponse_known (valueA valueB : String) {line : String} (he : toLowercase (trim line) ≠ "e") (w : World σ) :
    chooseResponse out rawCmd valueA valueB line w = ⟨.ok (PropertyChoice.ofResponse line), w, []⟩ := by
  unfold chooseResponse PropertyChoice.ofResponse
  generalize toLowercase (trim line) = key at he
  split
  case h_3 => exact absurd rfl he
  case h_6 ha hb he' hs hq => simp
  all_goals rfl

theorem chooseResponse_trace (valueA valueB line : String) (w : World σ) :
    ChooseTrace out rawCmd valueA valueB line (chooseResponse out rawCmd valueA valueB line w).log
      (chooseResponse out rawCmd valueA valueB line w).result := by
  by_cases he : toLowercase (trim line) = "e"
  · have hA := writeToTempFile_log out valueA w
    rcases ha : writeToTempFile out valueA w with ⟨e | ⟨⟩, w₁, log₁⟩ <;> rw [ha] at hA <;> cases hA
    · simpa [chooseResponse, he, Prog.bind_run, ha, Except.mapError] using ChooseTrace.fileFailed line e he
    have hB := writeToTempFile_log out valueB w₁
    rcases hb : writeToTempFile out valueB w₁ with ⟨e | ⟨⟩, w₂, log₂⟩ <;> rw [hb] at hB <;> cases hB
    · simpa [chooseResponse, he, Prog.bind_run, ha, hb, Except.mapError] using ChooseTrace.fileFailed line e he
    obtain ⟨notes, result, w₃, hnotes, hmerges, hm⟩ := runMergeCommand_run out rawCmd valueA valueB w₂
    cases result with
    | error e =>
      simpa [chooseResponse, he, Prog.bind_run, ha, hb, hm, Except.mapError, Except.map] using
        ChooseTrace.refused line notes e he hnotes
    | ok text =>
      simpa [chooseResponse, he, Prog.bind_run, ha, hb, hm, Except.mapError, Except.map] using
        ChooseTrace.edited line notes text he hnotes (hmerges text rfl)
  · rw [chooseResponse_known out rawCmd valueA valueB he]
    exact .known line he

theorem resolveTo_trace (conflict : PropertyConflict) (value : String) (w : World σ) : ∃ uploads w', ∃ r : Except Stop Unit,
    PropertyUploads out pair conflict value uploads ∧ resolveTo out pair conflict value w = ⟨r.map fun _ => true, w',
      [.term (.info s!"Resolved property '{conflict.property.name}' to '{value}'")] ++ uploads⟩ := by
  have huploads := (uploadResolvedProperty_trace out pair conflict value w).1
  rcases hu : uploadResolvedProperty out pair conflict.property conflict.mapping conflict.value value w with ⟨r, w', uploads⟩
  rw [hu] at huploads
  exact ⟨uploads, w', r, huploads, by cases r <;> simp [resolveTo, Prog.bind_run, hu, Except.map]⟩

theorem choosePropertyValue_run (conflict : PropertyConflict) (w : World σ) :
    ∃ log r w', ChoicePrompt out rawCmd conflict log r ∧
    choosePropertyValue out conflict.valueA conflict.valueB rawCmd w =
      ⟨r, w', log ++ (r.toOption.toList.map .chosen)⟩ := by
  have htrace : ChoicePrompt out rawCmd conflict _ _ :=
    promptLoop_trace (fun line w => chooseResponse_trace out rawCmd conflict.valueA conflict.valueB line w) w.turns w
  rcases hp : promptLoop ResolveEvent.term "Keep (A), (B), (E)dit, (S)kip, or (Q)uit? "
    (chooseResponse out rawCmd conflict.valueA conflict.valueB) w.turns w with ⟨r, w', log⟩
  rw [hp] at htrace
  exact ⟨log, r, w', htrace, by
    cases r <;> simp [choosePropertyValue, Prog.bind_run, hp, Except.toOption, Except.map]⟩

theorem resolveProperty_trace (total i : ℕ) (conflict : PropertyConflict) (w : World σ) :
    PropertyTrace out rawCmd pair conflict (resolveProperty out pair rawCmd total i conflict w).log
      (resolveProperty out pair rawCmd total i conflict w).result := by
  obtain ⟨log, r, w', hprompt, hp⟩ := choosePropertyValue_run out rawCmd conflict w
  let heading := [s!"Property {i + 1}/{total}: \"{conflict.property.name}\" on collection \"{conflict.mapping.name}\":",
    s!"  A: \"{conflict.valueA}\"", s!"  B: \"{conflict.valueB}\""]
  rcases r with stop | choice
  · have h : PropertyTrace out rawCmd pair conflict _ _ := .promptFailed heading log stop hprompt
    simpa [resolveProperty, Prog.bind_run, hp, heading, Except.toOption] using h
  cases hv : choice.value conflict with
  | some value =>
    obtain ⟨uploads, w'', r, huploads, hr⟩ := resolveTo_trace out pair conflict value w'
    have h : PropertyTrace out rawCmd pair conflict _ _ := .resolved heading log choice value uploads r hprompt hv huploads
    cases choice <;> cases hv <;> simpa [resolveProperty, Prog.bind_run, hp, hr, heading, Except.toOption] using h
  | none =>
    cases choice with
    | a | b | custom => cases hv
    | skip =>
      have h : PropertyTrace out rawCmd pair conflict _ _ := .skip heading log hprompt
      simpa [resolveProperty, Prog.bind_run, hp, heading, Except.toOption] using h
    | quit =>
      have h : PropertyTrace out rawCmd pair conflict _ _ := .quit heading log hprompt
      simpa [resolveProperty, Prog.bind_run, hp, heading, Except.toOption, Except.map] using h

end Rounds

end Pimsync
