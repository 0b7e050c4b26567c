import Pimsync.ConflictWrites

/-!
# How the round of a conflict ends

The end of a round is decided by what the user and the outside answer: `Conflict.outcome` reads it off their answers alone,
and `Conflict.Resolved` off the events of the round.

- `mergeResult_text`, `uploadBoth_ok`: what the merge command and the uploads return;
- `mergeItem_cases`, `resolveTo_cases`: what comes of an item that was accepted, and of a value that was chosen;
- `resolveItem_outcome`, `resolveProperty_outcome`: the outcome is how the round ends, and its events tell.
-/

namespace Pimsync

variable {σ S D : Type}

/-! ## What the outside answers -/

/-- The text that a run of a merge command leaves, if it leaves one. -/
def MergeRun.text (run : MergeRun) : Option String :=
  match run.spawned, run.waited, run.rewindA, run.rewindB, run.readA, run.readB with
  | .ok _, .ok (true, _), .ok _, .ok _, .ok a, .ok b =>
    if trim a ≠ "" ∧ trim b ≠ "" ∧ trim a = trim b then some a else none
  | _, _, _, _, _, _ => none

section Answers

variable (out : ResolveOutside σ S) (rawCmd : RawCommand)

/-- Whether a temporary file can be made and written. -/
def fileOk (data : String) (s : σ) : Bool := (out.tempFile data s).1.1.isOk && (out.tempFile data s).1.2.isOk

/-- Whether the two files of a merge can be. -/
def filesOk (a b : String) (s : σ) : Bool := fileOk out a s && fileOk out b (out.tempFile a s).2

/-- The merge command's run on two files, and what it leaves of the outside. -/
def mergeRun (a b : String) (s : σ) : MergeRun × σ := out.merge rawCmd a b (out.tempFile b (out.tempFile a s).2).2

/-- One write of an upload, if it is due: whether it succeeds. -/
def writeOk (due : Side → Prop) [DecidablePred due] (write : Side → σ → Except Error Unit × σ) (side : Side) (s : σ) :
    Bool × σ :=
  if due side then ((write side s).1.isOk, (write side s).2) else (true, s)

/-- Whether the writes of an upload succeed. -/
def uploadOk (due : Side → Prop) [DecidablePred due] (write : Side → σ → Except Error Unit × σ) (s : σ) : Bool :=
  let one := writeOk due write (out.first s).1 (out.first s).2
  one.1 && (writeOk due write (out.first s).1.other one.2).1

theorem writeToTempFile_run (data : String) (w : World σ) : ∃ r,
    writeToTempFile out data w = ⟨r, { w with outside := (out.tempFile data w.outside).2 }, []⟩ ∧
      (r = .ok () ↔ fileOk out data w.outside = true) := by
  rcases h : out.tempFile data w.outside with ⟨⟨made, written⟩, s⟩
  rcases made with e | ⟨⟩ <;> rcases written with e' | ⟨⟩ <;>
    simp [writeToTempFile, Prog.bind_run, h, fileOk, context, Except.mapError, Except.isOk, Except.toBool]

/-- What `run_merge_command` returns is what the run leaves. -/
theorem mergeResult_text (run : MergeRun) (w : World σ) :
    (mergeResult run w).result.toOption = run.text ∧ (mergeResult run w).world = w := by
  obtain ⟨spawned, waited, rewindA, rewindB, readA, readB⟩ := run
  rcases spawned with e | ⟨⟩
  · exact ⟨rfl, rfl⟩
  rcases waited with e | ⟨_ | _, status⟩
  · exact ⟨rfl, rfl⟩
  · exact ⟨rfl, rfl⟩
  rcases rewindA with e | ⟨⟩
  · exact ⟨rfl, rfl⟩
  rcases rewindB with e | ⟨⟩
  · exact ⟨rfl, rfl⟩
  rcases readA with e | a
  · exact ⟨rfl, rfl⟩
  rcases readB with e | b
  · exact ⟨rfl, rfl⟩
  by_cases ha : trim a = ""
  · simp [mergeResult, MergeRun.text, Prog.bind_run, context, Except.mapError, Except.toOption, ha]
  by_cases hb : trim b = ""
  · simp [mergeResult, MergeRun.text, Prog.bind_run, context, Except.mapError, Except.toOption, ha, hb]
  by_cases hab : trim a = trim b
  · simp [mergeResult, MergeRun.text, Prog.bind_run, context, Except.mapError, Except.toOption, hab, hb]
  · simp [mergeResult, MergeRun.text, Prog.bind_run, context, Except.mapError, Except.toOption, ha, hb, hab]

theorem runMergeCommand_text (a b : String) (w : World σ) : ∃ result notes,
    runMergeCommand out rawCmd a b w =
      ⟨result, { w with outside := (out.merge rawCmd a b w.outside).2 }, notes ++ [.merged rawCmd a b result]⟩ ∧
      Notes notes ∧ result.toOption = (out.merge rawCmd a b w.outside).1.text := by
  have hnotes := mergeResult_notes (out.merge rawCmd a b w.outside).1
    { w with outside := (out.merge rawCmd a b w.outside).2 }
  obtain ⟨htext, hworld⟩ := mergeResult_text (out.merge rawCmd a b w.outside).1
    { w with outside := (out.merge rawCmd a b w.outside).2 }
  rcases hm : mergeResult (out.merge rawCmd a b w.outside).1 { w with outside := (out.merge rawCmd a b w.outside).2 }
    with ⟨result, w', notes⟩
  rw [hm] at hnotes htext hworld
  subst hworld
  exact ⟨result, notes, by simp [runMergeCommand, Prog.bind_run, hm], hnotes, htext⟩

section Uploads

variable {due : Side → Prop} [DecidablePred due] {write : Side → σ → Except Error Unit × σ}
  {event : Side → Except Error Unit → ResolveEvent} {task : Side → Prog (World σ) ResolveEvent Stop (Except Error Unit)}

theorem writeOk_iff (side : Side) (s : σ) :
    (writeOk due write side s).1 = true ↔ (due side → (write side s).1 = .ok ()) := by
  unfold writeOk
  split
  case isTrue hd => rcases hw : (write side s).1 with e | ⟨⟩ <;> simp [hd, Except.isOk, Except.toBool]
  case isFalse hd => simp [hd]

variable (due) in
/-- One of the two writes of an upload. -/
theorem optionalTask_ok (h : ∀ side (w : World σ), ∃ r,
      task side w = ⟨.ok r, { w with outside := (write side w.outside).2 }, [event side (write side w.outside).1]⟩ ∧
        (r = .ok () ↔ (write side w.outside).1 = .ok ())) (side : Side) (w : World σ) : ∃ r,
    ((if due side then some (task side) else none).getD (return .ok ())) w =
        ⟨.ok r, { w with outside := (writeOk due write side w.outside).2 },
          if due side then [event side (write side w.outside).1] else []⟩ ∧
      (r = .ok () ↔ (writeOk due write side w.outside).1 = true) := by
  rw [writeOk_iff]
  by_cases hd : due side
  · obtain ⟨r, hrun, hr⟩ := h side w
    exact ⟨r, by simpa [hd, writeOk] using hrun, by simpa [hd] using hr⟩
  · exact ⟨.ok (), by simp [hd, writeOk], by simp [hd]⟩

/-- The writes that are due have succeeded, if this is what was recorded. -/
theorem forall_due_mem (hevent : ∀ side side' r r', event side r = event side' r' → side = side' ∧ r = r') (first : Side)
    (r₁ r₂ : Except Error Unit) :
    (∀ side, due side → event side (.ok ()) ∈
        (if due first then [event first r₁] else []) ++ if due first.other then [event first.other r₂] else []) ↔
      (due first → r₁ = .ok ()) ∧ (due first.other → r₂ = .ok ()) := by
  have hne : first ≠ first.other := by cases first <;> simp [Side.other]
  have hmem : ∀ side, event side (.ok ()) ∈
        (if due first then [event first r₁] else []) ++ (if due first.other then [event first.other r₂] else []) ↔
      (due first ∧ side = first ∧ r₁ = .ok ()) ∨ due first.other ∧ side = first.other ∧ r₂ = .ok () := by
    intro side
    have heq : ∀ side' r, event side (.ok ()) = event side' r ↔ side = side' ∧ r = .ok () := by
      intro side' r
      constructor
      · intro h
        exact ⟨(hevent _ _ _ _ h).1, (hevent _ _ _ _ h).2.symm⟩
      · intro h
        rw [h.1, h.2]
    split <;> split <;> simp_all
  constructor
  · intro h
    refine ⟨fun hd => ?_, fun hd => ?_⟩
    · rcases (hmem first).mp (h first hd) with ⟨-, -, hr⟩ | ⟨-, hside, -⟩
      · exact hr
      · exact absurd hside hne
    · rcases (hmem first.other).mp (h first.other hd) with ⟨-, hside, -⟩ | ⟨-, -, hr⟩
      · exact absurd hside.symm hne
      · exact hr
  · intro h side hd
    rw [hmem]
    by_cases hside : side = first
    · subst hside
      exact .inl ⟨hd, rfl, h.1 hd⟩
    · obtain rfl : side = first.other := by cases side <;> cases first <;> simp_all [Side.other]
      exact .inr ⟨hd, rfl, h.2 hd⟩

variable (event) in
/-- An upload returns an error if one of its writes fails, and its events tell. -/
theorem uploadBoth_ok (hevent : ∀ side side' r r', event side r = event side' r' → side = side' ∧ r = r')
    (h : ∀ side (w : World σ), ∃ r,
      task side w = ⟨.ok r, { w with outside := (write side w.outside).2 }, [event side (write side w.outside).1]⟩ ∧
        (r = .ok () ↔ (write side w.outside).1 = .ok ())) (w : World σ) :
    (∃ r : Except Error Unit,
      (uploadBoth out (fun side => if due side then some (task side) else none) w).result = r.mapError .err ∧
        (r = .ok () ↔ uploadOk out due write w.outside = true)) ∧
      (uploadOk out due write w.outside = true ↔ ∀ side, due side →
        event side (.ok ()) ∈ (uploadBoth out (fun side => if due side then some (task side) else none) w).log) := by
  obtain ⟨r₁, h₁, hr₁⟩ := optionalTask_ok due h (out.first w.outside).1
    { w with outside := (out.first w.outside).2 }
  obtain ⟨r₂, h₂, hr₂⟩ := optionalTask_ok due h (out.first w.outside).1.other
    { w with outside := (writeOk due write (out.first w.outside).1 (out.first w.outside).2).2 }
  rw [uploadBoth_run out (fun side => if due side then some (task side) else none) h₁ h₂]
  have hok : uploadOk out due write w.outside = true ↔ r₁ = .ok () ∧ r₂ = .ok () := by
    rw [hr₁, hr₂, uploadOk, Bool.and_eq_true]
  refine ⟨⟨_, rfl, ?_⟩, ?_⟩
  · rw [hok]
    cases (out.first w.outside).1 <;> rcases r₁ with e | ⟨⟩ <;> rcases r₂ with e' | ⟨⟩ <;> simp [bind, Except.bind]
  · rw [forall_due_mem hevent, uploadOk, Bool.and_eq_true, writeOk_iff, writeOk_iff]

end Uploads

variable (pair : NamedPair S)

/-- Whether the upload of an item that was merged succeeds. -/
def itemUploadOk (info : ConflictInfo) (text : String) : σ → Bool :=
  uploadOk out (fun side => out.hash ⟨text⟩ ≠ out.hash (info.on side).data) fun side =>
    out.updateItem (pair.inner.on side) (info.on side).state.version.href (info.on side).state.version.etag ⟨text⟩

/-- Whether the upload of a value that was chosen succeeds. -/
def propertyUploadOk (conflict : PropertyConflict) (value : String) : σ → Bool :=
  uploadOk out (fun side => value ≠ conflict.value side) fun side =>
    out.setProperty (pair.inner.on side) (conflict.mapping.href side) conflict.property value

/-- **The upload of an item that was merged**, in its result and in what it records. -/
theorem uploadResolvedItem_ok (info : ConflictInfo) (text : String) (w : World σ) :
    (∃ r : Except Error Unit,
      (uploadResolvedItem out pair (fun side => (info.on side).state.version) (fun side => (info.on side).data) ⟨text⟩
        w).result = r.mapError .err ∧ (r = .ok () ↔ itemUploadOk out pair info text w.outside = true)) ∧
      (itemUploadOk out pair info text w.outside = true ↔
        ∀ side, out.hash ⟨text⟩ ≠ out.hash (info.on side).data →
          .updated side (info.on side).state.version.href (info.on side).state.version.etag ⟨text⟩ (.ok ()) ∈
            (uploadResolvedItem out pair (fun side => (info.on side).state.version) (fun side => (info.on side).data)
              ⟨text⟩ w).log) := by
  refine uploadBoth_ok out (fun side => .updated side (info.on side).state.version.href
    (info.on side).state.version.etag ⟨text⟩) (fun side side' r r' h => ?_) (fun side w => ?_) w
  · cases h
    exact ⟨rfl, rfl⟩
  · exact ⟨_, updateItem_run out pair side (info.on side).state.version ⟨text⟩ w, context_eq_ok⟩

/-- **The upload of a value that was chosen**, in its result and in what it records. -/
theorem uploadResolvedProperty_ok (conflict : PropertyConflict) (value : String) (w : World σ) :
    (∃ r : Except Error Unit,
      (uploadResolvedProperty out pair conflict.property conflict.mapping conflict.value value w).result =
        r.mapError .err ∧ (r = .ok () ↔ propertyUploadOk out pair conflict value w.outside = true)) ∧
      (propertyUploadOk out pair conflict value w.outside = true ↔ ∀ side, value ≠ conflict.value side →
        .propertySet side (conflict.mapping.href side) conflict.property value (.ok ()) ∈
          (uploadResolvedProperty out pair conflict.property conflict.mapping conflict.value value w).log) := by
  refine uploadBoth_ok out (fun side => .propertySet side (conflict.mapping.href side) conflict.property value)
    (fun side side' r r' h => ?_) (fun side w => ?_) w
  · cases h
    exact ⟨rfl, rfl⟩
  · exact ⟨_, setProperty_run out pair side conflict.property conflict.mapping value w, context_eq_ok⟩

/-! ## How a round ends -/

/-- How the round of a conflict ends. -/
inductive Outcome
  | resolved
  | skipped
  /-- The merge command leaves no text. -/
  | unmerged
  | quit
  /-- A temporary file cannot be written, or an upload fails. -/
  | failed
  /-- A question cannot be asked, or its answer not be read, or the input has ended. -/
  | unanswered
  deriving DecidableEq

def Outcome.ofUpload (ok : Bool) : Outcome := if ok then .resolved else .failed

/-- How the round of an item ends that the user accepts. -/
def mergeOutcome (info : ConflictInfo) (s : σ) : Outcome :=
  if filesOk out info.a.data.text info.b.data.text s then
    let run := mergeRun out rawCmd info.a.data.text info.b.data.text s
    match run.1.text with
    | some text => .ofUpload (itemUploadOk out pair info text run.2)
    | none => .unmerged
  else .failed

/-- Whether a question could not be asked, or its answer not be read. -/
def terminalFailed (log : List ResolveEvent) : Bool :=
  log.any fun
    | .term (.turn (.flushErr _)) | .term (.turn (.readErr _)) => true
    | _ => false

/-- How the round of a conflict ends, by what the user and the outside answer. -/
def Conflict.outcome : Conflict → World σ → Outcome
  | .item info, w =>
    match (continueSkipOrQuit "Resolve it manually?" w).result with
    | .ok .yes => mergeOutcome out rawCmd pair info w.outside
    | .ok .no => .skipped
    | .ok .quit => .quit
    | .error _ => .unanswered
  | .property conflict, w =>
    let prompt := choosePropertyValue out conflict.valueA conflict.valueB rawCmd w
    match prompt.result with
    | .ok choice =>
      match choice.value conflict with
      | some value => .ofUpload (propertyUploadOk out pair conflict value prompt.world.outside)
      | none => if choice = .quit then .quit else .skipped
    | .error .hang => .unanswered
    | .error (.err _) => if terminalFailed prompt.log then .unanswered else .failed

/-- Whether the loops go on after this. -/
def Outcome.Ended : Outcome → Except Stop Bool → Prop
  | .resolved, r | .skipped, r | .unmerged, r => r = .ok true
  | .quit, r => r = .ok false
  | .failed, r => ∃ e, r = .error (.err e)
  | .unanswered, r => ∃ stop, r = .error stop

/-- What tells that a conflict was resolved, in the events of its round. -/
def Conflict.Resolved (log : List ResolveEvent) : Conflict → Prop
  | .item info => ∃ text, .merged rawCmd info.a.data.text info.b.data.text (.ok text) ∈ log ∧
      ∀ side, out.hash ⟨text⟩ ≠ out.hash (info.on side).data →
        .updated side (info.on side).state.version.href (info.on side).state.version.etag ⟨text⟩ (.ok ()) ∈ log
  | .property conflict => ∃ choice value, .chosen choice ∈ log ∧ choice.value conflict = some value ∧
      ∀ side, value ≠ conflict.value side →
        .propertySet side (conflict.mapping.href side) conflict.property value (.ok ()) ∈ log

theorem Outcome.ofUpload_resolved {ok : Bool} : Outcome.ofUpload ok = .resolved ↔ ok = true := by
  cases ok <;> simp [ofUpload]

/-- Nothing but the terminal is used. -/
def OnTerminal (log : List ResolveEvent) : Prop := ∀ event ∈ log, ∃ shown, event = .term shown

theorem onTerminal_map (log : List TermEvent) : OnTerminal (log.map .term) := by
  intro event he
  obtain ⟨shown, -, rfl⟩ := List.mem_map.mp he
  exact ⟨shown, rfl⟩

theorem OnTerminal.append {log log' : List ResolveEvent} (h : OnTerminal log) (h' : OnTerminal log') :
    OnTerminal (log ++ log') := by
  intro event he
  rcases List.mem_append.mp he with he | he
  · exact h event he
  · exact h' event he

theorem OnTerminal.not_mem {log : List ResolveEvent} (h : OnTerminal log) {event : ResolveEvent}
    (hne : ∀ shown, event ≠ .term shown) : event ∉ log := by
  intro hmem
  obtain ⟨shown, hshown⟩ := h event hmem
  exact hne shown hshown

theorem Notes.onTerminal {log : List ResolveEvent} (h : Notes log) : OnTerminal log := by
  intro event he
  obtain ⟨text, rfl⟩ := h event he
  exact ⟨_, rfl⟩

/-- An item that is not merged into a text is not resolved. -/
theorem not_resolved_item {info : ConflictInfo} {log : List ResolveEvent}
    (h : ∀ event ∈ log, (∃ shown, event = .term shown) ∨ ∃ e, event =
      .merged rawCmd info.a.data.text info.b.data.text (.error e)) : ¬ (Conflict.item info).Resolved out rawCmd log := by
  rintro ⟨text, hmerged, -⟩
  obtain ⟨shown, hshown⟩ | ⟨e, he⟩ := h _ hmerged
  · cases hshown
  · cases he

/-- An item is merged into one text. -/
theorem merged_eq {info : ConflictInfo} {before uploads after : List ResolveEvent} {text text' : String}
    (hbefore : OnTerminal before) (hafter : OnTerminal after) (huploads : ItemUploads out pair info text uploads)
    (h : .merged rawCmd info.a.data.text info.b.data.text (.ok text') ∈
      before ++ [.merged rawCmd info.a.data.text info.b.data.text (.ok text)] ++ uploads ++ after) : text' = text := by
  have hmid : .merged rawCmd info.a.data.text info.b.data.text (.ok text') ∉ uploads := by
    intro hmem
    obtain ⟨side, result, -, heq⟩ := Uploads.event huploads hmem
    cases heq
  simpa [hbefore.not_mem, hafter.not_mem, hmid] using h

/-- An item that is merged into a text is resolved if its writes succeed. -/
theorem resolved_item_iff {info : ConflictInfo} {before uploads after : List ResolveEvent} {text : String}
    (hbefore : OnTerminal before) (hafter : OnTerminal after) (huploads : ItemUploads out pair info text uploads) :
    (Conflict.item info).Resolved out rawCmd
        (before ++ [.merged rawCmd info.a.data.text info.b.data.text (.ok text)] ++ uploads ++ after) ↔
      ∀ side, out.hash ⟨text⟩ ≠ out.hash (info.on side).data →
        .updated side (info.on side).state.version.href (info.on side).state.version.etag ⟨text⟩ (.ok ()) ∈ uploads := by
  constructor
  · rintro ⟨text', hmerged, hwrites⟩ side hdiffers
    obtain rfl := merged_eq out rawCmd pair hbefore hafter huploads hmerged
    simpa [hbefore.not_mem, hafter.not_mem] using hwrites side hdiffers
  · intro hwrites
    refine ⟨text, by simp, fun side hdiffers => ?_⟩
    simp [hwrites side hdiffers]

theorem filesOk_run {a b : String} {w : World σ} : ∃ ra rb,
    writeToTempFile out a w = ⟨ra, { w with outside := (out.tempFile a w.outside).2 }, []⟩ ∧
      writeToTempFile out b { w with outside := (out.tempFile a w.outside).2 } =
        ⟨rb, { w with outside := (out.tempFile b (out.tempFile a w.outside).2).2 }, []⟩ ∧
      (filesOk out a b w.outside = true ↔ ra = .ok () ∧ rb = .ok ()) := by
  obtain ⟨ra, ha, hokA⟩ := writeToTempFile_run out a w
  obtain ⟨rb, hb, hokB⟩ := writeToTempFile_run out b { w with outside := (out.tempFile a w.outside).2 }
  exact ⟨ra, rb, ha, hb, by rw [filesOk, Bool.and_eq_true, hokA, hokB]⟩

/-- What comes of merging an item. -/
theorem mergeItem_cases (info : ConflictInfo) (w : World σ) : ∃ before w', OnTerminal before ∧
    ((filesOk out info.a.data.text info.b.data.text w.outside = false ∧
        ∃ e, mergeItem out pair rawCmd info w = ⟨.error (.err e), w', before⟩) ∨
      (mergeOutcome out rawCmd pair info w.outside = .unmerged ∧ ∃ e, mergeItem out pair rawCmd info w = ⟨.ok (), w',
        before ++ [.merged rawCmd info.a.data.text info.b.data.text (.error e),
          .term (.error "Error resolving conflict" e)]⟩) ∨
      ∃ (text : String) (uploads after : List ResolveEvent) (r : Except Error Unit),
        mergeItem out pair rawCmd info w = ⟨r.mapError .err, w',
          before ++ [.merged rawCmd info.a.data.text info.b.data.text (.ok text)] ++ uploads ++ after⟩ ∧
        OnTerminal after ∧ ItemUploads out pair info text uploads ∧
        mergeOutcome out rawCmd pair info w.outside = .ofUpload r.isOk ∧
        (r.isOk = true ↔ ∀ side, out.hash ⟨text⟩ ≠ out.hash (info.on side).data →
          .updated side (info.on side).state.version.href (info.on side).state.version.etag ⟨text⟩ (.ok ()) ∈ uploads)) := by
  obtain ⟨ra, rb, ha, hb, hfiles⟩ := filesOk_run out (a := info.a.data.text) (b := info.b.data.text) (w := w)
  have hrunning := onTerminal_map [.info s!"Running conflict resolution for item {info.a.state.uid}"]
  rcases ra with e | ⟨⟩
  · have hfiles : filesOk out info.a.data.text info.b.data.text w.outside = false := by simpa using hfiles
    exact ⟨_, _, hrunning, .inl ⟨hfiles,
      _, by simp [mergeItem, Prog.bind_run, Prog.context, ha, Except.mapError]; exact ⟨rfl, rfl⟩⟩⟩
  rcases rb with e | ⟨⟩
  · have hfiles : filesOk out info.a.data.text info.b.data.text w.outside = false := by simpa using hfiles
    exact ⟨_, _, hrunning, .inl ⟨hfiles,
      _, by simp [mergeItem, Prog.bind_run, Prog.context, ha, hb, Except.mapError]; exact ⟨rfl, rfl⟩⟩⟩
  have hfiles : filesOk out info.a.data.text info.b.data.text w.outside = true := by simpa using hfiles
  obtain ⟨result, notes, hm, hnotes, htext⟩ := runMergeCommand_text out rawCmd info.a.data.text info.b.data.text
    { w with outside := (out.tempFile info.b.data.text (out.tempFile info.a.data.text w.outside).2).2 }
  have hbefore := hrunning.append hnotes.onTerminal
  rcases result with e | text
  · exact ⟨_, _, hbefore, .inr <| .inl ⟨by simp [mergeOutcome, hfiles, mergeRun, ← htext, Except.toOption],
      e, by simp [mergeItem, Prog.bind_run, Prog.context, ha, hb, hm, Except.mapError]; rfl⟩⟩
  · obtain ⟨⟨r, hr, hrok⟩, hwrites⟩ := uploadResolvedItem_ok out pair info text
      { w with outside := (mergeRun out rawCmd info.a.data.text info.b.data.text w.outside).2 }
    have huploads := (uploadResolvedItem_trace out pair info text
      { w with outside := (mergeRun out rawCmd info.a.data.text info.b.data.text w.outside).2 }).1
    rcases hu : uploadResolvedItem out pair (fun side => (info.on side).state.version) (fun side => (info.on side).data)
      ⟨text⟩ { w with outside := (mergeRun out rawCmd info.a.data.text info.b.data.text w.outside).2 } with
      ⟨result, w', uploads⟩
    rw [hu] at hr hwrites huploads
    obtain rfl : result = r.mapError .err := hr
    have hisOk : itemUploadOk out pair info text (mergeRun out rawCmd info.a.data.text info.b.data.text w.outside).2 =
        r.isOk := by
      rw [Bool.eq_iff_iff, ← hrok]
      rcases r with e | ⟨⟩ <;> simp [Except.isOk, Except.toBool]
    have houtcome : mergeOutcome out rawCmd pair info w.outside = .ofUpload r.isOk := by
      have hrunText : (mergeRun out rawCmd info.a.data.text info.b.data.text w.outside).1.text = some text := htext.symm
      simp [mergeOutcome, hfiles, hrunText, hisOk]
    rw [mergeRun] at hu
    rcases r with e | ⟨⟩
    · refine ⟨_, w', hbefore, .inr <| .inr ⟨text, uploads, [], _, ?_, onTerminal_map [], huploads, houtcome,
        by rw [← hisOk]; exact hwrites⟩⟩
      simp [mergeItem, Prog.bind_run, Prog.context, ha, hb, hm, hu, Except.mapError]
    · refine ⟨_, w', hbefore, .inr <| .inr ⟨text, uploads, [.term (.info s!"Resolved conflict for '{out.ident ⟨text⟩}'.")], _,
        ?_, onTerminal_map [.info _], huploads, houtcome, by rw [← hisOk]; exact hwrites⟩⟩
      simp [mergeItem, Prog.bind_run, Prog.context, ha, hb, hm, hu, Except.mapError]

/-- **Merging an item**: how it ends, and what tells of it. -/
theorem mergeItem_outcome (info : ConflictInfo) (w : World σ) :
    (mergeOutcome out rawCmd pair info w.outside).Ended ((mergeItem out pair rawCmd info w).result.map fun _ => true) ∧
      ∀ heading, OnTerminal heading → (mergeOutcome out rawCmd pair info w.outside = .resolved ↔
        (Conflict.item info).Resolved out rawCmd (heading ++ (mergeItem out pair rawCmd info w).log)) := by
  obtain ⟨before, w', hbefore, ⟨hfiles, e, hrun⟩ | ⟨houtcome, e, hrun⟩ | ⟨text, uploads, after, r, hrun, hafter, huploads,
    houtcome, hwrites⟩⟩ := mergeItem_cases out rawCmd pair info w <;> rw [hrun]
  · have houtcome : mergeOutcome out rawCmd pair info w.outside = .failed := by simp [mergeOutcome, hfiles]
    rw [houtcome]
    refine ⟨⟨e, rfl⟩, fun heading hheading => ?_⟩
    have hnot : ¬ (Conflict.item info).Resolved out rawCmd (heading ++ before) :=
      not_resolved_item out rawCmd fun event he => .inl (hheading.append hbefore event he)
    simpa using hnot
  · rw [houtcome]
    refine ⟨rfl, fun heading hheading => ?_⟩
    have hnot : ¬ (Conflict.item info).Resolved out rawCmd (heading ++ (before ++
        [.merged rawCmd info.a.data.text info.b.data.text (.error e), .term (.error "Error resolving conflict" e)])) := by
      refine not_resolved_item out rawCmd fun event he => ?_
      rw [← List.append_assoc] at he
      rcases List.mem_append.mp he with he | he
      · exact .inl (hheading.append hbefore event he)
      · rcases List.mem_pair.mp he with rfl | rfl
        · exact .inr ⟨e, rfl⟩
        · exact .inl ⟨_, rfl⟩
    simpa using hnot
  · rw [houtcome]
    constructor
    · rcases r with e | ⟨⟩
      · exact ⟨e, rfl⟩
      · rfl
    · intro heading hheading
      rw [Outcome.ofUpload_resolved, hwrites, ← resolved_item_iff out rawCmd pair (hheading.append hbefore) hafter huploads]
      simp only [List.append_assoc]

/-- The prompt for a property neither decides nor writes on its own. -/
theorem ChoicePrompt.event {rawCmd : RawCommand} {conflict : PropertyConflict} {log : List ResolveEvent}
    {r : Except Stop PropertyChoice} (h : ChoicePrompt out rawCmd conflict log r) : ∀ event ∈ log,
    (∃ shown, event = .term shown) ∨ ∃ result, event = .merged rawCmd conflict.valueA conflict.valueB result := by
  have hasked : ∀ (msg : String) (turn : Turn) (log : List ResolveEvent), (∀ event ∈ log, (∃ shown, event = .term shown) ∨
      ∃ result, event = .merged rawCmd conflict.valueA conflict.valueB result) →
      ∀ event ∈ [.term (.print msg), .term (.turn turn)] ++ log, (∃ shown, event = .term shown) ∨
        ∃ result, event = .merged rawCmd conflict.valueA conflict.valueB result := by
    intro msg turn log hlog event he
    rcases List.mem_append.mp he with he | he
    · exact .inl (onTerminal_map [.print msg, .turn turn] event he)
    · exact hlog event he
  have hchoose : ∀ {line : String} {log : List ResolveEvent} {r : Except Stop (Option PropertyChoice)},
      ChooseTrace out rawCmd conflict.valueA conflict.valueB line log r → ∀ event ∈ log, (∃ shown, event = .term shown) ∨
        ∃ result, event = .merged rawCmd conflict.valueA conflict.valueB result := by
    intro line log r hchoose event he
    cases hchoose with
    | known | fileFailed => cases he
    | edited notes text _ hnotes =>
      rcases List.mem_append.mp he with he | he
      · exact .inl (hnotes.onTerminal event he)
      · exact .inr ⟨_, List.mem_singleton.mp he⟩
    | refused notes e _ hnotes =>
      rcases List.mem_append.mp he with he | he
      · exact .inl (hnotes.onTerminal event he)
      · rcases List.mem_pair.mp he with rfl | rfl
        · exact .inr ⟨_, rfl⟩
        · exact .inl ⟨_, rfl⟩
  induction h with
  | flushErr e | readErr e => exact hasked _ _ [] (by simp)
  | answered line log answer h | failed line log stop h | hang log h => exact hasked _ _ log (hchoose h)
  | again line log log' r h _ ih =>
    intro event he
    rcases List.mem_append.mp he with he | he
    · exact hasked _ _ log (hchoose h) event he
    · exact ih event he

/-- What comes of a value that was chosen. -/
theorem resolveTo_cases (conflict : PropertyConflict) (value : String) (w : World σ) :
    ∃ (uploads : List ResolveEvent) (w' : World σ) (r : Except Error Unit),
      resolveTo out pair conflict value w = ⟨(r.mapError .err).map fun _ => true, w',
        [.term (.info s!"Resolved property '{conflict.property.name}' to '{value}'")] ++ uploads⟩ ∧
      PropertyUploads out pair conflict value uploads ∧ propertyUploadOk out pair conflict value w.outside = r.isOk ∧
      (r.isOk = true ↔ ∀ side, value ≠ conflict.value side →
        .propertySet side (conflict.mapping.href side) conflict.property value (.ok ()) ∈ uploads) := by
  obtain ⟨⟨r, hr, hrok⟩, hwrites⟩ := uploadResolvedProperty_ok out pair conflict value w
  have huploads := (uploadResolvedProperty_trace out pair conflict value w).1
  rcases hu : uploadResolvedProperty out pair conflict.property conflict.mapping conflict.value value w with
    ⟨result, w', uploads⟩
  rw [hu] at hr hwrites huploads
  obtain rfl : result = r.mapError .err := hr
  have hisOk : propertyUploadOk out pair conflict value w.outside = r.isOk := by
    rw [Bool.eq_iff_iff, ← hrok]
    rcases r with e | ⟨⟩ <;> simp [Except.isOk, Except.toBool]
  refine ⟨uploads, w', r, ?_, huploads, hisOk, by rw [← hisOk]; exact hwrites⟩
  rcases r with e | ⟨⟩ <;> simp [resolveTo, Prog.bind_run, hu, Except.map, Except.mapError]

theorem ChoicePrompt.not_chosen {rawCmd : RawCommand} {conflict : PropertyConflict} {heading prompt : List ResolveEvent}
    {r : Except Stop PropertyChoice} (hprompt : ChoicePrompt out rawCmd conflict prompt r) (hheading : OnTerminal heading)
    (choice : PropertyChoice) : .chosen choice ∉ heading ++ prompt := by
  intro hmem
  rcases List.mem_append.mp hmem with hmem | hmem
  · exact hheading.not_mem (by simp) hmem
  · obtain ⟨shown, hshown⟩ | ⟨result, hresult⟩ := hprompt.event out _ hmem
    · cases hshown
    · cases hresult

/-- One choice is made for a property. -/
theorem chosen_eq {conflict : PropertyConflict} {heading prompt after : List ResolveEvent} {r : Except Stop PropertyChoice}
    {choice choice' : PropertyChoice} (hheading : OnTerminal heading) (hprompt : ChoicePrompt out rawCmd conflict prompt r)
    (hafter : .chosen choice' ∉ after) (h : .chosen choice' ∈ heading ++ prompt ++ [.chosen choice] ++ after) :
    choice' = choice := by
  rcases List.mem_append.mp h with hmem | hmem
  · simpa using (List.mem_append.mp hmem).resolve_left (hprompt.not_chosen out hheading choice')
  · exact absurd hmem hafter

theorem PropertyUploads.not_chosen {conflict : PropertyConflict} {value : String} {uploads : List ResolveEvent}
    (h : PropertyUploads out pair conflict value uploads) (shown : TermEvent) (choice : PropertyChoice) :
    .chosen choice ∉ [.term shown] ++ uploads := by
  intro hmem
  rcases List.mem_append.mp hmem with hmem | hmem
  · simp at hmem
  · obtain ⟨side, result, -, heq⟩ := Uploads.event h hmem
    cases heq

/-- A property that was given a value is resolved if its writes succeed. -/
theorem resolved_property_iff {conflict : PropertyConflict} {heading prompt uploads : List ResolveEvent} {value : String}
    {r : Except Stop PropertyChoice} {choice : PropertyChoice} {shown : TermEvent} (hheading : OnTerminal heading)
    (hprompt : ChoicePrompt out rawCmd conflict prompt r) (hvalue : choice.value conflict = some value)
    (huploads : PropertyUploads out pair conflict value uploads) :
    (Conflict.property conflict).Resolved out rawCmd
        (heading ++ prompt ++ [.chosen choice] ++ ([.term shown] ++ uploads)) ↔
      ∀ side, value ≠ conflict.value side →
        .propertySet side (conflict.mapping.href side) conflict.property value (.ok ()) ∈ uploads := by
  constructor
  · rintro ⟨choice', value', hchosen, hvalue', hwrites⟩ side hdiffers
    obtain rfl := chosen_eq out rawCmd hheading hprompt (huploads.not_chosen out pair shown choice') hchosen
    obtain rfl : value' = value := by simpa [hvalue] using hvalue'.symm
    have hquiet : Quiet (heading ++ prompt ++ [.chosen choice'] ++ [.term shown]) := by
      refine ((Quiet.append (fun event he => ?_) hprompt.quiet).append ?_).append (quiet_term [shown])
      · obtain ⟨shown, rfl⟩ := hheading event he
        rfl
      · simp [Quiet, ResolveEvent.write?]
    have hmem := hwrites side hdiffers
    rw [← List.append_assoc] at hmem
    refine (List.mem_append.mp hmem).resolve_left fun hmem => ?_
    exact absurd (hquiet _ hmem) (by simp [ResolveEvent.write?])
  · intro hwrites
    refine ⟨choice, value, by simp, hvalue, fun side hdiffers => ?_⟩
    exact List.mem_append_right _ (List.mem_append_right _ (hwrites side hdiffers))

/-- A property for which nothing was chosen, or no value, is not resolved. -/
theorem not_resolved_property {conflict : PropertyConflict} {log : List ResolveEvent}
    (h : ∀ choice, .chosen choice ∈ log → choice.value conflict = none) :
    ¬ (Conflict.property conflict).Resolved out rawCmd log := by
  rintro ⟨choice, value, hchosen, hvalue, -⟩
  rw [h choice hchosen] at hvalue
  cases hvalue

/-- The round of an item that the user accepts. -/
theorem resolveItem_yes (total i : ℕ) (info : ConflictInfo) {w w' : World σ} {log : List TermEvent}
    (hp : continueSkipOrQuit "Resolve it manually?" w = ⟨.ok .yes, w', log⟩) : ∃ heading, OnTerminal heading ∧
    resolveItem out pair rawCmd total i info w = ⟨(mergeItem out pair rawCmd info w').result.map fun _ => true,
      (mergeItem out pair rawCmd info w').world, heading ++ (mergeItem out pair rawCmd info w').log⟩ := by
  refine ⟨_, (onTerminal_map [.print s!"Next is item {i + 1}/{total}, with uid \"{info.a.state.uid}\"."]).append
    (onTerminal_map log), ?_⟩
  rcases hm : mergeItem out pair rawCmd info w' with ⟨e | ⟨⟩, w'', trace⟩ <;>
    simp [resolveItem, Prog.bind_run, hp, hm, Except.map]

/-- **The round of an item**: how it ends, and what tells of it. -/
theorem resolveItem_outcome (total i : ℕ) (info : ConflictInfo) (w : World σ) :
    ((Conflict.item info).outcome out rawCmd pair w).Ended (resolveItem out pair rawCmd total i info w).result ∧
      ((Conflict.item info).outcome out rawCmd pair w = .resolved ↔
        (Conflict.item info).Resolved out rawCmd (resolveItem out pair rawCmd total i info w).log) := by
  have hworld := (continueSkipOrQuit_trace "Resolve it manually?" w).2
  have hheading : ∀ (log : List TermEvent), OnTerminal ([.term (.print
      s!"Next is item {i + 1}/{total}, with uid \"{info.a.state.uid}\".")] ++ log.map .term) :=
    fun log => (onTerminal_map [.print _]).append (onTerminal_map log)
  have hnone : ∀ log, OnTerminal log → ¬ (Conflict.item info).Resolved out rawCmd log :=
    fun log hlog => not_resolved_item out rawCmd fun event he => .inl (hlog event he)
  rcases hp : continueSkipOrQuit "Resolve it manually?" w with ⟨stop | answer, w', log⟩ <;> rw [hp] at hworld
  · obtain ⟨heading, hheading, hrun⟩ : ∃ heading, OnTerminal heading ∧
        resolveItem out pair rawCmd total i info w = ⟨.error stop, w', heading⟩ :=
      ⟨_, hheading log, by simp [resolveItem, Prog.bind_run, hp]⟩
    simp only [Conflict.outcome, hp, hrun]
    exact ⟨⟨stop, rfl⟩, by simpa using hnone heading hheading⟩
  cases answer with
  | yes =>
    obtain ⟨hended, hresolved⟩ := mergeItem_outcome out rawCmd pair info w'
    obtain ⟨heading, hheading, hrun⟩ := resolveItem_yes out rawCmd pair total i info hp
    simp only [Conflict.outcome, hp, hrun, ← hworld]
    exact ⟨hended, hresolved heading hheading⟩
  | no =>
    obtain ⟨heading, hheading, hrun⟩ : ∃ heading, OnTerminal heading ∧
        resolveItem out pair rawCmd total i info w = ⟨.ok true, w', heading⟩ :=
      ⟨_, hheading log, by simp [resolveItem, Prog.bind_run, hp]⟩
    simp only [Conflict.outcome, hp, hrun]
    exact ⟨rfl, by simpa using hnone heading hheading⟩
  | quit =>
    obtain ⟨heading, hheading, hrun⟩ : ∃ heading, OnTerminal heading ∧
        resolveItem out pair rawCmd total i info w = ⟨.ok false, w', heading⟩ :=
      ⟨_, (hheading log).append (onTerminal_map [.print s!"Skipping all remaining conflicts for pair \"{pair.name}\"."]),
        by simp [resolveItem, Prog.bind_run, hp, Except.map]⟩
    simp only [Conflict.outcome, hp, hrun]
    exact ⟨rfl, by simpa using hnone heading hheading⟩

/-- **The round of a property**: how it ends, and what tells of it. -/
theorem resolveProperty_outcome (total i : ℕ) (conflict : PropertyConflict) (w : World σ) :
    ((Conflict.property conflict).outcome out rawCmd pair w).Ended
        (resolveProperty out pair rawCmd total i conflict w).result ∧
      ((Conflict.property conflict).outcome out rawCmd pair w = .resolved ↔
        (Conflict.property conflict).Resolved out rawCmd (resolveProperty out pair rawCmd total i conflict w).log) := by
  obtain ⟨log, r, w', hprompt, hp⟩ := choosePropertyValue_run out rawCmd conflict w
  let heading : List TermEvent :=
    [.print s!"Property {i + 1}/{total}: \"{conflict.property.name}\" on collection \"{conflict.mapping.name}\":",
      .print s!"  A: \"{conflict.valueA}\"", .print s!"  B: \"{conflict.valueB}\""]
  have hheading : OnTerminal (heading.map .term) := onTerminal_map heading
  rcases r with stop | choice
  · have hrun : resolveProperty out pair rawCmd total i conflict w = ⟨.error stop, w', heading.map .term ++ log⟩ := by
      simp [resolveProperty, Prog.bind_run, hp, heading, Except.toOption]
    have hnot : ¬ (Conflict.property conflict).Resolved out rawCmd (heading.map .term ++ log) :=
      not_resolved_property out rawCmd fun choice hmem => absurd hmem (hprompt.not_chosen out hheading choice)
    cases stop with
    | hang =>
      simp only [Conflict.outcome, hp, hrun]
      exact ⟨⟨.hang, rfl⟩, by simpa using hnot⟩
    | err e =>
      simp only [Conflict.outcome, hp, hrun]
      split
      · exact ⟨⟨.err e, rfl⟩, by simpa using hnot⟩
      · exact ⟨⟨e, rfl⟩, by simpa using hnot⟩
  cases hv : choice.value conflict with
  | some value =>
    obtain ⟨uploads, w'', r, hr, huploads, hok, hwrites⟩ := resolveTo_cases out pair conflict value w'
    have hrun : resolveProperty out pair rawCmd total i conflict w = ⟨(r.mapError .err).map fun _ => true, w'',
        heading.map .term ++ log ++ [.chosen choice] ++
          ([.term (.info s!"Resolved property '{conflict.property.name}' to '{value}'")] ++ uploads)⟩ := by
      cases choice <;> cases hv <;> simp [resolveProperty, Prog.bind_run, hp, hr, heading, Except.toOption]
    simp only [Conflict.outcome, hp, hrun, hv, hok]
    constructor
    · rcases r with e | ⟨⟩
      · exact ⟨e, rfl⟩
      · rfl
    · rw [Outcome.ofUpload_resolved, hwrites, resolved_property_iff out rawCmd pair hheading hprompt hv huploads]
  | none =>
    have hnone : ∀ after, OnTerminal after → ¬ (Conflict.property conflict).Resolved out rawCmd
        (heading.map .term ++ log ++ [.chosen choice] ++ after) := by
      intro after hafter
      refine not_resolved_property out rawCmd fun choice' hmem => ?_
      obtain rfl := chosen_eq out rawCmd hheading hprompt (hafter.not_mem (by simp)) hmem
      exact hv
    cases choice with
    | a | b | custom => cases hv
    | skip =>
      have hrun : resolveProperty out pair rawCmd total i conflict w = ⟨.ok true, w',
          heading.map .term ++ log ++ [.chosen .skip] ++ [].map .term⟩ := by
        simp [resolveProperty, Prog.bind_run, hp, heading, Except.toOption]
      simp only [Conflict.outcome, hp, hrun, hv]
      exact ⟨rfl, by simpa using hnone _ (onTerminal_map [])⟩
    | quit =>
      have hrun : resolveProperty out pair rawCmd total i conflict w = ⟨.ok false, w',
          heading.map .term ++ log ++ [.chosen .quit] ++
            [.print s!"Skipping all remaining properties for pair \"{pair.name}\"."].map .term⟩ := by
        simp [resolveProperty, Prog.bind_run, hp, heading, Except.toOption, Except.map]
      simp only [Conflict.outcome, hp, hrun, hv]
      exact ⟨rfl, by simpa using hnone _ (onTerminal_map [.print _])⟩

end Answers

end Pimsync
