import Pimsync.ConflictRounds

/-!
# Whether a resolution ends

A prompt that does not know a line asks again, and at the end of the input every line it reads is empty. An empty line is
an answer for an item, but not for a property: `choose_property_value` returns if the rest of the input holds an answer.

- `promptLoop_hang_iff`: the modelled hang is a prompt that returns within no number of questions;
- `choosePropertyValue_hang_iff`: the input that a property's prompt needs;
- `resolveOffers_hang_iff`: a walk hangs at the first prompt that does.
-/

namespace Pimsync

variable {σ S : Type}

/-! ## Asking for ever -/

section Prompt

variable {ε α : Type} (term : TermEvent → ε) (msg : String) (response : String → Prog (World σ) ε Stop (Option α))

/-- The first `n` rounds of a prompt's loop. -/
def promptWithin : ℕ → List Turn → Prog (World σ) ε Stop (Option α)
  | 0, _ => return none
  | n + 1, [] => do
    Prog.emit (term (.print msg))
    Prog.emit (term (.turn (.read "")))
    match ← response "" with
    | some answer => return some answer
    | none => promptWithin n []
  | n + 1, turn :: turns => do
    Prog.emit (term (.print msg))
    Prog.setTurns turns
    Prog.emit (term (.turn turn))
    match turn with
    | .flushErr e => Prog.fail (.err e)
    | .readErr e => Prog.fail (.err ("Reading response from stdin" :: e))
    | .read line =>
      match ← response line with
      | some answer => return some answer
      | none => promptWithin n turns

variable {term msg response}

/-- At the end of the input a prompt goes on as it did. -/
theorem promptWithin_nil {w : World σ} (h : response "" w = ⟨.ok none, w, []⟩) (n : ℕ) :
    (promptWithin term msg response n [] w).result = .ok none := by
  induction n with
  | zero => rfl
  | succ n ih => simpa [promptWithin, Prog.bind_run, h] using ih

/-- **A prompt hangs if it returns within no number of questions**, when an empty line that is no answer has no effect. -/
theorem promptLoop_hang_iff (hstop : ∀ line w, (response line w).result ≠ .error .hang)
    (hend : ∀ w, (response "" w).result = .ok none → response "" w = ⟨.ok none, w, []⟩) (turns : List Turn)
    (w : World σ) : (promptLoop term msg response turns w).result = .error .hang ↔
      ∀ n, (promptWithin term msg response n turns w).result = .ok none := by
  induction turns generalizing w with
  | nil =>
    rcases hr : response "" w with ⟨stop | _ | answer, w', log⟩
    · have hne : stop ≠ .hang := fun h => hstop "" w (by rw [hr, h])
      refine ⟨fun h => ?_, fun h => ?_⟩
      · exact absurd (by simpa [promptLoop, Prog.bind_run, hr] using h) hne
      · simpa [promptWithin, Prog.bind_run, hr] using h 1
    · have hidle := hend w (by rw [hr])
      refine ⟨fun _ n => promptWithin_nil hidle n, fun _ => ?_⟩
      simp [promptLoop, Prog.bind_run, hr]
    · refine ⟨fun h => ?_, fun h => ?_⟩
      · simp [promptLoop, Prog.bind_run, hr] at h
      · simpa [promptWithin, Prog.bind_run, hr] using h 1
  | cons turn turns ih =>
    cases turn with
    | flushErr e | readErr e =>
      refine ⟨fun h => ?_, fun h => ?_⟩
      · simp [promptLoop, Prog.bind_run] at h
      · simpa [promptWithin, Prog.bind_run] using h 1
    | read line =>
      rcases hr : response line { w with turns } with ⟨stop | _ | answer, w', log⟩
      · have hne : stop ≠ .hang := fun h => hstop line { w with turns } (by rw [hr, h])
        refine ⟨fun h => ?_, fun h => ?_⟩
        · exact absurd (by simpa [promptLoop, Prog.bind_run, hr] using h) hne
        · simpa [promptWithin, Prog.bind_run, hr] using h 1
      · have hloop : (promptLoop term msg response (.read line :: turns) w).result =
            (promptLoop term msg response turns w').result := by simp [promptLoop, Prog.bind_run, hr]
        have hwithin : ∀ n, (promptWithin term msg response (n + 1) (.read line :: turns) w).result =
            (promptWithin term msg response n turns w').result := fun n => by simp [promptWithin, Prog.bind_run, hr]
        rw [hloop, ih w']
        refine ⟨fun h n => ?_, fun h n => by rw [← hwithin n]; exact h (n + 1)⟩
        cases n with
        | zero => rfl
        | succ n => rw [hwithin n]; exact h n
      · refine ⟨fun h => ?_, fun h => ?_⟩
        · simp [promptLoop, Prog.bind_run, hr] at h
        · simpa [promptWithin, Prog.bind_run, hr] using h 1

end Prompt

/-! ## The prompts -/

section Prompts

variable (out : ResolveOutside σ S) (rawCmd : RawCommand)

/-- The first `n` rounds of `continue_skip_or_quit`. -/
def continueSkipOrQuitWithin (msg : String) (n : ℕ) : Prog (World σ) TermEvent Stop (Option YesNoQuit) := fun w =>
  promptWithin id s!"{msg} (Y)es, (N)o, or (Q)uit? " (fun response => return YesNoQuit.ofResponse response) n w.turns w

/-- The first `n` rounds of `choose_property_value`. -/
def choosePropertyValueWithin (valueA valueB : String) (n : ℕ) :
    Prog (World σ) ResolveEvent Stop (Option PropertyChoice) := fun w =>
  promptWithin ResolveEvent.term "Keep (A), (B), (E)dit, (S)kip, or (Q)uit? " (chooseResponse out rawCmd valueA valueB) n
    w.turns w

/-- Whether the rest of the input holds an answer for a property: an error, a letter that decides, or an edit that leaves a
value or cannot be started. -/
def choiceEnds (valueA valueB : String) : List Turn → σ → Bool
  | [], _ => false
  | .flushErr _ :: _, _ | .readErr _ :: _, _ => true
  | .read line :: turns, s =>
    if toLowercase (trim line) = "e" then
      !filesOk out valueA valueB s || (mergeRun out rawCmd valueA valueB s).1.text.isSome ||
        choiceEnds valueA valueB turns (mergeRun out rawCmd valueA valueB s).2
    else (PropertyChoice.ofResponse line).isSome || choiceEnds valueA valueB turns s

/-- The prompt for an item returns, since the end of the input is an answer. -/
theorem continueSkipOrQuit_returns (msg : String) (w : World σ) :
    ∃ n, (continueSkipOrQuitWithin msg n w).result ≠ .ok none := by
  by_contra hnone
  have hhang : (promptLoop id s!"{msg} (Y)es, (N)o, or (Q)uit? "
      (fun response => (return YesNoQuit.ofResponse response : Prog (World σ) TermEvent Stop _)) w.turns w).result =
      .error .hang := by
    refine (promptLoop_hang_iff (fun line w => by simp) (fun w h => ?_) w.turns w).mpr fun n => ?_
    · rw [Prog.pure_run] at h ⊢
      rw [show YesNoQuit.ofResponse "" = none by simpa using h]
    · by_contra hn
      exact hnone ⟨n, hn⟩
  have htrace := (continueSkipOrQuit_trace msg w).1
  have hresult : (continueSkipOrQuit msg w).result = .error .hang := by
    rw [continueSkipOrQuit, answerLoop, Prog.bind_run]
    rcases hp : promptLoop id s!"{msg} (Y)es, (N)o, or (Q)uit? "
      (fun response => (return YesNoQuit.ofResponse response : Prog (World σ) TermEvent Stop _)) w.turns w with ⟨r, w', log⟩
    rw [hp] at hhang
    obtain rfl : r = .error .hang := hhang
    rfl
  rw [hresult] at htrace
  obtain ⟨e, he⟩ := htrace.error
  cases he

/-- What an edit of a property comes to. -/
theorem chooseResponse_edit (valueA valueB : String) {line : String} (he : toLowercase (trim line) = "e") (w : World σ) :
    (filesOk out valueA valueB w.outside = false ∧
        ∃ e, (chooseResponse out rawCmd valueA valueB line w).result = .error (.err e)) ∨
      (filesOk out valueA valueB w.outside = true ∧ ∃ log,
        chooseResponse out rawCmd valueA valueB line w =
          ⟨.ok ((mergeRun out rawCmd valueA valueB w.outside).1.text.map fun text => .custom (trim text)),
            { w with outside := (mergeRun out rawCmd valueA valueB w.outside).2 }, log⟩) := by
  obtain ⟨ra, rb, ha, hb, hfiles⟩ := filesOk_run out (a := valueA) (b := valueB) (w := w)
  rcases ra with e | ⟨⟩
  · exact .inl ⟨by simpa using hfiles, _, by simp [chooseResponse, he, Prog.bind_run, ha, Except.mapError]; rfl⟩
  rcases rb with e | ⟨⟩
  · exact .inl ⟨by simpa using hfiles, _, by simp [chooseResponse, he, Prog.bind_run, ha, hb, Except.mapError]; rfl⟩
  obtain ⟨result, notes, hm, -, htext⟩ := runMergeCommand_text out rawCmd valueA valueB
    { w with outside := (out.tempFile valueB (out.tempFile valueA w.outside).2).2 }
  refine .inr ⟨by simpa using hfiles, ?_⟩
  rw [mergeRun, ← htext]
  rcases result with e | text <;>
    exact ⟨_, by simp [chooseResponse, he, Prog.bind_run, ha, hb, hm, Except.mapError, Except.map, Except.toOption]; rfl⟩

theorem chooseResponse_hang (valueA valueB line : String) (w : World σ) :
    (chooseResponse out rawCmd valueA valueB line w).result ≠ .error .hang := by
  by_cases he : toLowercase (trim line) = "e"
  · obtain ⟨-, e, hr⟩ | ⟨-, log, hr⟩ := chooseResponse_edit out rawCmd valueA valueB he w <;> rw [hr] <;> simp
  · rw [chooseResponse_known out rawCmd valueA valueB he]
    simp

theorem choosePropertyValue_hang (valueA valueB : String) (w : World σ) :
    (choosePropertyValue out valueA valueB rawCmd w).result = .error .hang ↔
      (promptLoop ResolveEvent.term "Keep (A), (B), (E)dit, (S)kip, or (Q)uit? "
        (chooseResponse out rawCmd valueA valueB) w.turns w).result = .error .hang := by
  rw [choosePropertyValue, Prog.bind_run]
  rcases promptLoop ResolveEvent.term "Keep (A), (B), (E)dit, (S)kip, or (Q)uit? "
    (chooseResponse out rawCmd valueA valueB) w.turns w with ⟨stop | choice, w', log⟩ <;> simp [Except.map]

theorem choosePropertyValue_returns_iff (valueA valueB : String) (w : World σ) :
    (∃ n, (choosePropertyValueWithin out rawCmd valueA valueB n w).result ≠ .ok none) ↔
      (choosePropertyValue out valueA valueB rawCmd w).result ≠ .error .hang := by
  have hempty : toLowercase (trim "") ≠ "e" := by decide
  rw [Ne, choosePropertyValue_hang, promptLoop_hang_iff (fun line w => chooseResponse_hang out rawCmd valueA valueB line w)
    (fun w _ => chooseResponse_known out rawCmd valueA valueB hempty w), not_forall]
  rfl

/-- **What the prompt for a property needs**: an answer in the rest of the input. -/
theorem choosePropertyValue_hang_iff (valueA valueB : String) (w : World σ) :
    (choosePropertyValue out valueA valueB rawCmd w).result = .error .hang ↔
      choiceEnds out rawCmd valueA valueB w.turns w.outside = false := by
  rw [choosePropertyValue_hang]
  obtain ⟨turns, s⟩ := w
  show (promptLoop _ _ _ turns ⟨turns, s⟩).result = _ ↔ choiceEnds out rawCmd valueA valueB turns s = false
  suffices h : ∀ turns' : List Turn, (promptLoop ResolveEvent.term "Keep (A), (B), (E)dit, (S)kip, or (Q)uit? "
      (chooseResponse out rawCmd valueA valueB) turns ⟨turns', s⟩).result = .error .hang ↔
      choiceEnds out rawCmd valueA valueB turns s = false from h turns
  induction turns generalizing s with
  | nil =>
    intro turns'
    have hempty : toLowercase (trim "") ≠ "e" := by decide
    have hr := chooseResponse_known out rawCmd valueA valueB hempty (⟨turns', s⟩ : World σ)
    have hnone : PropertyChoice.ofResponse "" = none := by decide
    rw [hnone] at hr
    simp [promptLoop, Prog.bind_run, hr, choiceEnds]
  | cons turn turns ih =>
    intro turns'
    cases turn with
    | flushErr e | readErr e => simp [promptLoop, Prog.bind_run, choiceEnds]
    | read line =>
      by_cases he : toLowercase (trim line) = "e"
      · obtain ⟨hfiles, e, hr⟩ | ⟨hfiles, log, hr⟩ := chooseResponse_edit out rawCmd valueA valueB he (⟨turns, s⟩ : World σ)
        · rcases hp : chooseResponse out rawCmd valueA valueB line ⟨turns, s⟩ with ⟨r, w', log⟩
          obtain rfl : r = .error (.err e) := by rw [hp] at hr; exact hr
          simp [promptLoop, Prog.bind_run, hp, choiceEnds, he, show filesOk out valueA valueB s = false from hfiles]
        · cases htext : (mergeRun out rawCmd valueA valueB s).1.text with
          | none =>
            rw [show (mergeRun out rawCmd valueA valueB (World.mk turns s).outside).1.text = none from htext] at hr
            simpa [promptLoop, Prog.bind_run, hr, choiceEnds, he, htext,
              show filesOk out valueA valueB s = true from hfiles] using ih (mergeRun out rawCmd valueA valueB s).2 turns
          | some text =>
            rw [show (mergeRun out rawCmd valueA valueB (World.mk turns s).outside).1.text = some text from htext] at hr
            simp [promptLoop, Prog.bind_run, hr, choiceEnds, he, htext]
      · have hr := chooseResponse_known out rawCmd valueA valueB he (⟨turns, s⟩ : World σ)
        cases hline : PropertyChoice.ofResponse line with
        | none =>
          rw [hline] at hr
          simpa [promptLoop, Prog.bind_run, hr, choiceEnds, he, hline] using ih s turns
        | some choice =>
          rw [hline] at hr
          simp [promptLoop, Prog.bind_run, hr, choiceEnds, he, hline]

end Prompts

/-! ## The loops -/

section Loops

variable (out : ResolveOutside σ S) (rawCmd : RawCommand) (pair : NamedPair S)

/-- Whether the prompt for a conflict finds an answer in the rest of the input. -/
def Conflict.answered : Conflict → World σ → Bool
  | .item _, _ => true
  | .property conflict, w => choiceEnds out rawCmd conflict.valueA conflict.valueB w.turns w.outside

theorem resolveItem_hang (total i : ℕ) (info : ConflictInfo) (w : World σ) :
    (resolveItem out pair rawCmd total i info w).result ≠ .error .hang := by
  have htrace := resolveItem_trace out rawCmd pair total i info w
  intro hhang
  rw [hhang] at htrace
  generalize hlog : (resolveItem out pair rawCmd total i info w).log = log at htrace
  generalize hr : (Except.error Stop.hang : Except Stop Bool) = r at htrace
  cases htrace with
  | promptFailed | no | quit => cases hr
  | yes heading log trace r _ hmerge => cases hmerge <;> cases hr

theorem resolveProperty_hang_iff (total i : ℕ) (conflict : PropertyConflict) (w : World σ) :
    (resolveProperty out pair rawCmd total i conflict w).result = .error .hang ↔
      choiceEnds out rawCmd conflict.valueA conflict.valueB w.turns w.outside = false := by
  rw [← choosePropertyValue_hang_iff]
  rcases hp : choosePropertyValue out conflict.valueA conflict.valueB rawCmd w with ⟨stop | choice, w', log⟩
  · simp [resolveProperty, Prog.bind_run, hp]
  · have hresolveTo : ∀ value, (resolveTo out pair conflict value w').result ≠ .error .hang := by
      intro value hhang
      obtain ⟨uploads, w'', r, hr, -⟩ := resolveTo_cases out pair conflict value w'
      rw [hr] at hhang
      cases r <;> cases hhang
    cases choice <;> simp [resolveProperty, Prog.bind_run, hp, hresolveTo, Except.map]

theorem Offer.round_hang_iff (offer : Offer) (w : World σ) :
    (offer.round out rawCmd pair w).result = .error .hang ↔ offer.conflict.answered out rawCmd w = false := by
  obtain ⟨info | conflict, total, i⟩ := offer
  · simpa [Offer.round, Conflict.answered] using resolveItem_hang out rawCmd pair total i info w
  · exact resolveProperty_hang_iff out rawCmd pair total i conflict w

/-- **A walk hangs at the first prompt that does.** -/
theorem resolveOffers_hang_iff (offers : List Offer) (w : World σ) :
    (resolveOffers out rawCmd pair offers w).result ≠ .error .hang ↔
      ∀ at_ ∈ reached out rawCmd pair offers w, at_.1.conflict.answered out rawCmd at_.2 = true := by
  constructor
  · intro h at_ hmem
    by_contra hanswered
    have hround := (Offer.round_hang_iff out rawCmd pair at_.1 at_.2).mpr (by simpa using hanswered)
    exact h (by rw [resolveOffers_ended offers w hmem (by rw [hround]; simp), hround])
  · intro h hhang
    have hnot : ¬ ∀ at_ ∈ reached out rawCmd pair offers w, (at_.1.round out rawCmd pair at_.2).result = .ok true := by
      rw [← resolveOffers_ok, hhang]
      simp
    obtain ⟨at_, hnot⟩ := not_forall.mp hnot
    obtain ⟨hmem, hne⟩ := Classical.not_imp.mp hnot
    rw [resolveOffers_ended offers w hmem hne, Offer.round_hang_iff, h at_ hmem] at hhang
    cases hhang

theorem resolveItemConflicts_hang (items : List ConflictInfo) (w : World σ) :
    (resolveItemConflicts out pair items rawCmd w).result ≠ .error .hang := by
  rw [resolveItemConflicts, resolveItems_offers, resolveOffers_hang_iff]
  intro at_ hmem
  have hoffer : at_.1 ∈ offersOfItems items.length 0 items := (reached_offers _ w).subset (List.mem_map_of_mem hmem)
  obtain ⟨info, -, hinfo⟩ := List.mem_map.mp hoffer
  rw [← hinfo]
  rfl

theorem resolvePropertyConflicts_hang_iff (properties : List PropertyConflict) (w : World σ) :
    (resolvePropertyConflicts out pair properties rawCmd w).result ≠ .error .hang ↔
      ∀ at_ ∈ reached out rawCmd pair (offersOfProperties properties.length 0 properties) w,
        at_.1.conflict.answered out rawCmd at_.2 = true := by
  rw [← resolveOffers_hang_iff, resolvePropertyConflicts, resolveProperties_offers, Prog.map_run]
  rcases (resolveOffers out rawCmd pair (offersOfProperties properties.length 0 properties) w).result with stop | go <;>
    simp [Except.map]

/-- **Whether the prompts and the loops of a resolution return**, for an input that may end. -/
theorem prompts_return_iff (msg valueA valueB : String) (items : List ConflictInfo) (properties : List PropertyConflict)
    (w : World σ) :
    ((∃ n, (continueSkipOrQuitWithin msg n w).result ≠ .ok none) ∧
        (∃ n, (choosePropertyValueWithin out rawCmd valueA valueB n w).result ≠ .ok none) ∧
        (resolveItemConflicts out pair items rawCmd w).result ≠ .error .hang ∧
        (resolvePropertyConflicts out pair properties rawCmd w).result ≠ .error .hang) ↔
      choiceEnds out rawCmd valueA valueB w.turns w.outside = true ∧
        ∀ at_ ∈ reached out rawCmd pair (offersOfProperties properties.length 0 properties) w,
          at_.1.conflict.answered out rawCmd at_.2 = true := by
  rw [choosePropertyValue_returns_iff, Ne, choosePropertyValue_hang_iff, Bool.not_eq_false, resolvePropertyConflicts_hang_iff]
  constructor
  · rintro ⟨-, hchoice, -, hloop⟩
    exact ⟨hchoice, hloop⟩
  · rintro ⟨hchoice, hloop⟩
    exact ⟨continueSkipOrQuit_returns msg w, hchoice, resolveItemConflicts_hang out rawCmd pair items w, hloop⟩

end Loops

/-- Storages and a merge command that take everything. -/
def obliging : ResolveOutside Unit Unit where
  hash := Item.text
  ident := Item.text
  tempFile _ s := ((.ok (), .ok ()), s)
  merge _ a _ s := (⟨.ok (), .ok (true, "exit status: 0"), .ok (), .ok (), .ok a, .ok a⟩, s)
  updateItem _ _ _ _ s := (.ok (), s)
  setProperty _ _ _ _ s := (.ok (), s)
  first s := (.a, s)

/-- At the end of the input the prompt for a property asks for ever. -/
theorem choosePropertyValue_endless :
    ¬ ∃ n, (choosePropertyValueWithin obliging ⟨"merge", []⟩ "red" "blue" n ⟨[], ()⟩).result ≠ .ok none := by
  rw [choosePropertyValue_returns_iff, Ne, not_not, choosePropertyValue_hang_iff]
  rfl

end Pimsync
