import Pimsync.ConflictWrites
import Pimsync.SyncErrors

/-!
# Consent

A prompt takes the end of the input for an empty line, and an empty line for a yes. `Consent` is what should hold of
everything that is done after a prompt: the user has typed a line for it.

- `PromptTrace.consents_iff`: one prompt, and what it leads to;
- `PairTrace.consents_iff`, `ItemTrace.consents_iff`: the prompts of `sync` and of `resolve-conflicts`;
- `consent_iff`: the user consents to everything that is done if and only if the input does not end at a prompt;
- `executed_without_consent`: a plan is executed although there is no input at all.
-/

namespace Pimsync

variable {σ S D ε : Type}

/-- Whatever `Acts` does is done only after the user has typed a yes, and the end of the input is no yes. -/
structure Consent (term : TermEvent → ε) (Acts : ε → Prop) (trace : List ε) : Prop where
  supplied : ∀ pre event post, trace = pre ++ event :: post → Acts event → ∃ line, line ≠ "" ∧ IsYes line ∧
    [term (.turn (.read line)), term (.answered .yes)] <:+: pre
  endOfInput : ¬ [term (.turn (.read "")), term (.answered .yes)] <:+: trace

theorem consent_of_idle {term : TermEvent → ε} {Acts : ε → Prop} {trace : List ε} (hacts : ∀ event ∈ trace, ¬ Acts event)
    (hturn : term (.turn (.read "")) ∉ trace) : Consent term Acts trace where
  supplied pre event post hsplit h := absurd h (hacts event (by rw [hsplit]; simp))
  endOfInput hinf := hturn (hinf.subset (by simp))

section Prompt

variable {msg : String} {log : List TermEvent} {r : Except Stop YesNoQuit}

/-- A yes is the answer to a line. -/
theorem PromptTrace.yes (h : PromptTrace msg log r) (hr : r = .ok .yes) :
    ∃ line, YesNoQuit.ofResponse line = some .yes ∧ [.turn (.read line), .answered .yes] <:+: log := by
  induction h with
  | flushErr | readErr => cases hr
  | answered line answer h => cases hr; exact ⟨line, h, [_], [], rfl⟩
  | again line log r _ _ ih =>
    obtain ⟨line', h, hinf⟩ := ih hr
    exact ⟨line', h, hinf.trans (List.suffix_append ..).isInfix⟩

/-- The end of the input is taken for a yes. -/
theorem PromptTrace.endOfInput (h : PromptTrace msg log r) (he : .turn (.read "") ∈ log) :
    [.turn (.read ""), .answered .yes] <:+: log := by
  induction h with
  | flushErr | readErr => simp [asked] at he
  | answered line answer h =>
    obtain rfl : "" = line := by simpa [asked] using he
    obtain rfl : YesNoQuit.yes = answer := Option.some.inj h
    exact ⟨[_], [], rfl⟩
  | again line log r h _ ih =>
    by_cases hline : line = ""
    · subst hline
      cases h
    · have he' : .turn (.read "") ∈ log := by simpa [asked, Ne.symm hline] using he
      exact (ih he').trans (List.suffix_append ..).isInfix

/-- **Consent at one prompt**: it is given for what follows if and only if the input has not ended. -/
theorem PromptTrace.consents_iff {term : TermEvent → ε} {Acts : ε → Prop} {before after : List ε} (h : PromptTrace msg log r)
    (hinj : Function.Injective term) (hterm : ∀ event, ¬ Acts (term event)) (hbefore : ∀ event ∈ before, ¬ Acts event)
    (hturns : ∀ event ∈ before ++ after, event ≠ term (.turn (.read "")))
    (hafter : (∃ event ∈ after, Acts event) → r = .ok .yes) :
    Consent term Acts (before ++ log.map term ++ after) ↔
      term (.turn (.read "")) ∉ before ++ log.map term ++ after := by
  have hmem : term (.turn (.read "")) ∈ before ++ log.map term ++ after ↔ .turn (.read "") ∈ log := by
    have hb : term (.turn (.read "")) ∉ before := fun hb => hturns _ (List.mem_append_left _ hb) rfl
    have ha : term (.turn (.read "")) ∉ after := fun ha => hturns _ (List.mem_append_right _ ha) rfl
    simp [hb, ha, hinj.eq_iff]
  constructor
  · intro hconsent he
    obtain ⟨pre, post, hlog⟩ := h.endOfInput (hmem.mp he)
    refine hconsent.endOfInput ⟨before ++ pre.map term, post.map term ++ after, ?_⟩
    rw [← hlog]
    simp
  · intro hend
    refine ⟨fun pre event post hsplit hacts => ?_, fun hinf => hend (hinf.subset (by simp))⟩
    have hprefix : event ∉ before ++ log.map term := by
      intro hmem
      rcases List.mem_append.mp hmem with hmem | hmem
      · exact hbefore event hmem hacts
      · obtain ⟨event, -, rfl⟩ := List.mem_map.mp hmem
        exact hterm event hacts
    obtain ⟨hevent, mid, rfl⟩ := Prog.mem_of_split hsplit hprefix
    obtain ⟨line, hline, pre, post, hlog⟩ := h.yes (hafter ⟨event, hevent, hacts⟩)
    have hne : line ≠ "" := by
      rintro rfl
      exact hend (hmem.mpr (by rw [← hlog]; simp))
    refine ⟨line, hne, YesNoQuit.ofResponse_iff.mp hline, before ++ pre.map term, post.map term ++ mid, ?_⟩
    rw [← hlog]
    simp

end Prompt

/-! ## `sync` -/

/-- The plan of a pair is executed. -/
def SyncEvent.Executes : SyncEvent S → Prop
  | .executed _ _ _ => True
  | _ => False

section Sync

variable {env : PlanOutside σ S D} {pair : NamedPair S} {trace : List (SyncEvent S)} {ended : PairEnd}

theorem planShown_turn (name : String) (plan : List PlanItem) (turn : Turn) : .turn turn ∉ planShown name plan := by
  intro hmem
  obtain ⟨text, h⟩ | ⟨message, e, h⟩ := planShown_shown name plan _ hmem <;> cases h

theorem shownPair_acts (plan : List PlanItem) : ∀ event ∈ shownPair env pair plan,
    ¬ event.Executes ∧ event ≠ .term (.turn (.read "")) := by
  intro event he
  simp only [shownPair, List.mem_append, List.mem_singleton, List.mem_map] at he
  obtain (rfl | ⟨event, he, rfl⟩) | rfl := he
  · exact ⟨id, fun hturn => by cases hturn⟩
  · refine ⟨id, fun hturn => ?_⟩
    cases hturn
    exact planShown_turn _ _ _ he
  · exact ⟨id, fun hturn => by cases hturn⟩

/-- The prompt of a pair, and what it shows after the answer. -/
theorem ConfirmTrace.prompt {log : List TermEvent} {r : Except Stop (Option Bool)} (h : ConfirmTrace true pair log r) :
    ∃ prompt tail answer, log = prompt ++ tail ∧ PromptTrace "Execute plan?" prompt answer ∧ (∀ turn, .turn turn ∉ tail) ∧
      (r = .ok none → answer = .ok .yes) := by
  cases h with
  | unasked hi => cases hi
  | failed log e _ h => exact ⟨log, [], _, (List.append_nil log).symm, h, by simp, nofun⟩
  | yes log _ h => exact ⟨log, [], _, (List.append_nil log).symm, h, by simp, fun _ => rfl⟩
  | no log _ h | quit log _ h => exact ⟨log, _, _, rfl, h, by simp, nofun⟩

variable (env) in
/-- Consent to what follows the prompt of a pair. -/
theorem ConfirmTrace.consents_iff {log : List TermEvent} {r : Except Stop (Option Bool)} (h : ConfirmTrace true pair log r)
    (plan : List PlanItem) (after : List (SyncEvent S)) (hturn : .term (.turn (.read "")) ∉ after)
    (hacts : (∃ event ∈ after, event.Executes) → r = .ok none) :
    Consent .term SyncEvent.Executes (shownPair env pair plan ++ log.map .term ++ after) ↔
      .term (.turn (.read "")) ∉ shownPair env pair plan ++ log.map .term ++ after := by
  obtain ⟨prompt, tail, answer, rfl, hprompt, htail, hyes⟩ := h.prompt
  have hsplit : shownPair env pair plan ++ (prompt ++ tail).map .term ++ after =
      shownPair env pair plan ++ prompt.map .term ++ (tail.map .term ++ after) := by simp
  rw [hsplit]
  refine hprompt.consents_iff (fun _ _ h => by cases h; rfl) (fun _ => id) (fun event he => (shownPair_acts plan event he).1)
    (fun event he => ?_) (fun ⟨event, he, hact⟩ => ?_)
  · rintro rfl
    rcases List.mem_append.mp he with he | he
    · exact (shownPair_acts plan _ he).2 rfl
    · rcases List.mem_append.mp he with he | he
      · obtain ⟨turn, he, ht⟩ := List.mem_map.mp he
        cases ht
        exact htail _ he
      · exact hturn he
  · rcases List.mem_append.mp he with he | he
    · obtain ⟨event, -, rfl⟩ := List.mem_map.mp he
      exact hact.elim
    · exact hyes (hacts ⟨event, he, hact⟩)

/-- **Consent to a plan** is given if and only if the input has not ended. -/
theorem PairTrace.consents_iff (h : PairTrace env false true pair trace ended) :
    Consent .term SyncEvent.Executes trace ↔ .term (.turn (.read "")) ∉ trace := by
  cases h with
  | planFailed e _ =>
    have hturn : (.term (.turn (.read "")) : SyncEvent S) ∉ [.planned pair (.error e)] := by simp
    exact iff_of_true (consent_of_idle (by simp [SyncEvent.Executes]) hturn) hturn
  | promptFailed plan log e _ h => simpa using h.consents_iff env plan [] (by simp) (by simp)
  | declined plan log go _ h => simpa using h.consents_iff env plan [] (by simp) (by simp)
  | dryRun plan log _ hd => cases hd
  | executed plan log trace ended _ _ h ht =>
    refine h.consents_iff env plan _ ?_ fun _ => rfl
    cases ht with
    | openFailed e => simp
    | executed status s outcome => simp

end Sync

/-! ## `resolve-conflicts` -/

/-- A merge command is run, or something is written. -/
def ResolveEvent.Acts : ResolveEvent → Prop
  | .merged _ _ _ _ | .updated _ _ _ _ _ | .propertySet _ _ _ _ _ => True
  | _ => False

section Resolve

variable {out : ResolveOutside σ S} {rawCmd : RawCommand} {pair : NamedPair S} {trace : List ResolveEvent}
  {ended : Except Stop Bool}

theorem MergeTrace.turn {info : ConflictInfo} {r : Except Stop Unit} (h : MergeTrace out rawCmd pair info trace r) :
    .term (.turn (.read "")) ∉ trace := by
  intro hmem
  cases List.filterMap_eq_nil_iff.mp h.lines _ hmem

/-- **Consent to a merge** is given if and only if the input has not ended. -/
theorem ItemTrace.consents_iff {info : ConflictInfo} (h : ItemTrace out rawCmd pair info trace ended) :
    Consent .term ResolveEvent.Acts trace ↔ .term (.turn (.read "")) ∉ trace := by
  have hinj : Function.Injective ResolveEvent.term := fun _ _ h => by cases h; rfl
  cases h with
  | promptFailed heading log e h | no heading log h =>
    have hiff : Consent .term ResolveEvent.Acts ([.term (.print heading)] ++ log.map ResolveEvent.term ++ []) ↔
        ResolveEvent.term (.turn (.read "")) ∉ [.term (.print heading)] ++ log.map ResolveEvent.term ++ [] :=
      h.consents_iff hinj (fun _ => id) (by simp [ResolveEvent.Acts]) (by simp) (by simp)
    simpa using hiff
  | quit heading log h =>
    exact h.consents_iff hinj (fun _ => id) (by simp [ResolveEvent.Acts]) (by simp) (by simp [ResolveEvent.Acts])
  | yes heading log trace r h hmerge =>
    refine h.consents_iff hinj (fun _ => id) (by simp [ResolveEvent.Acts]) (fun event he => ?_) fun _ => rfl
    rintro rfl
    simp [hmerge.turn] at he

/-- A choice is the answer to a line. -/
theorem ChoicePrompt.supplied {conflict : PropertyConflict} {log : List ResolveEvent} {r : Except Stop PropertyChoice}
    {choice : PropertyChoice} (h : ChoicePrompt out rawCmd conflict log r) (hr : r = .ok choice) :
    ∃ line, line ≠ "" ∧ .term (.turn (.read line)) ∈ log := by
  induction h with
  | flushErr | readErr | failed | hang => cases hr
  | answered line log answer h =>
    refine ⟨line, ?_, by simp⟩
    rintro rfl
    generalize hc : Except.ok (some answer) = c at h
    cases h with
    | known => cases hc
    | fileFailed | refused => cases hc
    | edited notes text he => exact absurd he (by decide)
  | again line log log' r _ _ ih =>
    obtain ⟨line, hne, hmem⟩ := ih hr
    exact ⟨line, hne, List.mem_append_right _ hmem⟩

/-- A property is written only after the user has typed something. -/
theorem PropertyTrace.supplied {conflict : PropertyConflict} (h : PropertyTrace out rawCmd pair conflict trace ended) :
    ∀ pre event post, trace = pre ++ event :: post → event.write? ≠ none →
      ∃ line, line ≠ "" ∧ .term (.turn (.read line)) ∈ pre := by
  intro pre event post hsplit he
  obtain hquiet | ⟨before, uploads, prompt, choice, value, rfl, hb, -, hprompt, hsub, -⟩ := h.quiet_or
  · exact absurd (hquiet event (by rw [hsplit]; simp)) he
  · obtain ⟨-, mid, rfl⟩ := Prog.mem_of_split hsplit fun hmem => he (hb event hmem)
    obtain ⟨line, hne, hmem⟩ := hprompt.supplied rfl
    exact ⟨line, hne, List.mem_append_left _ (hsub hmem)⟩

/-- The rounds of `resolve_conflicts`, for one pair after the other, with what is shown before each group. -/
theorem resolvePairs_rounds (out : ResolveOutside σ S) (env : PlanOutside σ S D) :
    ∀ (pairs : List (NamedPair S)) (w : World σ),
    ∃ parts : List (List ResolveEvent × List Round),
      (resolvePairs out env pairs w).log = parts.flatMap (fun part => part.1 ++ part.2.flatMap Round.trace) ∧
        ∀ part ∈ parts, Idle part.1 ∧ ∀ round ∈ part.2, ∃ pair ∈ pairs, ∃ rawCmd,
          pair.conflictResolution = some (.cmd rawCmd) ∧ RoundTrace out rawCmd pair round.conflict round.trace round.ended
  | [], w => ⟨[], rfl, by simp⟩
  | pair :: pairs, w => by
    obtain ⟨head, rounds, tail, hlog, hhead, htail, hrounds⟩ := interactiveResolution_rounds out env pair w
    have hfirst : ∀ round ∈ rounds, ∃ pair' ∈ pair :: pairs, ∃ rawCmd,
        pair'.conflictResolution = some (.cmd rawCmd) ∧
          RoundTrace out rawCmd pair' round.conflict round.trace round.ended := by
      obtain rfl | ⟨rawCmd, plan, ended, hcmd, -, -, hrounds⟩ := hrounds
      · simp
      · exact fun round hr => ⟨pair, List.mem_cons_self, rawCmd, hcmd, hrounds.trace round hr⟩
    -- What follows a pair: an error that is logged, and the pairs that are left.
    have hparts : ∀ (extra : List ResolveEvent) (parts : List (List ResolveEvent × List Round)), Idle extra →
        (∀ part ∈ parts, Idle part.1 ∧ ∀ round ∈ part.2, ∃ pair ∈ pairs, ∃ rawCmd,
          pair.conflictResolution = some (.cmd rawCmd) ∧
            RoundTrace out rawCmd pair round.conflict round.trace round.ended) →
        ∃ parts' : List (List ResolveEvent × List Round),
          (interactiveResolution out env pair w).log ++ extra ++ parts.flatMap
            (fun part => part.1 ++ part.2.flatMap Round.trace) =
              parts'.flatMap (fun part => part.1 ++ part.2.flatMap Round.trace) ∧
            ∀ part ∈ parts', Idle part.1 ∧ ∀ round ∈ part.2, ∃ pair' ∈ pair :: pairs, ∃ rawCmd,
              pair'.conflictResolution = some (.cmd rawCmd) ∧
                RoundTrace out rawCmd pair' round.conflict round.trace round.ended := by
      intro extra parts hextra hparts
      refine ⟨(head, rounds) :: (tail ++ extra, []) :: parts, by simp [hlog], ?_⟩
      simp only [List.forall_mem_cons]
      refine ⟨⟨hhead, hfirst⟩, ⟨htail.append hextra, by simp⟩, fun part hp => ⟨(hparts part hp).1, fun round hr => ?_⟩⟩
      obtain ⟨pair', hmem, h⟩ := (hparts part hp).2 round hr
      exact ⟨pair', List.mem_cons_of_mem _ hmem, h⟩
    rcases hi : interactiveResolution out env pair w with ⟨(e | _) | ⟨⟩, w', log⟩ <;> rw [hi] at hparts
    · obtain ⟨parts, hrest, hp⟩ := resolvePairs_rounds out env pairs w'
      obtain ⟨parts', hlog', hp'⟩ := hparts [.term (.error "Error resolving conflicts" e)] parts (idle_singleton trivial) hp
      exact ⟨parts', by simpa [resolvePairs, Prog.bind_run, hi, hrest] using hlog', hp'⟩
    · obtain ⟨parts', hlog', hp'⟩ := hparts [] [] (by simp [Idle]) (by simp)
      exact ⟨parts', by simpa [resolvePairs, Prog.bind_run, hi] using hlog', hp'⟩
    · obtain ⟨parts, hrest, hp⟩ := resolvePairs_rounds out env pairs w'
      obtain ⟨parts', hlog', hp'⟩ := hparts [] parts (by simp [Idle]) hp
      exact ⟨parts', by simpa [resolvePairs, Prog.bind_run, hi, hrest] using hlog', hp'⟩

end Resolve

/-! ## Both commands -/

/-- The consent that a round of a resolution needs. -/
def Round.Consents (round : Round) : Prop :=
  match round.conflict with
  | .item _ => Consent .term ResolveEvent.Acts round.trace
  | .property _ => ∀ pre event post, round.trace = pre ++ event :: post → event.write? ≠ none →
      ∃ line, line ≠ "" ∧ .term (.turn (.read line)) ∈ pre

/-- The input ends at the prompt for an item. -/
def Round.ItemAtEnd (round : Round) : Prop :=
  match round.conflict with
  | .item _ => .term (.turn (.read "")) ∈ round.trace
  | .property _ => False

/-- **The user consents to everything that is done** if and only if the input does not end at a prompt: in `sync` for the
plan of every pair, and in `resolve-conflicts` for every merge and every write. -/
theorem consent_iff (out : ResolveOutside σ S) (env : PlanOutside σ S D) (pairs : List (NamedPair S)) (w : World σ) :
    (∃ visits : List (Visit S), Visits env false true pairs visits ∧
      (sync env pairs false true w).log = visits.flatMap Visit.log ∧
      ((∀ visit ∈ visits, Consent .term SyncEvent.Executes visit.trace) ↔
        ∀ visit ∈ visits, .term (.turn (.read "")) ∉ visit.trace)) ∧
    ∀ dryRun, ∃ parts : List (List ResolveEvent × List Round),
      (resolveConflicts out env pairs dryRun w).log = parts.flatMap (fun part => part.1 ++ part.2.flatMap Round.trace) ∧
        (∀ part ∈ parts, Idle part.1 ∧ ∀ round ∈ part.2, ∃ pair ∈ pairs, ∃ rawCmd,
          pair.conflictResolution = some (.cmd rawCmd) ∧ RoundTrace out rawCmd pair round.conflict round.trace round.ended) ∧
        ((∀ part ∈ parts, ∀ round ∈ part.2, round.Consents) ↔ ∀ part ∈ parts, ∀ round ∈ part.2, ¬ round.ItemAtEnd) := by
  refine ⟨?_, fun dryRun => ?_⟩
  · obtain ⟨visits, hvisits, hlog, -⟩ := sync_run env false true pairs w
    exact ⟨visits, hvisits, hlog, forall₂_congr fun visit hv => (hvisits.trace visit hv).consents_iff⟩
  · have hrun : ∃ parts : List (List ResolveEvent × List Round),
        (resolveConflicts out env pairs dryRun w).log = parts.flatMap (fun part => part.1 ++ part.2.flatMap Round.trace) ∧
          ∀ part ∈ parts, Idle part.1 ∧ ∀ round ∈ part.2, ∃ pair ∈ pairs, ∃ rawCmd,
            pair.conflictResolution = some (.cmd rawCmd) ∧
              RoundTrace out rawCmd pair round.conflict round.trace round.ended := by
      cases dryRun with
      | true => exact ⟨[], rfl, by simp⟩
      | false => exact resolvePairs_rounds out env pairs w
    obtain ⟨parts, hlog, hparts⟩ := hrun
    refine ⟨parts, hlog, hparts, forall₂_congr fun part hp => forall₂_congr fun round hr => ?_⟩
    obtain ⟨pair, -, rawCmd, -, ht⟩ := (hparts part hp).2 round hr
    obtain ⟨info | conflict, trace, ended⟩ := round
    · exact ItemTrace.consents_iff ht
    · exact iff_of_true (PropertyTrace.supplied ht) id

/-- **A plan is executed without consent**: nothing has been typed. -/
theorem executed_without_consent : ¬ Consent .term SyncEvent.Executes
    (sync failingListing [localPair] false true ⟨[], ()⟩).log ∧
    ∃ operations outcome, .executed localPair operations outcome ∈
    (sync failingListing [localPair] false true ⟨[], ()⟩).log := by
  have hlog : shownPair failingListing localPair [.error ["listing items"]] ++
        [.term (.print "Execute plan? (Y)es, (N)o, or (Q)uit? ")] ++
        [.term (.turn (.read "")), .term (.answered .yes)] ++
        [.opened "/status/local" none,
          .executed localPair [.error ["listing items"]] ⟨[["listing items"]], .ok (.ok ())⟩,
          .term (.error "" ["listing items"])] =
      (sync failingListing [localPair] false true ⟨[], ()⟩).log := rfl
  refine ⟨fun h => h.endOfInput ⟨_, _, hlog⟩, [.error ["listing items"]], ⟨[["listing items"]], .ok (.ok ())⟩, ?_⟩
  rw [← hlog]
  simp

end Pimsync
