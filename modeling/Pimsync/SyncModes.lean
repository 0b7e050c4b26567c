import Pimsync.Base.Matches
import Pimsync.SyncErrors

/-!
# The two modes of `sync`

An interactive `sync` in which nobody declines does what one without prompts does, and shows the same but for the
questions and their answers.

- `continueSkipOrQuit_consents`: a prompt to which nobody declines is answered with yes, also at the end of the input;
- `interactive_sync_agrees`: so the two modes agree.
-/

namespace Pimsync

variable {σ S D : Type}

/-! ## Consent -/

/-- A line is read for every question, and none of them is a no or a quit. -/
def Consenting (turns : List Turn) : Prop :=
  ∀ turn ∈ turns, ∃ line, turn = .read line ∧ ¬ YesNoQuit.no.Means line ∧ ¬ YesNoQuit.quit.Means line

/-- What is shown of a question about a plan, and its answer. -/
def TermEvent.asks : TermEvent → Bool
  | .print text => text == "Execute plan? (Y)es, (N)o, or (Q)uit? "
  | .turn _ | .answered _ => true
  | _ => false

def SyncEvent.asks : SyncEvent S → Bool
  | .term event => event.asks
  | _ => false

theorem asked_asks (turn : Turn) : ∀ event ∈ asked "Execute plan?" turn, event.asks = true := by
  intro event he
  simp only [asked, List.mem_cons, List.not_mem_nil, or_false] at he
  obtain rfl | rfl := he
  · exact beq_iff_eq.mpr rfl
  · rfl

/-- A prompt to which nobody declines. -/
theorem continueSkipOrQuit_consents {w : World σ} (h : Consenting w.turns) :
    (continueSkipOrQuit "Execute plan?" w).result = .ok .yes ∧
      (continueSkipOrQuit "Execute plan?" w).world.outside = w.outside ∧
      Consenting (continueSkipOrQuit "Execute plan?" w).world.turns ∧
      ∀ event ∈ (continueSkipOrQuit "Execute plan?" w).log, event.asks = true := by
  obtain ⟨turns, outside⟩ := w
  induction turns with
  | nil =>
    have hrun : continueSkipOrQuit "Execute plan?" (⟨[], outside⟩ : World σ) =
      ⟨.ok .yes, ⟨[], outside⟩, asked "Execute plan?" (.read "") ++ [.answered .yes]⟩ := rfl
    rw [hrun]
    refine ⟨rfl, rfl, h, fun event he => ?_⟩
    rcases List.mem_append.mp he with he | he
    · exact asked_asks _ event he
    · rw [List.mem_singleton.mp he]
      rfl
  | cons turn turns ih =>
    obtain ⟨⟨line, rfl, hno, hquit⟩, hrest⟩ := List.forall_mem_cons.mp h
    cases hline : YesNoQuit.ofResponse line with
    | some answer =>
      obtain rfl : answer = .yes := by
        have hmeans := YesNoQuit.ofResponse_iff.mp hline
        cases answer with
        | yes => rfl
        | no => exact absurd hmeans hno
        | quit => exact absurd hmeans hquit
      have hrun : continueSkipOrQuit "Execute plan?" (⟨.read line :: turns, outside⟩ : World σ) =
          ⟨.ok .yes, ⟨turns, outside⟩, asked "Execute plan?" (.read line) ++ [.answered .yes]⟩ := by
        simp [continueSkipOrQuit, answerLoop, promptLoop, Prog.bind_run, hline, asked, Except.map]
      rw [hrun]
      refine ⟨rfl, rfl, hrest, fun event he => ?_⟩
      rcases List.mem_append.mp he with he | he
      · exact asked_asks _ event he
      · rw [List.mem_singleton.mp he]
        rfl
    | none =>
      have hrun : continueSkipOrQuit "Execute plan?" (⟨.read line :: turns, outside⟩ : World σ) =
          ⟨(continueSkipOrQuit "Execute plan?" ⟨turns, outside⟩).result,
            (continueSkipOrQuit "Execute plan?" ⟨turns, outside⟩).world,
            asked "Execute plan?" (.read line) ++ (continueSkipOrQuit "Execute plan?" ⟨turns, outside⟩).log⟩ :=
        Prog.bind_run_after (promptLoop_again (by rw [hline]; rfl))
      obtain ⟨hresult, houtside, hturns, hlog⟩ := ih hrest
      rw [hrun]
      refine ⟨hresult, houtside, hturns, fun event he => ?_⟩
      rcases List.mem_append.mp he with he | he
      · exact asked_asks _ event he
      · exact hlog event he

/-! ## Both modes -/

/-- All is the same outside, and nobody will decline. -/
structure World.Agrees (w w' : World σ) : Prop where
  outside : w.outside = w'.outside
  turns : Consenting w.turns

structure SyncWorld.Agrees (w w' : SyncWorld σ) : Prop where
  world : w.world.Agrees w'.world
  errorCount : w.errorCount = w'.errorCount

section Modes

variable {ε E α : Type} {kept : ε → Bool}

theorem matches_outside (f : σ → α × σ) :
    Prog.Matches Eq World.Agrees (Prog.SameKept kept) (Prog.outside f : Prog (World σ) ε E α) (Prog.outside f) := by
  rintro w w' ⟨houtside, hturns⟩
  simp only [Prog.outside_run, houtside]
  exact ⟨.refl _, ⟨rfl, hturns⟩, rfl⟩

theorem Matches.onWorld {p q : Prog (World σ) ε E α} (h : Prog.Matches Eq World.Agrees (Prog.SameKept kept) p q) :
    Prog.Matches Eq SyncWorld.Agrees (Prog.SameKept kept) (onWorld p) (onWorld q) := by
  rintro w w' ⟨hworld, hcount⟩
  obtain ⟨hresult, hworld, hlog⟩ := h w.world w'.world hworld
  exact ⟨hresult, ⟨hworld, hcount⟩, hlog⟩

theorem matches_fetchAdd :
    Prog.Matches Eq SyncWorld.Agrees (Prog.SameKept kept) (fetchAdd : Prog (SyncWorld σ) ε E Unit) fetchAdd := by
  rintro w w' ⟨hworld, hcount⟩
  exact ⟨.ok rfl, ⟨hworld, congrArg (· + 1) hcount⟩, rfl⟩

/-- The plan of a pair is the same in both modes. -/
theorem matches_planPair (env : PlanOutside σ S D) (pair : NamedPair S) {kept : SyncEvent S → Bool} :
    Prog.Matches Eq World.Agrees (Prog.SameKept kept) (planPair env pair) (planPair env pair) := by
  have hcreate : Prog.Matches Eq World.Agrees (Prog.SameKept kept) (createPlan env pair) (createPlan env pair) :=
    (matches_outside _).bindEq fun status => (Prog.matches_lift (.refl _)).bindEq fun status =>
      (matches_outside _).bindEq fun plan => Prog.matches_lift (.refl _)
  refine hcreate.attemptEq.bindEq fun plan => ?_
  cases plan with
  | error e => exact (Prog.matches_emitSame _).bindEq fun _ => Prog.matches_fail _
  | ok plan =>
    refine (Prog.matches_emitSame _).bindEq fun _ => .bindEq (.mapLog ?_) fun operations =>
      (Prog.matches_emitSame _).bindEq fun _ => Prog.matches_pure rfl
    rintro w w' hagrees
    rw [printAndCollectPlan_run, printAndCollectPlan_run]
    exact ⟨.ok rfl, hagrees, rfl⟩

/-- Consent that is asked for and given is as good as none. -/
theorem matches_confirm (pair : NamedPair S) :
    Prog.Matches Eq World.Agrees (Prog.SameKept fun event : TermEvent => !event.asks) (confirm pair true)
      (confirm (σ := σ) pair false) := by
  rintro w w' ⟨houtside, hturns⟩
  obtain ⟨hresult, houtside', hturns', hlog⟩ := continueSkipOrQuit_consents hturns
  rcases hrun : continueSkipOrQuit "Execute plan?" w with ⟨result, v, log⟩
  rw [hrun] at hresult houtside' hturns' hlog
  obtain rfl : result = .ok .yes := hresult
  have hconfirm : confirm pair true w = ⟨.ok none, v, log⟩ := by simp [confirm, Prog.bind_run, hrun]
  rw [hconfirm]
  refine ⟨.ok rfl, ⟨houtside'.trans houtside, hturns'⟩, ?_⟩
  exact List.filter_eq_nil_iff.mpr fun event he => by simp [hlog event he]

theorem matches_countErrors {kept : SyncEvent S → Bool} : ∀ errors : List Error,
    Prog.Matches Eq SyncWorld.Agrees (Prog.SameKept kept) (countErrors (σ := σ) errors) (countErrors errors)
  | [] => Prog.matches_pure rfl
  | _ :: errors => matches_fetchAdd.bindEq fun _ => (Prog.matches_emitSame _).bindEq fun _ => matches_countErrors errors

/-- The execution of a plan is the same in both modes. -/
theorem matches_executePlan (env : PlanOutside σ S D) (pair : NamedPair S) (operations : List PlanItem)
    {kept : SyncEvent S → Bool} :
    Prog.Matches Eq SyncWorld.Agrees (Prog.SameKept kept) (executePlan env pair operations) (executePlan env pair operations) := by
  refine (Matches.onWorld (matches_outside _)).bindEq fun status => ?_
  cases status with
  | error e => exact (Prog.matches_emitSame _).bindEq fun _ => Prog.matches_fail _
  | ok status =>
    refine (Prog.matches_emitSame _).bindEq fun _ => (Matches.onWorld (matches_outside _)).bindEq fun outcome =>
      (Prog.matches_emitSame _).bindEq fun _ => (matches_countErrors _).bindEq fun _ => ?_
    rcases outcome.result with e | e | ⟨⟩
    · exact Prog.matches_fail _
    · exact Prog.matches_fail _
    · exact Prog.matches_pure rfl

theorem matches_syncOnce (env : PlanOutside σ S D) (dryRun : Bool) (pair : NamedPair S) :
    Prog.Matches Eq SyncWorld.Agrees (Prog.SameKept fun event : SyncEvent S => !event.asks) (syncOnce env dryRun true pair)
      (syncOnce env dryRun false pair) := by
  refine (Matches.onWorld (matches_planPair env pair)).bindEq fun operations =>
    (Prog.Matches.mapLog (Matches.onWorld (matches_confirm pair))).bindEq fun go => ?_
  cases go with
  | some go => exact Prog.matches_pure rfl
  | none =>
    cases dryRun with
    | true => exact Prog.matches_pure rfl
    | false => exact (matches_executePlan env pair operations).bindEq fun _ => Prog.matches_pure rfl

/-- Pair by pair, the two modes do the same. -/
theorem matches_syncPairs (env : PlanOutside σ S D) (dryRun : Bool) : ∀ pairs : List (NamedPair S),
    Prog.Matches Eq SyncWorld.Agrees (Prog.SameKept fun event : SyncEvent S => !event.asks) (syncPairs env dryRun true pairs)
      (syncPairs env dryRun false pairs)
  | [] => Prog.matches_pure rfl
  | pair :: pairs => by
    refine ((matches_syncOnce env dryRun pair).mapError _).attemptEq.bindEq fun result => ?_
    rcases result with (e | _) | _ | _
    · exact matches_fetchAdd.bindEq fun _ => (Prog.matches_emitSame _).bindEq fun _ => matches_syncPairs env dryRun pairs
    · exact Prog.matches_fail _
    · exact Prog.matches_pure rfl
    · exact matches_syncPairs env dryRun pairs

theorem matches_checkErrors {kept : SyncEvent S → Bool} :
    Prog.Matches Eq SyncWorld.Agrees (Prog.SameKept kept) (checkErrors (σ := σ)) checkErrors := by
  refine .bindEq (Prog.matches_ask fun w w' h => ⟨h.errorCount, h⟩) fun totalErrors => ?_
  split
  · exact Prog.matches_fail _
  · exact Prog.matches_pure rfl

end Modes

/-- **Consent changes nothing**: if no line of the input declines, an interactive `sync` ends as one without prompts does,
leaves the same behind, and shows and does the same, in the same order, but for the questions and their answers. -/
theorem interactive_sync_agrees (env : PlanOutside σ S D) (pairs : List (NamedPair S)) (dryRun : Bool) {w : World σ}
    (h : Consenting w.turns) :
    (sync env pairs dryRun true w).result = (sync env pairs dryRun false w).result ∧
    (sync env pairs dryRun true w).world.outside = (sync env pairs dryRun false w).world.outside ∧
    (sync env pairs dryRun true w).log.filter (fun event => !event.asks) =
      (sync env pairs dryRun false w).log.filter (fun event => !event.asks) := by
  obtain ⟨hresult, hworld, hlog⟩ := (matches_syncPairs env dryRun pairs).bindEq (fun _ => matches_checkErrors)
    ⟨w, 0⟩ ⟨w, 0⟩ ⟨⟨rfl, h⟩, rfl⟩
  exact ⟨Prog.sameEnd_eq.mp hresult, hworld.world.outside, hlog⟩

/-- A user who hesitates, and consents; the input ends before the second pair. -/
theorem interactive_sync_agrees_hesitating :
    let w : World Unit := ⟨[.read "maybe\n", .read "y\n"], ()⟩
    let pairs := [colouredPair "one" (some .keepA), colouredPair "two" none]
    (sync coloured pairs false true w).result = (sync coloured pairs false false w).result ∧
      (sync coloured pairs false true w).world.outside = (sync coloured pairs false false w).world.outside ∧
      (sync coloured pairs false true w).log.filter (fun event => !event.asks) =
        (sync coloured pairs false false w).log.filter (fun event => !event.asks) := by
  intro w pairs
  refine interactive_sync_agrees coloured pairs false fun turn hmem => ?_
  obtain rfl | rfl : turn = .read "maybe\n" ∨ turn = .read "y\n" := by simpa [w] using hmem
  · exact ⟨_, rfl, by decide, by decide⟩
  · exact ⟨_, rfl, by decide, by decide⟩

end Pimsync
