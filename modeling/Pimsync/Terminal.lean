import Pimsync.Base.Prog
import Pimsync.Command

/-!
# The terminal

Prompts print a question and read a line until the answer is one they know. A `Turn` is what comes of one such question:
the standard input of a run is the list of its turns, after which every line that is read is empty.

- `YesNoQuit.ofResponse_iff`: the lines that are a yes, a no and a quit (`YesNoQuit.Means`);
- `continueSkipOrQuit_trace`: what `continue_skip_or_quit` prints and reads, and what it makes of the last line;
- `PromptTrace.lines_iff`: the answer that it returns is the first that the lines give.
-/

namespace Pimsync

/-- What comes of one question: standard output is flushed, and a line is read. -/
inductive Turn
  | flushErr (e : Error)
  | readErr (e : Error)
  /-- What `read_line` appends: a line with its end, or nothing at the end of the input. -/
  | read (response : String)
  deriving DecidableEq

/-- The world of a command: the turns to come, and everything else. -/
structure World (σ : Type) where
  turns : List Turn
  outside : σ

/-- Why a command does not go on. -/
inductive Stop
  | err (e : Error)
  /-- A prompt reads the end of the input for ever. -/
  | hang

inductive YesNoQuit
  | yes
  | no
  | quit
  deriving DecidableEq

/-- What a command shows on the terminal or in the log, and reads. -/
inductive TermEvent
  | print (text : String)
  | info (text : String)
  /-- `error!`: a message, and the error it tells of. -/
  | error (message : String) (e : Error)
  | turn (turn : Turn)
  /-- What `continue_skip_or_quit` returns. -/
  | answered (answer : YesNoQuit)
  deriving DecidableEq

/-- A line that was read. -/
def TermEvent.line? : TermEvent → Option String
  | .turn (.read line) => some line
  | _ => none

/-- `str::to_lowercase`, where it matters: no character other than `A` to `Z` becomes one of the letters that answers are
compared with. -/
def toLowercase (s : String) : String := String.ofList (s.toList.map Char.toLower)

/-! ## Asking the world -/

section World

variable {σ ε E α : Type}

/-- Something outside happens. -/
def Prog.outside (f : σ → α × σ) : Prog (World σ) ε E α :=
  fun w => ⟨.ok (f w.outside).1, { w with outside := (f w.outside).2 }, []⟩

def Prog.setTurns (turns : List Turn) : Prog (World σ) ε E Unit := fun w => ⟨.ok (), { w with turns }, []⟩

@[simp] theorem Prog.outside_run (f : σ → α × σ) (w : World σ) :
    (Prog.outside f : Prog (World σ) ε E α) w = ⟨.ok (f w.outside).1, { w with outside := (f w.outside).2 }, []⟩ := rfl

@[simp] theorem Prog.setTurns_run (turns : List Turn) (w : World σ) :
    (Prog.setTurns turns : Prog (World σ) ε E Unit) w = ⟨.ok (), { w with turns }, []⟩ := rfl

end World

/-! ## Prompts -/

section Prompt

variable {σ ε α : Type}

/-- A prompt: `response` is what it does with a line, and whether that ends it. -/
def promptLoop (term : TermEvent → ε) (msg : String) (response : String → Prog (World σ) ε Stop (Option α)) :
    List Turn → Prog (World σ) ε Stop α
  | [] => do
    Prog.emit (term (.print msg))
    Prog.emit (term (.turn (.read "")))
    match ← response "" with
    | some answer => return answer
    | none => Prog.fail .hang
  | turn :: turns => do
    Prog.emit (term (.print msg))
    Prog.setTurns turns
    Prog.emit (term (.turn turn))
    match turn with
    | .flushErr e => Prog.fail (.err e)
    | .readErr e => Prog.fail (.err ("Reading response from stdin" :: e))
    | .read line =>
      match ← response line with
      | some answer => return answer
      | none => promptLoop term msg response turns

/-- What `continue_skip_or_quit` makes of a line. -/
def YesNoQuit.ofResponse (response : String) : Option YesNoQuit :=
  match toLowercase (trim response) with
  | "" | "y" => some .yes
  | "n" => some .no
  | "q" => some .quit
  | _ => none

/-- A line that is a yes. -/
def IsYes (line : String) : Prop := toLowercase (trim line) = "" ∨ toLowercase (trim line) = "y"

/-- The lines that are an answer, in either case and with any space around them. -/
def YesNoQuit.Means : YesNoQuit → String → Prop
  | .yes, line => IsYes line
  | .no, line => toLowercase (trim line) = "n"
  | .quit, line => toLowercase (trim line) = "q"

instance (answer : YesNoQuit) (line : String) : Decidable (answer.Means line) :=
  match answer with
  | .yes => inferInstanceAs (Decidable (toLowercase (trim line) = "" ∨ toLowercase (trim line) = "y"))
  | .no => inferInstanceAs (Decidable (toLowercase (trim line) = "n"))
  | .quit => inferInstanceAs (Decidable (toLowercase (trim line) = "q"))

theorem YesNoQuit.ofResponse_iff {line : String} {answer : YesNoQuit} :
    YesNoQuit.ofResponse line = some answer ↔ answer.Means line := by
  unfold YesNoQuit.ofResponse
  split
  all_goals cases answer <;> simp_all [YesNoQuit.Means, IsYes]

/-- Some line is the first that is an answer; it is the last, and the answer is this one. -/
def AnsweredBy (answer : YesNoQuit) (lines : List String) : Prop :=
  ∃ ignored line, lines = ignored ++ [line] ∧ (∀ other ∈ ignored, ∀ answer : YesNoQuit, ¬ answer.Means other) ∧
    answer.Means line

theorem not_answeredBy_nil (answer : YesNoQuit) : ¬ AnsweredBy answer [] := by
  rintro ⟨ignored, line, h, -⟩
  simp at h

theorem answeredBy_singleton {answer : YesNoQuit} {line : String} : AnsweredBy answer [line] ↔ answer.Means line := by
  constructor
  · rintro ⟨ignored, line', h, -, hmeans⟩
    obtain ⟨-, rfl⟩ : ignored = [] ∧ line' = line := by cases ignored <;> simp_all
    exact hmeans
  · exact fun hmeans => ⟨[], line, rfl, by simp, hmeans⟩

/-- A line that is no answer does not matter. -/
theorem answeredBy_cons {answer : YesNoQuit} {line : String} {lines : List String}
    (h : ∀ answer : YesNoQuit, ¬ answer.Means line) : AnsweredBy answer (line :: lines) ↔ AnsweredBy answer lines := by
  constructor
  · rintro ⟨ignored, line', hlines, hignored, hmeans⟩
    cases ignored with
    | nil =>
      obtain ⟨rfl, -⟩ := List.cons.inj hlines
      exact absurd hmeans (h answer)
    | cons other ignored =>
      obtain ⟨-, rfl⟩ := List.cons.inj hlines
      exact ⟨ignored, line', rfl, fun other ho => hignored other (List.mem_cons_of_mem _ ho), hmeans⟩
  · rintro ⟨ignored, line', rfl, hignored, hmeans⟩
    exact ⟨line :: ignored, line', rfl, List.forall_mem_cons.mpr ⟨h, hignored⟩, hmeans⟩

/-- The loop of `continue_skip_or_quit`. -/
def answerLoop (msg : String) (turns : List Turn) : Prog (World σ) TermEvent Stop YesNoQuit := do
  let answer ← promptLoop id s!"{msg} (Y)es, (N)o, or (Q)uit? " (fun response => return YesNoQuit.ofResponse response)
    turns
  Prog.emit (.answered answer)
  return answer

/-- `continue_skip_or_quit`. -/
def continueSkipOrQuit (msg : String) : Prog (World σ) TermEvent Stop YesNoQuit := fun w => answerLoop msg w.turns w

/-- What one question shows. -/
def asked (msg : String) (turn : Turn) : List TermEvent := [.print s!"{msg} (Y)es, (N)o, or (Q)uit? ", .turn turn]

/-- What `continue_skip_or_quit` shows and returns: it asks again after every line that it does not know. -/
inductive PromptTrace (msg : String) : List TermEvent → Except Stop YesNoQuit → Prop
  | flushErr (e : Error) : PromptTrace msg (asked msg (.flushErr e)) (.error (.err e))
  | readErr (e : Error) : PromptTrace msg (asked msg (.readErr e)) (.error (.err ("Reading response from stdin" :: e)))
  | answered (line : String) (answer : YesNoQuit) : YesNoQuit.ofResponse line = some answer →
      PromptTrace msg (asked msg (.read line) ++ [.answered answer]) (.ok answer)
  | again (line : String) (log : List TermEvent) (r : Except Stop YesNoQuit) : YesNoQuit.ofResponse line = none →
      PromptTrace msg log r → PromptTrace msg (asked msg (.read line) ++ log) r

/-- A prompt does not hang, since the end of the input is an answer. -/
theorem PromptTrace.error {msg : String} {log : List TermEvent} {stop : Stop} (h : PromptTrace msg log (.error stop)) :
    ∃ e, stop = .err e := by
  generalize hr : Except.error stop = r at h
  induction h with
  | flushErr e | readErr e => cases hr; exact ⟨_, rfl⟩
  | answered => cases hr
  | again _ _ _ _ _ ih => exact ih hr

/-- **The answer of a prompt** is the first that the lines give. -/
theorem PromptTrace.lines_iff {msg : String} {log : List TermEvent} {r : Except Stop YesNoQuit} (h : PromptTrace msg log r)
    (answer : YesNoQuit) : r = .ok answer ↔ AnsweredBy answer (log.filterMap TermEvent.line?) := by
  induction h with
  | flushErr e | readErr e => exact iff_of_false nofun (not_answeredBy_nil answer)
  | answered line answer' hline =>
    have hlines : (asked msg (.read line) ++ [TermEvent.answered answer']).filterMap TermEvent.line? = [line] := rfl
    rw [hlines, answeredBy_singleton, ← YesNoQuit.ofResponse_iff, hline]
    simp
  | again line log r hline _ ih =>
    have hlines : (asked msg (.read line) ++ log).filterMap TermEvent.line? = line :: log.filterMap TermEvent.line? := rfl
    have hnone : ∀ answer : YesNoQuit, ¬ answer.Means line := fun answer => by simp [← YesNoQuit.ofResponse_iff, hline]
    rw [hlines, answeredBy_cons hnone, ih]

theorem promptLoop_again {term : TermEvent → ε} {msg line : String} {response : String → Prog (World σ) ε Stop (Option α)}
    {turns : List Turn} {w : World σ} (h : response line { w with turns } = ⟨.ok none, { w with turns }, []⟩) :
    promptLoop term msg response (.read line :: turns) w =
      ⟨(promptLoop term msg response turns { w with turns }).result,
        (promptLoop term msg response turns { w with turns }).world,
        [term (.print msg), term (.turn (.read line))] ++ (promptLoop term msg response turns { w with turns }).log⟩ := by
  simp [promptLoop, Prog.bind_run, h]

/-- **What `continue_skip_or_quit` shows and returns.** Nothing outside happens. -/
theorem continueSkipOrQuit_trace (msg : String) (w : World σ) :
    PromptTrace msg (continueSkipOrQuit msg w).log (continueSkipOrQuit msg w).result ∧
      (continueSkipOrQuit msg w).world.outside = w.outside := by
  obtain ⟨turns, outside⟩ := w
  induction turns with
  | nil => exact ⟨.answered "" .yes rfl, rfl⟩
  | cons turn turns ih =>
    cases turn with
    | flushErr e => exact ⟨.flushErr e, rfl⟩
    | readErr e => exact ⟨.readErr e, rfl⟩
    | read line =>
      cases h : YesNoQuit.ofResponse line with
      | some answer =>
        have hrun : continueSkipOrQuit msg (⟨.read line :: turns, outside⟩ : World σ) =
            ⟨.ok answer, ⟨turns, outside⟩, asked msg (.read line) ++ [.answered answer]⟩ := by
          simp [continueSkipOrQuit, answerLoop, promptLoop, Prog.bind_run, h, asked, Except.map]
        rw [hrun]
        exact ⟨.answered line answer h, rfl⟩
      | none =>
        have hrun : continueSkipOrQuit msg (⟨.read line :: turns, outside⟩ : World σ) =
            ⟨(continueSkipOrQuit msg ⟨turns, outside⟩).result, (continueSkipOrQuit msg ⟨turns, outside⟩).world,
              asked msg (.read line) ++ (continueSkipOrQuit msg ⟨turns, outside⟩).log⟩ :=
          Prog.bind_run_after (promptLoop_again (by rw [h]; rfl))
        rw [hrun]
        exact ⟨.again line _ _ h ih.1, ih.2⟩

end Prompt

end Pimsync
