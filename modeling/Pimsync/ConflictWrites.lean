import Pimsync.ConflictTrace
import Pimsync.SyncShown

/-!
# The writes of a resolution

A run of `interactive_resolution` is a list of rounds, one for a conflict. Whatever is written in a round is written for
its conflict, as the lines say that were read for it (`Justified`), and at most once on a side.

- `hasConflicts_iff`: the conflicts of a plan;
- `resolveItems_rounds`, `resolveProperties_rounds`, `Rounds.append`: the two loops are one list of rounds;
- `ItemTrace.quits_iff`, `PropertyTrace.quits_iff`: the rounds in which the user quits;
- `ItemTrace.writes`, `PropertyTrace.writes`: the writes of one round;
- `interactiveResolution_writes`: the writes of a run.
-/

namespace Pimsync

variable {σ S D : Type}

/-! ## Rounds -/

/-- Something that is neither asked, nor merged, nor written. -/
def ResolveEvent.Idle : ResolveEvent → Prop
  | .planned _ | .term (.print _) | .term (.info _) | .term (.error _ _) => True
  | _ => False

def Idle (log : List ResolveEvent) : Prop := ∀ event ∈ log, event.Idle

theorem Idle.append {log log' : List ResolveEvent} (h : Idle log) (h' : Idle log') : Idle (log ++ log') := by
  intro event he
  rcases List.mem_append.mp he with he | he
  · exact h event he
  · exact h' event he

theorem idle_singleton {event : ResolveEvent} (h : event.Idle) : Idle [event] := by
  simpa [Idle] using h

theorem planErrors_idle (plan : List PlanItem) : Idle (planErrors plan) := by
  intro event he
  obtain ⟨_ | _, -, h⟩ := List.mem_filterMap.mp he <;> cases h
  trivial

inductive Conflict
  | item (info : ConflictInfo)
  | property (conflict : PropertyConflict)
  deriving DecidableEq

/-- The conflicts of a plan, in the order in which they are resolved. -/
def conflictsOf (plan : List PlanItem) : List Conflict :=
  (itemConflicts plan).map .item ++ (propertyConflicts plan).map .property

/-- A plan has these conflicts, those of items and those of properties, each in the order of the plan. -/
inductive HasConflicts : List PlanItem → List ConflictInfo → List PropertyConflict → Prop
  | nil : HasConflicts [] [] []
  | item (op : ItemOp) (info : ConflictInfo) (plan : List PlanItem) (items : List ConflictInfo)
      (properties : List PropertyConflict) : op.conflict = some info → HasConflicts plan items properties →
      HasConflicts (.ok (.item op) :: plan) (info :: items) properties
  | property (op : PropertyOp) (valueA valueB : String) (plan : List PlanItem) (items : List ConflictInfo)
      (properties : List PropertyConflict) : op.conflict = some (valueA, valueB) → HasConflicts plan items properties →
      HasConflicts (.ok (.property op) :: plan) items (⟨op.property, op.mapping, valueA, valueB⟩ :: properties)
  | other (item : PlanItem) (plan : List PlanItem) (items : List ConflictInfo) (properties : List PropertyConflict) :
      (∀ operation, item = .ok operation → operation.isConflict = false) → HasConflicts plan items properties →
      HasConflicts (item :: plan) items properties

theorem hasConflicts_collected : ∀ plan : List PlanItem, HasConflicts plan (itemConflicts plan) (propertyConflicts plan)
  | [] => .nil
  | item :: plan => by
    have ih := hasConflicts_collected plan
    cases item with
    | error e => exact .other _ _ _ _ nofun ih
    | ok operation =>
      cases operation with
      | flushStaleMappings | collection => exact .other _ _ _ _ (by rintro _ ⟨⟩; rfl) ih
      | item op =>
        rcases hc : op.conflict with _ | info
        · have hother := HasConflicts.other (.ok (.item op)) plan _ _ (by rintro _ ⟨⟩; simp [Operation.isConflict, hc]) ih
          simpa [itemConflicts, propertyConflicts, hc] using hother
        · simpa [itemConflicts, propertyConflicts, hc] using HasConflicts.item op info plan _ _ hc ih
      | property op =>
        rcases hc : op.conflict with _ | ⟨valueA, valueB⟩
        · have hother := HasConflicts.other (.ok (.property op)) plan _ _ (by rintro _ ⟨⟩; simp [Operation.isConflict, hc]) ih
          simpa [itemConflicts, propertyConflicts, hc] using hother
        · simpa [itemConflicts, propertyConflicts, hc] using HasConflicts.property op valueA valueB plan _ _ hc ih

/-- **The conflicts of a plan** are what is collected of it. -/
theorem hasConflicts_iff {plan : List PlanItem} {items : List ConflictInfo} {properties : List PropertyConflict} :
    HasConflicts plan items properties ↔ items = itemConflicts plan ∧ properties = propertyConflicts plan := by
  refine ⟨fun h => ?_, fun ⟨hitems, hproperties⟩ => by rw [hitems, hproperties]; exact hasConflicts_collected plan⟩
  induction h with
  | nil => exact ⟨rfl, rfl⟩
  | item op info plan items properties hc _ ih => simp [itemConflicts, propertyConflicts, hc, ih.1, ih.2]
  | property op valueA valueB plan items properties hc _ ih => simp [itemConflicts, propertyConflicts, hc, ih.1, ih.2]
  | other item plan items properties hother _ ih =>
    cases item with
    | error e => simpa [itemConflicts, propertyConflicts] using ih
    | ok operation =>
      have hnone := hother operation rfl
      cases operation <;> simp_all [Operation.isConflict, itemConflicts, propertyConflicts]

theorem HasConflicts.conflicts {plan : List PlanItem} {items : List ConflictInfo} {properties : List PropertyConflict}
    (h : HasConflicts plan items properties) : conflictsOf plan = items.map .item ++ properties.map .property := by
  obtain ⟨rfl, rfl⟩ := hasConflicts_iff.mp h
  rfl

theorem conflictsOf_eq_nil {plan : List PlanItem} : conflictsOf plan = [] ↔ HasConflicts plan [] [] := by
  rw [hasConflicts_iff, conflictsOf, List.append_eq_nil_iff, List.map_eq_nil_iff, List.map_eq_nil_iff, eq_comm,
    eq_comm (a := propertyConflicts plan)]

/-- One round of a resolution: what is done, and whether it goes on. -/
structure Round where
  conflict : Conflict
  trace : List ResolveEvent
  ended : Except Stop Bool

section Rounds

variable (out : ResolveOutside σ S) (rawCmd : RawCommand) (pair : NamedPair S)

def RoundTrace : Conflict → List ResolveEvent → Except Stop Bool → Prop
  | .item info => ItemTrace out rawCmd pair info
  | .property conflict => PropertyTrace out rawCmd pair conflict

/-- The rounds for a list of conflicts, and what they end in: the first that does not go on is the last. -/
inductive Rounds : List Conflict → List Round → Except Stop Bool → Prop
  | done : Rounds [] [] (.ok true)
  | stop (conflict : Conflict) (conflicts : List Conflict) (trace : List ResolveEvent) (ended : Except Stop Bool) :
      RoundTrace out rawCmd pair conflict trace ended → ended ≠ .ok true →
      Rounds (conflict :: conflicts) [⟨conflict, trace, ended⟩] ended
  | next (conflict : Conflict) (conflicts : List Conflict) (trace : List ResolveEvent) (rounds : List Round)
      (ended : Except Stop Bool) : RoundTrace out rawCmd pair conflict trace (.ok true) → Rounds conflicts rounds ended →
      Rounds (conflict :: conflicts) (⟨conflict, trace, .ok true⟩ :: rounds) ended

variable {out rawCmd pair}

theorem Rounds.append {conflicts conflicts' : List Conflict} {rounds rounds' : List Round} {ended : Except Stop Bool}
    (h : Rounds out rawCmd pair conflicts rounds (.ok true)) (h' : Rounds out rawCmd pair conflicts' rounds' ended) :
    Rounds out rawCmd pair (conflicts ++ conflicts') (rounds ++ rounds') ended := by
  generalize hr : Except.ok true = r at h
  induction h with
  | done => exact h'
  | stop _ _ _ _ _ hne => exact absurd hr.symm hne
  | next conflict conflicts trace rounds ended ht _ ih => exact .next conflict _ trace _ _ ht (ih hr)

/-- Rounds that end early leave the rest of the conflicts alone. -/
theorem Rounds.append_left {conflicts : List Conflict} {rounds : List Round} {ended : Except Stop Bool}
    (h : Rounds out rawCmd pair conflicts rounds ended) (hne : ended ≠ .ok true) (conflicts' : List Conflict) :
    Rounds out rawCmd pair (conflicts ++ conflicts') rounds ended := by
  induction h with
  | done => exact absurd rfl hne
  | stop conflict conflicts trace ended ht hne => exact .stop conflict _ trace ended ht hne
  | next conflict conflicts trace rounds ended ht _ ih => exact .next conflict _ trace rounds ended ht (ih hne)

theorem Rounds.prefix {conflicts : List Conflict} {rounds : List Round} {ended : Except Stop Bool}
    (h : Rounds out rawCmd pair conflicts rounds ended) : rounds.map Round.conflict <+: conflicts := by
  induction h with
  | done => exact List.prefix_rfl
  | stop conflict conflicts trace ended _ _ => exact ⟨conflicts, rfl⟩
  | next conflict conflicts trace rounds ended _ _ ih => simpa using ih

/-- Every round but the last goes on. -/
theorem Rounds.dropLast {conflicts : List Conflict} {rounds : List Round} {ended : Except Stop Bool}
    (h : Rounds out rawCmd pair conflicts rounds ended) : ∀ round ∈ rounds.dropLast, round.ended = .ok true := by
  induction h with
  | done | stop => simp
  | next conflict conflicts trace rounds ended _ _ ih =>
    cases rounds with
    | nil => simp
    | cons round rounds =>
      rw [List.dropLast_cons_cons]
      exact List.forall_mem_cons.mpr ⟨rfl, ih⟩

theorem Rounds.trace {conflicts : List Conflict} {rounds : List Round} {ended : Except Stop Bool}
    (h : Rounds out rawCmd pair conflicts rounds ended) :
    ∀ round ∈ rounds, RoundTrace out rawCmd pair round.conflict round.trace round.ended := by
  induction h with
  | done => simp
  | stop conflict conflicts trace ended ht _ => simpa using ht
  | next conflict conflicts trace rounds ended ht _ ih => exact List.forall_mem_cons.mpr ⟨ht, ih⟩

variable (out rawCmd pair)

theorem resolveItems_rounds (total : ℕ) : ∀ (i : ℕ) (conflicts : List ConflictInfo) (w : World σ), ∃ rounds w' ended,
    Rounds out rawCmd pair (conflicts.map .item) rounds ended ∧
      resolveItems out pair rawCmd total i conflicts w = ⟨ended, w', rounds.flatMap Round.trace⟩
  | _, [], w => ⟨[], w, .ok true, .done, rfl⟩
  | i, info :: conflicts, w => by
    have htrace := resolveItem_trace out rawCmd pair total i info w
    rcases hr : resolveItem out pair rawCmd total i info w with ⟨ended, w', trace⟩
    rw [hr] at htrace
    rcases ended with stop | _ | _
    · exact ⟨_, w', _, .stop (.item info) _ trace _ htrace nofun, by simp [resolveItems, Prog.bind_run, hr]⟩
    · exact ⟨_, w', _, .stop (.item info) _ trace _ htrace nofun, by simp [resolveItems, Prog.bind_run, hr]⟩
    · obtain ⟨rounds, w'', ended, hrounds, hrun⟩ := resolveItems_rounds total (i + 1) conflicts w'
      exact ⟨_, w'', ended, .next (.item info) _ trace rounds ended htrace hrounds, by
        simp [resolveItems, Prog.bind_run, hr, hrun]⟩

theorem resolveProperties_rounds (total : ℕ) : ∀ (i : ℕ) (conflicts : List PropertyConflict)
    (w : World σ), ∃ rounds w' ended,
    Rounds out rawCmd pair (conflicts.map .property) rounds ended ∧
      resolveProperties out pair rawCmd total i conflicts w =
        ⟨ended.map fun _ => (), w', rounds.flatMap Round.trace⟩
  | _, [], w => ⟨[], w, .ok true, .done, rfl⟩
  | i, conflict :: conflicts, w => by
    have htrace := resolveProperty_trace out rawCmd pair total i conflict w
    rcases hr : resolveProperty out pair rawCmd total i conflict w with ⟨ended, w', trace⟩
    rw [hr] at htrace
    rcases ended with stop | _ | _
    · exact ⟨_, w', _, .stop (.property conflict) _ trace _ htrace nofun, by
        simp [resolveProperties, Prog.bind_run, hr, Except.map]⟩
    · exact ⟨_, w', _, .stop (.property conflict) _ trace _ htrace nofun, by
        simp [resolveProperties, Prog.bind_run, hr, Except.map]⟩
    · obtain ⟨rounds, w'', ended, hrounds, hrun⟩ := resolveProperties_rounds total (i + 1) conflicts w'
      exact ⟨_, w'', ended, .next (.property conflict) _ trace rounds ended htrace hrounds, by
        simp [resolveProperties, Prog.bind_run, hr, hrun]⟩

/-- What is done with the conflicts of a plan. -/
theorem resolvePlan_rounds (items : List ConflictInfo) (properties : List PropertyConflict) (w : World σ) :
    ∃ (head : ResolveEvent) (rounds : List Round) (tail : List ResolveEvent) (ended : Except Stop Bool),
      Rounds out rawCmd pair (items.map .item ++ properties.map .property) rounds ended ∧
        (resolvePlan out pair rawCmd items properties w).log = [head] ++ rounds.flatMap Round.trace ++ tail ∧
        head.Idle ∧ Idle tail := by
  by_cases hnone : items.length = 0 ∧ properties.length = 0
  · obtain ⟨rfl, rfl⟩ : items = [] ∧ properties = [] := by simpa using hnone
    exact ⟨.term (.info s!"No conflicts to resolve for {pair.name}."), [], [], .ok true, .done,
      by simp [resolvePlan], trivial,
      by simp [Idle]⟩
  obtain ⟨rounds, w', ended, hrounds, hitems⟩ := resolveItems_rounds out rawCmd pair items.length 0 items w
  rw [resolvePlan, if_neg hnone]
  refine ⟨.term (.print s!"Resolving {items.length} item conflicts and {properties.length} property conflicts for pair \"{pair.name}\"."), ?_⟩
  by_cases hended : ended = .ok true
  · subst hended
    obtain ⟨rounds', w'', ended', hrounds', hproperties⟩ :=
      resolveProperties_rounds out rawCmd pair properties.length 0 properties w'
    have hrun := hrounds.append hrounds'
    cases ended' with
    | error stop =>
      exact ⟨_, [], _, hrun, by
        simp [resolveItemConflicts, resolvePropertyConflicts, Prog.bind_run, hitems, hproperties, Except.map], trivial,
        by simp [Idle]⟩
    | ok go =>
      exact ⟨_, [.term (.print s!"No conflicts left for pair \"{pair.name}\".")], _, hrun, by
        simp [resolveItemConflicts, resolvePropertyConflicts, Prog.bind_run, hitems, hproperties, Except.map], trivial,
        idle_singleton trivial⟩
  · refine ⟨rounds, [], ended, hrounds.append_left hended _, ?_, trivial, by simp [Idle]⟩
    rcases ended with stop | _ | _
    · simp [resolveItemConflicts, Prog.bind_run, hitems]
    · simp [resolveItemConflicts, Prog.bind_run, hitems]
    · exact absurd rfl hended

end Rounds

/-- The plan of a resolution, and its errors. -/
theorem planConflicts_run (env : PlanOutside σ S D) (pair : NamedPair S) (w : World σ) :
    (∃ e w', planConflicts env pair w = ⟨.error (.err e), w', [.planned (.error e)]⟩) ∨
      ∃ plan w', planConflicts env pair w = ⟨.ok plan, w', .planned (.ok plan) :: planErrors plan⟩ := by
  have hlog := createPlan_log (ε := ResolveEvent) env pair w
  rcases hp : createPlan (ε := ResolveEvent) env pair w with ⟨e | plan, w', log⟩ <;> rw [hp] at hlog <;> cases hlog
  · exact .inl ⟨e, w', by simp [planConflicts, Prog.bind_run, hp, Except.mapError]⟩
  · exact .inr ⟨plan, w', by simp [planConflicts, Prog.bind_run, hp, Except.mapError, Except.map]⟩

/-! ## Writes -/

/-- The side that an event writes to. -/
def ResolveEvent.write? : ResolveEvent → Option Side
  | .updated side _ _ _ _ => some side
  | .propertySet side _ _ _ _ => some side
  | _ => none

/-- Nothing is written. -/
def Quiet (log : List ResolveEvent) : Prop := ∀ event ∈ log, event.write? = none

/-- A line that was read. -/
def ResolveEvent.line? : ResolveEvent → Option String
  | .term event => event.line?
  | _ => none

/-- The lines that were read. -/
def linesOf (log : List ResolveEvent) : List String := log.filterMap ResolveEvent.line?

/-- The last line is this one, and none before it settles a property. -/
def LastLine (key : String) (lines : List String) : Prop :=
  ∃ ignored line, lines = ignored ++ [line] ∧ (∀ other ∈ ignored, toLowercase (trim other) ∉ ["a", "b", "s", "q"]) ∧
    toLowercase (trim line) = key

/-- The value that the user decides on: that of a side, or what the merge command makes of both. -/
inductive Decides (out : ResolveOutside σ S) (rawCmd : RawCommand) (conflict : PropertyConflict) (pre : List ResolveEvent) :
    String → Prop
  | a : LastLine "a" (linesOf pre) → Decides out rawCmd conflict pre conflict.valueA
  | b : LastLine "b" (linesOf pre) → Decides out rawCmd conflict pre conflict.valueB
  | edited (text : String) (before after : List ResolveEvent) :
      pre = before ++ .merged rawCmd conflict.valueA conflict.valueB (.ok text) :: after →
      Merges out rawCmd conflict.valueA conflict.valueB text → LastLine "e" (linesOf before) → linesOf after = [] →
      Decides out rawCmd conflict pre (trim text)

/-- Why an event may write, after the events before it in its round. -/
inductive Justified (out : ResolveOutside σ S) (rawCmd : RawCommand) (pair : NamedPair S) (pre : List ResolveEvent) :
    Conflict → ResolveEvent → Prop
  | item (info : ConflictInfo) (side : Side) (text : String) (before after : List ResolveEvent) (s : σ) :
      pre = before ++ .merged rawCmd info.a.data.text info.b.data.text (.ok text) :: after →
      Merges out rawCmd info.a.data.text info.b.data.text text → AnsweredBy .yes (linesOf before) →
      out.hash ⟨text⟩ ≠ out.hash (info.on side).data →
      Justified out rawCmd pair pre (.item info)
        (.updated side (info.on side).state.version.href (info.on side).state.version.etag ⟨text⟩
          (out.updateItem (pair.inner.on side) (info.on side).state.version.href (info.on side).state.version.etag
            ⟨text⟩ s).1)
  | property (conflict : PropertyConflict) (side : Side) (value : String) (s : σ) :
      Decides out rawCmd conflict pre value → value ≠ conflict.value side →
      Justified out rawCmd pair pre (.property conflict)
        (.propertySet side (conflict.mapping.href side) conflict.property value
          (out.setProperty (pair.inner.on side) (conflict.mapping.href side) conflict.property value s).1)

/-- How the user quits when asked about a conflict. -/
def Conflict.QuitBy : Conflict → List String → Prop
  | .item _, lines => AnsweredBy .quit lines
  | .property _, lines => LastLine "q" lines

/-- The user quits in a round. -/
def Round.Quits (round : Round) : Prop := round.conflict.QuitBy (linesOf round.trace)

/-- The writes of a round. -/
structure WritesOk (out : ResolveOutside σ S) (rawCmd : RawCommand) (pair : NamedPair S) (round : Round) : Prop where
  justified : ∀ pre event post, round.trace = pre ++ event :: post → event.write? ≠ none →
    Justified out rawCmd pair pre round.conflict event
  once : (round.trace.filterMap ResolveEvent.write?).Nodup
  quit : round.Quits → Quiet round.trace

/-! ## Lines -/

section Lines

variable {out : ResolveOutside σ S} {rawCmd : RawCommand} {pair : NamedPair S} {log : List ResolveEvent}

@[simp] theorem linesOf_nil : linesOf [] = [] := rfl

@[simp] theorem linesOf_cons (event : ResolveEvent) (log : List ResolveEvent) :
    linesOf (event :: log) = event.line?.toList ++ linesOf log := by
  cases h : event.line? <;> simp [linesOf, h]

@[simp] theorem linesOf_append (log log' : List ResolveEvent) : linesOf (log ++ log') = linesOf log ++ linesOf log' :=
  List.filterMap_append

@[simp] theorem linesOf_term (log : List TermEvent) : linesOf (log.map .term) = log.filterMap TermEvent.line? := by
  simp [linesOf, List.filterMap_map, Function.comp_def, ResolveEvent.line?]

theorem linesOf_eq_nil (h : ∀ event ∈ log, event.line? = none) : linesOf log = [] := List.filterMap_eq_nil_iff.mpr h

@[simp] theorem linesOf_prints (log : List String) : linesOf (log.map (.term <| .print ·)) = [] :=
  linesOf_eq_nil fun event he => by
    obtain ⟨text, -, rfl⟩ := List.mem_map.mp he
    rfl

theorem Notes.lines (h : Notes log) : linesOf log = [] :=
  linesOf_eq_nil fun event he => by
    obtain ⟨text, rfl⟩ := h event he
    rfl

theorem Uploads.event {differs : Side → Prop} [DecidablePred differs] {answer : Side → σ → Except Error Unit}
    {write : Side → Except Error Unit → ResolveEvent} (h : Uploads differs answer write log) {event : ResolveEvent}
    (he : event ∈ log) : ∃ side s, differs side ∧ event = write side (answer side s) := by
  obtain ⟨first, result, hanswer, rfl⟩ := h
  obtain ⟨side, -, hside⟩ := List.mem_filterMap.mp he
  split at hside
  case isTrue hd =>
    obtain ⟨s, hs⟩ := hanswer side hd
    exact ⟨side, s, hd, by rw [hs]; exact (Option.some.inj hside).symm⟩
  case isFalse => cases hside

theorem Uploads.lines {differs : Side → Prop} [DecidablePred differs] {answer : Side → σ → Except Error Unit}
    {write : Side → Except Error Unit → ResolveEvent} (h : Uploads differs answer write log)
    (hw : ∀ side result, (write side result).line? = none) : linesOf log = [] :=
  linesOf_eq_nil fun event he => by
    obtain ⟨side, s, -, rfl⟩ := h.event he
    exact hw side _

theorem MergeTrace.lines {info : ConflictInfo} {r : Except Stop Unit} (h : MergeTrace out rawCmd pair info log r) :
    linesOf log = [] := by
  cases h with
  | fileFailed running e => rfl
  | refused running notes e hnotes => simp [hnotes.lines, ResolveEvent.line?, TermEvent.line?]
  | uploadFailed running notes text uploads e hnotes huploads =>
    have hlines : linesOf uploads = [] := huploads.lines fun _ _ => rfl
    simp [hnotes.lines, hlines, ResolveEvent.line?, TermEvent.line?]
  | uploaded running notes text uploads hnotes huploads =>
    have hlines : linesOf uploads = [] := huploads.lines fun _ _ => rfl
    simp [hnotes.lines, hlines, ResolveEvent.line?, TermEvent.line?]

theorem ChooseTrace.lines {valueA valueB line : String} {r : Except Stop (Option PropertyChoice)}
    (h : ChooseTrace out rawCmd valueA valueB line log r) : linesOf log = [] := by
  cases h with
  | known | fileFailed => rfl
  | edited notes text _ hnotes => simp [hnotes.lines, ResolveEvent.line?]
  | refused notes e _ hnotes => simp [hnotes.lines, ResolveEvent.line?, TermEvent.line?]

/-- **A round for an item ends in a quit** if and only if the user answers so. -/
theorem ItemTrace.quits_iff {info : ConflictInfo} {ended : Except Stop Bool}
    (h : ItemTrace out rawCmd pair info log ended) : ended = .ok false ↔ AnsweredBy .quit (linesOf log) := by
  cases h with
  | promptFailed heading log e h => simp [← h.lines_iff, ResolveEvent.line?, TermEvent.line?]
  | no heading log h => simp [← h.lines_iff, ResolveEvent.line?, TermEvent.line?]
  | quit heading log h => simp [← h.lines_iff, ResolveEvent.line?, TermEvent.line?]
  | yes heading log trace r h hmerge =>
    have hr : (r.map fun _ => true) ≠ .ok false := by cases r <;> simp [Except.map]
    simpa [← h.lines_iff, hmerge.lines, ResolveEvent.line?, TermEvent.line?] using hr

/-! ### The prompt for a property -/

theorem not_lastLine_nil (key : String) : ¬ LastLine key [] := by
  rintro ⟨ignored, line, h, -⟩
  simp at h

theorem lastLine_singleton {key line : String} : LastLine key [line] ↔ toLowercase (trim line) = key := by
  constructor
  · rintro ⟨ignored, line', h, -, hkey⟩
    obtain ⟨-, rfl⟩ : ignored = [] ∧ line' = line := by cases ignored <;> simp_all
    exact hkey
  · exact fun hkey => ⟨[], line, rfl, by simp, hkey⟩

/-- A line that settles nothing does not matter. -/
theorem LastLine.cons {key line : String} {lines : List String} (h : LastLine key lines)
    (hline : toLowercase (trim line) ∉ ["a", "b", "s", "q"]) : LastLine key (line :: lines) := by
  obtain ⟨ignored, line', rfl, hignored, hkey⟩ := h
  exact ⟨line :: ignored, line', rfl, List.forall_mem_cons.mpr ⟨hline, hignored⟩, hkey⟩

theorem lastLine_cons {key line : String} {lines : List String} (hkey : key ∈ ["a", "b", "s", "q"])
    (hline : toLowercase (trim line) ∉ ["a", "b", "s", "q"]) : LastLine key (line :: lines) ↔ LastLine key lines := by
  refine ⟨?_, fun h => h.cons hline⟩
  rintro ⟨ignored, line', hlines, hignored, rfl⟩
  cases ignored with
  | nil =>
    obtain ⟨rfl, -⟩ := List.cons.inj hlines
    exact absurd hkey hline
  | cons other ignored =>
    obtain ⟨-, rfl⟩ := List.cons.inj hlines
    exact ⟨ignored, line', rfl, fun other ho => hignored other (List.mem_cons_of_mem _ ho), rfl⟩

/-- The line for a choice. -/
def PropertyChoice.key : PropertyChoice → String
  | .a => "a"
  | .b => "b"
  | .custom _ => "e"
  | .skip => "s"
  | .quit => "q"

/-- What a line settles. -/
theorem ChooseTrace.key {valueA valueB line : String} {r : Except Stop (Option PropertyChoice)}
    (h : ChooseTrace out rawCmd valueA valueB line log r) :
    (∀ choice, r = .ok (some choice) → toLowercase (trim line) = choice.key) ∧
      ((∀ choice, r ≠ .ok (some choice)) → toLowercase (trim line) ∉ ["a", "b", "s", "q"]) := by
  cases h with
  | known he =>
    unfold PropertyChoice.ofResponse
    split
    case h_5 ha hb hs hq => exact ⟨nofun, fun _ => by simp_all⟩
    all_goals exact ⟨fun choice hc => by cases hc; assumption, fun h => absurd rfl (h _)⟩
  | fileFailed e he => exact ⟨nofun, fun _ => by simp [he]⟩
  | edited notes text he => exact ⟨fun choice hc => by cases hc; exact he, fun h => absurd rfl (h _)⟩
  | refused notes e he => exact ⟨nofun, fun _ => by simp [he]⟩

theorem linesOf_question (msg line : String) (log : List ResolveEvent) :
    linesOf ([.term (.print msg), .term (.turn (.read line))] ++ log) = line :: linesOf log := by
  simp [ResolveEvent.line?, TermEvent.line?]

/-- The user quits with the last line. -/
theorem ChoicePrompt.quits_iff {conflict : PropertyConflict} {r : Except Stop PropertyChoice}
    (h : ChoicePrompt out rawCmd conflict log r) : r = .ok .quit ↔ LastLine "q" (linesOf log) := by
  induction h with
  | flushErr e | readErr e => exact iff_of_false nofun (not_lastLine_nil "q")
  | answered line log choice h =>
    rw [linesOf_question, h.lines, lastLine_singleton, h.key.1 choice rfl]
    cases choice <;> simp [PropertyChoice.key]
  | failed line log stop h | hang log h =>
    rw [linesOf_question, h.lines, lastLine_singleton]
    exact iff_of_false nofun fun hq => h.key.2 nofun (by rw [hq]; simp)
  | again line log log' r h _ ih =>
    rw [linesOf_append, linesOf_question, h.lines, List.singleton_append, lastLine_cons (by simp) (h.key.2 nofun), ih]

theorem Decides.around {conflict : PropertyConflict} {value : String} (h : Decides out rawCmd conflict log value)
    {before after : List ResolveEvent} (hb : linesOf before = []) (ha : linesOf after = []) :
    Decides out rawCmd conflict (before ++ log ++ after) value := by
  cases h with
  | a h => exact .a (by simpa [hb, ha] using h)
  | b h => exact .b (by simpa [hb, ha] using h)
  | edited text before' after' hlog hmerges h hafter =>
    subst hlog
    exact .edited text (before ++ before') (after' ++ after) (by simp) hmerges (by simpa [hb] using h) (by simp [hafter, ha])

theorem Decides.again {conflict : PropertyConflict} {value line : String} (h : Decides out rawCmd conflict log value)
    {before : List ResolveEvent} (hb : linesOf before = [line]) (hline : toLowercase (trim line) ∉ ["a", "b", "s", "q"]) :
    Decides out rawCmd conflict (before ++ log) value := by
  cases h with
  | a h => exact .a (by simpa [hb] using h.cons hline)
  | b h => exact .b (by simpa [hb] using h.cons hline)
  | edited text before' after' hlog hmerges h hafter =>
    subst hlog
    exact .edited text (before ++ before') after' (by simp) hmerges (by simpa [hb] using h.cons hline) hafter

/-- A value that is chosen is what the lines decide on. -/
theorem ChoicePrompt.decides {conflict : PropertyConflict} {r : Except Stop PropertyChoice} {choice : PropertyChoice}
    {value : String} (h : ChoicePrompt out rawCmd conflict log r) (hr : r = .ok choice)
    (hvalue : choice.value conflict = some value) : Decides out rawCmd conflict log value := by
  induction h with
  | flushErr | readErr | failed | hang => cases hr
  | answered line log answer h =>
    obtain rfl := Except.ok.inj hr
    have hkey := lastLine_singleton.mpr (h.key.1 answer rfl)
    cases answer with
    | a => cases hvalue; exact .a (by rwa [linesOf_question, h.lines])
    | b => cases hvalue; exact .b (by rwa [linesOf_question, h.lines])
    | skip | quit => cases hvalue
    | custom edited =>
      obtain rfl : edited = value := Option.some.inj hvalue
      generalize hc : Except.ok (some (PropertyChoice.custom edited)) = c at h
      cases h with
      | known =>
        obtain hc := Except.ok.inj hc
        unfold PropertyChoice.ofResponse at hc
        split at hc <;> simp at hc
      | fileFailed | refused => cases hc
      | edited notes text _ hnotes hmerges =>
        cases hc
        refine .edited text ([.term (.print _), .term (.turn (.read line))] ++ notes) [] (by simp; rfl) hmerges ?_ rfl
        rwa [linesOf_question, hnotes.lines]
  | again line log log' r h _ ih =>
    exact (ih hr).again (by rw [linesOf_question, h.lines]) (h.key.2 nofun)

/-- **A round for a property ends in a quit** if and only if the last line says so. -/
theorem PropertyTrace.quits_iff {conflict : PropertyConflict} {ended : Except Stop Bool}
    (h : PropertyTrace out rawCmd pair conflict log ended) : ended = .ok false ↔ LastLine "q" (linesOf log) := by
  cases h with
  | promptFailed heading log stop h => simp [← h.quits_iff]
  | skip heading log h => simp [← h.quits_iff, ResolveEvent.line?]
  | quit heading log h => simp [← h.quits_iff, ResolveEvent.line?, TermEvent.line?]
  | resolved heading log choice value uploads r h hvalue huploads =>
    have hlines : linesOf uploads = [] := huploads.lines fun _ _ => rfl
    have hr : (r.map fun _ => true) ≠ .ok false := by cases r <;> simp [Except.map]
    have hchoice : choice ≠ .quit := by rintro rfl; cases hvalue
    simpa [← h.quits_iff, hlines, hchoice, ResolveEvent.line?, TermEvent.line?] using hr

end Lines

section Writes

variable {out : ResolveOutside σ S} {rawCmd : RawCommand} {pair : NamedPair S} {log log' : List ResolveEvent}

theorem Quiet.append (h : Quiet log) (h' : Quiet log') : Quiet (log ++ log') := by
  intro event he
  rcases List.mem_append.mp he with he | he
  · exact h event he
  · exact h' event he

theorem Quiet.filterMap (h : Quiet log) : log.filterMap ResolveEvent.write? = [] :=
  List.filterMap_eq_nil_iff.mpr h

theorem quiet_term (log : List TermEvent) : Quiet (log.map .term) := by
  rintro event he
  obtain ⟨event, -, rfl⟩ := List.mem_map.mp he
  rfl

theorem quiet_prints (log : List String) : Quiet (log.map (.term <| .print ·)) := by
  rintro event he
  obtain ⟨event, -, rfl⟩ := List.mem_map.mp he
  rfl

theorem Idle.quiet {log : List ResolveEvent} (h : Idle log) : Quiet log := by
  intro event he
  cases event with
  | term | planned | merged | chosen => rfl
  | updated | propertySet => exact (h _ he).elim

theorem Notes.quiet (h : Notes log) : Quiet log := by
  intro event he
  obtain ⟨text, rfl⟩ := h event he
  rfl

/-- A write of a round that writes nothing before or after its uploads is one of them, and no line is read between. -/
theorem Quiet.split {before uploads after pre post : List ResolveEvent} {event : ResolveEvent} (hb : Quiet before)
    (ha : Quiet after) (hlines : linesOf (uploads ++ after) = []) (h : before ++ uploads ++ after = pre ++ event :: post)
    (he : event.write? ≠ none) : event ∈ uploads ∧ ∃ mid, pre = before ++ mid ∧ linesOf mid = [] := by
  rw [List.append_assoc] at h
  obtain ⟨hmem, mid, rfl⟩ := Prog.mem_of_split h fun hmem => he (hb event hmem)
  have hafter : event ∉ after := fun hmem => he (ha event hmem)
  have hrest : uploads ++ after = mid ++ event :: post := by simpa using h
  rw [hrest, linesOf_append] at hlines
  exact ⟨by simpa [hafter] using hmem, mid, rfl, (List.append_eq_nil_iff.mp hlines).1⟩

theorem Uploads.once {differs : Side → Prop} [DecidablePred differs] {answer : Side → σ → Except Error Unit}
    {write : Side → Except Error Unit → ResolveEvent} (h : Uploads differs answer write log)
    (hw : ∀ side result, (write side result).write? = some side) : (log.filterMap ResolveEvent.write?).Nodup := by
  obtain ⟨first, result, -, rfl⟩ := h
  have hside : ∀ side, ((if differs side then some (write side (result side)) else none).bind ResolveEvent.write?) =
      if differs side then some side else none := by
    intro side
    split
    · exact hw side (result side)
    · rfl
  have hne : first ≠ first.other := by cases first <;> simp [Side.other]
  rw [List.filterMap_filterMap]
  simp only [hside, List.filterMap_cons, List.filterMap_nil]
  split <;> split <;> simp_all

/-- The writes of a round, if it writes nothing but these uploads. -/
theorem writesOk_of_uploads {conflict : Conflict} {ended : Except Stop Bool} {before uploads after : List ResolveEvent}
    (hb : Quiet before) (ha : Quiet after) (hlines : linesOf (uploads ++ after) = [])
    (honce : (uploads.filterMap ResolveEvent.write?).Nodup)
    (hquit : ¬ conflict.QuitBy (linesOf (before ++ uploads ++ after)))
    (hjust : ∀ event ∈ uploads, ∀ mid, linesOf mid = [] → Justified out rawCmd pair (before ++ mid) conflict event) :
    WritesOk out rawCmd pair ⟨conflict, before ++ uploads ++ after, ended⟩ where
  justified pre event post h he := by
    obtain ⟨hevent, mid, rfl, hmid⟩ := hb.split ha hlines h he
    exact hjust event hevent mid hmid
  once := by simpa [hb.filterMap, ha.filterMap] using honce
  quit h := absurd h hquit

theorem writesOk_of_quiet {conflict : Conflict} {ended : Except Stop Bool} (h : Quiet log) :
    WritesOk out rawCmd pair ⟨conflict, log, ended⟩ where
  justified pre event post hlog he := absurd (h event (by rw [show log = _ from hlog]; simp)) he
  once := by simp [h.filterMap]
  quit _ := h

variable (rawCmd) in
/-- The writes of an item that was merged. -/
theorem ItemUploads.writes {info : ConflictInfo} {text : String} {before uploads after trace : List ResolveEvent}
    {ended : Except Stop Bool} (h : ItemUploads out pair info text uploads)
    (hmerges : Merges out rawCmd info.a.data.text info.b.data.text text) (ha : Quiet after) (hb : Quiet before)
    (hlines : linesOf after = []) (hyes : AnsweredBy .yes (linesOf before))
    (htrace : trace = before ++ [.merged rawCmd info.a.data.text info.b.data.text (.ok text)] ++ uploads ++ after)
    (hquit : ¬ AnsweredBy .quit (linesOf trace)) : WritesOk out rawCmd pair ⟨.item info, trace, ended⟩ := by
  subst htrace
  have hmerged : Quiet [.merged rawCmd info.a.data.text info.b.data.text (.ok text)] := by simp [Quiet, ResolveEvent.write?]
  have huploads : linesOf uploads = [] := h.lines fun _ _ => rfl
  refine writesOk_of_uploads (hb.append hmerged) ha (by simp [huploads, hlines]) (h.once fun _ _ => rfl) hquit
    fun event he mid _ => ?_
  obtain ⟨side, s, hdiffers, rfl⟩ := h.event he
  exact .item info side text before mid s (by simp) hmerges hyes hdiffers

theorem ItemTrace.writes {info : ConflictInfo} {ended : Except Stop Bool} (h : ItemTrace out rawCmd pair info log ended) :
    WritesOk out rawCmd pair ⟨.item info, log, ended⟩ := by
  have hquits := h.quits_iff
  have hheading : ∀ heading, Quiet [.term (.print heading)] := fun heading => quiet_prints [heading]
  cases h with
  | promptFailed heading log e _ | no heading log _ => exact writesOk_of_quiet ((hheading heading).append (quiet_term log))
  | quit heading log _ =>
    exact writesOk_of_quiet (((hheading heading).append (quiet_term log)).append (quiet_term [.print _]))
  | yes heading log trace r hprompt hmerge =>
    have hyes := (hprompt.lines_iff .yes).mp rfl
    have hr : (r.map fun _ => true) ≠ .ok false := by cases r <;> simp [Except.map]
    have hquit := hquits.not.mp hr
    have hlog : ∀ running, Quiet ([.term (.print heading)] ++ log.map .term ++ [.term (.info running)]) := fun running =>
      ((hheading heading).append (quiet_term log)).append (quiet_term [.info running])
    cases hmerge with
    | fileFailed running e => exact writesOk_of_quiet (hlog running)
    | refused running notes e hnotes =>
      have hrefused : Quiet [.merged rawCmd info.a.data.text info.b.data.text (.error e),
          .term (.error "Error resolving conflict" e)] := by simp [Quiet, ResolveEvent.write?]
      simpa using writesOk_of_quiet (((hlog running).append hnotes.quiet).append hrefused)
    | uploadFailed running notes text uploads e hnotes huploads hmerges =>
      exact huploads.writes rawCmd hmerges (quiet_term []) ((hlog running).append hnotes.quiet) rfl
        (by simpa [hnotes.lines, ResolveEvent.line?, TermEvent.line?] using hyes) (by simp) hquit
    | uploaded running notes text uploads hnotes huploads hmerges =>
      exact huploads.writes rawCmd hmerges (quiet_term [.info s!"Resolved conflict for '{out.ident (Item.mk text)}'."])
        ((hlog running).append hnotes.quiet) rfl
        (by simpa [hnotes.lines, ResolveEvent.line?, TermEvent.line?] using hyes) (by simp) hquit

theorem ChooseTrace.quiet {valueA valueB line : String} {r : Except Stop (Option PropertyChoice)}
    (h : ChooseTrace out rawCmd valueA valueB line log r) : Quiet log := by
  cases h with
  | known | fileFailed => exact quiet_term []
  | edited notes text _ hnotes =>
    exact hnotes.quiet.append (by simp [Quiet, ResolveEvent.write?])
  | refused notes e _ hnotes =>
    exact hnotes.quiet.append (by simp [Quiet, ResolveEvent.write?])

theorem ChoicePrompt.quiet {conflict : PropertyConflict} {r : Except Stop PropertyChoice}
    (h : ChoicePrompt out rawCmd conflict log r) : Quiet log := by
  have hasked : ∀ msg turn, Quiet [.term (.print msg), .term (.turn turn)] :=
    fun msg turn => quiet_term [.print msg, .turn turn]
  induction h with
  | flushErr e | readErr e => exact hasked _ _
  | answered line log answer h | failed line log stop h | hang log h => exact (hasked _ _).append h.quiet
  | again line log log' r h _ ih => exact ((hasked _ _).append h.quiet).append ih

/-- A round for a property writes nothing, or the value that was chosen. -/
theorem PropertyTrace.quiet_or {conflict : PropertyConflict} {ended : Except Stop Bool}
    (h : PropertyTrace out rawCmd pair conflict log ended) : Quiet log ∨ ∃ before uploads prompt choice value,
      log = before ++ uploads ∧ Quiet before ∧ ended ≠ .ok false ∧ ChoicePrompt out rawCmd conflict prompt (.ok choice) ∧
        prompt ⊆ before ∧ Decides out rawCmd conflict before value ∧
        PropertyUploads out pair conflict value uploads := by
  cases h with
  | promptFailed heading log stop hprompt => exact .inl ((quiet_prints heading).append hprompt.quiet)
  | skip heading log hprompt =>
    have hchosen : Quiet [.chosen .skip] := by simp [Quiet, ResolveEvent.write?]
    exact .inl (((quiet_prints heading).append hprompt.quiet).append hchosen)
  | quit heading log hprompt =>
    have hchosen : Quiet [.chosen .quit, .term (.print s!"Skipping all remaining properties for pair \"{pair.name}\".")] := by
      simp [Quiet, ResolveEvent.write?]
    exact .inl (((quiet_prints heading).append hprompt.quiet).append hchosen)
  | resolved heading log choice value uploads r hprompt hvalue huploads =>
    have hchosen : Quiet [.chosen choice, .term (.info s!"Resolved property '{conflict.property.name}' to '{value}'")] := by
      simp [Quiet, ResolveEvent.write?]
    have hafter : linesOf [.chosen choice, .term (.info s!"Resolved property '{conflict.property.name}' to '{value}'")] = [] :=
      rfl
    have hdecides := (hprompt.decides rfl hvalue).around (linesOf_prints heading) hafter
    exact .inr ⟨_, uploads, log, choice, value, rfl, ((quiet_prints heading).append hprompt.quiet).append hchosen,
      by cases r <;> simp [Except.map], hprompt, by simp, hdecides, huploads⟩

theorem PropertyTrace.writes {conflict : PropertyConflict} {ended : Except Stop Bool}
    (h : PropertyTrace out rawCmd pair conflict log ended) : WritesOk out rawCmd pair ⟨.property conflict, log, ended⟩ := by
  have hquits := h.quits_iff
  obtain hquiet | ⟨before, uploads, prompt, choice, value, rfl, hb, hend, -, -, hdecides, huploads⟩ := h.quiet_or
  · exact writesOk_of_quiet hquiet
  · have hlines : linesOf uploads = [] := huploads.lines fun _ _ => rfl
    rw [← List.append_nil (before ++ uploads)] at hquits ⊢
    refine writesOk_of_uploads hb (quiet_term []) (by simpa using hlines) (huploads.once fun _ _ => rfl)
      (hquits.not.mp hend) fun event he mid hmid => ?_
    obtain ⟨side, s, hdiffers, rfl⟩ := huploads.event he
    exact .property conflict side value s (hdecides.around linesOf_nil hmid) hdiffers

end Writes

/-! ## A run -/

theorem planConflicts_creates (env : PlanOutside σ S D) (pair : NamedPair S) {w : World σ} {plan : List PlanItem}
    (h : (planConflicts env pair w).result = .ok plan) : Creates env pair (.ok plan) := by
  have hcreates := createPlan_creates (ε := ResolveEvent) env pair w
  rcases hp : createPlan (ε := ResolveEvent) env pair w with ⟨e | plan', w', log⟩ <;> rw [hp] at hcreates
  · simp [planConflicts, Prog.bind_run, hp, Except.mapError] at h
  · obtain rfl : plan' = plan := by simpa [planConflicts, Prog.bind_run, hp, Except.mapError, Except.map] using h
    exact hcreates

/-- A run of `interactive_resolution`, round by round. -/
theorem interactiveResolution_rounds (out : ResolveOutside σ S) (env : PlanOutside σ S D)
    (pair : NamedPair S) (w : World σ) :
    ∃ (head : List ResolveEvent) (rounds : List Round) (tail : List ResolveEvent),
      (interactiveResolution out env pair w).log = head ++ rounds.flatMap Round.trace ++ tail ∧ Idle head ∧ Idle tail ∧
        (rounds = [] ∨ ∃ rawCmd plan ended, pair.conflictResolution = some (.cmd rawCmd) ∧ .planned (.ok plan) ∈ head ∧
          Creates env pair (.ok plan) ∧ Rounds out rawCmd pair (conflictsOf plan) rounds ended) := by
  have hidle : (∀ rawCmd, pair.conflictResolution ≠ some (.cmd rawCmd)) →
    Idle (interactiveResolution out env pair w).log := by
    intro hcmd
    unfold interactiveResolution
    cases hres : pair.conflictResolution with
    | none => simp [Idle]
    | some resolution =>
      cases resolution with
      | cmd rawCmd => exact absurd hres (hcmd rawCmd)
      | keepA | keepB => exact idle_singleton trivial
  by_cases hcmd : ∃ rawCmd, pair.conflictResolution = some (.cmd rawCmd)
  · obtain ⟨rawCmd, hcmd⟩ := hcmd
    obtain ⟨e, w', hplan⟩ | ⟨plan, w', hplan⟩ := planConflicts_run env pair w
    · exact ⟨[.planned (.error e)], [], [], by simp [interactiveResolution, hcmd, Prog.bind_run, hplan],
        idle_singleton trivial, by simp [Idle], .inl rfl⟩
    · obtain ⟨head, rounds, tail, ended, hrounds, hlog, hhead, htail⟩ :=
        resolvePlan_rounds out rawCmd pair (itemConflicts plan) (propertyConflicts plan) w'
      have hcreates := planConflicts_creates env pair (congrArg Ran.result hplan)
      refine ⟨.planned (.ok plan) :: planErrors plan ++ [head], rounds, tail,
        by simp [interactiveResolution, hcmd, Prog.bind_run, hplan, hlog], ?_, htail,
        .inr ⟨rawCmd, plan, ended, hcmd, by simp, hcreates, hrounds⟩⟩
      have hplanned : Idle [.planned (.ok plan)] := idle_singleton trivial
      exact (hplanned.append (planErrors_idle plan)).append (idle_singleton hhead)
  · exact ⟨_, [], [], by simp, hidle fun rawCmd h => hcmd ⟨rawCmd, h⟩, by simp [Idle], .inl rfl⟩

/-- **The writes of `interactive_resolution`.** -/
theorem interactiveResolution_writes (out : ResolveOutside σ S) (env : PlanOutside σ S D)
    (pair : NamedPair S) (w : World σ) :
    ∃ (head : List ResolveEvent) (rounds : List Round) (tail : List ResolveEvent),
      (interactiveResolution out env pair w).log = head ++ rounds.flatMap Round.trace ++ tail ∧ Quiet head ∧ Quiet tail ∧
        (∀ round ∈ rounds.dropLast, round.ended = .ok true ∧ ¬ round.Quits) ∧
        (rounds = [] ∨ ∃ rawCmd plan items properties, pair.conflictResolution = some (.cmd rawCmd) ∧
          Creates env pair (.ok plan) ∧ .planned (.ok plan) ∈ head ∧ HasConflicts plan items properties ∧
          rounds.map Round.conflict <+: items.map .item ++ properties.map .property ∧
          ∀ round ∈ rounds, RoundTrace out rawCmd pair round.conflict round.trace round.ended ∧
            WritesOk out rawCmd pair round) := by
  obtain ⟨head, rounds, tail, hlog, hhead, htail, rfl | ⟨rawCmd, plan, ended, hcmd, hplan, hcreates, hrounds⟩⟩ :=
    interactiveResolution_rounds out env pair w
  · exact ⟨head, [], tail, hlog, hhead.quiet, htail.quiet, by simp, .inl rfl⟩
  have hquits : ∀ round ∈ rounds, round.ended = .ok false ↔ round.Quits := by
    intro round hr
    have ht := hrounds.trace round hr
    obtain ⟨info | conflict, trace, ended⟩ := round
    · exact ItemTrace.quits_iff ht
    · exact PropertyTrace.quits_iff ht
  refine ⟨head, rounds, tail, hlog, hhead.quiet, htail.quiet, fun round hr => ?_,
    .inr ⟨rawCmd, plan, _, _, hcmd, hcreates, hplan, hasConflicts_collected plan, hrounds.prefix, fun round hr => ?_⟩⟩
  · have hgoes := hrounds.dropLast round hr
    exact ⟨hgoes, (hquits round (List.dropLast_subset _ hr)).not.mp (by rw [hgoes]; nofun)⟩
  · have ht := hrounds.trace round hr
    refine ⟨ht, ?_⟩
    obtain ⟨info | conflict, trace, ended⟩ := round
    · exact ItemTrace.writes ht
    · exact PropertyTrace.writes ht

/-! ### An item and a property -/

/-- A merge command that appends one text to the other, and storages that take what they are given, B first. -/
def appending : ResolveOutside Unit Side where
  hash := Item.text
  ident := Item.text
  tempFile _ s := ((.ok (), .ok ()), s)
  merge _ a b s := (⟨.ok (), .ok (true, "exit status: 0"), .ok (), .ok (), .ok (a ++ b), .ok (a ++ b)⟩, s)
  updateItem _ _ _ _ s := (.ok (), s)
  setProperty _ _ _ _ s := (.ok (), s)
  first s := (.b, s)

/-- An item and a property are in conflict, and a collection is to be created. -/
def itemAndProperty : PlanOutside Unit Side Unit where
  openStatus _ s := (.ok none, s)
  openOrCreate _ s := (.ok (), s)
  newPlan _ _ s := (.ok [.ok (.item ⟨some "1", "conflict", some ⟨⟨⟨"1", ⟨"a/1", "v1"⟩⟩, ⟨"red"⟩⟩, ⟨⟨"1", ⟨"b/1", "v2"⟩⟩, ⟨"blue"⟩⟩⟩⟩),
    .ok (.collection "create cards"),
    .ok (.property ⟨.colour, ⟨"cards", "a/cards", "b/cards"⟩, "conflict", some ("red", "blue")⟩)], s)
  keepSide _ plan := plan
  execute _ _ _ _ s := (⟨[], .ok (.ok ())⟩, s)

def appendedPair : NamedPair Side := ⟨"cards", ⟨.a, .b, [], none, none, .twoWaySync⟩, "/status/cards",
  some (.cmd ⟨"merge", []⟩), ("a", "b"), (0, 0)⟩

/-- A user who resolves both, the property by the value of A, and one who quits at the item. -/
theorem interactiveResolution_writes_appending :
    (∀ turns : List Turn, ∃ (head : List ResolveEvent) (rounds : List Round) (tail : List ResolveEvent),
      (interactiveResolution appending itemAndProperty appendedPair ⟨turns, ()⟩).log =
          head ++ rounds.flatMap Round.trace ++ tail ∧ Quiet head ∧ Quiet tail ∧
        (∀ round ∈ rounds.dropLast, round.ended = .ok true ∧ ¬ round.Quits) ∧
        (rounds = [] ∨ ∃ rawCmd plan items properties, appendedPair.conflictResolution = some (.cmd rawCmd) ∧
          Creates itemAndProperty appendedPair (.ok plan) ∧ .planned (.ok plan) ∈ head ∧ HasConflicts plan items properties ∧
          rounds.map Round.conflict <+: items.map .item ++ properties.map .property ∧
          ∀ round ∈ rounds, RoundTrace appending rawCmd appendedPair round.conflict round.trace round.ended ∧
            WritesOk appending rawCmd appendedPair round)) ∧
      ((interactiveResolution appending itemAndProperty appendedPair
          ⟨[.read "maybe\n", .read "Y\n", .read "a\n"], ()⟩).log.filter fun event => event.write?.isSome) =
        [.updated .b "b/1" "v2" ⟨"redblue"⟩ (.ok ()), .updated .a "a/1" "v1" ⟨"redblue"⟩ (.ok ()),
          .propertySet .b "b/cards" .colour "red" (.ok ())] ∧
      ((interactiveResolution appending itemAndProperty appendedPair ⟨[.read "q\n"], ()⟩).log.filter fun event =>
        event.write?.isSome) = [] :=
  ⟨fun turns => interactiveResolution_writes appending itemAndProperty appendedPair ⟨turns, ()⟩, rfl, rfl⟩

end Pimsync
