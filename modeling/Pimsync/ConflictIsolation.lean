import Pimsync.ConflictRounds

/-!
# What a failure keeps from the user

A conflict that cannot be merged, or that the user skips, is passed over; an upload or a temporary file that fails ends the
resolution with an error, and the conflicts after it are not offered.

- `Offer.round_attempted`: what the user accepts is attempted;
- `interactiveResolution_isolated_iff`: every conflict of a plan is offered if only the last one's round fails.
-/

namespace Pimsync

variable {σ S D : Type}

section Attempts

variable (out : ResolveOutside σ S) (rawCmd : RawCommand) (pair : NamedPair S)

/-- **What the user accepts is attempted**: the merge command is run on an item, once its files are written, and what comes
of a merge or a choice is written to the sides that differ from it. -/
def Conflict.Attempted (w : World σ) (log : List ResolveEvent) : Conflict → Prop
  | .item info => (continueSkipOrQuit "Resolve it manually?" w).result = .ok .yes →
      (filesOk out info.a.data.text info.b.data.text w.outside = true →
        ∃ result, .merged rawCmd info.a.data.text info.b.data.text result ∈ log) ∧
      ∀ text, .merged rawCmd info.a.data.text info.b.data.text (.ok text) ∈ log →
        ∀ side, out.hash ⟨text⟩ ≠ out.hash (info.on side).data → ∃ result,
          .updated side (info.on side).state.version.href (info.on side).state.version.etag ⟨text⟩ result ∈ log
  | .property conflict => ∀ choice value, .chosen choice ∈ log → choice.value conflict = some value →
      ∀ side, value ≠ conflict.value side →
        ∃ result, .propertySet side (conflict.mapping.href side) conflict.property value result ∈ log

theorem Uploads.due {differs : Side → Prop} [DecidablePred differs] {answer : Side → σ → Except Error Unit}
    {write : Side → Except Error Unit → ResolveEvent} {log : List ResolveEvent} (h : Uploads differs answer write log)
    {side : Side} (hdiffers : differs side) : ∃ result, write side result ∈ log := by
  obtain ⟨first, result, -, rfl⟩ := h
  refine ⟨result side, List.mem_filterMap.mpr ⟨side, ?_, if_pos hdiffers⟩⟩
  cases first <;> cases side <;> simp [Side.other]

theorem resolveItem_attempted (total i : ℕ) (info : ConflictInfo) (w : World σ) :
    (Conflict.item info).Attempted out rawCmd w (resolveItem out pair rawCmd total i info w).log := by
  intro hyes
  rcases hp : continueSkipOrQuit "Resolve it manually?" w with ⟨answer, w', log⟩
  have hworld := (continueSkipOrQuit_trace "Resolve it manually?" w).2
  rw [hp] at hyes hworld
  obtain rfl : answer = .ok .yes := hyes
  obtain ⟨heading, hheading, hrun⟩ := resolveItem_yes out rawCmd pair total i info hp
  obtain ⟨before, w'', hbefore, ⟨hfiles, e, hmerge⟩ | ⟨-, e, hmerge⟩ | ⟨text, uploads, after, r, hmerge, hafter, huploads,
    -⟩⟩ := mergeItem_cases out rawCmd pair info w' <;> rw [hrun, hmerge, ← hworld]
  · refine ⟨fun h => absurd h (by simp [hfiles]), fun text hmem => ?_⟩
    exact absurd hmem ((hheading.append hbefore).not_mem (by simp))
  · refine ⟨fun _ => ⟨.error e, by simp⟩, fun text hmem => ?_⟩
    simp [hheading.not_mem, hbefore.not_mem] at hmem
  · refine ⟨fun _ => ⟨.ok text, by simp⟩, fun text' hmem side hdiffers => ?_⟩
    have hmem' : .merged rawCmd info.a.data.text info.b.data.text (.ok text') ∈ heading ++ before ++
        [.merged rawCmd info.a.data.text info.b.data.text (.ok text)] ++ uploads ++ after := by
      simpa using hmem
    obtain rfl := merged_eq out rawCmd pair (hheading.append hbefore) hafter huploads hmem'
    obtain ⟨result, hresult⟩ := Uploads.due huploads hdiffers
    exact ⟨result, by simp [hresult]⟩

theorem resolveProperty_attempted (total i : ℕ) (conflict : PropertyConflict) (w : World σ) :
    (Conflict.property conflict).Attempted out rawCmd w (resolveProperty out pair rawCmd total i conflict w).log := by
  intro choice value hchosen hvalue side hdiffers
  have htrace := resolveProperty_trace out rawCmd pair total i conflict w
  generalize (resolveProperty out pair rawCmd total i conflict w).result = ended at htrace
  generalize (resolveProperty out pair rawCmd total i conflict w).log = log at htrace hchosen ⊢
  have hheading : ∀ heading : List String, OnTerminal (heading.map (.term <| .print ·)) := by
    intro heading event he
    obtain ⟨text, -, rfl⟩ := List.mem_map.mp he
    exact ⟨_, rfl⟩
  cases htrace with
  | promptFailed heading log stop hprompt =>
    exact absurd hchosen (hprompt.not_chosen out (hheading heading) choice)
  | skip heading log hprompt =>
    obtain rfl := chosen_eq out rawCmd (hheading heading) hprompt ((onTerminal_map []).not_mem (by simp))
      (by simpa using hchosen)
    cases hvalue
  | quit heading log hprompt =>
    obtain rfl := chosen_eq out rawCmd (hheading heading) hprompt ((onTerminal_map [.print
      s!"Skipping all remaining properties for pair \"{pair.name}\"."]).not_mem (by simp)) (by simpa using hchosen)
    cases hvalue
  | resolved heading log choice' resolved uploads r hprompt hresolved huploads =>
    obtain rfl := chosen_eq out rawCmd (hheading heading) hprompt (huploads.not_chosen out pair
      (.info s!"Resolved property '{conflict.property.name}' to '{resolved}'") choice) (by simpa using hchosen)
    obtain rfl : resolved = value := by simpa [hvalue] using hresolved.symm
    obtain ⟨result, hresult⟩ := Uploads.due huploads hdiffers
    exact ⟨result, List.mem_append_right _ hresult⟩

/-- **What the user accepts is attempted.** -/
theorem Offer.round_attempted (offer : Offer) (w : World σ) :
    offer.conflict.Attempted out rawCmd w (offer.round out rawCmd pair w).log := by
  obtain ⟨info | conflict, total, i⟩ := offer
  · exact resolveItem_attempted out rawCmd pair total i info w
  · exact resolveProperty_attempted out rawCmd pair total i conflict w

/-- The plan's conflicts are offered one by one, and what the user accepts is attempted. -/
structure Isolated (plan : List PlanItem) (w : World σ) (log : List ResolveEvent) : Prop where
  rounds : ∃ head tail, Idle head ∧ Idle tail ∧ log = head ++
    (reached out rawCmd pair (offersOf plan) w).flatMap (fun at_ => (at_.1.round out rawCmd pair at_.2).log) ++ tail
  offered : ∃ items properties, HasConflicts plan items properties ∧
    (reached out rawCmd pair (offersOf plan) w).map (fun at_ => at_.1.conflict) = items.map .item ++ properties.map .property
  attempted : ∀ at_ ∈ reached out rawCmd pair (offersOf plan) w,
    at_.1.conflict.Attempted out rawCmd at_.2 (at_.1.round out rawCmd pair at_.2).log

theorem resolvePlan_reached (plan : List PlanItem) (w : World σ) : ∃ head tail, Idle head ∧ Idle tail ∧
    (resolvePlan out pair rawCmd (itemConflicts plan) (propertyConflicts plan) w).log = head ++
      (reached out rawCmd pair (offersOf plan) w).flatMap (fun at_ => (at_.1.round out rawCmd pair at_.2).log) ++ tail := by
  by_cases hnil : offersOf plan = []
  · refine ⟨[noneToResolve pair], [], idle_singleton trivial, by simp [Idle], ?_⟩
    rw [resolvePlan_nil out rawCmd pair hnil, hnil]
    rfl
  · refine ⟨[resolving pair plan], _, idle_singleton trivial, ?_, resolvePlan_log out rawCmd pair hnil w⟩
    split
    · simp [Idle]
    · exact idle_singleton trivial

/-- All conflicts of a plan are offered if the round of every one but the last goes on. -/
theorem offered_iff (plan : List PlanItem) (w : World σ) :
    (reached out rawCmd pair (offersOf plan) w).map (fun at_ => at_.1.conflict) = conflictsOf plan ↔
      ∀ at_ ∈ (reached out rawCmd pair (offersOf plan) w).take ((conflictsOf plan).length - 1),
        (at_.1.round out rawCmd pair at_.2).result = .ok true := by
  rw [← offersOf_conflict, List.length_map, ← reached_all]
  constructor
  · intro h
    have hlength := congrArg List.length h
    rw [List.length_map, List.length_map] at hlength
    exact (reached_offers _ w).eq_of_length (by rw [List.length_map, hlength])
  · intro h
    have hconflict := congrArg (List.map Offer.conflict) h
    rwa [List.map_map] at hconflict

end Attempts

/-- A resolution is its plan, and what is done with the plan's conflicts. -/
theorem interactiveResolution_log {out : ResolveOutside σ S} {env : PlanOutside σ S D} {pair : NamedPair S}
    {rawCmd : RawCommand} {w w' : World σ} {plan : List PlanItem} {log : List ResolveEvent}
    (hcmd : pair.conflictResolution = some (.cmd rawCmd)) (hplan : planConflicts env pair w = ⟨.ok plan, w', log⟩) :
    (interactiveResolution out env pair w).log =
      log ++ (resolvePlan out pair rawCmd (itemConflicts plan) (propertyConflicts plan) w').log := by
  unfold interactiveResolution
  rw [hcmd]
  exact congrArg Ran.log (Prog.bind_run_ok hplan)

section Run

variable {out : ResolveOutside σ S} {env : PlanOutside σ S D} {pair : NamedPair S} {rawCmd : RawCommand} {w w' : World σ}
  {plan : List PlanItem} {log : List ResolveEvent}

/-- **Failures are kept to their conflicts** if and only if no upload and no temporary file fails but in the last round, as
long as the user does not quit and the prompts do not fail. -/
theorem interactiveResolution_isolated_iff (hcmd : pair.conflictResolution = some (.cmd rawCmd))
    (hplan : planConflicts env pair w = ⟨.ok plan, w', log⟩)
    (hprompts : ∀ at_ ∈ reached out rawCmd pair (offersOf plan) w',
      at_.1.conflict.outcome out rawCmd pair at_.2 ≠ .quit ∧ at_.1.conflict.outcome out rawCmd pair at_.2 ≠ .unanswered) :
    Isolated out rawCmd pair plan w' (interactiveResolution out env pair w).log ↔
      ∀ items properties, HasConflicts plan items properties →
        ∀ at_ ∈ (reached out rawCmd pair (offersOf plan) w').take (items.length + properties.length - 1),
          at_.1.conflict.outcome out rawCmd pair at_.2 ≠ .failed := by
  have hgoesOn : ∀ at_ ∈ reached out rawCmd pair (offersOf plan) w', (at_.1.round out rawCmd pair at_.2).result = .ok true ↔
      at_.1.conflict.outcome out rawCmd pair at_.2 ≠ .failed := by
    intro at_ hmem
    rw [(at_.1.round_outcome out rawCmd pair at_.2).1.ok_true]
    obtain ⟨hquit, hunanswered⟩ := hprompts at_ hmem
    cases h : at_.1.conflict.outcome out rawCmd pair at_.2 <;> simp_all
  have hlength : ∀ {items properties}, HasConflicts plan items properties →
      (conflictsOf plan).length = items.length + properties.length := fun h => by simp [h.conflicts]
  constructor
  · intro h items properties hconflicts at_ hmem
    obtain ⟨items', properties', hconflicts', hoffered⟩ := h.offered
    rw [← hconflicts'.conflicts] at hoffered
    rw [← hlength hconflicts] at hmem
    exact (hgoesOn at_ (List.mem_of_mem_take hmem)).mp ((offered_iff out rawCmd pair plan w').mp hoffered at_ hmem)
  · intro h
    have hcollected := hasConflicts_collected plan
    have hoffered := (offered_iff out rawCmd pair plan w').mpr fun at_ hmem => by
      rw [hlength hcollected] at hmem
      exact (hgoesOn at_ (List.mem_of_mem_take hmem)).mpr (h _ _ hcollected at_ hmem)
    obtain ⟨head, tail, hhead, htail, hresolve⟩ := resolvePlan_reached out rawCmd pair plan w'
    refine ⟨⟨log ++ head, tail, ?_, htail, ?_⟩, ⟨_, _, hcollected, hcollected.conflicts ▸ hoffered⟩,
      fun at_ _ => at_.1.round_attempted out rawCmd pair at_.2⟩
    · obtain ⟨e, w'', hrun⟩ | ⟨plan', w'', hrun⟩ := planConflicts_run env pair w <;> rw [hplan] at hrun <;> cases hrun
      have hplanned : Idle [.planned (.ok plan)] := idle_singleton trivial
      exact (hplanned.append (planErrors_idle plan)).append hhead
    · rw [interactiveResolution_log hcmd hplan, hresolve]
      simp only [List.append_assoc]

end Run

/-- An outside in which everything succeeds but what is written to `B`. -/
def readOnlyB : ResolveOutside Unit Side where
  hash := Item.text
  ident := Item.text
  tempFile _ s := ((.ok (), .ok ()), s)
  merge _ a _ s := (⟨.ok (), .ok (true, "exit status: 0"), .ok (), .ok (), .ok a, .ok a⟩, s)
  updateItem st _ _ _ s := (if st = .a then .ok () else .error ["read-only"], s)
  setProperty st _ _ _ s := (if st = .a then .ok () else .error ["read-only"], s)
  first s := (.a, s)

/-- An outside with this plan. -/
def planning (plan : List PlanItem) : PlanOutside Unit Side Unit where
  openStatus _ s := (.ok none, s)
  openOrCreate _ s := (.ok (), s)
  newPlan _ _ s := (.ok plan, s)
  keepSide _ plan := plan
  execute _ _ _ _ s := (⟨[], .ok (.ok ())⟩, s)

def mergedPair : NamedPair Side := ⟨"shelves", ⟨.a, .b, [], none, none, .twoWaySync⟩, "/status/shelves",
  some (.cmd ⟨"merge", []⟩), ("a", "b"), (0, 0)⟩

/-- Two items in conflict. -/
def twoConflicts : List PlanItem :=
  let conflict (uid : String) : PlanItem := .ok (.item ⟨some uid, uid, some
    ⟨⟨⟨uid, ⟨uid, "1"⟩⟩, ⟨"one"⟩⟩, ⟨⟨uid, ⟨uid, "1"⟩⟩, ⟨"two"⟩⟩⟩⟩)
  [conflict "x", conflict "y"]

/-- After the upload of the first conflict fails, the second one is not offered. -/
theorem interactiveResolution_not_isolated :
    (planConflicts (planning twoConflicts) mergedPair ⟨[], ()⟩).result = .ok twoConflicts ∧
      (∀ at_ ∈ reached readOnlyB ⟨"merge", []⟩ mergedPair (offersOf twoConflicts) ⟨[], ()⟩,
        at_.1.conflict.outcome readOnlyB ⟨"merge", []⟩ mergedPair at_.2 ≠ .quit ∧
          at_.1.conflict.outcome readOnlyB ⟨"merge", []⟩ mergedPair at_.2 ≠ .unanswered) ∧
      ¬ Isolated readOnlyB ⟨"merge", []⟩ mergedPair twoConflicts ⟨[], ()⟩
        (interactiveResolution readOnlyB (planning twoConflicts) mergedPair ⟨[], ()⟩).log := by
  refine ⟨rfl, by decide, fun h => ?_⟩
  obtain ⟨items, properties, hconflicts, hoffered⟩ := h.offered
  obtain ⟨rfl, rfl⟩ := hasConflicts_iff.mp hconflicts
  exact absurd hoffered (by decide)

/-- The first conflict is skipped, and the upload of the second one fails. -/
theorem interactiveResolution_isolated_skipped :
    Isolated readOnlyB ⟨"merge", []⟩ mergedPair twoConflicts ⟨[.read "n\n"], ()⟩
      (interactiveResolution readOnlyB (planning twoConflicts) mergedPair ⟨[.read "n\n"], ()⟩).log := by
  refine (interactiveResolution_isolated_iff rfl rfl (by decide)).mpr fun items properties hconflicts => ?_
  obtain ⟨rfl, rfl⟩ := hasConflicts_iff.mp hconflicts
  decide

end Pimsync
