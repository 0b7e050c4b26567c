import Pimsync.ConflictOutcomes

/-!
# The rounds of a resolution

The two loops of a resolution are one walk over its offers (`resolveOffers`), which are its conflicts with the numbers that
they are shown with; `reached` are the offers that a walk comes to, each with the world in which it is made.

- `resolveItems_offers`, `resolveProperties_offers`: the loops, as walks;
- `resolveOffers_log`, `reached_all`: a walk records the rounds it comes to, and comes to all if each but the last goes on;
- `resolvePlan_log`: what is done with the conflicts of a plan.
-/

namespace Pimsync

variable {σ S D : Type}

/-- A conflict, as it is offered to the user. -/
structure Offer where
  conflict : Conflict
  total : ℕ
  i : ℕ
  deriving DecidableEq

def offersOfItems (total i : ℕ) (items : List ConflictInfo) : List Offer :=
  (items.zipIdx i).map fun info => ⟨.item info.1, total, info.2⟩

def offersOfProperties (total i : ℕ) (properties : List PropertyConflict) : List Offer :=
  (properties.zipIdx i).map fun conflict => ⟨.property conflict.1, total, conflict.2⟩

/-- The offers for the conflicts of a plan. -/
def offersOf (plan : List PlanItem) : List Offer :=
  offersOfItems (itemConflicts plan).length 0 (itemConflicts plan) ++
    offersOfProperties (propertyConflicts plan).length 0 (propertyConflicts plan)

theorem offersOfItems_conflict (total : ℕ) : ∀ (i : ℕ) (items : List ConflictInfo),
    (offersOfItems total i items).map Offer.conflict = items.map .item
  | _, [] => rfl
  | i, info :: items => by
    have ih := offersOfItems_conflict total (i + 1) items
    simp only [offersOfItems, List.zipIdx_cons, List.map_cons] at ih ⊢
    rw [ih]

theorem offersOfProperties_conflict (total : ℕ) : ∀ (i : ℕ) (properties : List PropertyConflict),
    (offersOfProperties total i properties).map Offer.conflict = properties.map .property
  | _, [] => rfl
  | i, conflict :: properties => by
    have ih := offersOfProperties_conflict total (i + 1) properties
    simp only [offersOfProperties, List.zipIdx_cons, List.map_cons] at ih ⊢
    rw [ih]

/-- The offers are the conflicts of the plan. -/
theorem offersOf_conflict (plan : List PlanItem) : (offersOf plan).map Offer.conflict = conflictsOf plan := by
  rw [offersOf, List.map_append, offersOfItems_conflict, offersOfProperties_conflict, conflictsOf]

section Walk

variable (out : ResolveOutside σ S) (rawCmd : RawCommand) (pair : NamedPair S)

/-- The round of an offer: whether the loop goes on. -/
def Offer.round (offer : Offer) : Prog (World σ) ResolveEvent Stop Bool :=
  match offer.conflict with
  | .item info => resolveItem out pair rawCmd offer.total offer.i info
  | .property conflict => resolveProperty out pair rawCmd offer.total offer.i conflict

/-- The rounds of some offers, until one does not go on. -/
def resolveOffers : List Offer → Prog (World σ) ResolveEvent Stop Bool
  | [] => return true
  | offer :: offers => do
    if ← offer.round out rawCmd pair then resolveOffers offers else return false

/-- The offers that are reached, each with the world in which it is made. -/
def reached : List Offer → World σ → List (Offer × World σ)
  | [], _ => []
  | offer :: offers, w => (offer, w) ::
    match offer.round out rawCmd pair w with
    | ⟨.ok true, w', _⟩ => reached offers w'
    | _ => []

/-- **The round of an offer**: its outcome is how it ends, and its events tell. -/
theorem Offer.round_outcome (offer : Offer) (w : World σ) :
    (offer.conflict.outcome out rawCmd pair w).Ended (offer.round out rawCmd pair w).result ∧
      (offer.conflict.outcome out rawCmd pair w = .resolved ↔
        offer.conflict.Resolved out rawCmd (offer.round out rawCmd pair w).log) := by
  obtain ⟨info | conflict, total, i⟩ := offer
  · exact resolveItem_outcome out rawCmd pair total i info w
  · exact resolveProperty_outcome out rawCmd pair total i conflict w

theorem resolveItems_offers (total : ℕ) : ∀ (i : ℕ) (items : List ConflictInfo),
    resolveItems out pair rawCmd total i items = resolveOffers out rawCmd pair (offersOfItems total i items)
  | _, [] => rfl
  | i, info :: items => by
    have ih := resolveItems_offers total (i + 1) items
    unfold resolveItems
    rw [ih]
    rfl

theorem resolveProperties_offers (total : ℕ) : ∀ (i : ℕ) (properties : List PropertyConflict),
    resolveProperties out pair rawCmd total i properties =
      (fun _ => ()) <$> resolveOffers out rawCmd pair (offersOfProperties total i properties)
  | _, [] => rfl
  | i, conflict :: properties => by
    have ih := resolveProperties_offers total (i + 1) properties
    have hoffers : resolveOffers out rawCmd pair (offersOfProperties total i (conflict :: properties)) =
        resolveProperty out pair rawCmd total i conflict >>= fun go =>
          if go then resolveOffers out rawCmd pair (offersOfProperties total (i + 1) properties) else return false := rfl
    unfold resolveProperties
    rw [ih, hoffers, map_bind]
    refine congrArg _ (funext fun go => ?_)
    cases go <;> rfl

section Reached

/-- A round goes on, or it does not. -/
theorem Offer.round_cases (offer : Offer) (w : World σ) :
    (∃ w' log, offer.round out rawCmd pair w = ⟨.ok true, w', log⟩) ∨
      (offer.round out rawCmd pair w).result ≠ .ok true := by
  rcases hr : offer.round out rawCmd pair w with ⟨e | _ | _, w', log⟩
  · exact .inr (by simp)
  · exact .inr (by simp)
  · exact .inl ⟨w', log, rfl⟩

variable {out rawCmd pair}

theorem reached_next {offer : Offer} {offers : List Offer} {w w' : World σ} {log : List ResolveEvent}
    (h : offer.round out rawCmd pair w = ⟨.ok true, w', log⟩) :
    reached out rawCmd pair (offer :: offers) w = (offer, w) :: reached out rawCmd pair offers w' := by
  rw [reached, h]

theorem reached_stop {offer : Offer} {offers : List Offer} {w : World σ}
    (h : (offer.round out rawCmd pair w).result ≠ .ok true) :
    reached out rawCmd pair (offer :: offers) w = [(offer, w)] := by
  rw [reached]
  rcases hr : offer.round out rawCmd pair w with ⟨e | _ | _, w', log⟩
  · rfl
  · rfl
  · rw [hr] at h
    exact absurd rfl h

theorem resolveOffers_next {offer : Offer} {offers : List Offer} {w w' : World σ} {log : List ResolveEvent}
    (h : offer.round out rawCmd pair w = ⟨.ok true, w', log⟩) : resolveOffers out rawCmd pair (offer :: offers) w =
      ⟨(resolveOffers out rawCmd pair offers w').result, (resolveOffers out rawCmd pair offers w').world,
        log ++ (resolveOffers out rawCmd pair offers w').log⟩ := by
  rw [resolveOffers, Prog.bind_run_ok h, if_pos rfl]

theorem resolveOffers_stop {offer : Offer} {offers : List Offer} {w : World σ}
    (h : (offer.round out rawCmd pair w).result ≠ .ok true) :
    resolveOffers out rawCmd pair (offer :: offers) w = offer.round out rawCmd pair w := by
  rw [resolveOffers]
  rcases hr : offer.round out rawCmd pair w with ⟨e | _ | _, w', log⟩
  · rw [Prog.bind_run_error hr]
  · rw [Prog.bind_run_ok hr]
    simp
  · rw [hr] at h
    exact absurd rfl h

variable (out rawCmd pair) in
/-- What a walk records. -/
theorem resolveOffers_log (offers : List Offer) (w : World σ) : (resolveOffers out rawCmd pair offers w).log =
    (reached out rawCmd pair offers w).flatMap fun at_ => (at_.1.round out rawCmd pair at_.2).log := by
  induction offers generalizing w with
  | nil => rfl
  | cons offer offers ih =>
    obtain ⟨w', log, hr⟩ | h := offer.round_cases out rawCmd pair w
    · rw [resolveOffers_next hr, reached_next hr, List.flatMap_cons, hr, ih w']
    · rw [resolveOffers_stop h, reached_stop h, List.flatMap_singleton]

/-- A walk comes to the end if every round that it reaches goes on. -/
theorem resolveOffers_ok (offers : List Offer) (w : World σ) : (resolveOffers out rawCmd pair offers w).result = .ok true ↔
    ∀ at_ ∈ reached out rawCmd pair offers w, (at_.1.round out rawCmd pair at_.2).result = .ok true := by
  induction offers generalizing w with
  | nil => simp [resolveOffers, reached]
  | cons offer offers ih =>
    obtain ⟨w', log, hr⟩ | h := offer.round_cases out rawCmd pair w
    · rw [resolveOffers_next hr, reached_next hr, List.forall_mem_cons, hr, ih w']
      simp
    · rw [resolveOffers_stop h, reached_stop h]
      simp

/-- A round that does not go on is how the walk ends. -/
theorem resolveOffers_ended (offers : List Offer) (w : World σ) {at_ : Offer × World σ}
    (hmem : at_ ∈ reached out rawCmd pair offers w) (hne : (at_.1.round out rawCmd pair at_.2).result ≠ .ok true) :
    (resolveOffers out rawCmd pair offers w).result = (at_.1.round out rawCmd pair at_.2).result := by
  induction offers generalizing w with
  | nil => cases hmem
  | cons offer offers ih =>
    obtain ⟨w', log, hr⟩ | h := offer.round_cases out rawCmd pair w
    · rw [reached_next hr] at hmem
      rw [resolveOffers_next hr]
      rcases List.mem_cons.mp hmem with rfl | hmem
      · exact absurd (by rw [hr]) hne
      · exact ih w' hmem
    · rw [reached_stop h] at hmem
      obtain rfl := List.mem_singleton.mp hmem
      rw [resolveOffers_stop h]

/-- The offers that are reached are the first ones. -/
theorem reached_offers (offers : List Offer) (w : World σ) :
    (reached out rawCmd pair offers w).map Prod.fst <+: offers := by
  induction offers generalizing w with
  | nil => exact List.prefix_rfl
  | cons offer offers ih =>
    obtain ⟨w', log, hr⟩ | h := offer.round_cases out rawCmd pair w
    · rw [reached_next hr, List.map_cons]
      exact List.cons_prefix_cons.mpr ⟨rfl, ih w'⟩
    · rw [reached_stop h]
      exact ⟨offers, rfl⟩

/-- **How far a walk comes**: all offers are reached if every round but that of the last offer goes on. -/
theorem reached_all (offers : List Offer) (w : World σ) : (reached out rawCmd pair offers w).map Prod.fst = offers ↔
    ∀ at_ ∈ (reached out rawCmd pair offers w).take (offers.length - 1),
      (at_.1.round out rawCmd pair at_.2).result = .ok true := by
  induction offers generalizing w with
  | nil => simp [reached]
  | cons offer offers ih =>
    obtain ⟨w', log, hr⟩ | h := offer.round_cases out rawCmd pair w
    · have hlen : (offers.length + 1 - 1) = offers.length := rfl
      rw [reached_next hr, List.map_cons, List.cons.injEq, eq_self, true_and, ih w', List.length_cons, hlen]
      cases offers with
      | nil => simp [reached]
      | cons next offers => simp [hr]
    · rw [reached_stop h]
      cases offers with
      | nil => simp
      | cons next offers => simpa using h

theorem reached_append_ok {offers : List Offer} {w : World σ} (offers' : List Offer)
    (h : (resolveOffers out rawCmd pair offers w).result = .ok true) : reached out rawCmd pair (offers ++ offers') w =
      reached out rawCmd pair offers w ++ reached out rawCmd pair offers' (resolveOffers out rawCmd pair offers w).world := by
  induction offers generalizing w with
  | nil => rfl
  | cons offer offers ih =>
    obtain ⟨w', log, hr⟩ | hne := offer.round_cases out rawCmd pair w
    · rw [resolveOffers_next hr] at h ⊢
      rw [List.cons_append, reached_next hr, reached_next hr, ih h, List.cons_append]
    · rw [resolveOffers_stop hne] at h
      exact absurd h hne

theorem reached_append_stop {offers : List Offer} {w : World σ} (offers' : List Offer)
    (h : (resolveOffers out rawCmd pair offers w).result ≠ .ok true) :
    reached out rawCmd pair (offers ++ offers') w = reached out rawCmd pair offers w := by
  induction offers generalizing w with
  | nil => exact absurd rfl h
  | cons offer offers ih =>
    obtain ⟨w', log, hr⟩ | hne := offer.round_cases out rawCmd pair w
    · rw [resolveOffers_next hr] at h
      rw [List.cons_append, reached_next hr, reached_next hr, ih h]
    · rw [List.cons_append, reached_stop hne, reached_stop hne]

end Reached

/-! ## The conflicts of a plan -/

/-- Whether the round of a conflict that ends so keeps a resolution from its last step. -/
def Conflict.cuts : Conflict → Outcome → Bool
  | _, .failed | _, .unanswered | .item _, .quit => true
  | _, _ => false

theorem Outcome.Ended.ok_true {outcome : Outcome} {r : Except Stop Bool} (h : outcome.Ended r) :
    r = .ok true ↔ outcome = .resolved ∨ outcome = .skipped ∨ outcome = .unmerged := by
  cases outcome with
  | resolved | skipped | unmerged => simpa [Ended] using h
  | quit => simp [show r = .ok false from h]
  | failed | unanswered => obtain ⟨e, rfl⟩ := h; simp

/-- Only the end of a property's round with a quit is not the end of a resolution. -/
theorem Outcome.Ended.cuts {outcome : Outcome} {r : Except Stop Bool} (h : outcome.Ended r) (conflict : Conflict) :
    conflict.cuts outcome = true ↔ r ≠ .ok true ∧ ((∃ info, conflict = .item info) ∨ ∃ stop, r = .error stop) := by
  cases outcome with
  | resolved | skipped | unmerged => simp [Conflict.cuts, show r = .ok true from h]
  | quit =>
    obtain rfl : r = .ok false := h
    cases conflict <;> simp [Conflict.cuts]
  | failed | unanswered => obtain ⟨e, rfl⟩ := h; cases conflict <;> simp [Conflict.cuts]

/-- Whether a round that is reached keeps the resolution from its last step. -/
def anyCuts (offers : List (Offer × World σ)) : Bool :=
  offers.any fun at_ => at_.1.conflict.cuts (at_.1.conflict.outcome out rawCmd pair at_.2)

theorem anyCuts_items (total i : ℕ) (items : List ConflictInfo) (w : World σ) :
    anyCuts out rawCmd pair (reached out rawCmd pair (offersOfItems total i items) w) = true ↔
      (resolveOffers out rawCmd pair (offersOfItems total i items) w).result ≠ .ok true := by
  rw [anyCuts, List.any_eq_true, Ne, resolveOffers_ok, not_forall]
  refine exists_congr fun at_ => ?_
  rw [(at_.1.round_outcome out rawCmd pair at_.2).1.cuts, Classical.not_imp]
  refine and_congr_right fun hmem => and_iff_left (.inl ?_)
  have hoffer : at_.1 ∈ offersOfItems total i items := (reached_offers _ w).subset (List.mem_map_of_mem hmem)
  obtain ⟨info, -, hinfo⟩ := List.mem_map.mp hoffer
  exact ⟨info.1, by rw [← hinfo]⟩

theorem anyCuts_properties (total i : ℕ) (properties : List PropertyConflict) (w : World σ) :
    anyCuts out rawCmd pair (reached out rawCmd pair (offersOfProperties total i properties) w) = true ↔
      ∃ stop, (resolveOffers out rawCmd pair (offersOfProperties total i properties) w).result = .error stop := by
  rw [anyCuts, List.any_eq_true]
  constructor
  · rintro ⟨at_, hmem, hcuts⟩
    have hoffer : at_.1 ∈ offersOfProperties total i properties := (reached_offers _ w).subset (List.mem_map_of_mem hmem)
    obtain ⟨conflict, -, hconflict⟩ := List.mem_map.mp hoffer
    rw [(at_.1.round_outcome out rawCmd pair at_.2).1.cuts] at hcuts
    obtain ⟨hround, ⟨info, hinfo⟩ | ⟨stop, hstop⟩⟩ := hcuts
    · rw [← hconflict] at hinfo
      cases hinfo
    · exact ⟨stop, by rw [resolveOffers_ended _ w hmem hround, hstop]⟩
  · rintro ⟨stop, hstop⟩
    have hnot : ¬ ∀ at_ ∈ reached out rawCmd pair (offersOfProperties total i properties) w,
        (at_.1.round out rawCmd pair at_.2).result = .ok true := by
      rw [← resolveOffers_ok, hstop]
      simp
    obtain ⟨at_, hnot⟩ := not_forall.mp hnot
    obtain ⟨hmem, hround⟩ := Classical.not_imp.mp hnot
    refine ⟨at_, hmem, ((at_.1.round_outcome out rawCmd pair at_.2).1.cuts _).mpr ⟨hround, .inr ⟨stop, ?_⟩⟩⟩
    rw [← resolveOffers_ended _ w hmem hround, hstop]

/-- The last step of a resolution. -/
def noneLeft : ResolveEvent := .term (.print s!"No conflicts left for pair \"{pair.name}\".")

/-- What a resolution does when a plan has no conflicts. -/
def noneToResolve : ResolveEvent := .term (.info s!"No conflicts to resolve for {pair.name}.")

/-- What a resolution starts with when a plan has conflicts. -/
def resolving (plan : List PlanItem) : ResolveEvent :=
  .term (.print s!"Resolving {(itemConflicts plan).length} item conflicts and {(propertyConflicts plan).length} property conflicts for pair \"{pair.name}\".")

theorem resolvePlan_nil {plan : List PlanItem} (hnil : offersOf plan = []) (w : World σ) :
    (resolvePlan out pair rawCmd (itemConflicts plan) (propertyConflicts plan) w).log = [noneToResolve pair] := by
  have hconflicts : conflictsOf plan = [] := by rw [← offersOf_conflict, hnil]; rfl
  obtain ⟨hitems, hproperties⟩ : itemConflicts plan = [] ∧ propertyConflicts plan = [] := by
    simpa [conflictsOf] using hconflicts
  rw [hitems, hproperties]
  rfl

/-- **What is done with the conflicts of a plan.** -/
theorem resolvePlan_log {plan : List PlanItem} (hne : offersOf plan ≠ []) (w : World σ) :
    (resolvePlan out pair rawCmd (itemConflicts plan) (propertyConflicts plan) w).log =
      [resolving pair plan] ++
        (reached out rawCmd pair (offersOf plan) w).flatMap (fun at_ => (at_.1.round out rawCmd pair at_.2).log) ++
        if anyCuts out rawCmd pair (reached out rawCmd pair (offersOf plan) w) then [] else [noneLeft pair] := by
  have hconflicts : ¬ ((itemConflicts plan).length = 0 ∧ (propertyConflicts plan).length = 0) := by
    rintro ⟨hitems, hproperties⟩
    refine hne ?_
    rw [offersOf, List.length_eq_zero_iff.mp hitems, List.length_eq_zero_iff.mp hproperties]
    rfl
  rw [resolvePlan, if_neg hconflicts, resolveItemConflicts, resolvePropertyConflicts, resolveItems_offers,
    resolveProperties_offers, offersOf]
  generalize hitems : offersOfItems (itemConflicts plan).length 0 (itemConflicts plan) = items
  generalize hproperties : offersOfProperties (propertyConflicts plan).length 0 (propertyConflicts plan) = properties
  have hcutItems := anyCuts_items out rawCmd pair (itemConflicts plan).length 0 (itemConflicts plan) w
  have hcutProperties := anyCuts_properties out rawCmd pair (propertyConflicts plan).length 0 (propertyConflicts plan)
    (resolveOffers out rawCmd pair items w).world
  rw [hitems] at hcutItems
  rw [hproperties] at hcutProperties
  have hlog := resolveOffers_log out rawCmd pair items w
  rcases hI : resolveOffers out rawCmd pair items w with ⟨result, w', log⟩
  rw [hI] at hcutItems hcutProperties hlog
  by_cases hresult : result = .ok true
  · subst hresult
    have hcut : anyCuts out rawCmd pair (reached out rawCmd pair items w) = false := by simpa using hcutItems
    have hlogP := resolveOffers_log out rawCmd pair properties w'
    rw [reached_append_ok properties (by rw [hI]), hI, List.flatMap_append, ← hlog, ← hlogP]
    rcases hP : resolveOffers out rawCmd pair properties w' with ⟨stop | go, w'', logP⟩
    · have hcutP : anyCuts out rawCmd pair (reached out rawCmd pair properties w') = true :=
        hcutProperties.mpr ⟨stop, by rw [hP]⟩
      rw [anyCuts, List.any_append, ← anyCuts, ← anyCuts, hcut, hcutP]
      simp [Prog.bind_run, hI, hP, resolving]
    · have hcutP : anyCuts out rawCmd pair (reached out rawCmd pair properties w') = false := by
        rw [Bool.eq_false_iff, Ne, hcutProperties, hP]
        simp
      rw [anyCuts, List.any_append, ← anyCuts, ← anyCuts, hcut, hcutP]
      simp [Prog.bind_run, hI, hP, resolving, noneLeft]
  · rw [reached_append_stop properties (by rw [hI]; exact hresult), hcutItems.mpr hresult, ← hlog]
    rcases result with stop | _ | _
    · simp [Prog.bind_run, hI, resolving]
    · simp [Prog.bind_run, hI, resolving]
    · exact absurd rfl hresult

end Walk

end Pimsync
