import IndexPrice.Proofs.Pricing.Looks
import IndexPrice.Proofs.Pricing.Wiring

/-!
# A service that does not come back

When the sink never answers a call, the service that made it takes nothing out any
more.  The next list for its market is still put into the mailbox; the one after
that finds the mailbox full, which ends sampling and cancels all services.  Only
that ends sampling with a fault, or a service that has left.
-/

namespace IndexPrice.Pricing

def Action.isSample : Action → Bool
  | .sample _ => true
  | _ => false

/-- A service in a call that is not answered does nothing, unless it is cancelled. -/
private theorem Desk.Serving.eq_of_calling {desk next : Desk} {hungUp : Bool} {calls call : Nat}
    {events : List Event} (h : desk.Serving false hungUp calls .never events next)
    (calling : desk.activity = .calling call) : next = desk := by
  cases h with
  | finished outcome ended => rfl
  | leaving outcome running reason => simp [calling] at reason
  | waiting outcome idle uncancelled emptied => rfl
  | accepting outcome tick accepted next idle uncancelled content verdict =>
      simp [calling] at idle
  | rejecting outcome tick rejection next idle uncancelled content verdict =>
      simp [calling] at idle
  | pending call busy uncancelled => rfl
  | concluding outcome call busy uncancelled answered => exact absurd rfl answered

namespace System

/-! ## Faults of sampling -/

inductive Obstructed (system : System) : SamplingFault → Prop
  | undrained (begun : Instant) (next : Nat) (desk : Desk)
      (turn : system.sampler = .passing begun next) (present : system.desks[next]? = some desk)
      (fresh : desk.freshPrices system.stores begun ≠ []) (opened : desk.mailbox.closed = false)
      (full : desk.mailbox.content ≠ none) : Obstructed system (.stalled desk.market)
  | abandoned (begun : Instant) (next : Nat) (desk : Desk)
      (turn : system.sampler = .passing begun next) (present : system.desks[next]? = some desk)
      (fresh : desk.freshPrices system.stores begun ≠ []) (closed : desk.mailbox.closed = true) :
      Obstructed system (.gone desk.market)

private theorem obstructed_of_forward {system : System} {begun : Instant} {next : Nat} {desk : Desk}
    {fault : SamplingFault} (turn : system.sampler = .passing begun next)
    (present : system.desks[next]? = some desk)
    (forward : desk.forward system.stores begun = .error fault) : system.Obstructed fault := by
  cases Desk.forwarding_of_forward forward with
  | stalled fresh opened full => exact .undrained begun next desk turn present fresh opened full
  | gone fresh closed => exact .abandoned begun next desk turn present fresh closed

private theorem Obstructed.forward {system : System} {fault : SamplingFault}
    (h : system.Obstructed fault) :
    ∃ begun next desk, system.sampler = .passing begun next ∧
      system.desks[next]? = some desk ∧ desk.forward system.stores begun = .error fault := by
  cases h with
  | undrained begun next desk turn present fresh opened full =>
      exact ⟨begun, next, desk, turn, present,
        Desk.forward_of_forwarding (.stalled fresh opened full)⟩
  | abandoned begun next desk turn present fresh closed =>
      exact ⟨begun, next, desk, turn, present, Desk.forward_of_forwarding (.gone fresh closed)⟩

private theorem Obstructed.sample {system : System} {fault : SamplingFault}
    (h : system.Obstructed fault) (now : Instant) :
    system.sample now = { system with sampler := .stopped (some fault), cancelled := true } := by
  obtain ⟨begun, next, desk, hturn, hpresent, hforward⟩ := h.forward
  simp only [System.sample, hturn, hpresent, hforward]

/-! ## After the end of sampling -/

private theorem stopped_of_transition {system after : System} {action : Action}
    {events : List Event}
    (h : Transition system action events after) {fault : Option SamplingFault}
    (stopped : system.sampler = .stopped fault) : after.sampler = .stopped fault := by
  cases h with
  | offered source market sample store running => exact stopped
  | ignored source market sample unknown => exact stopped
  | cancelling => exact stopped
  | finished now hungUp => exact stopped
  | ending now idle cancelled => simp [stopped] at idle
  | beginning now idle uncancelled => simp [stopped] at idle
  | passed now begun next turn behind => simp [stopped] at turn
  | looked now begun next desk after forwarded turn present forward => simp [stopped] at turn
  | failed now begun next desk fault turn present forward => simp [stopped] at turn
  | absent index outcome nobody => exact stopped
  | served index outcome desk after events present step => exact stopped

theorem cancelled_of_transition {system after : System} {action : Action} {events : List Event}
    (h : Transition system action events after) (cancelled : system.cancelled = true) :
    after.cancelled = true := by
  cases h with
  | failed now begun next desk fault turn present forward => rfl
  | cancelling => rfl
  | _ => exact cancelled

private theorem fault_of_transition {system after : System} {action : Action} {events : List Event}
    (h : Transition system action events after) {fault : SamplingFault}
    (hfault : after.sampler = .stopped (some fault)) :
    system.sampler = .stopped (some fault) ∨
      (system.Obstructed fault ∧ ∃ now, action = .sample now) := by
  cases h with
  | offered source market sample store running => exact .inl hfault
  | ignored source market sample unknown => exact .inl hfault
  | cancelling => exact .inl hfault
  | finished now hungUp => exact .inl hfault
  | ending now idle cancelled => cases hfault
  | beginning now idle uncancelled => cases hfault
  | passed now begun next turn behind => cases hfault
  | looked now begun next desk after forwarded turn present forward => cases hfault
  | failed now begun next desk fault turn present forward =>
      cases hfault
      exact .inr ⟨obstructed_of_forward turn present forward, now, rfl⟩
  | absent index outcome nobody => exact .inl hfault
  | served index outcome desk after events present step => exact .inl hfault

theorem fault?_eq_some {system : System} {fault : SamplingFault} :
    system.fault? = some fault ↔ system.sampler = .stopped (some fault) := by
  unfold fault?
  cases system.sampler <;> simp

theorem fault_run {system : System} (unstopped : ∀ fault, system.sampler ≠ .stopped fault)
    (actions : List Action) (fault : SamplingFault) :
    (system.run actions).2.fault? = some fault ↔
      ∃ earlier now later, actions = earlier ++ .sample now :: later ∧
        (system.run earlier).2.Obstructed fault := by
  rw [fault?_eq_some]
  induction actions using List.reverseRecOn with
  | nil =>
      constructor
      · intro hstopped
        exact absurd hstopped (unstopped _)
      · rintro ⟨earlier, now, later, heq, -⟩
        simp at heq
  | append_singleton actions action ih =>
      have htransition := transition_of_step (system.run actions).2 action
      rw [run_concat]
      constructor
      · intro hstopped
        rcases fault_of_transition htransition hstopped with hbefore | ⟨hobstructed, now, rfl⟩
        · obtain ⟨earlier, now, later, rfl, hobstructed⟩ := ih.mp hbefore
          exact ⟨earlier, now, later ++ [action], by simp, hobstructed⟩
        · exact ⟨actions, now, [], rfl, hobstructed⟩
      · rintro ⟨earlier, now, later, heq, hobstructed⟩
        rcases List.eq_nil_or_concat later with rfl | ⟨rest, last, rfl⟩
        · obtain ⟨rfl, hlast⟩ := List.append_inj' heq rfl
          cases hlast
          exact congrArg System.sampler (hobstructed.sample now)
        · rw [List.concat_eq_append, ← List.cons_append, ← List.append_assoc] at heq
          obtain ⟨rfl, -⟩ := List.append_inj' heq rfl
          exact stopped_of_transition htransition (ih.mpr ⟨earlier, now, rest, rfl, hobstructed⟩)

/-- Sampling has ended because a service did not take its last list, and all tasks are cancelled. -/
structure Escalated (system : System) (market : String) : Prop where
  stopped : system.sampler = .stopped (some (.stalled market))
  cancelled : system.cancelled = true

theorem Escalated.of_transition {system after : System} {action : Action} {events : List Event}
    {market : String} (h : Transition system action events after)
    (hescalated : system.Escalated market) : after.Escalated market :=
  ⟨stopped_of_transition h hescalated.stopped, cancelled_of_transition h hescalated.cancelled⟩

/-! ## Cancelled services end -/

def EndedAt (system : System) (index : Nat) : Prop :=
  ∃ desk, system.desks[index]? = some desk ∧ desk.activity = .ended

private theorem hasEnded_of_endedAt {system : System} (hungUp : system.hungUp = true)
    (h : ∀ index < system.desks.length, system.EndedAt index) : system.hasEnded = true := by
  simp only [hasEnded, hungUp, Bool.true_and, List.all_eq_true, decide_eq_true_eq]
  intro desk hdesk
  obtain ⟨index, hindex, rfl⟩ := List.getElem_of_mem hdesk
  obtain ⟨_, hfound, hended⟩ := h index hindex
  rw [List.getElem?_eq_getElem hindex] at hfound
  cases hfound
  exact hended

private theorem Escalated.winding {system after : System} {action : Action} {events : List Event}
    {market : String} (hescalated : system.Escalated market)
    (h : Transition system action events after) :
    events = [] ∧ after.desks.length = system.desks.length ∧
      ∀ index < system.desks.length,
        system.EndedAt index ∨ (∃ outcome, action = .serve index outcome) →
          after.EndedAt index := by
  have hquiet : (∀ index outcome, action ≠ .serve index outcome) → ∀ index < system.desks.length,
      system.EndedAt index ∨ (∃ outcome, action = .serve index outcome) →
        system.EndedAt index := by
    rintro hother index - (hended | ⟨outcome, rfl⟩)
    · exact hended
    · exact absurd rfl (hother index outcome)
  cases h with
  | offered source market sample store running => exact ⟨rfl, rfl, hquiet (by simp)⟩
  | ignored source market sample unknown => exact ⟨rfl, rfl, hquiet (by simp)⟩
  | cancelling => exact ⟨rfl, rfl, hquiet (by simp)⟩
  | finished now hungUp => exact ⟨rfl, rfl, hquiet (by simp)⟩
  | ending now idle cancelled => simp [hescalated.stopped] at idle
  | beginning now idle uncancelled => simp [hescalated.stopped] at idle
  | passed now begun next turn behind => simp [hescalated.stopped] at turn
  | looked now begun next desk after forwarded turn present forward =>
      simp [hescalated.stopped] at turn
  | failed now begun next desk fault turn present forward => simp [hescalated.stopped] at turn
  | absent place outcome nobody =>
      refine ⟨rfl, rfl, ?_⟩
      rintro index hindex (hended | ⟨other, heq⟩)
      · exact hended
      · cases heq
        rw [List.getElem?_eq_getElem hindex] at nobody
        cases nobody
  | served place outcome desk next events present step =>
      rw [hescalated.cancelled] at step
      obtain ⟨hevents, hactivity⟩ := (Desk.serving_of_step step).ended_of_cancelled
      refine ⟨hevents, List.length_set, ?_⟩
      intro index hindex hended
      rcases eq_or_ne place index with rfl | hne
      · exact ⟨next, List.getElem?_set_self hindex, hactivity⟩
      · rcases hended with ⟨desk, hdesk, hended⟩ | ⟨other, heq⟩
        · exact ⟨desk, (List.getElem?_set_ne hne).trans hdesk, hended⟩
        · cases heq
          exact absurd rfl hne

theorem Escalated.run {system : System} {market : String} (h : system.Escalated market)
    (later : List Action) :
    (system.run later).2.Escalated market ∧ (system.run later).1 = [] ∧
      (system.run later).2.desks.length = system.desks.length ∧
        ∀ index < system.desks.length, (∃ outcome, .serve index outcome ∈ later) →
          (system.run later).2.EndedAt index := by
  induction later using List.reverseRecOn with
  | nil => exact ⟨h, rfl, rfl, by simp⟩
  | append_singleton later action ih =>
      obtain ⟨hescalated, hevents, hlength, hended⟩ := ih
      have htransition := transition_of_step (system.run later).2 action
      obtain ⟨hnone, hsame, hending⟩ := hescalated.winding htransition
      rw [run_concat]
      refine ⟨hescalated.of_transition htransition, ?_, hsame.trans hlength, ?_⟩
      · simp [hevents, hnone]
      · rintro index hindex ⟨outcome, hserved⟩
        refine hending index (hlength ▸ hindex) ?_
        rcases List.mem_append.mp hserved with hbefore | hlast
        · exact .inl (hended index hindex ⟨outcome, hbefore⟩)
        · exact .inr ⟨outcome, (List.mem_singleton.mp hlast).symm⟩

theorem Escalated.hasEnded_run {system : System} {market : String} (h : system.Escalated market)
    {later : List Action}
    (served : ∀ index < system.desks.length, ∃ outcome, .serve index outcome ∈ later) :
    (system.run later).2.hasEnded = true := by
  obtain ⟨hescalated, -, hlength, hended⟩ := h.run later
  refine hasEnded_of_endedAt (by simp [hungUp, hescalated.stopped]) fun index hindex => ?_
  rw [hlength] at hindex
  exact hended index hindex (served index hindex)

/-! ## While nothing has gone wrong -/

structure Sound (system : System) : Prop where
  uncancelled : system.cancelled = false
  unstopped : ∀ fault, system.sampler ≠ .stopped fault
  opened : system.hungUp = false → ∀ desk ∈ system.desks, desk.mailbox.closed = false

/-- Unless it is cancelled from outside, pricing stays sound until a service is stalled. -/
private theorem Sound.of_transition {system after : System} {action : Action} {events : List Event}
    (h : Transition system action events after) (hsound : system.Sound)
    (unforced : action ≠ .cancel) :
    after.Sound ∨ ∃ market ∈ system.desks.map Desk.market, after.Escalated market := by
  obtain ⟨uncancelled, unstopped, opened⟩ := hsound
  cases h with
  | offered source market sample store running =>
      exact .inl ⟨uncancelled, unstopped, opened⟩
  | ignored source market sample unknown => exact .inl ⟨uncancelled, unstopped, opened⟩
  | cancelling => exact absurd rfl unforced
  | finished now hungUp => exact .inl ⟨uncancelled, unstopped, opened⟩
  | ending now idle cancelled => simp [uncancelled] at cancelled
  | beginning now idle uncancelled =>
      exact .inl ⟨uncancelled, by simp, fun _ => opened (by simp [hungUp, idle])⟩
  | passed now begun next turn behind =>
      exact .inl ⟨uncancelled, by simp, fun _ => opened (by simp [hungUp, turn])⟩
  | looked now begun next desk after forwarded turn present forward =>
      have hopened := opened (by simp [hungUp, turn])
      refine .inl ⟨uncancelled, by simp, fun _ => forall_desks_set hopened next ?_⟩
      cases Desk.forwarding_of_forward forward with
      | nothing stale => exact hopened desk (List.mem_of_getElem? present)
      | posted fresh opened emptied => rfl
  | failed now begun next desk fault turn present forward =>
      have hmem := List.mem_of_getElem? present
      cases Desk.forwarding_of_forward forward with
      | stalled fresh opened full => exact .inr ⟨_, List.mem_map_of_mem hmem, rfl, rfl⟩
      | gone fresh closed =>
          have hopened := opened (by simp [hungUp, turn]) desk hmem
          simp [closed] at hopened
  | absent index outcome nobody => exact .inl ⟨uncancelled, unstopped, opened⟩
  | served index outcome desk next events present step =>
      refine .inl ⟨uncancelled, unstopped, fun hrunning => ?_⟩
      have hdesks := opened hrunning
      have hdesk := hdesks desk (List.mem_of_getElem? present)
      refine forall_desks_set hdesks index ?_
      cases Desk.serving_of_step step with
      | leaving outcome running reason =>
          rcases reason with hcancelled | ⟨-, hhungUp, -⟩
          · simp [uncancelled] at hcancelled
          · exact absurd (hhungUp.symm.trans hrunning) (by simp)
      | finished outcome ended => exact hdesk
      | waiting outcome idle uncancelled emptied => exact hdesk
      | accepting outcome tick accepted next idle uncancelled content verdict => exact hdesk
      | rejecting outcome tick rejection next idle uncancelled content verdict => exact hdesk
      | pending call busy uncancelled => exact hdesk
      | concluding outcome call busy uncancelled answered => exact hdesk

/-! ## A call that is never answered -/

def found? (system : System) (index : Nat) (action : Action) : Option Tick :=
  (system.turnAt? index action).bind fun begun =>
    ((system.desks[index]?).map (·.freshPrices system.stores begun)).filter (!·.isEmpty)

theorem found?_eq_none {system : System} {index : Nat} {action : Action}
    (h : system.turnAt? index action = none) : system.found? index action = none := by
  simp [found?, h]

structure Jammed (system : System) (index call : Nat) (found : List Tick) : Prop where
  few : found.length ≤ 1
  busy : ∃ desk, system.desks[index]? = some desk ∧ desk.activity = .calling call ∧
    (found ≠ [] → desk.mailbox.content ≠ none)

private theorem Jammed.looked {system : System} {index call : Nat} {found : List Tick}
    {desk next : Desk} {now begun : Instant} {forwarded : Bool} (few : found.length ≤ 1)
    (present : system.desks[index]? = some desk) (calling : desk.activity = .calling call)
    (full : found ≠ [] → desk.mailbox.content ≠ none)
    (turn : system.sampler = .passing begun index)
    (forwarding : desk.Forwarding system.stores begun (.ok (forwarded, next)))
    {after : System} (hnext : after.desks[index]? = some next) :
    after.Jammed index call (found ++ (system.found? index (.sample now)).toList) := by
  cases forwarding with
  | nothing stale =>
      have hnone : system.found? index (.sample now) = none := by
        simp [found?, turnAt?, turn, present, stale]
      rw [hnone, Option.toList_none, List.append_nil]
      exact ⟨few, desk, hnext, calling, full⟩
  | posted fresh opened emptied =>
      have hfirst : found = [] := by
        by_contra hsome
        exact full hsome emptied
      have hnow : system.found? index (.sample now) =
          some (desk.freshPrices system.stores begun) := by
        simp [found?, turnAt?, turn, present, fresh]
      rw [hfirst, hnow]
      exact ⟨Nat.le_refl 1, _, hnext, calling, by simp⟩

private theorem Jammed.step {system : System} {action : Action} (hsound : system.Sound)
    (hafter : (system.step action).2.Sound) {index call : Nat} {found : List Tick}
    (hjammed : system.Jammed index call found)
    (unanswered : ∀ outcome, action = .serve index outcome → outcome = .never) :
    (system.step action).2.Jammed index call
      (found ++ (system.found? index action).toList) := by
  obtain ⟨hfew, desk, hdesk, hcalling, hfull⟩ := hjammed
  obtain ⟨next, hnext, htreatment⟩ :=
    treatment_of_transition (transition_of_step system action) hdesk
  generalize (system.step action).1 = events at htreatment
  cases htreatment with
  | apart action events unseen foreign =>
      rw [found?_eq_none unseen, Option.toList_none, List.append_nil]
      exact ⟨hfew, desk, hnext, hcalling, hfull⟩
  | looked now begun forwarded next turn forwarding =>
      exact .looked hfew hdesk hcalling hfull turn forwarding hnext
  | failed now begun fault turn forwarding =>
      have hobstructed :=
        obstructed_of_forward turn hdesk (Desk.forward_of_forwarding forwarding)
      exact absurd (congrArg System.sampler (hobstructed.sample now)) (hafter.unstopped _)
  | served outcome events next serving =>
      obtain rfl := unanswered outcome rfl
      rw [hsound.uncancelled] at serving
      obtain rfl := serving.eq_of_calling hcalling
      rw [found?_eq_none rfl, Option.toList_none, List.append_nil]
      exact ⟨hfew, _, hnext, hcalling, hfull⟩

theorem length_run (system : System) (actions : List Action) :
    (system.run actions).2.desks.length = system.desks.length := by
  simpa using congrArg List.length (markets_run system actions)

theorem sound_run {system : System} (hsound : system.Sound) {actions : List Action}
    (uncancelled : .cancel ∉ actions) :
    (system.run actions).2.Sound ∨
      ∃ market ∈ system.desks.map Desk.market, (system.run actions).2.Escalated market := by
  induction actions using List.reverseRecOn with
  | nil => exact .inl hsound
  | append_singleton actions action ih =>
      have htransition := transition_of_step (system.run actions).2 action
      simp only [List.mem_append, List.mem_singleton, not_or] at uncancelled
      rw [run_concat]
      rcases ih uncancelled.1 with hbefore | ⟨market, hmarket, hescalated⟩
      · have hafter := hbefore.of_transition htransition (Ne.symm uncancelled.2)
        rwa [markets_run] at hafter
      · exact .inr ⟨market, hmarket, hescalated.of_transition htransition⟩

theorem jammed_run {system : System} {index call : Nat} (hsound : system.Sound)
    (hjammed : system.Jammed index call []) {actions : List Action}
    (uncancelled : .cancel ∉ actions)
    (unanswered : ∀ outcome, .serve index outcome ∈ actions → outcome = .never)
    (hfinal : (system.run actions).2.Sound) :
    (system.run actions).2.Jammed index call (system.observe (·.found? index ·) actions) := by
  induction actions using List.reverseRecOn with
  | nil => exact hjammed
  | append_singleton actions action ih =>
      have htransition := transition_of_step (system.run actions).2 action
      simp only [List.mem_append, List.mem_singleton, not_or] at uncancelled unanswered
      rw [run_concat] at hfinal ⊢
      rw [observe_concat]
      -- what is sound in the end has been sound before, since an escalation is final
      have hbefore : (system.run actions).2.Sound := by
        rcases sound_run hsound uncancelled.1 with hbefore | ⟨market, -, hescalated⟩
        · exact hbefore
        · exact absurd (hescalated.of_transition htransition).stopped (hfinal.unstopped _)
      have hjammed := ih uncancelled.1 (fun outcome hmem => unanswered outcome (.inl hmem)) hbefore
      exact hjammed.step hbefore hfinal fun outcome hserve =>
        unanswered outcome (.inr hserve.symm)

/-! ## Passes go on -/

def turns (system : System) (index : Nat) (actions : List Action) : List Instant :=
  system.observe (·.turnAt? index ·) actions

theorem pending_run {system : System} {index : Nat} (present : index < system.desks.length)
    (actions : List Action) :
    ∃ pending, system.sampler.due index ++ system.passes actions =
        system.turns index actions ++ pending ∧ (system.run actions).2.Pending index pending := by
  induction actions using List.reverseRecOn with
  | nil =>
      exact ⟨system.sampler.due index, by simp [passes, turns, observe],
        system.sampler.due_length_le index, fun _ => rfl⟩
  | append_singleton actions action ih =>
      obtain ⟨pending, hpasses, hpending⟩ := ih
      have htransition := transition_of_step (system.run actions).2 action
      have hlength := length_run system actions
      obtain ⟨left, hleft, hafter⟩ := pending_of_transition htransition
        (List.getElem?_eq_getElem (hlength.symm ▸ present)) hpending
      refine ⟨left, ?_, by rwa [run_concat]⟩
      rw [passes, turns, observe_concat, observe_concat, ← List.append_assoc,
        show system.observe begins? actions = system.passes actions from rfl, hpasses,
        List.append_assoc, hleft, ← List.append_assoc]
      rfl

end System

def Sampler.phase (desks : Nat) : Sampler → Nat
  | .passing _ next => min (next + 1) (desks + 1)
  | _ => desks + 2

private theorem Sampler.phase_bounds (desks : Nat) (sampler : Sampler) :
    0 < sampler.phase desks ∧ sampler.phase desks ≤ desks + 2 := by
  cases sampler <;> simp only [phase] <;> omega

namespace System

private theorem phase_of_transition {system after : System} {action : Action} {events : List Event}
    (h : Transition system action events after) (running : after.hungUp = false) :
    system.hungUp = false ∧
      action.isSample.toNat + system.sampler.phase system.desks.length =
        (system.begins? action).toList.length * (system.desks.length + 2) +
          after.sampler.phase after.desks.length := by
  cases h with
  | offered source market sample store known =>
      exact ⟨running, by simp [begins?, Action.isSample]⟩
  | ignored source market sample unknown => exact ⟨running, by simp [begins?, Action.isSample]⟩
  | cancelling => exact ⟨running, by simp [begins?, Action.isSample]⟩
  | finished now hungUp => simp [hungUp] at running
  | ending now idle cancelled => cases running
  | beginning now idle uncancelled =>
      refine ⟨by simp [hungUp, idle], ?_⟩
      simp [begins?, Action.isSample, Sampler.phase, idle, uncancelled]
      omega
  | passed now begun next turn behind =>
      refine ⟨by simp [hungUp, turn], ?_⟩
      have := List.getElem?_eq_none_iff.mp behind
      simp [begins?, Action.isSample, Sampler.phase, turn]
      omega
  | looked now begun next desk after forwarded turn present forward =>
      refine ⟨by simp [hungUp, turn], ?_⟩
      have := (List.getElem?_eq_some_iff.mp present).1
      simp [begins?, Action.isSample, Sampler.phase, turn]
      omega
  | failed now begun next desk fault turn present forward => cases running
  | absent index outcome nobody => exact ⟨running, by simp [begins?, Action.isSample]⟩
  | served index outcome desk next events present step =>
      exact ⟨running, by simp [begins?, Action.isSample]⟩

theorem phase_run {system : System} {actions : List Action}
    (running : (system.run actions).2.hungUp = false) :
    actions.countP Action.isSample + system.sampler.phase system.desks.length =
      (system.passes actions).length * (system.desks.length + 2) +
        (system.run actions).2.sampler.phase (system.run actions).2.desks.length := by
  induction actions using List.reverseRecOn with
  | nil => simp [passes, observe]
  | append_singleton actions action ih =>
      have htransition := transition_of_step (system.run actions).2 action
      rw [run_concat] at running ⊢
      obtain ⟨hbefore, hstep⟩ := phase_of_transition htransition running
      have hcount : (actions ++ [action]).countP Action.isSample =
          actions.countP Action.isSample + action.isSample.toNat := by
        cases hsample : action.isSample <;> simp [hsample]
      have hpasses : (system.passes (actions ++ [action])).length =
          (system.passes actions).length +
            ((system.run actions).2.begins? action).toList.length := by
        rw [passes, observe_concat, List.length_append]
        rfl
      have hall := ih hbefore
      rw [length_run] at hstep hall
      rw [hcount, hpasses, Nat.add_mul]
      dsimp only
      omega

theorem countP_isSample_lt {system : System} {actions : List Action}
    (running : (system.run actions).2.hungUp = false) :
    actions.countP Action.isSample <
      ((system.passes actions).length + 1) * (system.desks.length + 2) := by
  have hphase := phase_run running
  have hfirst := Sampler.phase_bounds system.desks.length system.sampler
  have hlast := Sampler.phase_bounds system.desks.length (system.run actions).2.sampler
  rw [length_run] at hphase
  rw [Nat.add_mul]
  omega

end System

/-! ## Stalls -/

/-- A run in which the service of a desk has called the sink, which does not answer any more. -/
structure Stall (system : System) where
  before : List Action
  after : List Action
  index : Nat
  call : Nat
  calling : ((system.run before).2.desks[index]?).map Desk.activity = some (.calling call)
  unanswered : ∀ outcome, .serve index outcome ∈ after → outcome = .never
  uncancelled : .cancel ∉ before ++ after

namespace Stall

variable {system : System}

def onset (stall : Stall system) : System := (system.run stall.before).2

def final (stall : Stall system) : System := (stall.onset.run stall.after).2

def found (stall : Stall system) : List Tick :=
  stall.onset.observe (·.found? stall.index ·) stall.after

private theorem final_eq (stall : Stall system) :
    stall.final = (system.run (stall.before ++ stall.after)).2 := by
  rw [System.run_append]
  rfl

private theorem present (stall : Stall system) : stall.index < stall.onset.desks.length := by
  obtain ⟨desk, hdesk, -⟩ := Option.map_eq_some_iff.mp stall.calling
  exact (List.getElem?_eq_some_iff.mp hdesk).1

private theorem escalated (stall : Stall system) (hsound : system.Sound)
    (hfound : 2 ≤ stall.found.length) :
    ∃ market ∈ system.desks.map Desk.market, stall.final.Escalated market := by
  have huncancelled := stall.uncancelled
  rw [stall.final_eq]
  rcases System.sound_run hsound stall.uncancelled with hfinal | hescalated
  · rw [← stall.final_eq] at hfinal
    simp only [List.mem_append, not_or] at huncancelled
    have honset : stall.onset.Sound := by
      rcases System.sound_run hsound huncancelled.1 with honset | ⟨market, -, hescalated⟩
      · exact honset
      · exact absurd (hescalated.run stall.after).1.stopped (hfinal.unstopped _)
    obtain ⟨desk, hdesk, hcalling⟩ := Option.map_eq_some_iff.mp stall.calling
    have hjammed := System.jammed_run honset ⟨Nat.zero_le 1, desk, hdesk, hcalling, by simp⟩
      huncancelled.2 stall.unanswered hfinal
    exact absurd (Nat.le_trans hfound hjammed.few) (by omega)
  · exact hescalated

end Stall

theorem sound_of_start {ε : Type} {config : Config} {builder : Builder ε} {clock : Span}
    {schedule : Schedule} (h : start config builder clock = .ok schedule) :
    schedule.system.Sound := by
  obtain ⟨sampler, hsampler, hsystem⟩ := system_of_start h
  rw [hsystem]
  refine ⟨rfl, ?_, ?_⟩
  · rintro fault rfl
    simp at hsampler
  · intro _ desk hdesk
    obtain ⟨exchanges, market, rfl⟩ := eq_freshDesk_of_mem_desks hdesk
    rfl

/--
If the sink never answers a call of a service and nobody cancels pricing, then the
second list found for the market after that ends sampling with a stalled service and
cancels all tasks, unless another market has done so before.  Every pass looks at the
market, except perhaps the last one, and passes begin as long as sampling goes on.
Once it has ended so, every service ends when it is its turn, with nothing announced
any more, and that fault is the outcome of pricing.  Conversely sampling ends with a
fault only where a pass finds prices for a market whose service has not taken the
list before or has left.
-/
theorem stall_escalates {ε : Type} {config : Config} {builder : Builder ε} {clock : Span}
    {schedule : Schedule} (started : start config builder clock = .ok schedule) :
    (∀ stall : Stall schedule.system,
      (2 ≤ stall.found.length →
        ∃ market ∈ schedule.system.desks.map Desk.market, stall.final.Escalated market) ∧
      (∃ pending, stall.onset.sampler.due stall.index ++ stall.onset.passes stall.after =
        stall.onset.turns stall.index stall.after ++ pending ∧ pending.length ≤ 1) ∧
      (stall.final.hungUp = false → stall.after.countP Action.isSample <
        ((stall.onset.passes stall.after).length + 1) * (schedule.system.desks.length + 2))) ∧
    (∀ actions market, (schedule.system.run actions).2.Escalated market → ∀ later,
      (∀ index < schedule.system.desks.length, ∃ outcome, .serve index outcome ∈ later) →
        (schedule.system.run (actions ++ later)).1 = (schedule.system.run actions).1 ∧
        (schedule.system.run (actions ++ later)).2.hasEnded = true ∧
        (schedule.system.run (actions ++ later)).2.fault? = some (.stalled market)) ∧
    (∀ actions fault, (schedule.system.run actions).2.fault? = some fault ↔
      ∃ earlier now later, actions = earlier ++ .sample now :: later ∧
        (schedule.system.run earlier).2.Obstructed fault) := by
  have hsound := sound_of_start started
  refine ⟨fun stall => ⟨stall.escalated hsound, ?_, fun hrunning => ?_⟩, ?_,
    System.fault_run hsound.unstopped⟩
  · obtain ⟨pending, hpasses, hpending⟩ := System.pending_run stall.present stall.after
    exact ⟨pending, hpasses, hpending.few⟩
  · rw [← System.length_run _ stall.before]
    exact System.countP_isSample_lt hrunning
  · intro actions market hescalated later hserved
    rw [System.run_append]
    obtain ⟨hlast, hevents, -, -⟩ := hescalated.run later
    refine ⟨by rw [hevents, List.append_nil], ?_, System.fault?_eq_some.mpr hlast.stopped⟩
    exact hescalated.hasEnded_run (by rwa [System.length_run])

/-! ### A sink that is stuck -/

def beforeStuck : List Action :=
  [.offer "binance" "BTC" ⟨100, ⟨70, 0⟩⟩, .sample ⟨75, 0⟩, .sample ⟨75, 0⟩, .serve 0 .never]

def afterStuck : List Action :=
  [.sample ⟨75, 0⟩, .sample ⟨76, 0⟩, .sample ⟨76, 0⟩, .serve 0 .never, .sample ⟨76, 0⟩,
    .sample ⟨77, 0⟩, .sample ⟨77, 0⟩]

def stuck : Stall soleSchedule.system where
  before := beforeStuck
  after := afterStuck
  index := 0
  call := 0
  calling := by decide +kernel
  unanswered := by simp [afterStuck]
  uncancelled := by simp [beforeStuck, afterStuck]

theorem escalated_of_stuck :
    stuck.found = [[100], [100]] ∧
      (∃ market ∈ soleSchedule.system.desks.map Desk.market, stuck.final.Escalated market) ∧
      soleSchedule.system.desks.map Desk.market = ["BTC"] ∧
      (soleSchedule.system.run (beforeStuck ++ afterStuck ++ [.serve 0 .delivered])).2.hasEnded =
        true := by
  obtain ⟨hstall, hlater, -⟩ := stall_escalates start_sole
  have hfound : stuck.found = [[100], [100]] := by decide +kernel
  have hmarkets : soleSchedule.system.desks.map Desk.market = ["BTC"] := by decide +kernel
  obtain ⟨market, hmarket, hescalated⟩ := (hstall stuck).1 (by rw [hfound]; rfl)
  refine ⟨hfound, ⟨market, hmarket, hescalated⟩, hmarkets, ?_⟩
  rw [stuck.final_eq] at hescalated
  refine (hlater _ market hescalated _ fun index hindex => ⟨.delivered, ?_⟩).2.1
  have hlength : soleSchedule.system.desks.length = 1 := by decide +kernel
  simp [Nat.lt_one_iff.mp (hlength ▸ hindex)]

end IndexPrice.Pricing
