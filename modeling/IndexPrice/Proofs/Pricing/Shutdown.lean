import IndexPrice.Proofs.Pricing.Escalation

/-!
# Cancellation and the outcome of sampling

As long as every service has emptied its mailbox by the time a pass begins, no
service is ever stalled, and without a cancellation sampling has no fault at all.
A cancellation ends sampling within the time of one pass.  Between two passes it ends
it without a fault.  While a pass is under way it may come to a fault: services leave
as soon as they see the cancellation, whereas the pass goes on to the remaining
markets and takes a service that has left for one that is gone.
-/

namespace IndexPrice.Pricing

namespace Desk

/-- A service leaves its mailbox closed, and nobody else closes it. -/
def ClosedByEnd (desk : Desk) : Prop := desk.activity = .ended ↔ desk.mailbox.closed = true

private theorem Forwarding.closedByEnd {desk after : Desk} {stores : Stores} {now : Instant}
    {forwarded : Bool} (h : desk.Forwarding stores now (.ok (forwarded, after)))
    (closed : desk.ClosedByEnd) : after.ClosedByEnd ∧ after.activity = desk.activity := by
  cases h with
  | nothing stale => exact ⟨closed, rfl⟩
  | posted fresh opened emptied =>
      refine ⟨?_, rfl⟩
      rw [ClosedByEnd, opened] at closed
      exact closed

private theorem Serving.closedByEnd {desk after : Desk} {cancelled hungUp : Bool} {calls : Nat}
    {outcome : SinkOutcome} {events : List Event}
    (h : desk.Serving cancelled hungUp calls outcome events after) (closed : desk.ClosedByEnd) :
    after.ClosedByEnd := by
  have hopened : desk.activity ≠ .ended → desk.mailbox.closed = false := fun hrunning =>
    Bool.eq_false_iff.mpr fun hclosed => hrunning (closed.mpr hclosed)
  cases h with
  | finished outcome ended => exact closed
  | leaving outcome running reason => exact iff_of_true rfl rfl
  | waiting outcome idle uncancelled emptied => exact closed
  | accepting outcome tick accepted next idle uncancelled content verdict =>
      simp [ClosedByEnd, hopened (by simp [idle])]
  | rejecting outcome tick rejection next idle uncancelled content verdict => exact closed
  | pending call busy uncancelled => exact closed
  | concluding outcome call busy uncancelled answered =>
      simp [ClosedByEnd, hopened (by simp [busy])]

private theorem Serving.reason {desk after : Desk} {cancelled hungUp : Bool} {calls : Nat}
    {outcome : SinkOutcome} {events : List Event}
    (h : desk.Serving cancelled hungUp calls outcome events after)
    (ended : after.activity = .ended) :
    desk.activity = .ended ∨ cancelled = true ∨ hungUp = true := by
  cases h with
  | finished outcome ended => exact .inl ended
  | leaving outcome running reason => exact .inr (reason.imp id fun h => h.2.1)
  | waiting outcome idle uncancelled emptied => exact .inl ended
  | accepting outcome tick accepted next idle uncancelled content verdict => cases ended
  | rejecting outcome tick rejection next idle uncancelled content verdict => exact .inl ended
  | pending call busy uncancelled => exact .inl ended
  | concluding outcome call busy uncancelled answered => cases ended

private theorem Serving.emptied {desk after : Desk} {cancelled hungUp : Bool} {calls : Nat}
    {outcome : SinkOutcome} {events : List Event}
    (h : desk.Serving cancelled hungUp calls outcome events after)
    (emptied : desk.mailbox.content = none) : after.mailbox.content = none := by
  cases h with
  | leaving outcome running reason => rfl
  | accepting outcome tick accepted next idle uncancelled content verdict => rfl
  | rejecting outcome tick rejection next idle uncancelled content verdict => rfl
  | _ => exact emptied

end Desk

namespace System

/-! ## What a step does to a desk -/

/-- A desk stays as it is, unless a pass looks at it or its service makes a step. -/
inductive Change (system : System) (index : Nat) (desk : Desk) : Action → Desk → Prop
  | none (action : Action) : Change system index desk action desk
  | looked (now begun : Instant) (forwarded : Bool) (after : Desk)
      (turn : system.sampler = .passing begun index)
      (forwarding : desk.Forwarding system.stores begun (.ok (forwarded, after))) :
      Change system index desk (.sample now) after
  | served (outcome : SinkOutcome) (events : List Event) (after : Desk)
      (serving : desk.Serving system.cancelled system.hungUp system.calls outcome events after) :
      Change system index desk (.serve index outcome) after

private theorem change_of_transition {system after : System} {action : Action} {events : List Event}
    (h : Transition system action events after) {index : Nat} {next : Desk}
    (hnext : after.desks[index]? = some next) :
    ∃ desk, system.desks[index]? = some desk ∧ Change system index desk action next := by
  cases h with
  | looked now begun place desk seen forwarded turn present forward =>
      rcases eq_or_getElem?_of_set hnext with ⟨rfl, rfl⟩ | ⟨-, hkept⟩
      · have forwarding := Desk.forwarding_of_forward forward
        exact ⟨desk, present, .looked now begun forwarded _ turn forwarding⟩
      · exact ⟨next, hkept, .none _⟩
  | served place outcome desk served events present step =>
      rcases eq_or_getElem?_of_set hnext with ⟨rfl, rfl⟩ | ⟨-, hkept⟩
      · exact ⟨desk, present, .served outcome events _ (Desk.serving_of_step step)⟩
      · exact ⟨next, hkept, .none _⟩
  | _ => exact ⟨next, hnext, .none _⟩

private theorem change_of_mem {system after : System} {action : Action} {events : List Event}
    (h : Transition system action events after) {next : Desk} (hnext : next ∈ after.desks) :
    ∃ index, ∃ desk ∈ system.desks, Change system index desk action next := by
  obtain ⟨index, hplace⟩ := List.mem_iff_getElem?.mp hnext
  obtain ⟨desk, hdesk, hchange⟩ := change_of_transition h hplace
  exact ⟨index, desk, List.mem_of_getElem? hdesk, hchange⟩

/-! ## Services that keep up -/

structure Prepared (system : System) : Prop where
  emptied : ∀ (index : Nat) (desk : Desk), system.desks[index]? = some desk →
    system.sampler.due index ≠ [] → desk.mailbox.content = none
  closed : ∀ desk ∈ system.desks, desk.ClosedByEnd
  closing : ∀ desk ∈ system.desks, desk.activity = .ended → system.Closing

private theorem Prepared.of_transition {system after : System} {action : Action}
    {events : List Event}
    (h : Transition system action events after) (prepared : system.Prepared)
    (prompt : ∀ market ∈ system.desks.map Desk.market, system.Prompt market action) :
    after.Prepared := by
  refine ⟨fun index next hnext hdue => ?_, fun next hmem => ?_, fun next hmem hended => ?_⟩
  · obtain ⟨desk, hdesk, hchange⟩ := change_of_transition h hnext
    obtain ⟨hturn, hbefore⟩ := due_before_of_due h hdue
    have hpresent := List.mem_of_getElem? hdesk
    have hempty : desk.mailbox.content = none := by
      rcases hbefore with hbefore | hbegins
      · exact prepared.emptied index desk hdesk hbefore
      · exact prompt desk.market (List.mem_map_of_mem hpresent) hbegins desk hpresent rfl
    cases hchange with
    | none action => exact hempty
    | looked now begun forwarded next turn forwarding => simp [turnAt?, turn] at hturn
    | served outcome events next serving => exact serving.emptied hempty
  · obtain ⟨index, desk, hdesk, hchange⟩ := change_of_mem h hmem
    have hclosed := prepared.closed desk hdesk
    cases hchange with
    | none action => exact hclosed
    | looked now begun forwarded next turn forwarding => exact (forwarding.closedByEnd hclosed).1
    | served outcome events next serving => exact serving.closedByEnd hclosed
  · obtain ⟨index, desk, hdesk, hchange⟩ := change_of_mem h hmem
    refine Closing.of_transition h ?_
    cases hchange with
    | none action => exact prepared.closing _ hdesk hended
    | looked now begun forwarded next turn forwarding =>
        have hsame := (forwarding.closedByEnd (prepared.closed desk hdesk)).2
        exact prepared.closing desk hdesk (hsame ▸ hended)
    | served outcome events next serving =>
        rcases serving.reason hended with hbefore | hreason
        · exact prepared.closing desk hdesk hbefore
        · exact hreason

theorem prepared_run {system : System} (prepared : system.Prepared) {actions : List Action}
    (keepsUp : ∀ market ∈ system.desks.map Desk.market, KeepsUp market system actions) :
    (system.run actions).2.Prepared := by
  induction actions using List.reverseRecOn with
  | nil => exact prepared
  | append_singleton actions action ih =>
      have hkept := ih fun market hmarket =>
        ((keepsUp_concat market system actions action).mp (keepsUp market hmarket)).1
      rw [run_concat]
      refine hkept.of_transition (transition_of_step _ action) fun market hmarket => ?_
      rw [markets_run] at hmarket
      exact ((keepsUp_concat market system actions action).mp (keepsUp market hmarket)).2

/-- The pass under way comes to a market with fresh prices after its service has left. -/
inductive Overtaken (system : System) : String → Prop
  | intro (begun : Instant) (next : Nat) (desk : Desk) (cancelled : system.cancelled = true)
      (turn : system.sampler = .passing begun next) (present : system.desks[next]? = some desk)
      (fresh : desk.freshPrices system.stores begun ≠ []) (ended : desk.activity = .ended) :
      Overtaken system desk.market

theorem Prepared.obstructed_iff {system : System} (prepared : system.Prepared)
    (fault : SamplingFault) :
    system.Obstructed fault ↔ ∃ market, fault = .gone market ∧ system.Overtaken market := by
  constructor
  · intro hobstructed
    cases hobstructed with
    | undrained begun next desk turn present fresh opened full =>
        exact absurd (prepared.emptied next desk present (by simp [turn, Sampler.due])) full
    | abandoned begun next desk turn present fresh closed =>
        have hmem := List.mem_of_getElem? present
        have hended := (prepared.closed desk hmem).mpr closed
        have hcancelled : system.cancelled = true := by
          simpa [Closing, hungUp, turn] using prepared.closing desk hmem hended
        exact ⟨desk.market, rfl, .intro begun next desk hcancelled turn present fresh hended⟩
  · rintro ⟨market, rfl, begun, next, desk, cancelled, turn, present, fresh, ended⟩
    have hclosed := (prepared.closed desk (List.mem_of_getElem? present)).mp ended
    exact .abandoned begun next desk turn present fresh hclosed

private theorem fault_iff_overtaken {system : System} (hsound : system.Sound)
    (prepared : system.Prepared) {actions : List Action}
    (keepsUp : ∀ market ∈ system.desks.map Desk.market, KeepsUp market system actions)
    (fault : SamplingFault) :
    (system.run actions).2.fault? = some fault ↔
      ∃ earlier now later market, actions = earlier ++ .sample now :: later ∧
        fault = .gone market ∧ (system.run earlier).2.Overtaken market := by
  have hprepared : ∀ earlier later, actions = earlier ++ later →
      (system.run earlier).2.Prepared := by
    rintro earlier later rfl
    exact prepared_run prepared fun market hmarket =>
      ((keepsUp_append market system earlier later).mp (keepsUp market hmarket)).1
  rw [fault_run hsound.unstopped]
  constructor
  · rintro ⟨earlier, now, later, heq, hobstructed⟩
    obtain ⟨market, hfault, hovertaken⟩ :=
      ((hprepared earlier _ heq).obstructed_iff fault).mp hobstructed
    exact ⟨earlier, now, later, market, heq, hfault, hovertaken⟩
  · rintro ⟨earlier, now, later, market, heq, hfault, hovertaken⟩
    exact ⟨earlier, now, later, heq,
      ((hprepared earlier _ heq).obstructed_iff fault).mpr ⟨market, hfault, hovertaken⟩⟩

private theorem sound_of_keepsUp {system : System} (hsound : system.Sound)
    (prepared : system.Prepared) {actions : List Action}
    (keepsUp : ∀ market ∈ system.desks.map Desk.market, KeepsUp market system actions)
    (unforced : .cancel ∉ actions) : (system.run actions).2.Sound := by
  rcases sound_run hsound unforced with hafter | ⟨market, -, hescalated⟩
  · exact hafter
  · -- an escalation comes from a stalled service, and the pass only finds services gone
    have hfault := fault?_eq_some.mpr hescalated.stopped
    obtain ⟨-, -, -, other, -, hgone, -⟩ :=
      (fault_iff_overtaken hsound prepared keepsUp _).mp hfault
    cases hgone

theorem Sound.fault?_eq_none {system : System} (h : system.Sound) : system.fault? = none := by
  rw [Option.eq_none_iff_forall_ne_some]
  intro fault hfault
  exact h.unstopped _ (fault?_eq_some.mp hfault)

/-! ## Cancelled between two passes -/

structure Retiring (system : System) : Prop where
  cancelled : system.cancelled = true
  sampler : system.sampler = .idle ∨ system.sampler = .unscheduled ∨
    system.sampler = .stopped none

private theorem Retiring.of_transition {system after : System} {action : Action}
    {events : List Event}
    (h : Transition system action events after) (retiring : system.Retiring) :
    after.Retiring := by
  obtain ⟨hcancelled, hsampler⟩ := retiring
  refine ⟨cancelled_of_transition h hcancelled, ?_⟩
  cases h with
  | ending now idle cancelled => exact .inr (.inr rfl)
  | beginning now idle uncancelled => simp [hcancelled] at uncancelled
  | passed now begun next turn behind => simp [turn] at hsampler
  | looked now begun next desk after forwarded turn present forward => simp [turn] at hsampler
  | failed now begun next desk fault turn present forward => simp [turn] at hsampler
  | _ => exact hsampler

theorem Retiring.run {system : System} (retiring : system.Retiring) (actions : List Action) :
    (system.run actions).2.Retiring := by
  induction actions using List.reverseRecOn with
  | nil => exact retiring
  | append_singleton actions action ih =>
      rw [run_concat]
      exact ih.of_transition (transition_of_step _ action)

theorem Retiring.fault?_eq_none {system : System} (retiring : system.Retiring) :
    system.fault? = none := by
  unfold fault?
  rcases retiring.sampler with hidle | hunscheduled | hstopped
  · simp [hidle]
  · simp [hunscheduled]
  · simp [hstopped]

private theorem retiring_of_cancel {system : System} (hsound : system.Sound)
    (between : ∀ begun next, system.sampler ≠ .passing begun next) :
    (system.step .cancel).2.Retiring := by
  refine ⟨rfl, ?_⟩
  change system.sampler = .idle ∨ system.sampler = .unscheduled ∨ system.sampler = .stopped none
  cases hsampler : system.sampler with
  | idle => exact .inl rfl
  | unscheduled => exact .inr (.inl rfl)
  | passing begun next => exact absurd hsampler (between begun next)
  | stopped fault => exact absurd hsampler (hsound.unstopped fault)

private theorem passes_of_cancelled {system : System} (cancelled : system.cancelled = true)
    (actions : List Action) : system.passes actions = [] := by
  induction actions generalizing system with
  | nil => rfl
  | cons action actions ih =>
      have hnone : system.begins? action = none := by
        cases action <;> simp [begins?, cancelled]
      have hafter := cancelled_of_transition (transition_of_step system action) cancelled
      rw [passes, observe, hnone, Option.toList_none, List.nil_append]
      exact ih hafter

private theorem hungUp_of_cancelled {system : System} (cancelled : system.cancelled = true)
    {actions : List Action} (enough : system.desks.length + 2 ≤ actions.countP Action.isSample) :
    (system.run actions).2.hungUp = true := by
  cases hrunning : (system.run actions).2.hungUp with
  | true => rfl
  | false =>
      -- no pass begins any more, so what is left of one bounds the steps
      have hfew := countP_isSample_lt hrunning
      rw [passes_of_cancelled cancelled] at hfew
      simp only [List.length_nil] at hfew
      omega

end System

private theorem prepared_of_start {ε : Type} {config : Config} {builder : Builder ε} {clock : Span}
    {schedule : Schedule} (started : start config builder clock = .ok schedule) :
    schedule.system.Prepared := by
  obtain ⟨sampler, -, hsystem⟩ := system_of_start started
  have hfresh : ∀ desk ∈ schedule.system.desks,
      desk.mailbox.content = none ∧ desk.mailbox.closed = false ∧ desk.activity = .waiting := by
    intro desk hdesk
    rw [hsystem] at hdesk
    obtain ⟨exchanges, market, rfl⟩ := eq_freshDesk_of_mem_desks hdesk
    exact ⟨rfl, rfl, rfl⟩
  refine ⟨fun index desk hdesk _ => (hfresh desk (List.mem_of_getElem? hdesk)).1,
    fun desk hdesk => ?_, fun desk hdesk hended => ?_⟩
  · obtain ⟨-, hopened, hwaiting⟩ := hfresh desk hdesk
    simp [Desk.ClosedByEnd, hopened, hwaiting]
  · rw [(hfresh desk hdesk).2.2] at hended
    cases hended

/--
As long as every service keeps up, sampling ends with a fault exactly if, after a
cancellation, the pass under way comes to a market with fresh prices whose service has
left already.  There is no fault without a cancellation, nor if no pass is under way
at the first one; and whenever pricing is cancelled, sampling ends within as many of
its own steps as a pass takes.
-/
theorem fault_of_keepsUp {ε : Type} {config : Config} {builder : Builder ε} {clock : Span}
    {schedule : Schedule} (started : start config builder clock = .ok schedule)
    {actions : List Action}
    (keepsUp : ∀ market ∈ schedule.system.desks.map Desk.market,
      System.KeepsUp market schedule.system actions) :
    (∀ fault, (schedule.system.run actions).2.fault? = some fault ↔
      ∃ earlier now later market, actions = earlier ++ .sample now :: later ∧
        fault = .gone market ∧ (schedule.system.run earlier).2.Overtaken market) ∧
    (.cancel ∉ actions → (schedule.system.run actions).2.fault? = none) ∧
    ∀ earlier later, actions = earlier ++ .cancel :: later →
      (.cancel ∉ earlier →
        (∀ begun next, (schedule.system.run earlier).2.sampler ≠ .passing begun next) →
          (schedule.system.run actions).2.fault? = none) ∧
      (schedule.system.desks.length + 2 ≤ later.countP Action.isSample →
        (schedule.system.run actions).2.hungUp = true) := by
  have hsound := sound_of_start started
  have hprepared := prepared_of_start started
  refine ⟨System.fault_iff_overtaken hsound hprepared keepsUp, fun hunforced => ?_, ?_⟩
  · exact (System.sound_of_keepsUp hsound hprepared keepsUp hunforced).fault?_eq_none
  · rintro earlier later rfl
    rw [System.run_append, System.run_cons]
    dsimp only
    refine ⟨fun hfirst hbetween => ?_, fun henough => ?_⟩
    · have hbefore := System.sound_of_keepsUp hsound hprepared (fun market hmarket =>
        ((System.keepsUp_append market _ earlier _).mp (keepsUp market hmarket)).1) hfirst
      exact ((System.retiring_of_cancel hbefore hbetween).run later).fault?_eq_none
    · refine System.hungUp_of_cancelled rfl ?_
      change (schedule.system.run earlier).2.desks.length + 2 ≤ _
      rwa [System.length_run]

/-! ### Cancelled after a pass and during a pass -/

def onePass : List Action :=
  [.offer "binance" "BTC" ⟨100, ⟨70, 0⟩⟩, .sample ⟨75, 0⟩, .sample ⟨75, 0⟩, .serve 0 .delivered,
    .sample ⟨75, 0⟩]

def afterwards : List Action :=
  [.serve 0 .delivered, .sample ⟨76, 0⟩, .sample ⟨77, 0⟩, .sample ⟨78, 0⟩]

theorem faultless_after_pass :
    (∀ market ∈ soleSchedule.system.desks.map Desk.market,
        System.KeepsUp market soleSchedule.system (onePass ++ .cancel :: afterwards)) ∧
      publishedPrices "BTC" (soleSchedule.system.run onePass).1 = [100] ∧
      (soleSchedule.system.run (onePass ++ .cancel :: afterwards)).2.fault? = none ∧
      (soleSchedule.system.run (onePass ++ .cancel :: afterwards)).2.hungUp = true := by
  have hkeeps : ∀ market ∈ soleSchedule.system.desks.map Desk.market,
      System.KeepsUp market soleSchedule.system (onePass ++ .cancel :: afterwards) := by
    decide +kernel
  have hidle : (soleSchedule.system.run onePass).2.sampler = .idle := by decide +kernel
  have hlength : soleSchedule.system.desks.length = 1 := by decide +kernel
  obtain ⟨-, -, hcancelled⟩ := fault_of_keepsUp start_sole hkeeps
  obtain ⟨hfaultless, hended⟩ := hcancelled onePass afterwards rfl
  exact ⟨hkeeps, by decide +kernel, hfaultless (by simp [onePass]) (by simp [hidle]),
    hended (by rw [hlength]; decide)⟩

def duringPass : List Action :=
  [.offer "binance" "BTC" ⟨100, ⟨70, 0⟩⟩, .sample ⟨75, 0⟩, .cancel, .serve 0 .never,
    .sample ⟨75, 0⟩]

theorem gone_during_pass :
    (∀ market ∈ soleSchedule.system.desks.map Desk.market,
        System.KeepsUp market soleSchedule.system duringPass) ∧
      (soleSchedule.system.run duringPass).2.fault? = some (.gone "BTC") := by
  decide +kernel

end IndexPrice.Pricing
