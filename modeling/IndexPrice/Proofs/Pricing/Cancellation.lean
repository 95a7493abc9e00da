import IndexPrice.Pricing.System
import IndexPrice.Proofs.Pricing.Floor
import IndexPrice.Proofs.Pricing.Publication

/-!
# Serving until cancelled

A `Lane` is one service with its mailbox, whoever posts there, and what has gone
through it so far.  A step of the service is all that it does between two waits.
Between two steps anything can happen: a tick is posted, the other side hangs up,
pricing is cancelled, or the sink answers.  A cancellation in the middle of a step has
the effect of one before or after it, since a tick taken out is not evaluated once the
service has seen it.
-/

namespace IndexPrice.Pricing

structure Lane where
  desk : Desk
  hungUp : Bool := false
  cancelled : Bool := false
  calls : Nat := 0
  /-- The ticks that were put into the mailbox, and those that the service has taken out. -/
  sent : List Tick := []
  received : List Tick := []
  events : List Event := []

inductive Turn where
  | send (tick : Tick)
  | hangUp
  | cancel
  /-- The service makes its next step; `answered` tells whether the sink has had the time. -/
  | serve (answered : Bool)
  deriving DecidableEq

namespace Lane

open MarketService

def opening (service : MarketService) : Lane where
  desk := { service }

def send (lane : Lane) (tick : Tick) : Lane :=
  if lane.hungUp then lane
  else
    match lane.desk.post tick with
    | .ok desk => { lane with desk, sent := lane.sent ++ [tick] }
    | .error _ => lane

def outcome (lane : Lane) (sink : Sink) (answered : Bool) : SinkOutcome :=
  match lane.desk.activity with
  | .calling call => if answered then sink call else .never
  | _ => .never

def taken (lane : Lane) : List Tick :=
  if lane.desk.activity = .waiting ∧ lane.cancelled = false then
    lane.desk.mailbox.content.toList
  else []

def serve (lane : Lane) (sink : Sink) (answered : Bool) : Lane :=
  let (events, desk) :=
    lane.desk.step lane.cancelled lane.hungUp lane.calls (lane.outcome sink answered)
  { lane with
    desk
    calls := if desk.activity = .calling lane.calls then lane.calls + 1 else lane.calls
    received := lane.received ++ lane.taken
    events := lane.events ++ events }

def turn (sink : Sink) (lane : Lane) : Turn → Lane
  | .send tick => lane.send tick
  | .hangUp => { lane with hungUp := true }
  | .cancel => { lane with cancelled := true }
  | .serve answered => lane.serve sink answered

def run (sink : Sink) (lane : Lane) (turns : List Turn) : Lane := turns.foldl (turn sink) lane

variable {sink : Sink} {service : MarketService} {lane : Lane}

theorem run_concat (sink : Sink) (lane : Lane) (turns : List Turn) (last : Turn) :
    run sink lane (turns ++ [last]) = turn sink (run sink lane turns) last := by
  simp [run]

/-- The service of a lane goes on as it does at the only desk of a system. -/
theorem serve_sole {system : System} (sole : system.desks = [lane.desk])
    (cancelled : system.cancelled = lane.cancelled) (hungUp : system.hungUp = lane.hungUp)
    (calls : system.calls = lane.calls) (sink : Sink) (answered : Bool) :
    (lane.serve sink answered).events =
        lane.events ++ (system.serve 0 (lane.outcome sink answered)).1 ∧
      (system.serve 0 (lane.outcome sink answered)).2 = { system with
        desks := [(lane.serve sink answered).desk]
        calls := (lane.serve sink answered).calls } := by
  simp only [System.serve, cancelled, hungUp, calls, sole]
  exact ⟨rfl, rfl⟩

/-! ## Single turns -/

inductive Sending (lane : Lane) (tick : Tick) : Lane → Prop
  | refused : Sending lane tick lane
  | posted (listening : lane.hungUp = false) (opened : lane.desk.mailbox.closed = false)
      (emptied : lane.desk.mailbox.content = none) :
      Sending lane tick
        { lane with
          desk := { lane.desk with mailbox := ⟨some tick, false⟩ }
          sent := lane.sent ++ [tick] }

theorem post_eq_ok {desk after : Desk} {tick : Tick} (h : desk.post tick = .ok after) :
    desk.mailbox.closed = false ∧ desk.mailbox.content = none ∧
      after = { desk with mailbox := ⟨some tick, false⟩ } := by
  cases hclosed : desk.mailbox.closed with
  | true => simp [Desk.post, Mailbox.post, hclosed, Except.map] at h
  | false =>
      cases hcontent : desk.mailbox.content with
      | some item => simp [Desk.post, Mailbox.post, hclosed, hcontent, Except.map] at h
      | none =>
          simp only [Desk.post, Mailbox.post, hclosed, hcontent, Except.map] at h
          cases h
          exact ⟨rfl, rfl, rfl⟩

private theorem sending_of_send (lane : Lane) (tick : Tick) :
    Sending lane tick (lane.send tick) := by
  unfold send
  split
  · exact .refused
  · next hlistening =>
      split
      · next after hpost =>
          obtain ⟨hopened, hemptied, rfl⟩ := post_eq_ok hpost
          exact .posted (by simpa using hlistening) hopened hemptied
      · exact .refused

inductive Serving (sink : Sink) (lane : Lane) (answered : Bool) : Lane → Prop
  | finished (ended : lane.desk.activity = .ended) : Serving sink lane answered lane
  | leaving (running : lane.desk.activity ≠ .ended)
      (reason : lane.cancelled = true ∨
        (lane.desk.activity = .waiting ∧ lane.hungUp = true ∧ lane.desk.mailbox.content = none)) :
      Serving sink lane answered { lane with desk := lane.desk.stop }
  | waiting (idle : lane.desk.activity = .waiting) (uncancelled : lane.cancelled = false)
      (listening : lane.hungUp = false) (emptied : lane.desk.mailbox.content = none) :
      Serving sink lane answered lane
  | receiving (tick : Tick) (verdict : Verdict Float) (next : Consensus Float)
      (idle : lane.desk.activity = .waiting) (uncancelled : lane.cancelled = false)
      (content : lane.desk.mailbox.content = some tick)
      (evaluated : lane.desk.service.consensus.evaluate tick = (verdict, next)) :
      Serving sink lane answered
        { lane with
          desk := { lane.desk with
            service := { lane.desk.service with consensus := next }
            mailbox := { lane.desk.mailbox with content := none }
            activity := if publishes verdict then .calling lane.calls else .waiting }
          calls := if publishes verdict then lane.calls + 1 else lane.calls
          received := lane.received ++ [tick]
          events := lane.events ++ announce lane.desk.market verdict }
  | pending (call : Nat) (busy : lane.desk.activity = .calling call)
      (uncancelled : lane.cancelled = false) (unanswered : answered = true → sink call = .never) :
      Serving sink lane answered lane
  | concluding (call : Nat) (busy : lane.desk.activity = .calling call)
      (uncancelled : lane.cancelled = false) (finite : sink call ≠ .never) :
      Serving sink lane answered
        { lane with
          desk := { lane.desk with activity := .waiting }
          events := lane.events ++ conclude lane.desk.market (sink call) }

theorem serving_of_serve
    (numbered : ∀ call, lane.desk.activity = .calling call → call < lane.calls) (answered : Bool) :
    Serving sink lane answered (lane.serve sink answered) := by
  unfold serve
  cases hstep : lane.desk.step lane.cancelled lane.hungUp lane.calls
      (lane.outcome sink answered) with
  | mk events after =>
      have hserving := Desk.serving_of_step hstep
      dsimp only
      generalize houtcome : lane.outcome sink answered = outcome at hserving
      cases hserving with
      | finished outcome ended =>
          have htaken : lane.taken = [] := by simp [taken, ended]
          have hnext : Serving sink lane answered lane := .finished ended
          simpa [htaken, ended] using hnext
      | leaving outcome running reason =>
          have htaken : lane.taken = [] := by
            rcases reason with hcancelled | ⟨-, -, hemptied⟩
            · simp [taken, hcancelled]
            · simp [taken, hemptied]
          have hnext : Serving sink lane answered { lane with desk := lane.desk.stop } :=
            .leaving running reason
          simpa [htaken, Desk.stop] using hnext
      | waiting outcome idle uncancelled emptied =>
          have hlistening : lane.hungUp = false := by
            cases hhungUp : lane.hungUp with
            | false => rfl
            | true =>
                simp only [Desk.step, idle, uncancelled, hhungUp,
                  Desk.drain_of_empty emptied] at hstep
                have hactivity := congrArg (fun result => result.2.activity) hstep
                simp [Desk.stop, idle] at hactivity
          have htaken : lane.taken = [] := by simp [taken, emptied]
          have hnext : Serving sink lane answered lane :=
            .waiting idle uncancelled hlistening emptied
          simpa [htaken, idle] using hnext
      | accepting outcome tick accepted next idle uncancelled content verdict =>
          have htaken : lane.taken = [tick] := by simp [taken, idle, uncancelled, content]
          have hnext : Serving sink lane answered _ :=
            .receiving tick (.ok accepted) next idle uncancelled content verdict
          simpa [htaken, publishes, announce] using hnext
      | rejecting outcome tick rejection next idle uncancelled content verdict =>
          have htaken : lane.taken = [tick] := by simp [taken, idle, uncancelled, content]
          have hnext : Serving sink lane answered _ :=
            .receiving tick (.error rejection) next idle uncancelled content verdict
          simpa [htaken, publishes, announce, idle] using hnext
      | pending call busy uncancelled =>
          have htaken : lane.taken = [] := by simp [taken, busy]
          have hold : call ≠ lane.calls := (numbered call busy).ne
          have hunanswered : answered = true → sink call = .never := by
            rintro rfl
            simpa [Lane.outcome, busy] using houtcome
          simpa [htaken, busy, hold] using Serving.pending call busy uncancelled hunanswered
      | concluding outcome call busy uncancelled finite =>
          have htaken : lane.taken = [] := by simp [taken, busy]
          have hsame : outcome = sink call := by
            cases answered with
            | true => simpa [Lane.outcome, busy] using houtcome.symm
            | false => exact absurd (by simpa [Lane.outcome, busy] using houtcome.symm) finite
          subst hsame
          simpa [htaken] using Serving.concluding call busy uncancelled finite

/-! ## What has been served -/

/--
The events of a lane against all events that the same ticks lead to one after
another.  They are the same, unless there is a call that has not ended; nothing is
announced behind it.
-/
inductive Account (sink : Sink) (market : String) (calls : Nat) (script : List Event) :
    Activity → List Event → Prop
  | settled (activity : Activity) (events : List Event)
      (idle : activity = .waiting ∨ activity = .ended)
      (answered : ∀ call < calls, sink call ≠ .never) (complete : events = script) :
      Account sink market calls script activity events
  | unsettled (call : Nat) (activity : Activity) (events : List Event)
      (busy : activity = .calling call ∨ activity = .ended) (last : calls = call + 1)
      (answered : ∀ earlier < call, sink earlier ≠ .never)
      (rest : events ++ conclude market (sink call) = script) :
      Account sink market calls script activity events

structure Served (sink : Sink) (service : MarketService) (lane : Lane) : Prop where
  state : lane.desk.service =
    { service with consensus := service.consensus.after lane.received }
  shut : lane.desk.mailbox.closed = true ↔ lane.desk.activity = .ended
  inOrder : ∃ left, left.length ≤ 1 ∧ lane.sent = lane.received ++ left ∧
    (lane.desk.activity ≠ .ended → left = lane.desk.mailbox.content.toList)
  counted : lane.calls = callsOf (service.consensus.verdicts lane.received)
  account : Account sink service.market lane.calls (announced sink 0 service lane.received)
    lane.desk.activity lane.events
  unblocked : ∀ earlier tick later, lane.received = earlier ++ tick :: later →
    ∀ call < callsOf (service.consensus.verdicts earlier), sink call ≠ .never
  reason : lane.desk.activity = .ended → lane.cancelled = true ∨
    (lane.hungUp = true ∧ lane.received = lane.sent ∧
      lane.events = announced sink 0 service lane.received ∧
      ∀ call < lane.calls, sink call ≠ .never)

namespace Served

private theorem opening (sink : Sink) (service : MarketService) :
    Served sink service (Lane.opening service) where
  state := rfl
  shut := by simp [Lane.opening]
  inOrder := ⟨[], by simp, rfl, fun _ => rfl⟩
  counted := rfl
  account := .settled _ _ (.inl rfl) (by simp [Lane.opening]) rfl
  unblocked earlier tick later h := by simp [Lane.opening] at h
  reason h := by cases h

private theorem settled (h : Served sink service lane) (idle : lane.desk.activity = .waiting) :
    lane.events = announced sink 0 service lane.received ∧
      ∀ call < lane.calls, sink call ≠ .never := by
  cases h.account with
  | settled activity events idle answered complete => exact ⟨complete, answered⟩
  | unsettled call activity events busy last answered rest => simp [idle] at busy

private theorem unsettled (h : Served sink service lane) {call : Nat}
    (busy : lane.desk.activity = .calling call) :
    lane.calls = call + 1 ∧ (∀ earlier < call, sink earlier ≠ .never) ∧
      lane.events ++ conclude service.market (sink call) =
        announced sink 0 service lane.received := by
  cases h.account with
  | settled activity events idle answered complete => simp [busy] at idle
  | unsettled call activity events calling last answered rest =>
      obtain rfl : _ = call := by simpa [busy] using calling
      exact ⟨last, answered, rest⟩

theorem numbered (h : Served sink service lane) (call : Nat)
    (busy : lane.desk.activity = .calling call) : call < lane.calls := by
  have hlast := (h.unsettled busy).1
  omega

private theorem opened (h : Served sink service lane) (running : lane.desk.activity ≠ .ended) :
    lane.desk.mailbox.closed = false := by
  cases hclosed : lane.desk.mailbox.closed with
  | false => rfl
  | true => exact absurd (h.shut.mp hclosed) running

private theorem sending (h : Served sink service lane) {tick : Tick} {after : Lane}
    (hsending : Sending lane tick after) : Served sink service after := by
  cases hsending with
  | refused => exact h
  | posted listening opened emptied =>
      have hrunning : lane.desk.activity ≠ .ended := by
        intro hended
        simp [h.shut.mpr hended] at opened
      obtain ⟨left, -, hsent, hleft⟩ := h.inOrder
      have hnone : left = [] := by simpa [emptied] using hleft hrunning
      exact {
        state := h.state
        shut := by simp [hrunning]
        inOrder := ⟨[tick], by simp, by simp [hsent, hnone], fun _ => rfl⟩
        counted := h.counted
        account := h.account
        unblocked := h.unblocked
        reason := fun hended => absurd hended hrunning }

private theorem leaving (h : Served sink service lane) (running : lane.desk.activity ≠ .ended)
    (reason : lane.cancelled = true ∨
      (lane.desk.activity = .waiting ∧ lane.hungUp = true ∧ lane.desk.mailbox.content = none)) :
    Served sink service { lane with desk := lane.desk.stop } where
  state := h.state
  shut := by simp [Desk.stop, Mailbox.close]
  inOrder := by
    obtain ⟨left, hfew, hsent, -⟩ := h.inOrder
    exact ⟨left, hfew, hsent, fun hnot => absurd rfl hnot⟩
  counted := h.counted
  account := by
    cases h.account with
    | settled activity events idle answered complete =>
        exact .settled _ _ (.inr rfl) answered complete
    | unsettled call activity events busy last answered rest =>
        exact .unsettled call _ _ (.inr rfl) last answered rest
  unblocked := h.unblocked
  reason := by
    intro _
    rcases reason with hcancelled | ⟨hidle, hhungUp, hemptied⟩
    · exact .inl hcancelled
    · obtain ⟨left, -, hsent, hleft⟩ := h.inOrder
      have hnone : left = [] := by simpa [hemptied] using hleft running
      exact .inr ⟨hhungUp, by simp [hsent, hnone], h.settled hidle⟩

private theorem receiving (h : Served sink service lane) {tick : Tick} {verdict : Verdict Float}
    {next : Consensus Float} (idle : lane.desk.activity = .waiting)
    (content : lane.desk.mailbox.content = some tick)
    (evaluated : lane.desk.service.consensus.evaluate tick = (verdict, next)) :
    Served sink service
      { lane with
        desk := { lane.desk with
          service := { lane.desk.service with consensus := next }
          mailbox := { lane.desk.mailbox with content := none }
          activity := if publishes verdict then .calling lane.calls else .waiting }
        calls := if publishes verdict then lane.calls + 1 else lane.calls
        received := lane.received ++ [tick]
        events := lane.events ++ announce lane.desk.market verdict } := by
  have hrunning : lane.desk.activity ≠ .ended := by simp [idle]
  obtain ⟨hevents, hanswered⟩ := h.settled idle
  have hmarket : lane.desk.market = service.market := by rw [Desk.market, h.state]
  have hstate : (service.consensus.after lane.received).evaluate tick = (verdict, next) := by
    rw [h.state] at evaluated
    exact evaluated
  exact {
    state := by simp [h.state, hstate]
    shut := by cases hpublishes : publishes verdict <;> simp [h.opened hrunning]
    inOrder := by
      obtain ⟨left, -, hsent, hleft⟩ := h.inOrder
      have htaken : left = [tick] := by simpa [content] using hleft hrunning
      exact ⟨[], by simp, by simp [hsent, htaken], fun _ => rfl⟩
    counted := by
      simp only [Consensus.verdicts_append, Consensus.verdicts_cons, hstate,
        Consensus.verdicts_nil, callsOf_concat, h.counted]
    account := by
      have hscript := announced_concat sink 0 service lane.received tick
      rw [hstate, Nat.zero_add, ← h.counted, ← hevents] at hscript
      rw [hmarket]
      dsimp only at hscript ⊢
      rw [hscript]
      cases hpublishes : publishes verdict with
      | true => exact .unsettled lane.calls _ _ (.inl (if_pos rfl)) rfl hanswered (by simp)
      | false => exact .settled _ _ (.inl (by simp)) (by simpa using hanswered) (by simp)
    unblocked := by
      -- every call made so far has ended, or the service would not be waiting for a tick
      intro earlier other later heq
      rcases eq_concat_of_concat_eq heq with ⟨-, -, rfl⟩ | ⟨shorter, -, hreceived⟩
      · rwa [← h.counted]
      · exact h.unblocked _ _ _ hreceived
    reason := by
      intro hended
      cases hpublishes : publishes verdict <;> simp [hpublishes] at hended }

private theorem concluding (h : Served sink service lane) {call : Nat}
    (busy : lane.desk.activity = .calling call) (finite : sink call ≠ .never) :
    Served sink service
      { lane with
        desk := { lane.desk with activity := .waiting }
        events := lane.events ++ conclude lane.desk.market (sink call) } := by
  have hrunning : lane.desk.activity ≠ .ended := by simp [busy]
  obtain ⟨hlast, hanswered, hrest⟩ := h.unsettled busy
  have hmarket : lane.desk.market = service.market := by rw [Desk.market, h.state]
  obtain ⟨left, hfew, hsent, hleft⟩ := h.inOrder
  exact {
    state := h.state
    shut := by simp [h.opened hrunning]
    inOrder := ⟨left, hfew, hsent, fun _ => hleft hrunning⟩
    counted := h.counted
    account := by
      refine .settled _ _ (.inl rfl) ?_ (by rw [hmarket]; exact hrest)
      intro other hother
      rcases Nat.lt_or_ge other call with hearlier | hlate
      · exact hanswered other hearlier
      · have hsame : other = call := by
          dsimp only at hother
          omega
        rwa [hsame]
    unblocked := h.unblocked
    reason := fun hended => by cases hended }

private theorem serving (h : Served sink service lane) {answered : Bool} {after : Lane}
    (hserving : Serving sink lane answered after) : Served sink service after := by
  cases hserving with
  | finished ended => exact h
  | leaving running reason => exact h.leaving running reason
  | waiting idle uncancelled listening emptied => exact h
  | receiving tick verdict next idle uncancelled content evaluated =>
      exact h.receiving idle content evaluated
  | pending call busy uncancelled unanswered => exact h
  | concluding call busy uncancelled finite => exact h.concluding busy finite

private theorem turn (h : Served sink service lane) (action : Turn) :
    Served sink service (Lane.turn sink lane action) := by
  cases action with
  | send tick => exact h.sending (sending_of_send lane tick)
  | serve answered => exact h.serving (serving_of_serve h.numbered answered)
  | hangUp =>
      refine ⟨h.state, h.shut, h.inOrder, h.counted, h.account, h.unblocked, fun hended => ?_⟩
      rcases h.reason hended with hcancelled | ⟨-, hall⟩
      · exact .inl hcancelled
      · exact .inr ⟨rfl, hall⟩
  | cancel =>
      exact ⟨h.state, h.shut, h.inOrder, h.counted, h.account, h.unblocked, fun _ => .inl rfl⟩

theorem run (h : Served sink service lane) (turns : List Turn) :
    Served sink service (Lane.run sink lane turns) := by
  induction turns using List.reverseRecOn with
  | nil => exact h
  | append_singleton turns last ih =>
      rw [run_concat]
      exact ih.turn last

end Served

/-! ## After cancellation -/

/-- Nothing has been taken out or announced any more, and no call has been made. -/
structure Quiet (lane after : Lane) : Prop where
  received : after.received = lane.received
  events : after.events = lane.events
  calls : after.calls = lane.calls
  cancelled : after.cancelled = true

theorem Quiet.trans {after last : Lane} (h : Quiet lane after) (hnext : Quiet after last) :
    Quiet lane last :=
  ⟨hnext.received.trans h.received, hnext.events.trans h.events, hnext.calls.trans h.calls,
    hnext.cancelled⟩

private theorem Sending.quiet {tick : Tick} {after : Lane} (h : Sending lane tick after)
    (cancelled : lane.cancelled = true) :
    Quiet lane after ∧ after.desk.activity = lane.desk.activity := by
  cases h with
  | refused => exact ⟨⟨rfl, rfl, rfl, cancelled⟩, rfl⟩
  | posted listening opened emptied => exact ⟨⟨rfl, rfl, rfl, cancelled⟩, rfl⟩

private theorem Serving.quiet {answered : Bool} {after : Lane}
    (h : Serving sink lane answered after)
    (cancelled : lane.cancelled = true) : Quiet lane after ∧ after.desk.activity = .ended := by
  cases h with
  | finished ended => exact ⟨⟨rfl, rfl, rfl, cancelled⟩, ended⟩
  | leaving running reason => exact ⟨⟨rfl, rfl, rfl, cancelled⟩, rfl⟩
  | waiting idle uncancelled listening emptied => simp [cancelled] at uncancelled
  | receiving tick verdict next idle uncancelled content evaluated =>
      simp [cancelled] at uncancelled
  | pending call busy uncancelled unanswered => simp [cancelled] at uncancelled
  | concluding call busy uncancelled finite => simp [cancelled] at uncancelled

private theorem quiet_turn (h : Served sink service lane) (cancelled : lane.cancelled = true)
    (action : Turn) :
    Quiet lane (turn sink lane action) ∧
      (lane.desk.activity = .ended ∨ (∃ answered, action = .serve answered) →
        (turn sink lane action).desk.activity = .ended) := by
  cases action with
  | send tick =>
      obtain ⟨hquiet, hactivity⟩ := (sending_of_send lane tick).quiet cancelled
      refine ⟨hquiet, ?_⟩
      rintro (hended | ⟨answered, heq⟩)
      · exact hactivity.trans hended
      · cases heq
  | hangUp => exact ⟨⟨rfl, rfl, rfl, cancelled⟩, by simp [turn]⟩
  | cancel => exact ⟨⟨rfl, rfl, rfl, rfl⟩, by simp [turn]⟩
  | serve answered =>
      obtain ⟨hquiet, hended⟩ :=
        Serving.quiet (serving_of_serve h.numbered answered) cancelled
      exact ⟨hquiet, fun _ => hended⟩

theorem quiet_run (h : Served sink service lane) (cancelled : lane.cancelled = true)
    (turns : List Turn) :
    Quiet lane (run sink lane turns) ∧
      ((∃ answered, .serve answered ∈ turns) → (run sink lane turns).desk.activity = .ended) := by
  induction turns using List.reverseRecOn with
  | nil => exact ⟨⟨rfl, rfl, rfl, cancelled⟩, by simp⟩
  | append_singleton turns last ih =>
      obtain ⟨hquiet, hended⟩ := ih
      obtain ⟨hlast, hleft⟩ := quiet_turn (h.run turns) hquiet.cancelled last
      rw [run_concat]
      refine ⟨hquiet.trans hlast, ?_⟩
      rintro ⟨answered, hmem⟩
      rcases List.mem_append.mp hmem with hearlier | hnow
      · exact hleft (.inl (hended ⟨answered, hearlier⟩))
      · exact hleft (.inr ⟨answered, (List.mem_singleton.mp hnow).symm⟩)

/-! ## The end -/

/-- How many steps the service makes at most until it leaves, once nothing is posted any more. -/
def stepsLeft (lane : Lane) : Nat :=
  match lane.desk.activity with
  | .ended => 0
  | .waiting => if lane.desk.mailbox.content.isSome then 3 else 1
  | .calling _ => if lane.desk.mailbox.content.isSome then 4 else 2

private theorem stepsLeft_le (lane : Lane) : lane.stepsLeft ≤ 4 := by
  unfold stepsLeft
  split
  · simp
  · split <;> simp
  · split <;> simp

private theorem ended_of_stepsLeft (h : lane.stepsLeft = 0) : lane.desk.activity = .ended := by
  unfold stepsLeft at h
  cases hactivity : lane.desk.activity with
  | ended => rfl
  | waiting =>
      simp only [hactivity] at h
      split at h <;> cases h
  | calling call =>
      simp only [hactivity] at h
      split at h <;> cases h

def Stuck (sink : Sink) (lane : Lane) : Prop :=
  ∃ call, lane.desk.activity = .calling call ∧ sink call = .never

private theorem Serving.hungUp_eq {answered : Bool} {after : Lane}
    (h : Serving sink lane answered after) :
    after.hungUp = lane.hungUp ∧ after.cancelled = lane.cancelled := by
  cases h <;> exact ⟨rfl, rfl⟩

private theorem Serving.stepsLeft_le {answered : Bool} {after : Lane}
    (h : Serving sink lane answered after) (hungUp : lane.hungUp = true) :
    after.desk.activity = .ended ∨ Stuck sink after ∨
      after.stepsLeft + answered.toNat ≤ lane.stepsLeft := by
  have hstep : answered.toNat ≤ 1 := answered.toNat_le
  cases h with
  | finished ended => exact .inl ended
  | leaving running reason => exact .inl rfl
  | waiting idle uncancelled listening emptied => simp [hungUp] at listening
  | receiving tick verdict next idle uncancelled content evaluated =>
      refine .inr (.inr ?_)
      cases hpublishes : publishes verdict <;> simp [stepsLeft, idle, content] <;> omega
  | pending call busy uncancelled unanswered =>
      cases answered with
      | true => exact .inr (.inl ⟨call, busy, unanswered rfl⟩)
      | false => exact .inr (.inr (Nat.le_refl _))
  | concluding call busy uncancelled finite =>
      refine .inr (.inr ?_)
      cases hcontent : lane.desk.mailbox.content <;> simp [stepsLeft, busy, hcontent] <;> omega

private theorem Serving.stuck {answered : Bool} {after : Lane}
    (h : Serving sink lane answered after)
    (hstuck : Stuck sink lane) : after.desk.activity = .ended ∨ Stuck sink after := by
  obtain ⟨call, hbusy, hnever⟩ := hstuck
  cases h with
  | finished ended => exact .inl ended
  | leaving running reason => exact .inl rfl
  | waiting idle uncancelled listening emptied => simp [hbusy] at idle
  | receiving tick verdict next idle uncancelled content evaluated => simp [hbusy] at idle
  | pending other busy uncancelled unanswered => exact .inr ⟨call, hbusy, hnever⟩
  | concluding other busy uncancelled finite =>
      obtain rfl : call = other := by simpa [hbusy] using busy
      exact absurd hnever finite

private theorem Serving.ended {answered : Bool} {after : Lane}
    (h : Serving sink lane answered after)
    (hended : lane.desk.activity = .ended) : after.desk.activity = .ended := by
  cases h with
  | finished ended => exact ended
  | leaving running reason => rfl
  | waiting idle uncancelled listening emptied => exact hended
  | receiving tick verdict next idle uncancelled content evaluated => simp [hended] at idle
  | pending call busy uncancelled unanswered => exact hended
  | concluding call busy uncancelled finite => simp [hended] at busy

def serveAll (sink : Sink) (lane : Lane) (answers : List Bool) : Lane :=
  run sink lane (answers.map .serve)

theorem serving_serveAll_concat (h : Served sink service lane) (answers : List Bool)
    (answered : Bool) :
    Serving sink (serveAll sink lane answers) answered
      (serveAll sink lane (answers ++ [answered])) := by
  have hnumbered := (h.run (answers.map .serve)).numbered
  rw [serveAll, serveAll, List.map_append, List.map_singleton, run_concat]
  exact serving_of_serve hnumbered answered

private theorem hungUp_serveAll (h : Served sink service lane) (answers : List Bool) :
    (serveAll sink lane answers).hungUp = lane.hungUp ∧
      (serveAll sink lane answers).cancelled = lane.cancelled := by
  induction answers using List.reverseRecOn with
  | nil => exact ⟨rfl, rfl⟩
  | append_singleton answers answered ih =>
      have hsame := (serving_serveAll_concat h answers answered).hungUp_eq
      rwa [hsame.1, hsame.2]

private theorem stepsLeft_serveAll (h : Served sink service lane) (hungUp : lane.hungUp = true)
    (answers : List Bool) :
    (serveAll sink lane answers).desk.activity = .ended ∨ Stuck sink (serveAll sink lane answers) ∨
      (serveAll sink lane answers).stepsLeft + answers.count true ≤ lane.stepsLeft := by
  induction answers using List.reverseRecOn with
  | nil => exact .inr (.inr (Nat.le_refl _))
  | append_singleton answers answered ih =>
      have hserving := serving_serveAll_concat h answers answered
      rcases ih with hended | hstuck | hleft
      · exact .inl (hserving.ended hended)
      · rcases hserving.stuck hstuck with hended | hstuck
        · exact .inl hended
        · exact .inr (.inl hstuck)
      · rcases hserving.stepsLeft_le ((hungUp_serveAll h answers).1.trans hungUp)
          with hended | hstuck | hfewer
        · exact .inl hended
        · exact .inr (.inl hstuck)
        · refine .inr (.inr ?_)
          have hcount : (answers ++ [answered]).count true =
              answers.count true + answered.toNat := by
            cases answered <;> simp
          omega

/-- With time enough, a service ends iff it is cancelled or comes to the end of its ticks. -/
theorem ended_serveAll_iff (h : Served sink service lane) {answers : List Bool}
    (enough : 4 ≤ answers.count true) :
    (serveAll sink lane answers).desk.activity = .ended ↔
      lane.cancelled = true ∨ (lane.hungUp = true ∧
        ∀ call < (serveAll sink lane answers).calls, sink call ≠ .never) := by
  have hserved : Served sink service (serveAll sink lane answers) := h.run _
  obtain ⟨hhungUp, hcancelled⟩ := hungUp_serveAll h answers
  constructor
  · intro hended
    rcases hserved.reason hended with hcancel | ⟨hhang, -, -, hanswered⟩
    · exact .inl (hcancelled.symm.trans hcancel)
    · exact .inr ⟨hhungUp.symm.trans hhang, hanswered⟩
  · rintro (hcancel | ⟨hhang, hanswered⟩)
    · have hsome : true ∈ answers := List.count_pos_iff.mp (by omega)
      exact (quiet_run h hcancel _).2 ⟨true, List.mem_map_of_mem hsome⟩
    · rcases stepsLeft_serveAll h hhang answers with hended | ⟨call, hbusy, hnever⟩ | hleft
      · exact hended
      · exact absurd hnever (hanswered call (hserved.numbered call hbusy))
      · have hbound := stepsLeft_le lane
        exact ended_of_stepsLeft (by omega)

/--
Whatever is posted and whenever pricing is cancelled, the calls of the sink are those
that the ticks received so far lead to one after another, in the order in which they
were sent, and nothing is received behind a call that has not ended.  After
cancellation nothing is received, called or announced any more, and the next step is
the last one.  A service that is left to itself ends iff it is cancelled, or the other
side has hung up and every call ends that it makes.
-/
theorem served_until_cancelled (service : MarketService) (sink : Sink) (turns : List Turn) :
    let lane := run sink (opening service) turns
    Served sink service lane ∧
    publishedPrices service.market lane.events =
      (service.consensus.verdicts lane.received).filterMap Verdict.accepted? ∧
    (lane.cancelled = true → ∀ more,
      Quiet lane (run sink lane more) ∧
        ((∃ answered, .serve answered ∈ more) →
          (run sink lane more).desk.activity = .ended)) ∧
    (∀ answers, 4 ≤ answers.count true →
      ((serveAll sink lane answers).desk.activity = .ended ↔
        lane.cancelled = true ∨ (lane.hungUp = true ∧
          ∀ call < (serveAll sink lane answers).calls, sink call ≠ .never))) := by
  intro lane
  have hserved : Served sink service lane := (Served.opening sink service).run turns
  refine ⟨hserved, ?_, quiet_run hserved, fun answers => ended_serveAll_iff hserved⟩
  have hprices := publishedPrices_announced sink 0 service lane.received
  cases hserved.account with
  | settled activity events idle answered complete => rw [complete, hprices]
  | unsettled call activity events busy last answered rest =>
      rw [← hprices, ← rest, publishedPrices_append, publishedPrices_conclude, List.append_nil]

-- the second call never ends, so the third tick is lost when pricing is cancelled
example :
    let sink : Sink := fun call => if call = 1 then .never else .failed
    let lane := run sink (opening { market := "BTC" })
      [.send [1], .serve true, .serve true, .send [1], .serve true, .send [2], .serve true,
        .hangUp, .serve true, .cancel, .serve true]
    lane.sent = [[1], [1], [2]] ∧ lane.received = [[1], [1]] ∧ lane.calls = 2 ∧
      lane.desk.activity = .ended := by
  decide +kernel

end Lane

end IndexPrice.Pricing
