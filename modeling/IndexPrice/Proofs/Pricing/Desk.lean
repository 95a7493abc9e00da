import IndexPrice.Pricing.Desk

/-!
# What happens at a desk

Each way in which a pass can treat a desk and each step that its service can
make, with the condition under which it happens.  Everything known about runs of
pricing is derived from these two lists of cases.
-/

namespace IndexPrice.Pricing.Desk

/-! ## A pass looks at a desk -/

inductive Forwarding (desk : Desk) (stores : Stores) (now : Instant) :
    Except SamplingFault (Bool × Desk) → Prop
  | nothing (stale : desk.freshPrices stores now = []) :
      Forwarding desk stores now (.ok (false, desk))
  | posted (fresh : desk.freshPrices stores now ≠ []) (opened : desk.mailbox.closed = false)
      (emptied : desk.mailbox.content = none) :
      Forwarding desk stores now
        (.ok (true, { desk with mailbox := ⟨some (desk.freshPrices stores now), false⟩ }))
  | stalled (fresh : desk.freshPrices stores now ≠ []) (opened : desk.mailbox.closed = false)
      (full : desk.mailbox.content ≠ none) :
      Forwarding desk stores now (.error (.stalled desk.market))
  | gone (fresh : desk.freshPrices stores now ≠ []) (closed : desk.mailbox.closed = true) :
      Forwarding desk stores now (.error (.gone desk.market))

theorem forwarding_of_forward {desk : Desk} {stores : Stores} {now : Instant}
    {outcome : Except SamplingFault (Bool × Desk)} (h : desk.forward stores now = outcome) :
    Forwarding desk stores now outcome := by
  subst h
  unfold forward
  dsimp only
  split
  · next hempty => exact .nothing (List.isEmpty_iff.mp hempty)
  · next hsome =>
      have hfresh : desk.freshPrices stores now ≠ [] := by simpa using hsome
      cases hclosed : desk.mailbox.closed with
      | true =>
          simp only [post, Mailbox.post, hclosed, if_true, Except.map]
          exact .gone hfresh hclosed
      | false =>
          cases hcontent : desk.mailbox.content with
          | none =>
              simp only [post, Mailbox.post, hclosed, hcontent, Except.map]
              exact .posted hfresh hclosed hcontent
          | some tick =>
              simp only [post, Mailbox.post, hclosed, hcontent, Except.map]
              exact .stalled hfresh hclosed (by simp [hcontent])

theorem forward_of_forwarding {desk : Desk} {stores : Stores} {now : Instant}
    {outcome : Except SamplingFault (Bool × Desk)} (h : Forwarding desk stores now outcome) :
    desk.forward stores now = outcome := by
  unfold forward
  cases h with
  | nothing stale => simp [stale]
  | posted fresh opened emptied => simp [fresh, post, Mailbox.post, opened, emptied, Except.map]
  | stalled fresh opened full =>
      obtain ⟨tick, hcontent⟩ := Option.ne_none_iff_exists'.mp full
      simp [fresh, post, Mailbox.post, opened, hcontent, Except.map]
  | gone fresh closed => simp [fresh, post, Mailbox.post, closed, Except.map]

/-! ## A service makes a step -/

inductive Serving (desk : Desk) (cancelled hungUp : Bool) (calls : Nat) :
    SinkOutcome → List Event → Desk → Prop
  | finished (outcome : SinkOutcome) (ended : desk.activity = .ended) :
      Serving desk cancelled hungUp calls outcome [] desk
  | leaving (outcome : SinkOutcome) (running : desk.activity ≠ .ended)
      (reason : cancelled = true ∨
        (desk.activity = .waiting ∧ hungUp = true ∧ desk.mailbox.content = none)) :
      Serving desk cancelled hungUp calls outcome [] desk.stop
  | waiting (outcome : SinkOutcome) (idle : desk.activity = .waiting)
      (uncancelled : cancelled = false) (emptied : desk.mailbox.content = none) :
      Serving desk cancelled hungUp calls outcome [] desk
  | accepting (outcome : SinkOutcome) (tick : Tick) (accepted : Accepted Float)
      (next : Consensus Float) (idle : desk.activity = .waiting)
      (uncancelled : cancelled = false) (content : desk.mailbox.content = some tick)
      (verdict : desk.service.consensus.evaluate tick = (.ok accepted, next)) :
      Serving desk cancelled hungUp calls outcome
        [.accepted desk.market accepted.forced, .published desk.market accepted.price]
        { desk with
          service := { desk.service with consensus := next }
          mailbox := { desk.mailbox with content := none }
          activity := .calling calls }
  | rejecting (outcome : SinkOutcome) (tick : Tick) (rejection : Rejection Float)
      (next : Consensus Float) (idle : desk.activity = .waiting)
      (uncancelled : cancelled = false) (content : desk.mailbox.content = some tick)
      (verdict : desk.service.consensus.evaluate tick = (.error rejection, next)) :
      Serving desk cancelled hungUp calls outcome [.rejected desk.market rejection.reason]
        { desk with
          service := { desk.service with consensus := next }
          mailbox := { desk.mailbox with content := none } }
  | pending (call : Nat) (busy : desk.activity = .calling call)
      (uncancelled : cancelled = false) : Serving desk cancelled hungUp calls .never [] desk
  | concluding (outcome : SinkOutcome) (call : Nat) (busy : desk.activity = .calling call)
      (uncancelled : cancelled = false) (answered : outcome ≠ .never) :
      Serving desk cancelled hungUp calls outcome
        (MarketService.conclude desk.market outcome) { desk with activity := .waiting }

theorem drain_of_empty {desk : Desk} (h : desk.mailbox.content = none) :
    desk.drain = (none, desk) := by
  obtain ⟨service, maxUseAge, sources, ⟨content, closed⟩, activity⟩ := desk
  cases h
  rfl

theorem serving_of_step {desk after : Desk} {cancelled hungUp : Bool} {calls : Nat}
    {outcome : SinkOutcome} {events : List Event}
    (h : desk.step cancelled hungUp calls outcome = (events, after)) :
    Serving desk cancelled hungUp calls outcome events after := by
  unfold step at h
  cases hactivity : desk.activity with
  | ended =>
      simp only [hactivity] at h
      cases h
      exact .finished outcome hactivity
  | waiting =>
      simp only [hactivity] at h
      cases cancelled with
      | true =>
          cases h
          exact .leaving outcome (by simp [hactivity]) (.inl rfl)
      | false =>
          cases hcontent : desk.mailbox.content with
          | none =>
              simp only [drain_of_empty hcontent] at h
              cases hungUp with
              | true =>
                  cases h
                  exact .leaving outcome (by simp [hactivity]) (.inr ⟨hactivity, rfl, hcontent⟩)
              | false =>
                  cases h
                  exact .waiting outcome hactivity rfl hcontent
          | some tick =>
              simp only [drain, Mailbox.take, hcontent, serve, MarketService.evaluate] at h
              cases hverdict : desk.service.consensus.evaluate tick with
              | mk verdict next =>
                  cases verdict with
                  | ok accepted =>
                      simp only [hverdict] at h
                      cases h
                      exact .accepting outcome tick accepted next hactivity rfl hcontent hverdict
                  | error rejection =>
                      simp only [hverdict] at h
                      cases h
                      have hserving : Serving desk false hungUp calls outcome _ _ :=
                        .rejecting outcome tick rejection next hactivity rfl hcontent hverdict
                      rw [hactivity] at hserving
                      exact hserving
  | calling call =>
      simp only [hactivity] at h
      cases cancelled with
      | true =>
          cases h
          exact .leaving outcome (by simp [hactivity]) (.inl rfl)
      | false =>
          cases outcome with
          | never =>
              cases h
              exact .pending call hactivity rfl
          | delivered =>
              cases h
              exact .concluding .delivered call hactivity rfl (by simp)
          | failed =>
              cases h
              exact .concluding .failed call hactivity rfl (by simp)

theorem Serving.ended_of_cancelled {desk after : Desk} {hungUp : Bool} {calls : Nat}
    {outcome : SinkOutcome} {events : List Event}
    (h : desk.Serving true hungUp calls outcome events after) :
    events = [] ∧ after.activity = .ended := by
  cases h with
  | finished outcome ended => exact ⟨rfl, ended⟩
  | leaving outcome running reason => exact ⟨rfl, rfl⟩
  | waiting outcome idle uncancelled emptied => cases uncancelled
  | accepting outcome tick accepted next idle uncancelled content verdict => cases uncancelled
  | rejecting outcome tick rejection next idle uncancelled content verdict => cases uncancelled
  | pending call busy uncancelled => cases uncancelled
  | concluding outcome call busy uncancelled answered => cases uncancelled

end IndexPrice.Pricing.Desk
