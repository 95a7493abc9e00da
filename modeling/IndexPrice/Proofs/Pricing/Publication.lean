import IndexPrice.Proofs.Pricing.Ledger

/-!
# One answer for every tick

A market service evaluates every tick once and hands an accepted price to the sink
once.  The sink may answer a call with an error; that is announced after the call and
has no part in anything that comes later.
-/

namespace IndexPrice.Pricing.MarketService

variable {α : Type}

/-! ## Sequences of ticks -/

/-- What is announced of one tick, if the sink answers its call well or with an error. -/
inductive Recorded (market : String) : Bool → Verdict α → List (Event α) → Prop
  | inconsistent (answer : Bool) (median : α) :
      Recorded market answer (.error (.inconsistent median)) [.rejected market "inconsistent"]
  | noUsableData (answer : Bool) :
      Recorded market answer (.error .noUsableData) [.rejected market "no_usable_data"]
  | priceJump (answer : Bool) (lastAccepted candidate : α) (runLength : Nat) :
      Recorded market answer (.error (.priceJump lastAccepted candidate runLength))
        [.rejected market "price_jump"]
  | delivered (accepted : Accepted α) :
      Recorded market true (.ok accepted)
        [.accepted market accepted.forced, .published market accepted.price]
  | failed (accepted : Accepted α) :
      Recorded market false (.ok accepted)
        [.accepted market accepted.forced, .published market accepted.price, .sinkFailed market]

def answering (answers : Nat → Bool) : Sink := fun call =>
  if answers call then .delivered else .failed

def callsOf (verdicts : List (Verdict α)) : Nat := verdicts.countP publishes

theorem callsOf_concat (verdicts : List (Verdict α)) (verdict : Verdict α) :
    callsOf (verdicts ++ [verdict]) =
      if publishes verdict then callsOf verdicts + 1 else callsOf verdicts := by
  unfold callsOf
  cases hpublishes : publishes verdict <;> simp [hpublishes]

private theorem publishedPrices_announce (market : String) (verdict : Verdict α) :
    publishedPrices market (announce market verdict) = verdict.accepted?.toList := by
  cases verdict with
  | ok accepted =>
      simp [announce, publishedPrices, Event.published?, Verdict.accepted?, List.filterMap_cons]
  | error rejection => rfl

@[simp] theorem publishedPrices_conclude (market : String) (outcome : SinkOutcome) :
    publishedPrices market (conclude market outcome : List (Event α)) = [] := by
  cases outcome <;> rfl

variable [PriceArithmetic α]

def after (sink : Sink) (calls : Nat) (service : MarketService α) :
    List (Tick α) → Nat × MarketService α
  | [] => (calls, service)
  | tick :: ticks =>
    let (verdict, _, next) := service.process tick (sink calls)
    after sink (if publishes verdict then calls + 1 else calls) next ticks

def announced (sink : Sink) (calls : Nat) (service : MarketService α) (ticks : List (Tick α)) :
    List (Event α) :=
  (processAll sink calls service ticks).flatMap (·.2)

variable {service : MarketService α}

private theorem recorded_process (service : MarketService α) (tick : Tick α) (answers : Nat → Bool)
    (call : Nat) :
    Recorded service.market (answers call) (service.process tick (answering answers call)).1
      (service.process tick (answering answers call)).2.1 := by
  unfold process evaluate
  cases hverdict : service.consensus.evaluate tick with
  | mk verdict next =>
      cases verdict with
      | error rejection =>
          cases rejection with
          | inconsistent median => exact .inconsistent _ median
          | noUsableData => exact .noUsableData _
          | priceJump lastAccepted candidate runLength =>
              exact .priceJump _ lastAccepted candidate runLength
      | ok accepted =>
          cases hanswer : answers call with
          | true =>
              simp only [answering, hanswer]
              exact .delivered accepted
          | false =>
              simp only [answering, hanswer]
              exact .failed accepted

private theorem process_verdict (service : MarketService α) (tick : Tick α)
    (outcome : SinkOutcome) :
    (service.process tick outcome).1 = (service.consensus.evaluate tick).1 := rfl

private theorem process_service (service : MarketService α) (tick : Tick α)
    (outcome : SinkOutcome) :
    (service.process tick outcome).2.2 =
      { service with consensus := (service.consensus.evaluate tick).2 } := rfl

theorem after_eq (sink : Sink) (calls : Nat) (service : MarketService α) (ticks : List (Tick α)) :
    after sink calls service ticks =
      (calls + callsOf (service.consensus.verdicts ticks),
        { service with consensus := service.consensus.after ticks }) := by
  induction ticks generalizing calls service with
  | nil => rfl
  | cons tick ticks ih =>
      have hstep : after sink calls service (tick :: ticks) =
          after sink
            (if publishes (service.consensus.evaluate tick).1 then calls + 1 else calls)
            { service with consensus := (service.consensus.evaluate tick).2 } ticks := rfl
      rw [hstep, ih]
      cases hpublishes : publishes (service.consensus.evaluate tick).1 with
      | true =>
          simp [callsOf, hpublishes]
          omega
      | false => simp [callsOf, hpublishes]

theorem processAll_append (sink : Sink) (calls : Nat) (service : MarketService α)
    (earlier later : List (Tick α)) :
    processAll sink calls service (earlier ++ later) =
      processAll sink calls service earlier ++
        processAll sink (after sink calls service earlier).1
          (after sink calls service earlier).2 later := by
  induction earlier generalizing calls service with
  | nil => rfl
  | cons tick earlier ih => simp [processAll, after, ih]

theorem processAll_concat (sink : Sink) (calls : Nat) (service : MarketService α)
    (ticks : List (Tick α)) (tick : Tick α) :
    processAll sink calls service (ticks ++ [tick]) = processAll sink calls service ticks ++
      [(((after sink calls service ticks).2.process tick
          (sink (after sink calls service ticks).1)).1,
        ((after sink calls service ticks).2.process tick
          (sink (after sink calls service ticks).1)).2.1)] := by
  rw [processAll_append]
  rfl

theorem announced_concat (sink : Sink) (calls : Nat) (service : MarketService α)
    (ticks : List (Tick α)) (tick : Tick α) :
    announced sink calls service (ticks ++ [tick]) = announced sink calls service ticks ++
      (announce service.market ((service.consensus.after ticks).evaluate tick).1 ++
        if publishes ((service.consensus.after ticks).evaluate tick).1 then
          conclude service.market (sink (calls + callsOf (service.consensus.verdicts ticks)))
        else []) := by
  rw [announced, processAll_concat, List.flatMap_append, after_eq, List.flatMap_singleton]
  rfl

@[simp] theorem length_processAll (sink : Sink) (calls : Nat) (service : MarketService α)
    (ticks : List (Tick α)) : (processAll sink calls service ticks).length = ticks.length := by
  induction ticks generalizing calls service with
  | nil => rfl
  | cons tick ticks ih => simp [processAll, ih]

private theorem verdicts_processAll (sink : Sink) (calls : Nat) (service : MarketService α)
    (ticks : List (Tick α)) :
    (processAll sink calls service ticks).map (·.1) = service.consensus.verdicts ticks := by
  induction ticks generalizing calls service with
  | nil => rfl
  | cons tick ticks ih =>
      rw [processAll, List.map_cons, ih, process_service, process_verdict,
        Consensus.verdicts_cons]

private theorem recorded_processAll {answers : Nat → Bool} {calls : Nat} {ticks : List (Tick α)}
    {index : Nat} {verdict : Verdict α} {events : List (Event α)}
    (h : (processAll (answering answers) calls service ticks)[index]? = some (verdict, events)) :
    Recorded service.market
      (answers (calls + callsOf (service.consensus.verdicts (ticks.take index))))
        verdict events := by
  -- from the end, so that the calls before the last tick are those of all other ticks
  induction ticks using List.reverseRecOn with
  | nil => cases h
  | append_singleton ticks tick ih =>
      rw [processAll_concat] at h
      rcases Nat.lt_or_ge index ticks.length with hearlier | hlast
      · rw [List.getElem?_append_left (by simpa using hearlier)] at h
        rw [List.take_append_of_le_length hearlier.le]
        exact ih h
      · obtain ⟨hindex, hfound⟩ := List.getElem?_eq_some_iff.mp h
        have hsame : index = ticks.length := by
          simp at hindex
          omega
        subst hsame
        have hrecorded := recorded_process
          (after (answering answers) calls service ticks).2 tick answers
          (after (answering answers) calls service ticks).1
        simp only [List.getElem_append_right, length_processAll, Nat.le_refl, Nat.sub_self,
          List.getElem_singleton, Prod.mk.injEq] at hfound
        rw [hfound.1, hfound.2, after_eq] at hrecorded
        rw [List.take_left]
        exact hrecorded

/-! ## Published prices -/

private theorem publishedPrices_process (service : MarketService α) (tick : Tick α)
    (outcome : SinkOutcome) :
    publishedPrices service.market (service.process tick outcome).2.1 =
      (service.consensus.evaluate tick).1.accepted?.toList := by
  have hconcluded : publishedPrices service.market
      (if publishes (service.consensus.evaluate tick).1 then conclude service.market outcome
        else [] : List (Event α)) = [] := by
    split
    · exact publishedPrices_conclude _ _
    · rfl
  calc publishedPrices service.market (service.process tick outcome).2.1
      = publishedPrices service.market
          (announce service.market (service.consensus.evaluate tick).1) ++ [] := by
        rw [← hconcluded, ← publishedPrices_append]
        rfl
    _ = (service.consensus.evaluate tick).1.accepted?.toList := by
        rw [List.append_nil, publishedPrices_announce]

theorem publishedPrices_announced (sink : Sink) (calls : Nat) (service : MarketService α)
    (ticks : List (Tick α)) :
    publishedPrices service.market (announced sink calls service ticks) =
      (service.consensus.verdicts ticks).filterMap Verdict.accepted? := by
  induction ticks generalizing calls service with
  | nil => rfl
  | cons tick ticks ih =>
      have hrest := ih (if publishes (service.consensus.evaluate tick).1 then calls + 1 else calls)
        { service with consensus := (service.consensus.evaluate tick).2 }
      rw [announced] at hrest ⊢
      rw [processAll, List.flatMap_cons, publishedPrices_append, publishedPrices_process]
      rw [process_verdict, process_service, hrest, Consensus.verdicts_cons, List.filterMap_cons]
      cases (service.consensus.evaluate tick).1.accepted? <;> rfl

/--
Whatever a sink answers, a service evaluates each tick once and announces its verdict
once.  Exactly the accepted ticks call the sink, each of them once, with the accepted
price and in order, and an error is announced after a call that fails and nowhere
else.  Verdicts, published prices and the service in the end are the same for any two
sinks that answer every call.
-/
theorem published_exactly_once (service : MarketService α) (calls : Nat) (ticks : List (Tick α))
    (answers : Nat → Bool) :
    (processAll (answering answers) calls service ticks).map (·.1) =
      service.consensus.verdicts ticks ∧
    (∀ index verdict events,
      (processAll (answering answers) calls service ticks)[index]? = some (verdict, events) →
        Recorded service.market
          (answers (calls + callsOf (service.consensus.verdicts (ticks.take index))))
          verdict events) ∧
    publishedPrices service.market (announced (answering answers) calls service ticks) =
      (service.consensus.verdicts ticks).filterMap Verdict.accepted? ∧
    (∀ later, processAll (answering answers) calls service (ticks ++ later) =
      processAll (answering answers) calls service ticks ++
        processAll (answering answers) (after (answering answers) calls service ticks).1
          (after (answering answers) calls service ticks).2 later) ∧
    after (answering answers) calls service ticks =
      (calls + callsOf (service.consensus.verdicts ticks),
        { service with consensus := service.consensus.after ticks }) ∧
    (∀ others : Nat → Bool,
      (processAll (answering others) calls service ticks).map (·.1) =
        (processAll (answering answers) calls service ticks).map (·.1) ∧
      publishedPrices service.market (announced (answering others) calls service ticks) =
        publishedPrices service.market (announced (answering answers) calls service ticks) ∧
      after (answering others) calls service ticks =
        after (answering answers) calls service ticks) := by
  refine ⟨verdicts_processAll _ _ _ _, fun index verdict events => recorded_processAll,
    publishedPrices_announced _ _ _ _, processAll_append _ _ _ _, after_eq _ _ _ _,
    fun others => ⟨?_, ?_, ?_⟩⟩
  · rw [verdicts_processAll, verdicts_processAll]
  · rw [publishedPrices_announced, publishedPrices_announced]
  · rw [after_eq, after_eq]

end IndexPrice.Pricing.MarketService
