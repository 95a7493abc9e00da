import IndexPrice.Pricing.System

/-!
# Pricing by the clock

Passes begin once in an interval.  Between two of them every market task has the time
to do all it can, so a run is determined by the clock, the sources and the sink.
-/

namespace IndexPrice.Pricing

namespace System

def outcomeAt (system : System) (sink : Sink) (index : Nat) : SinkOutcome :=
  match (system.desks[index]?).map Desk.activity with
  | some (.calling call) => sink call
  | _ => .never

def serveSteps (sink : Sink) (index : Nat) : Nat → System → List Event × System
  | 0, system => ([], system)
  | steps + 1, system =>
    let (events, after) := system.serve index (system.outcomeAt sink index)
    let (later, last) := serveSteps sink index steps after
    (events ++ later, last)

/-- A market task takes a tick, hears from the sink and leaves, at most. -/
def stepsToRest : Nat := 3

def settleAll (sink : Sink) : List Nat → System → List Event × System
  | [], system => ([], system)
  | index :: indices, system =>
    let (events, after) := serveSteps sink index stepsToRest system
    let (later, last) := settleAll sink indices after
    (events ++ later, last)

def settle (system : System) (sink : Sink) : List Event × System :=
  settleAll sink (List.range system.desks.length) system

def sampleSteps (now : Instant) : Nat → System → System
  | 0, system => system
  | steps + 1, system => sampleSteps now steps (system.sample now)

def pass (system : System) (now : Instant) : System :=
  sampleSteps now (system.desks.length + 2) system

def shutDown (system : System) (sink : Sink) (now : Instant) : List Event × System :=
  (system.cancel.sample now).settle sink

end System

structure Schedule where
  system : System
  interval : Span
  elapsed : Span := 0
  nextPass : Span

namespace Schedule

/-- The longest time that the clock can tell. -/
def longestClock : Span := Span.ofSeconds (Nat.pow 2 63)

/-- Begins at a reading of the clock.  The clock must be able to tell the first pass. -/
def start (system : System) (interval clock : Span) : Schedule where
  system := if clock + interval < longestClock then system
    else { system with sampler := .unscheduled }
  interval := interval
  nextPass := interval

def passesBefore (schedule : Schedule) (time : Span) : Nat :=
  if schedule.nextPass < time then (time - 1 - schedule.nextPass) / schedule.interval + 1 else 0

def passes (sink : Sink) (now : Instant) : Nat → System → List Event × System
  | 0, system => ([], system)
  | count + 1, system =>
    let (events, after) := (system.pass now).settle sink
    let (later, last) := passes sink now count after
    (events ++ later, last)

def advance (schedule : Schedule) (sink : Sink) (span : Span) (now : Instant) :
    List Event × Schedule :=
  let time := schedule.elapsed + span
  let count := schedule.passesBefore time
  let (earlier, settled) := schedule.system.settle sink
  let (events, system) := passes sink now count settled
  (earlier ++ events, { schedule with
    system
    elapsed := time
    nextPass := schedule.nextPass + count * schedule.interval })

end Schedule

end IndexPrice.Pricing
