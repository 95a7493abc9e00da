import IndexPrice.Feed.Backoff
import IndexPrice.Feed.Stream.Session

/-!
# Reconnects

An admitted reconnect goes through stages.  It closes the socket of the session
before, dials, waits after a failed dial and begins again, until a dial succeeds, no
attempt is left or the stream is cancelled.  Its last step tells the session whether
there is a connection.

Several tasks may ask for reconnects, and the stages of one call may be interleaved
with anything.  A `Line` is a session together with every call admitted on it; an
`Event` is one step of one of the tasks around it.
-/

namespace IndexPrice.Feed.Stream

/-! ## One call -/

inductive Stage where
  | closing (schedule : Backoff)
  | checking (schedule : Backoff)
  | dialing (schedule : Backoff)
  | waiting (schedule : Backoff) (delay : Span)
  | reporting (connected : Bool)
  | done (connected : Bool)
  deriving DecidableEq, Repr

structure Surroundings where
  cancelled : Bool
  /-- Whether a dial at this step succeeds. -/
  reachable : Bool
  now : Instant
  deriving DecidableEq, Repr

namespace Stage

def first (settings : Settings) : Stage :=
  .closing { nextDelay := settings.initialBackoff, maxAttempts := settings.maxDialAttempts }

def isDone : Stage → Bool
  | .done _ => true
  | _ => false

def next (world : Surroundings) : Stage → Stage
  | .closing schedule => .checking schedule
  | .checking schedule => if world.cancelled then .reporting false else .dialing schedule
  | .dialing schedule =>
    if world.reachable then .reporting true
    else
      match schedule.recordFailure with
      | (some delay, schedule) => .waiting schedule delay
      | (none, _) => .reporting false
  | .waiting schedule _ => if world.cancelled then .reporting false else .closing schedule
  | .reporting connected => .done connected
  | .done connected => .done connected

def effect (world : Surroundings) (session : Session) : Stage → Session
  | .closing _ => { session with hasWriter := false }
  | .dialing _ => if world.reachable then { session with hasWriter := true } else session
  | .reporting true => { session with phase := .connected, connectedAt := world.now }
  | .reporting false => { session with phase := .disconnected }
  | _ => session

/-- More steps than a call can make from here. -/
def stepsLeft : Stage → Nat
  | .closing schedule => 4 * (schedule.maxAttempts - schedule.failures) + 6
  | .checking schedule => 4 * (schedule.maxAttempts - schedule.failures) + 5
  | .dialing schedule => 4 * (schedule.maxAttempts - schedule.failures) + 4
  | .waiting schedule _ => 4 * (schedule.maxAttempts - schedule.failures) + 7
  | .reporting _ => 1
  | .done _ => 0

def trace : List Surroundings → Stage → List Stage
  | [], stage => [stage]
  | world :: worlds, stage => stage :: trace worlds (stage.next world)

end Stage

/-! ## All calls -/

structure Line where
  session : Session
  calls : List Stage := []
  clock : Moment := 0
  cancelled : Bool := false
  deriving DecidableEq, Repr

inductive Event where
  | request
  | proceed (call : Nat) (reachable : Bool) (now : Instant)
  | pass (span : Span)
  | cancel
  /-- The socket is closed for good, after the stream was cancelled. -/
  | hangUp
  deriving DecidableEq, Repr

namespace Line

/-- Asks for a reconnect; the answer tells whether it was admitted. -/
def request (line : Line) (settings : Settings) : Bool × Line :=
  match line.session.enter? settings line.clock with
  | some session => (true, { line with session, calls := line.calls ++ [Stage.first settings] })
  | none => (false, line)

def proceed (line : Line) (call : Nat) (reachable : Bool) (now : Instant) : Line :=
  match line.calls[call]? with
  | none => line
  | some stage =>
    let world : Surroundings := { cancelled := line.cancelled, reachable, now }
    { line with
      session := stage.effect world line.session
      calls := line.calls.set call (stage.next world) }

def step (settings : Settings) (line : Line) : Event → Line
  | .request => (line.request settings).2
  | .proceed call reachable now => line.proceed call reachable now
  | .pass span => { line with clock := line.clock + span }
  | .cancel => { line with cancelled := true }
  | .hangUp =>
    if line.cancelled then { line with session := { line.session with hasWriter := false } }
    else line

def run (settings : Settings) (line : Line) (events : List Event) : Line :=
  events.foldl (step settings) line

def underWay (line : Line) : List Stage := line.calls.filter (!·.isDone)

def lastConnected (line : Line) : Bool := line.calls.getLast? = some (.done true)

def proceedLast (reachable : Bool) (now : Instant) : Nat → Line → Line
  | 0, line => line
  | steps + 1, line =>
    proceedLast reachable now steps (line.proceed (line.calls.length - 1) reachable now)

def finish (line : Line) (reachable : Bool) (now : Instant) : Line :=
  proceedLast reachable now ((line.calls.getLast?.map Stage.stepsLeft).getD 0) line

end Line

end IndexPrice.Feed.Stream
