import IndexPrice.Time.Instant

/-!
# Sessions

A stream has at most one session.  A session begins with a reconnect, which is
admitted only if no other is under way and the one before did not start too recently.
-/

namespace IndexPrice.Feed.Stream

structure Settings where
  pingInterval : Span := Span.ofSeconds 25
  minReconnectInterval : Span := Span.ofSeconds 20
  maxDialAttempts : Nat := 10
  initialBackoff : Span := Span.ofSeconds 1
  deriving DecidableEq, Repr

inductive Reason where
  | initialConnection
  | pingTimeout
  | dataTimeout
  | writeError
  | readError
  deriving DecidableEq, Repr

def Reason.label : Reason → String
  | .initialConnection => "initial connection"
  | .pingTimeout => "ping timeout"
  | .dataTimeout => "data timeout"
  | .writeError => "web socket write error"
  | .readError => "web socket read error"

inductive Phase where
  | disconnected
  | connecting
  | connected
  deriving DecidableEq, Repr

/-- A reading of a clock that never goes back. -/
abbrev Moment := Nat

structure Session where
  phase : Phase := .disconnected
  /-- When the session was established; before the first one, when the stream was created. -/
  connectedAt : Instant
  lastStart : Option Moment := none
  /-- Whether there is a socket to write to. -/
  hasWriter : Bool := false
  deriving DecidableEq, Repr

namespace Session

def admits (session : Session) (settings : Settings) (clock : Moment) : Bool :=
  session.phase != .connecting &&
    match session.lastStart with
    | none => true
    | some start => decide (settings.minReconnectInterval ≤ clock - start)

def enter? (session : Session) (settings : Settings) (clock : Moment) : Option Session :=
  if session.admits settings clock then
    some { session with phase := .connecting, lastStart := some clock }
  else none

def isWritable (session : Session) : Bool :=
  session.phase = .connected && session.hasWriter

end Session

end IndexPrice.Feed.Stream
