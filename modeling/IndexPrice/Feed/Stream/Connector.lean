import IndexPrice.Feed.Stream.Liveness
import IndexPrice.Feed.Stream.Reconnect
import IndexPrice.Metrics.Basic

/-!
# Connectors

A connector keeps the session of one streaming exchange and a store of the prices
that come over it.  What a frame does depends on the frame alone: only a price can
change the store, and only the end of the session asks for a reconnect.
-/

namespace IndexPrice.Feed.Stream

structure Connector (Quote : Type) where
  format : Format Quote
  markets : Markets
  settings : Settings := {}

inductive Incoming where
  | frame (raw : RawFrame)
  /-- A frame that belongs to no message. -/
  | loose (bytes : Payload)
  | close
  deriving DecidableEq, Repr

inductive Reaction where
  | none
  | pong (payload : Payload)
  | reconnect
  deriving DecidableEq, Repr

structure Received where
  store : PriceStore := NameMap.empty
  lastPong : Option Instant := none
  metrics : Metrics := {}

structure Connection where
  line : Line
  received : Received := {}
  /-- What was sent, by session. -/
  sent : List (List RawFrame) := []

namespace Connector

variable {Quote : Type}

def url (connector : Connector Quote) : String := connector.format.url (tickersOf connector.markets)

/-- The market and the sample of a quote, if the instrument is known and the quote is sound. -/
def sample? (connector : Connector Quote) (now : Instant) (instrument : String) (quote : Quote) :
    Option (String × Sample) := do
  let (id, market) ← (routes connector.markets).get? instrument
  match connector.format.sample now quote market.multiplier with
  | .ok sample => return (id, sample)
  | .error _ => none

def take (connector : Connector Quote) (received : Received) (entry : String × Sample) : Received :=
  match received.store.offer entry.1 entry.2 with
  | (true, store) =>
    { received with store, metrics := received.metrics.sampleStored connector.format.exchange }
  | (false, _) => received

def receive (connector : Connector Quote) (now : Instant) (received : Received) :
    Incoming → Reaction × Received
  | .close => (.reconnect, received)
  | .loose _ => (.none, received)
  | .frame raw =>
    match connector.format.classify raw with
    | .price instrument quote =>
      match connector.sample? now instrument quote with
      | some entry => (.none, connector.take received entry)
      | none => (.none, received)
    | .pong => (.none, { received with lastPong := some now })
    | .ping => ((connector.format.pong.map Reaction.pong).getD .none, received)
    | .ignored => (.none, received)

/-! ## Sessions -/

def create (created : Instant) : Connection where
  line := { session := { connectedAt := created } }

def greeting (connector : Connector Quote) : List RawFrame :=
  (connector.format.subscription (tickersOf connector.markets)).toList.map .text

/-- A reconnect from start to end; the answer tells whether there is a new session. -/
def reconnect (connector : Connector Quote) (connection : Connection) (reason : Reason)
    (reachable : Bool) (now : Instant) : Bool × Connection :=
  let exchange := connector.format.exchange
  match connection.line.request connector.settings with
  | (false, _) => (false, connection)
  | (true, line) =>
    let line := line.finish reachable now
    let connected := line.lastConnected
    let metrics := (connection.received.metrics.reconnectStarted exchange reason.label).connectedSet
      exchange (if connected then 1.0 else 0.0)
    (connected, {
      line
      received := { connection.received with metrics }
      sent := if connected then connection.sent ++ [connector.greeting] else connection.sent })

def write (connection : Connection) (frame : RawFrame) : Connection :=
  if connection.line.session.isWritable then
    { connection with sent := connection.sent.modify (connection.sent.length - 1) (· ++ [frame]) }
  else connection

/-- One liveness check with its remedy; no answer if a span would be too long. -/
def checkLiveness? (connector : Connector Quote) (connection : Connection) (reachable : Bool)
    (now : Instant) : Option Connection :=
  let seen : Observed := {
    connectedAt := connection.line.session.connectedAt
    store := connection.received.store
    lastPong := connection.received.lastPong
    now }
  (remedy? connector.format connector.markets connector.settings seen).map fun remedy =>
    match remedy with
    | .none => connection
    | .reconnect reason => (connector.reconnect connection reason reachable now).2
    | .ping payload => write connection (.ping payload)

def cancel (connection : Connection) : Connection :=
  { connection with line := { connection.line with cancelled := true } }

def offer (connection : Connection) (market : String) (sample : Sample) : Bool × Connection :=
  let (isNews, store) := connection.received.store.offer market sample
  (isNews, { connection with received := { connection.received with store } })

end Connector

end IndexPrice.Feed.Stream
