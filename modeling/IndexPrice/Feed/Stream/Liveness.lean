import IndexPrice.Feed.Market
import IndexPrice.Feed.Stream.Format
import IndexPrice.Feed.Stream.Session
import IndexPrice.Price.Store

/-!
# Liveness

A stream is checked once in a ping interval.  A market without data for three times
its age calls for a reconnect; so does a session in which neither data nor an answer
to a ping came for three ping intervals.  Times count from the start of the session:
what an earlier session received says nothing about this one.
-/

namespace IndexPrice.Feed.Stream

structure Observed where
  connectedAt : Instant
  store : PriceStore
  lastPong : Option Instant
  now : Instant

inductive Remedy where
  | none
  | reconnect (reason : Reason)
  | ping (payload : Payload)
  deriving DecidableEq, Repr

namespace Observed

/-- The time since something happened, or since the session started if that is later. -/
def quiet (seen : Observed) (last : Option Instant) : Span :=
  seen.now.elapsed
    (match last with
    | some time => if time.before seen.connectedAt then seen.connectedAt else time
    | none => seen.connectedAt)

def dataQuiet (seen : Observed) (market : String) : Span :=
  seen.quiet ((seen.store.load market).map (·.time))

def pongQuiet (seen : Observed) : Span := seen.quiet seen.lastPong

/--
Whether a market of the list is silent.  Markets after the first silent one are not
looked at; there is no answer if three times an age is longer than the longest span.
-/
def anySilent? (seen : Observed) : List (String × Market) → Option Bool
  | [] => some false
  | (id, market) :: rest =>
    match market.maxUseAge.triple? with
    | none => none
    | some limit => if limit < seen.dataQuiet id then some true else anySilent? seen rest

/-- No quiet time counts for longer than this. -/
def longestQuiet : Span := Span.ofSeconds 3600

/-- The time since the last sign of life: data for any market, or an answer to a ping. -/
def leastQuiet (seen : Observed) (markets : Markets) : Span :=
  min seen.pongQuiet
    (markets.names.foldl (fun least id => min least (seen.dataQuiet id)) longestQuiet)

def pingRemedy? (seen : Observed) (markets : Markets) (interval : Span) (payload : Payload)
    (always : Bool) : Option Remedy :=
  match interval.triple? with
  | none => none
  | some limit =>
    if limit < seen.leastQuiet markets then some (.reconnect .pingTimeout)
    else if always || interval < seen.leastQuiet markets then some (.ping payload)
    else some .none

end Observed

def remedy? {Quote : Type} (format : Format Quote) (markets : Markets) (settings : Settings)
    (seen : Observed) : Option Remedy :=
  match seen.anySilent? markets.entries with
  | none => none
  | some true => some (.reconnect .dataTimeout)
  | some false =>
    match format.ping with
    | none => some .none
    | some payload => seen.pingRemedy? markets settings.pingInterval payload format.pingAlways

end IndexPrice.Feed.Stream
