import IndexPrice.NameMap
import IndexPrice.Time.Instant

/-!
# Delivery statistics

A downstream that keeps no prices, only statistics of their delivery: for each market
how many prices came since the last summary and how long the longest pause was.  The
first price that comes more than a period after a summary closes the next summary,
which covers all markets and starts their counts anew.  A pause may span summaries.
-/

namespace IndexPrice.Delivery

structure Statistics where
  /-- Without a bound; no batch lasts until it leaves the range of a word of 64 bits. -/
  count : Nat
  batchStart : Instant
  lastReceived : Instant
  lastPrice : Float
  longestInterval : Span
  deriving DecidableEq

namespace Statistics

def fresh (start : Instant) (price : Float) : Statistics where
  count := 0
  batchStart := start
  lastReceived := start
  lastPrice := price
  longestInterval := 0

def receive (s : Statistics) (price : Float) (now : Instant) : Statistics :=
  { s with
    count := s.count + 1
    lastReceived := now
    lastPrice := price
    longestInterval := max s.longestInterval (now.elapsed s.lastReceived) }

/-- Starts a new batch; what was received last is kept. -/
def restart (s : Statistics) (now : Instant) : Statistics :=
  { s with count := 0, batchStart := now, longestInterval := 0 }

end Statistics

abbrev Summary := List (String × Statistics)

structure Ledger where
  period : Span
  /-- The time of the last summary, at first the time of creation. -/
  lastSummary : Instant
  markets : NameMap Statistics := NameMap.empty

def defaultPeriod : Span := Span.ofSeconds (15 * 60)

namespace Ledger

def create (period : Span) (now : Instant) : Ledger where
  period := period
  lastSummary := now

def isDue (ledger : Ledger) (now : Instant) : Bool :=
  decide (ledger.period < now.elapsed ledger.lastSummary)

def receive (ledger : Ledger) (market : String) (price : Float) (now : Instant) : Ledger :=
  { ledger with
    markets := ledger.markets.update market (.fresh ledger.lastSummary price)
      (·.receive price now) }

def close (ledger : Ledger) (now : Instant) : Summary × Ledger :=
  (ledger.markets.entries,
    { ledger with
      lastSummary := now
      markets := ledger.markets.map fun _ s => s.restart now })

/-- Records a price; the answer holds the summary that it closes, if it does. -/
def record (ledger : Ledger) (market : String) (price : Float) (now : Instant) :
    Option Summary × Ledger :=
  let received := ledger.receive market price now
  if ledger.isDue now then
    let (summary, closed) := received.close now
    (some summary, closed)
  else (none, received)

end Ledger

end IndexPrice.Delivery
