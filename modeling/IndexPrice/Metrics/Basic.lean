import IndexPrice.NameMap

/-!
# Metrics

What a running oracle counts and measures.  Counters and gauges are kept by market
or by exchange; rejections and reconnects are counted by their reason as well.
-/

namespace IndexPrice

abbrev Counts := NameMap Nat

namespace Counts

def of (counts : Counts) (name : String) : Nat := (counts.get? name).getD 0

def count (counts : Counts) (name : String) : Counts := counts.update name 0 (· + 1)

@[simp] theorem of_empty (name : String) : of NameMap.empty name = 0 := rfl

theorem of_count (counts : Counts) (name other : String) :
    (counts.count name).of other = counts.of other + if name = other then 1 else 0 := by
  unfold of count NameMap.update
  rw [NameMap.get?_insert]
  split
  · next eq => simp [eq]
  · rfl

end Counts

structure Metrics where
  acceptedTicks : Counts := NameMap.empty
  rejectedTicks : NameMap Counts := NameMap.empty
  forcedAcceptances : Counts := NameMap.empty
  sinkFailures : Counts := NameMap.empty
  indexPrices : NameMap Float := NameMap.empty
  storedSamples : Counts := NameMap.empty
  reconnects : NameMap Counts := NameMap.empty
  readFailures : Counts := NameMap.empty
  /-- One while the stream of an exchange is up, zero while it is down. -/
  connected : NameMap Float := NameMap.empty

namespace Metrics

/-- A forced acceptance is an acceptance too. -/
def tickAccepted (m : Metrics) (market : String) (forced : Bool) : Metrics :=
  let counted := { m with acceptedTicks := m.acceptedTicks.count market }
  if forced then { counted with forcedAcceptances := m.forcedAcceptances.count market }
  else counted

def tickRejected (m : Metrics) (market reason : String) : Metrics :=
  { m with rejectedTicks := m.rejectedTicks.update market NameMap.empty (Counts.count · reason) }

def sinkFailed (m : Metrics) (market : String) : Metrics :=
  { m with sinkFailures := m.sinkFailures.count market }

def priceSet (m : Metrics) (market : String) (price : Float) : Metrics :=
  { m with indexPrices := m.indexPrices.insert market price }

def sampleStored (m : Metrics) (exchange : String) : Metrics :=
  { m with storedSamples := m.storedSamples.count exchange }

def reconnectStarted (m : Metrics) (exchange reason : String) : Metrics :=
  { m with reconnects := m.reconnects.update exchange NameMap.empty (Counts.count · reason) }

def readFailed (m : Metrics) (exchange : String) : Metrics :=
  { m with readFailures := m.readFailures.count exchange }

def connectedSet (m : Metrics) (exchange : String) (value : Float) : Metrics :=
  { m with connected := m.connected.insert exchange value }

end Metrics

end IndexPrice
