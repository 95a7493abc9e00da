import IndexPrice.Metrics.Basic

/-!
# Events of pricing

What happens to the ticks of the markets.  The metrics follow from the events alone.
-/

namespace IndexPrice.Pricing

inductive Event (α : Type := Float) where
  | accepted (market : String) (forced : Bool)
  | rejected (market reason : String)
  | published (market : String) (price : α)
  | sinkFailed (market : String)
  deriving DecidableEq

namespace Event

def market {α : Type} : Event α → String
  | .accepted market _ => market
  | .rejected market _ => market
  | .published market _ => market
  | .sinkFailed market => market

def count (metrics : Metrics) : Event → Metrics
  | .accepted market forced => metrics.tickAccepted market forced
  | .rejected market reason => metrics.tickRejected market reason
  | .published market price => metrics.priceSet market price
  | .sinkFailed market => metrics.sinkFailed market

def countAll (metrics : Metrics) (events : List Event) : Metrics := events.foldl count metrics

end Event

/-! ## Sinks -/

/-- How a call of the sink ends, if it ends. -/
inductive SinkOutcome where
  | delivered
  | failed
  | never
  deriving DecidableEq, Repr

abbrev Sink := Nat → SinkOutcome

end IndexPrice.Pricing
