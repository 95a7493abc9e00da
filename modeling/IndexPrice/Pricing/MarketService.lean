import IndexPrice.Consensus.Rule
import IndexPrice.Pricing.Event

/-!
# The service of one market

A market service evaluates the ticks of its market in order and hands each accepted
price to the sink, once.  What the sink answers changes nothing for later ticks.
-/

namespace IndexPrice.Pricing

abbrev Tick (α : Type := Float) := List α

structure MarketService (α : Type := Float) where
  market : String
  consensus : Consensus α := {}
  deriving DecidableEq

namespace MarketService

variable {α : Type}

def evaluate [PriceArithmetic α] (service : MarketService α) (tick : Tick α) :
    Verdict α × MarketService α :=
  let (verdict, consensus) := service.consensus.evaluate tick
  (verdict, { service with consensus })

def announce (market : String) : Verdict α → List (Event α)
  | .ok accepted => [.accepted market accepted.forced, .published market accepted.price]
  | .error rejection => [.rejected market rejection.reason]

def conclude (market : String) : SinkOutcome → List (Event α)
  | .failed => [.sinkFailed market]
  | _ => []

def publishes : Verdict α → Bool
  | .ok _ => true
  | .error _ => false

def process [PriceArithmetic α] (service : MarketService α) (tick : Tick α)
    (outcome : SinkOutcome) : Verdict α × List (Event α) × MarketService α :=
  let (verdict, after) := service.evaluate tick
  let concluded := if publishes verdict then conclude service.market outcome else []
  (verdict, announce service.market verdict ++ concluded, after)

def processAll [PriceArithmetic α] (sink : Sink) (calls : Nat) (service : MarketService α) :
    List (Tick α) → List (Verdict α × List (Event α))
  | [] => []
  | tick :: ticks =>
    let (verdict, events, after) := service.process tick (sink calls)
    let calls := if publishes verdict then calls + 1 else calls
    (verdict, events) :: processAll sink calls after ticks

end MarketService

end IndexPrice.Pricing
