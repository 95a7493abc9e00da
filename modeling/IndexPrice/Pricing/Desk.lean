import IndexPrice.Price.Store
import IndexPrice.Pricing.Mailbox
import IndexPrice.Pricing.MarketService

/-!
# Desks

All about one market: the sources that cover it, the mailbox into which its fresh
prices are put, and the service that takes them out.  A service that has not emptied
its mailbox when the next prices come has fallen behind, which is fatal.
-/

namespace IndexPrice.Pricing

abbrev Stores := NameMap PriceStore

inductive Activity where
  | waiting
  /-- It waits for the sink; calls are numbered. -/
  | calling (call : Nat)
  | ended
  deriving DecidableEq, Repr

structure Desk where
  service : MarketService
  maxUseAge : Span := 0
  /-- The sources that cover the market, in ascending order. -/
  sources : List String := []
  mailbox : Mailbox Tick := {}
  activity : Activity := .waiting
  deriving DecidableEq

inductive SamplingFault where
  | stalled (market : String)
  | gone (market : String)
  deriving DecidableEq, Repr

def SamplingFault.message : SamplingFault → String
  | .stalled market =>
    "MARKET_SERVICE_STOPPED: price service of " ++ market ++ " did not drain its last tick"
  | .gone market => "MARKET_SERVICE_STOPPED: price service of " ++ market ++ " is gone"

namespace Desk

def market (desk : Desk) : String := desk.service.market

/-! ## Sampling -/

/-- The prices of the sources that are young enough, in the order of the sources. -/
def freshPrices (desk : Desk) (stores : Stores) (now : Instant) : Tick :=
  let samples := desk.sources.filterMap fun source =>
    (stores.get? source).bind (·.load desk.market)
  (samples.filter fun sample => decide (sample.age now ≤ desk.maxUseAge)).map (·.price)

def post (desk : Desk) (tick : Tick) : Except PostFault Desk :=
  (desk.mailbox.post tick).map fun mailbox => { desk with mailbox }

/-- Puts the fresh prices into the mailbox, unless there are none; tells whether it did. -/
def forward (desk : Desk) (stores : Stores) (now : Instant) : Except SamplingFault (Bool × Desk) :=
  let tick := desk.freshPrices stores now
  if tick.isEmpty then .ok (false, desk)
  else
    match desk.post tick with
    | .ok desk => .ok (true, desk)
    | .error .full => .error (.stalled desk.market)
    | .error .closed => .error (.gone desk.market)

def sampleOnce (stores : Stores) (now : Instant) : List Desk → Except SamplingFault Nat × List Desk
  | [] => (.ok 0, [])
  | desk :: rest =>
    match desk.forward stores now with
    | .error fault => (.error fault, desk :: rest)
    | .ok (forwarded, desk) =>
      let (outcome, rest) := sampleOnce stores now rest
      (outcome.map (· + forwarded.toNat), desk :: rest)

/-! ## Serving -/

def drain (desk : Desk) : Option Tick × Desk :=
  let (tick, mailbox) := desk.mailbox.take
  (tick, { desk with mailbox })

def stop (desk : Desk) : Desk := { desk with mailbox := desk.mailbox.close, activity := .ended }

def serve (desk : Desk) (tick : Tick) (calls : Nat) : List Event × Desk :=
  let (verdict, service) := desk.service.evaluate tick
  let activity := if MarketService.publishes verdict then .calling calls else .waiting
  (MarketService.announce desk.market verdict, { desk with service, activity })

/--
The next step of the service, when so many calls of the sink have been made.  It looks
first whether pricing is cancelled; a call of the sink is then abandoned.  When nobody
posts any more, it leaves after the last tick.
-/
def step (desk : Desk) (cancelled hungUp : Bool) (calls : Nat) (outcome : SinkOutcome) :
    List Event × Desk :=
  match desk.activity with
  | .ended => ([], desk)
  | .waiting =>
    if cancelled then ([], desk.stop)
    else
      match desk.drain with
      | (some tick, desk) => desk.serve tick calls
      | (none, desk) => if hungUp then ([], desk.stop) else ([], desk)
  | .calling _ =>
    if cancelled then ([], desk.stop)
    else
      match outcome with
      | .never => ([], desk)
      | outcome => (MarketService.conclude desk.market outcome, { desk with activity := .waiting })

end Desk

end IndexPrice.Pricing
