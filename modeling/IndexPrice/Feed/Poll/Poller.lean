import IndexPrice.Decimal.Layout
import IndexPrice.Feed.Market
import IndexPrice.Feed.Poll.Format

/-!
# Pollers and the conversion of prices

A poller covers the markets of one provider.  Prices come in US dollars and are
converted into the reference coin by division by its price, unless the provider
quotes in the reference coin already.  A response without a usable reference price
gives no samples at all.
-/

namespace IndexPrice.Feed.Poll

structure Poller where
  format : Format
  requests : List Request
  markets : Markets
  reference : List Ticker
  maxAttempts : Nat

/-- Why there is no poller: the provider cannot be asked for these tickers. -/
structure BuildFault where
  provider : String
  cause : PayloadFault
  deriving DecidableEq, Repr

def BuildFault.message (fault : BuildFault) : String :=
  "Failed to build " ++ fault.provider ++ " requests: " ++ fault.cause.message

inductive ConversionFault where
  | missingReference
  | referenceTooLow (price : Float)
  deriving DecidableEq

def ConversionFault.message : ConversionFault → String
  | .missingReference => "no reference price in response"
  | .referenceTooLow price => "reference price " ++ Decimal.plain price ++ " below minimum"

namespace Poller

def build (format : Format) (markets : Markets) (reference : List Ticker)
    (maxAttempts : Nat) : Except BuildFault Poller :=
  match format.requests (tickersOf markets) reference with
  | .ok requests => .ok { format, requests, markets, reference, maxAttempts }
  | .error cause => .error ⟨format.provider, cause⟩

def defaultAttempts : Nat := 8

/-! ## Conversion -/

/-- A reference price below this is broken data. -/
def minReferencePrice : Float := 0.01

def referenceSample? (poller : Poller) (raw : RawPrices) : Option Sample :=
  poller.reference.findSome? (raw.get? ·.instrument)

def divisor (poller : Poller) (raw : RawPrices) : Except ConversionFault Float :=
  if poller.format.quotesInReference then .ok 1.0
  else
    match poller.referenceSample? raw with
    | none => .error .missingReference
    | some sample =>
      if sample.price < minReferencePrice then .error (.referenceTooLow sample.price)
      else .ok sample.price

def isReference (poller : Poller) (instrument : String) : Bool :=
  poller.reference.any (·.instrument = instrument)

/-- The market's sample of an entry; reference tickers and unknown instruments have none. -/
def marketSample? (poller : Poller) (divisor : Float) (entry : String × Sample) :
    Option (String × Sample) :=
  if poller.isReference entry.1 then none
  else
    ((routes poller.markets).get? entry.1).map fun (id, market) =>
      (id, entry.2.scaled (market.multiplier / divisor))

def convert (poller : Poller) (raw : RawPrices) :
    Except ConversionFault (List (String × Sample)) :=
  (poller.divisor raw).map fun divisor =>
    raw.entries.filterMap (poller.marketSample? divisor)

/-! ## Silence -/

/--
The markets of a list without data for more than three times their age, in order.
There is no answer if three times an age is longer than the longest span.
-/
def silentAmong? (lastSeen : String → Instant) (now : Instant) :
    List (String × Market) → Option (List String)
  | [] => some []
  | (id, market) :: rest => do
    let limit ← market.maxUseAge.triple?
    let silent ← silentAmong? lastSeen now rest
    if limit < now.elapsed (lastSeen id) then return id :: silent else return silent

/-- The silent markets of a poller; one without data is silent since the start. -/
def silent? (poller : Poller) (started : Instant) (lastData : NameMap Instant) (now : Instant) :
    Option (List String) :=
  silentAmong? (fun id => (lastData.get? id).getD started) now poller.markets.entries

end Poller

end IndexPrice.Feed.Poll
