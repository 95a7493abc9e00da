import IndexPrice.Feed.Fault
import IndexPrice.NameMap
import IndexPrice.Price.Sample
import IndexPrice.Price.Ticker

/-!
# Formats of polled providers

A polled provider answers requests.  Its format says which requests cover the
tickers and the reference tickers, and how to read the prices from the body of a
response.
-/

namespace IndexPrice.Feed.Poll

structure Request where
  url : String
  query : List (String × String)
  headers : List (String × String)
  deriving DecidableEq, Repr

abbrev RawPrices := NameMap Sample

structure Format where
  provider : String
  requests : List Ticker → List Ticker → Except PayloadFault (List Request)
  /-- The prices in a body, for a clock reading and the reference tickers. -/
  parse : Instant → List Ticker → List UInt8 → Except PayloadFault RawPrices
  /-- Whether the prices are in the reference coin already. -/
  quotesInReference : Bool := false

/-- Reads one sample for each entry of a decoded map, in the order of the names. -/
def readEach {α : Type} (entries : NameMap α) (read : String → α → Except PayloadFault Sample) :
    Except PayloadFault RawPrices := do
  let samples ← entries.entries.mapM fun entry => do
    let sample ← read entry.1 entry.2
    return (entry.1, sample)
  return NameMap.ofList samples

end IndexPrice.Feed.Poll
