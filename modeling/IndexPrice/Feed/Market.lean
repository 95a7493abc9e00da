import IndexPrice.NameMap
import IndexPrice.Price.Ticker
import IndexPrice.Time.Instant

/-!
# Markets of one exchange

What a feed has to know of each market it covers.
-/

namespace IndexPrice.Feed

structure Market where
  ticker : Ticker
  multiplier : Float
  maxUseAge : Span
  deriving DecidableEq

abbrev Markets := NameMap Market

def tickersOf (markets : Markets) : List Ticker := markets.values.map (·.ticker)

/-- Where prices of an instrument go: the market, and what is known of it. -/
abbrev Routes := NameMap (String × Market)

/-- The market of each instrument; of two markets with one instrument the later one. -/
def routes (markets : Markets) : Routes :=
  NameMap.ofList (markets.entries.map fun (id, market) => (market.ticker.instrument, id, market))

end IndexPrice.Feed
