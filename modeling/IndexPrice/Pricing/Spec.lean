import IndexPrice.Config.Basic
import IndexPrice.Feed.Market

/-!
# Sources by exchange

The configuration lists exchanges by market; feeds are started by exchange.  A
`SourceSpec` holds what the feed of one exchange has to cover.  When blocks of one
market id name an exchange more than once, the last one counts.
-/

namespace IndexPrice.Pricing

structure SourceSpec where
  exchange : String
  markets : Feed.Markets
  reference : List Ticker
  readInterval : Span
  readTimeout : Span
  apiKey : String

def feedMarket (config : Config) (market : Config.Market) (ticker : Ticker) : Feed.Market where
  ticker := ticker
  multiplier := market.effectiveMultiplier
  maxUseAge := (ticker.maxUseAgeSecs.map Span.ofSeconds).getD (config.maxUseAge market)

def coverage (config : Config) : List (Config.Market × Ticker) :=
  config.markets.flatMap fun market => market.sources.map (market, ·)

def byExchange (config : Config) : NameMap Feed.Markets :=
  (coverage config).foldl
    (fun exchanges (market, ticker) =>
      exchanges.update ticker.exchange NameMap.empty fun markets =>
        markets.insert market.id (feedMarket config market ticker))
    NameMap.empty

def sourceSpecs (config : Config) : List SourceSpec :=
  (byExchange config).entries.map fun (exchange, markets) => {
    exchange, markets
    reference := config.referenceTickers exchange
    readInterval := config.readInterval exchange
    readTimeout := config.readTimeout exchange
    apiKey := config.apiKey exchange }

end IndexPrice.Pricing
