import IndexPrice.Price.Ticker
import IndexPrice.Time.Instant

/-!
# Configuration

What the operator configures: the service, the pace of pricing, the instruments of
coins on exchanges, timing of single exchanges, the markets with their sources, and
the monitoring endpoint.  API keys come from the environment.
-/

namespace IndexPrice.Config

structure Service where
  name : String
  logLevel : String := "info"
  deriving DecidableEq

structure Pricing where
  updateIntervalSecs : Nat := 5
  defaultMaxUseAgeSecs : Nat := 60
  referenceCoin : String := "USDT"
  defaultReadIntervalSecs : Nat := 25
  defaultReadTimeoutSecs : Nat := 20
  deriving DecidableEq

structure Coin where
  id : String
  tickers : List Ticker := []
  deriving DecidableEq

structure Timing where
  exchange : String
  readIntervalSecs : Option Nat := none
  readTimeoutSecs : Option Nat := none
  deriving DecidableEq

structure Market where
  id : String
  multiplier : Float := 1.0
  maxUseAgeSecs : Option Nat := none
  sources : List Ticker := []
  deriving DecidableEq

structure Monitoring where
  enabled : Bool := true
  bindAddress : String := "0.0.0.0:9090"
  deriving DecidableEq

structure ApiKeys where
  coinGecko : String := ""
  coinMarketCap : String := ""
  deriving DecidableEq

end IndexPrice.Config

namespace IndexPrice

structure Config where
  service : Config.Service
  pricing : Config.Pricing := {}
  coins : List Config.Coin := []
  timings : List Config.Timing := []
  markets : List Config.Market
  monitoring : Config.Monitoring := {}
  apiKeys : Config.ApiKeys := {}
  deriving DecidableEq

namespace Config

/-- The factor for the prices of a market; zero stands for one. -/
def Market.effectiveMultiplier (market : Market) : Float :=
  if market.multiplier == 0.0 then 1.0 else market.multiplier

def updateInterval (config : Config) : Span := Span.ofSeconds config.pricing.updateIntervalSecs

def maxUseAge (config : Config) (market : Market) : Span :=
  Span.ofSeconds (market.maxUseAgeSecs.getD config.pricing.defaultMaxUseAgeSecs)

def timing? (config : Config) (exchange : String) : Option Timing :=
  config.timings.find? (·.exchange = exchange)

def readInterval (config : Config) (exchange : String) : Span :=
  Span.ofSeconds (((config.timing? exchange).bind (·.readIntervalSecs)).getD
    config.pricing.defaultReadIntervalSecs)

def readTimeout (config : Config) (exchange : String) : Span :=
  Span.ofSeconds (((config.timing? exchange).bind (·.readTimeoutSecs)).getD
    config.pricing.defaultReadTimeoutSecs)

def referenceTickers (config : Config) (exchange : String) : List Ticker :=
  let coins := config.coins.filter (·.id = config.pricing.referenceCoin)
  (coins.flatMap (·.tickers)).filter (·.exchange = exchange)

/-- The key that an exchange asks for; empty if it asks for none. -/
def apiKey (config : Config) (exchange : String) : String :=
  if exchange = "coingecko" ∨ exchange = "geckoterminal" then config.apiKeys.coinGecko
  else if exchange = "coinmarketcap" then config.apiKeys.coinMarketCap
  else ""

end Config

end IndexPrice
