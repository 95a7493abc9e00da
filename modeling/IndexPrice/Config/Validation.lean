import IndexPrice.Config.Reading
import IndexPrice.Decimal.Layout

/-!
# Validation

A configuration is accepted if `Config.fault?` finds nothing wrong with it.  The
checks run in a fixed order and the first fault is the one that is reported.
-/

namespace IndexPrice

inductive ConfigFault where
  | unreadable (path : String)
  | malformed
  | noMarkets
  | emptyMarketId (index : Nat)
  | noSources (market : String)
  | negativeMultiplier (market : String) (multiplier : Float)
  | zeroMarketAge (market : String)
  | emptySourceId (market : String)
  | zeroSourceAge (market exchange : String)
  | zeroUpdateInterval
  | zeroDefaultAge
  | zeroDefaultTiming
  | zeroTiming (exchange : String)
  | emptyBindAddress
  deriving DecidableEq

def ConfigFault.message : ConfigFault → String
  | .unreadable path => "Failed to read config file: " ++ path
  | .malformed => "Failed to parse config.toml"
  | .noMarkets => "At least one market must be configured"
  | .emptyMarketId index => "Market " ++ toString index ++ " has empty market_id"
  | .noSources market => "Market " ++ market ++ " has no sources"
  | .negativeMultiplier market multiplier =>
    "Market " ++ market ++ " multiplier must be non-negative, got " ++ Decimal.plain multiplier
  | .zeroMarketAge market => "Market " ++ market ++ " max_use_age_secs must be positive"
  | .emptySourceId market =>
    "Market " ++ market ++ " has a source with empty exchange_id or inst_id"
  | .zeroSourceAge market exchange =>
    "Market " ++ market ++ " source " ++ exchange ++ " max_use_age_secs must be positive"
  | .zeroUpdateInterval => "update_interval_secs must be positive"
  | .zeroDefaultAge => "default_max_use_age_secs must be positive"
  | .zeroDefaultTiming => "default read interval and timeout must be positive"
  | .zeroTiming exchange =>
    "Exchange " ++ exchange ++ " read interval and timeout must be positive"
  | .emptyBindAddress => "metrics bind_address must not be empty"

namespace Config

def faultIf (condition : Bool) (fault : ConfigFault) : Option ConfigFault :=
  if condition then some fault else none

def sourceFault? (market : String) (ticker : Ticker) : Option ConfigFault :=
  (faultIf (ticker.exchange = "" || ticker.instrument = "") (.emptySourceId market)).or
    (faultIf (ticker.maxUseAgeSecs = some 0) (.zeroSourceAge market ticker.exchange))

def Market.fault? (market : Market) (index : Nat) : Option ConfigFault :=
  (faultIf (market.id = "") (.emptyMarketId index))
    |>.or (faultIf market.sources.isEmpty (.noSources market.id))
    |>.or (faultIf (!decide (0.0 ≤ market.multiplier))
      (.negativeMultiplier market.id market.multiplier))
    |>.or (faultIf (market.maxUseAgeSecs = some 0) (.zeroMarketAge market.id))
    |>.or (market.sources.findSome? (sourceFault? market.id))

def Pricing.fault? (pricing : Pricing) : Option ConfigFault :=
  (faultIf (pricing.updateIntervalSecs = 0) .zeroUpdateInterval)
    |>.or (faultIf (pricing.defaultMaxUseAgeSecs = 0) .zeroDefaultAge)
    |>.or (faultIf (pricing.defaultReadIntervalSecs = 0 || pricing.defaultReadTimeoutSecs = 0)
      .zeroDefaultTiming)

def Timing.fault? (timing : Timing) : Option ConfigFault :=
  faultIf (timing.readIntervalSecs = some 0 || timing.readTimeoutSecs = some 0)
    (.zeroTiming timing.exchange)

def Monitoring.fault? (monitoring : Monitoring) : Option ConfigFault :=
  faultIf (monitoring.enabled && monitoring.bindAddress = "") .emptyBindAddress

def fault? (config : Config) : Option ConfigFault :=
  (faultIf config.markets.isEmpty .noMarkets)
    |>.or (config.markets.zipIdx.findSome? fun (market, index) => market.fault? index)
    |>.or config.pricing.fault?
    |>.or (config.timings.findSome? Timing.fault?)
    |>.or config.monitoring.fault?

abbrev Environment := String → Option String

def withKeys (config : Config) (environment : Environment) : Config :=
  { config with apiKeys := {
      coinGecko := (environment "COINGECKO_API_KEY").getD ""
      coinMarketCap := (environment "COINMARKETCAP_API_KEY").getD "" } }

def read (document : String) (environment : Environment) : Except ConfigFault Config :=
  match (Toml.read? document).bind ofEntries? with
  | none => .error .malformed
  | some config =>
    match config.fault? with
    | some fault => .error fault
    | none => .ok (config.withKeys environment)

def load (path : String) (content : Option String) (environment : Environment) :
    Except ConfigFault Config :=
  match content with
  | none => .error (.unreadable path)
  | some document => read document environment

end Config

end IndexPrice
