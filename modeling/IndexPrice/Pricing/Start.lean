import IndexPrice.Pricing.Schedule
import IndexPrice.Pricing.Source
import IndexPrice.Pricing.Spec

/-!
# Starting

Every exchange that the configuration names is started once, in ascending order.
Exchanges that nobody knows are left out; one that fails to start is fatal.  A market
is priced if a started exchange covers it, and there must be such a market.
-/

namespace IndexPrice.Pricing

/-- Starts the source of an exchange; an unknown exchange has none. -/
abbrev Builder (ε : Type) := SourceSpec → Except ε (Option Source)

inductive StartFault (ε : Type) where
  | source (exchange : String) (cause : ε)
  | noRunningSource
  deriving DecidableEq, Repr

def StartFault.message {ε : Type} (causeMessage : ε → String) : StartFault ε → String
  | .source exchange cause => "Failed to start source " ++ exchange ++ ": " ++ causeMessage cause
  | .noRunningSource => "No market has a running source"

def startSources {ε : Type} (builder : Builder ε) :
    List SourceSpec → Except (StartFault ε) (List (String × Source))
  | [] => .ok []
  | spec :: rest =>
    match builder spec with
    | .error cause => .error (.source spec.exchange cause)
    | .ok started =>
      (startSources builder rest).map fun later =>
        (started.toList.map (spec.exchange, ·)) ++ later

def desk? (config : Config) (sources : List (String × Source)) (market : Config.Market) :
    Option Desk :=
  let covering := (sources.filter fun source => source.2.markets.contains market.id).map (·.1)
  if covering.isEmpty then none
  else some {
    service := { market := market.id }
    maxUseAge := config.maxUseAge market
    sources := covering }

def desks (config : Config) (sources : List (String × Source)) : List Desk :=
  config.markets.filterMap (desk? config sources)

def start {ε : Type} (config : Config) (builder : Builder ε) (clock : Span) :
    Except (StartFault ε) Schedule := do
  let sources ← startSources builder (sourceSpecs config)
  let desks := desks config sources
  if desks.isEmpty then .error .noRunningSource
  else
    let stores := NameMap.ofList (sources.map fun source => (source.1, NameMap.empty))
    return .start { stores, desks } config.updateInterval clock

end IndexPrice.Pricing
