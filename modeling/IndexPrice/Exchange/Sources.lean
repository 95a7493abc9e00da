import IndexPrice.Exchange.Catalogue
import IndexPrice.Feed.Poll.Poller
import IndexPrice.Feed.Stream.Connector
import IndexPrice.Pricing.Start

/-!
# Sources of the known exchanges

The feed of an exchange: a connector for a streaming exchange, a poller for a polled
provider.
-/

namespace IndexPrice.Exchange

open Feed Pricing

def isKnown (exchange : String) : Bool :=
  (stream? exchange).isSome || (poll? exchange "").isSome

def source (spec : SourceSpec) : Except Poll.BuildFault (Option Source) :=
  match stream? spec.exchange with
  | some entry =>
    let connector : Stream.Connector entry.Quote :=
      { format := entry.format, markets := spec.markets }
    .ok (some { markets := spec.markets.names, urls := [connector.url] })
  | none =>
    match poll? spec.exchange spec.apiKey with
    | none => .ok none
    | some format =>
      (Poll.Poller.build format spec.markets spec.reference Poll.Poller.defaultAttempts).map
        fun poller => some { markets := spec.markets.names, urls := poller.requests.map (·.url) }

end IndexPrice.Exchange
