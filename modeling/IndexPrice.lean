import IndexPrice.CommandLine.Launch
import IndexPrice.Config.Basic
import IndexPrice.Config.Reading
import IndexPrice.Config.Validation
import IndexPrice.Consensus.Arithmetic
import IndexPrice.Consensus.Median
import IndexPrice.Consensus.Rule
import IndexPrice.Decimal.Binary
import IndexPrice.Decimal.BitPattern
import IndexPrice.Decimal.Layout
import IndexPrice.Decimal.Reading
import IndexPrice.Decimal.Shortest
import IndexPrice.Delivery.Statistics
import IndexPrice.Exchange.Binance
import IndexPrice.Exchange.Catalogue
import IndexPrice.Exchange.CoinGecko
import IndexPrice.Exchange.CoinMarketCap
import IndexPrice.Exchange.Coinbase
import IndexPrice.Exchange.GeckoTerminal
import IndexPrice.Exchange.Kraken
import IndexPrice.Exchange.Okx
import IndexPrice.Exchange.Sources
import IndexPrice.Feed.Backoff
import IndexPrice.Feed.Fault
import IndexPrice.Feed.Market
import IndexPrice.Feed.Poll.Fetch
import IndexPrice.Feed.Poll.Format
import IndexPrice.Feed.Poll.Poller
import IndexPrice.Feed.Poll.Reading
import IndexPrice.Feed.Stream.Connector
import IndexPrice.Feed.Stream.Format
import IndexPrice.Feed.Stream.Liveness
import IndexPrice.Feed.Stream.Reconnect
import IndexPrice.Feed.Stream.Session
import IndexPrice.Feed.Wire
import IndexPrice.Json.Number
import IndexPrice.Json.Printer
import IndexPrice.Json.Reader
import IndexPrice.Json.Record
import IndexPrice.Json.Tree
import IndexPrice.Json.Value
import IndexPrice.Log.Directive
import IndexPrice.Log.Filter
import IndexPrice.Log.Pattern.Basic
import IndexPrice.Log.Pattern.CharacterSet
import IndexPrice.Log.Pattern.Escape
import IndexPrice.Log.Pattern.Group
import IndexPrice.Log.Pattern.Reading
import IndexPrice.Log.Record
import IndexPrice.Main
import IndexPrice.Metrics.Basic
import IndexPrice.Metrics.Exposition
import IndexPrice.Monitoring.Address
import IndexPrice.Monitoring.Endpoint
import IndexPrice.Monitoring.Target
import IndexPrice.NameMap
import IndexPrice.Price.Sample
import IndexPrice.Price.Store
import IndexPrice.Price.Ticker
import IndexPrice.Pricing.Desk
import IndexPrice.Pricing.Event
import IndexPrice.Pricing.Mailbox
import IndexPrice.Pricing.MarketService
import IndexPrice.Pricing.Schedule
import IndexPrice.Pricing.Source
import IndexPrice.Pricing.Spec
import IndexPrice.Pricing.Start
import IndexPrice.Pricing.System
import IndexPrice.Text.Classes
import IndexPrice.Text.Hexadecimal
import IndexPrice.Text.Printable
import IndexPrice.Text.Quoted
import IndexPrice.Text.Symbols
import IndexPrice.Time.Calendar
import IndexPrice.Time.Instant
import IndexPrice.Time.Timestamp
import IndexPrice.Time.UnixSeconds
import IndexPrice.Toml.Document
import IndexPrice.Toml.Item
import IndexPrice.Toml.Quotation
import IndexPrice.Toml.Record
import IndexPrice.Toml.Scalar
import IndexPrice.Proofs.Consensus.Combination
import IndexPrice.Proofs.Consensus.History
import IndexPrice.Proofs.Consensus.Majority
import IndexPrice.Proofs.Pricing.Desk
import IndexPrice.Proofs.Pricing.Floor
import IndexPrice.Proofs.Pricing.Tasks
import IndexPrice.Proofs.NameMap
import IndexPrice.Proofs.Price.Store
import IndexPrice.Proofs.Pricing.Ledger
import IndexPrice.Proofs.Pricing.Looks
import IndexPrice.Proofs.Pricing.Wiring
import IndexPrice.Proofs.Pricing.Reference
import IndexPrice.Proofs.Feed.Stream.Reconnect
import IndexPrice.Proofs.Pricing.Escalation
import IndexPrice.Proofs.Feed.Routing
import IndexPrice.Proofs.Decimal.Finite
import IndexPrice.Proofs.Consensus.Finite
import IndexPrice.Proofs.Pricing.Finiteness
import IndexPrice.Proofs.Pricing.Publication
import IndexPrice.Proofs.Pricing.Cancellation
import IndexPrice.Proofs.Feed.Stream.Reception
import IndexPrice.Proofs.Pricing.Blocks
import IndexPrice.Proofs.Decimal.Comparison
import IndexPrice.Proofs.Pricing.SourceOrder
import IndexPrice.Proofs.Config.Validity
import IndexPrice.Proofs.Exchange.Conversion
import IndexPrice.Proofs.Exchange.Requests
import IndexPrice.Proofs.Pricing.Shutdown
import IndexPrice.Proofs.Consensus.NewPrices
import IndexPrice.Proofs.Consensus.Scaling
import IndexPrice.Proofs.Price.TrailingRun
import IndexPrice.Proofs.Pricing.Freshness
import IndexPrice.Proofs.Pricing.Pass
import IndexPrice.Proofs.Feed.Poll.Order
import IndexPrice.Proofs.Feed.Poll.Reading
import IndexPrice.Proofs.Feed.Poll.Reference
import IndexPrice.Proofs.Feed.Poll.Silence
import IndexPrice.Proofs.Feed.Poll.Fetch
import IndexPrice.Proofs.Pricing.Regrouping
import IndexPrice.Proofs.Feed.Stream.Liveness
import IndexPrice.Proofs.Pricing.Ages
import IndexPrice.Proofs.Feed.Backoff
import IndexPrice.Proofs.Feed.Stream.Dialing
import IndexPrice.Proofs.Delivery.Statistics
import IndexPrice.Proofs.Exchange.Subscription
import IndexPrice.Proofs.Json.Record
import IndexPrice.Proofs.Price.Ticker
import IndexPrice.Proofs.Decimal.Value
import IndexPrice.Proofs.Time.UnixSeconds
import IndexPrice.Proofs.Exchange.Candle
import IndexPrice.Proofs.Consensus.BitPatterns
