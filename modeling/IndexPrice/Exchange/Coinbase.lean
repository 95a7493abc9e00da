import IndexPrice.Feed.Stream.Format
import IndexPrice.Feed.Wire

/-!
# Coinbase

The channel of batched tickers.  The price may be a number or a string, and every
price message must say when the trade happened.  The exchange may be configured
under several ids, each with a session of its own.
-/

namespace IndexPrice.Exchange.Coinbase

open Feed Feed.Stream Json

structure Quote where
  price : Value
  time : Option String

structure Message where
  kind : String
  product : String
  quote : Quote

def message : Decoder Message := fun depth tree => do
  match ← recordFields? ["type", "product_id", "price", "time"] depth tree with
  | [kind, product, price, time] =>
    let kind ← kind.required Decoder.text
    let product ← product.orElse "" Decoder.text
    let price ← price.orElse .null Decoder.value
    let time ← time.orElse none Decoder.text.nullable
    return ⟨kind, product, ⟨price, time⟩⟩
  | _ => none

def decode? (text : String) : Option (String × Quote) := do
  let message ← message.ofText? text
  if message.kind = "ticker" then some (message.product, message.quote) else none

def sample (quote : Quote) (multiplier : Float) : Except PayloadFault Sample := do
  let price ← Wire.number quote.price
  match quote.time with
  | none => throw (.shape .tickerWithoutTime)
  | some text => return ⟨price * multiplier, ← Wire.timestamp text⟩

def subscription (tickers : List Ticker) : Value :=
  .object [
    ("type", .string "subscribe"),
    ("product_ids", .array (tickers.map fun ticker => .string ticker.instrument)),
    ("channels", .array [.string "ticker_batch"])]

def format (exchange : String) : Format Quote where
  exchange := exchange
  url _ := "wss://ws-feed.exchange.coinbase.com"
  subscription tickers := some (subscription tickers).print
  decode? := decode?
  sample _ := sample
  ping := some pingWord

end IndexPrice.Exchange.Coinbase
