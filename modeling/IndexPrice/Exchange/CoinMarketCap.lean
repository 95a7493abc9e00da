import IndexPrice.Feed.Poll.Format
import IndexPrice.Feed.Wire

/-!
# CoinMarketCap

One request names every configured coin and the reference coin to convert into, so
the prices need no division.
-/

namespace IndexPrice.Exchange.CoinMarketCap

open Feed Feed.Poll Json

def convertId (reference : List Ticker) : Except PayloadFault String :=
  match reference with
  | [] => .error (.tickers (.noReference "coinmarketcap"))
  | first :: _ => .ok first.instrument

def requests (apiKey : String) (tickers reference : List Ticker) :
    Except PayloadFault (List Request) := do
  let convert ← convertId reference
  return [{
    url := "https://pro-api.coinmarketcap.com/v2/cryptocurrency/quotes/latest"
    query := [
      ("id", String.intercalate "," (tickers.map (·.instrument))),
      ("convert_id", convert)]
    headers := [("Accepts", "application/json"), ("X-CMC_PRO_API_KEY", apiKey)] }]

structure Quote where
  price : Float
  updated : String

def quote : Decoder Quote := fun depth tree => do
  match ← recordFields? ["price", "last_updated"] depth tree with
  | [price, updated] =>
    return { price := ← price.required Decoder.float, updated := ← updated.required Decoder.text }
  | _ => none

def quotes : Decoder (NameMap Quote) := fun depth tree => do
  match ← recordFields? ["quote"] depth tree with
  | [quotes] => quotes.required (Decoder.map quote)
  | _ => none

def coins : Decoder (NameMap (NameMap Quote)) := fun depth tree => do
  match ← recordFields? ["data"] depth tree with
  | [data] => data.required (Decoder.map quotes)
  | _ => none

def sample (convert coin : String) (quotes : NameMap Quote) : Except PayloadFault Sample :=
  match quotes.get? convert with
  | none => .error (.shape (.noQuote convert coin))
  | some quote => do return ⟨quote.price, ← Wire.timestamp quote.updated⟩

def parse (reference : List Ticker) (body : List UInt8) : Except PayloadFault RawPrices := do
  let convert ← convertId reference
  match coins.ofSymbols? (Text.ofBytes body) with
  | none => throw .malformed
  | some coins => readEach coins (sample convert)

def format (apiKey : String) : Format where
  provider := "coinmarketcap"
  requests := requests apiKey
  parse _ := parse
  quotesInReference := true

end IndexPrice.Exchange.CoinMarketCap
