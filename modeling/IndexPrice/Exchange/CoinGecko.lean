import IndexPrice.Feed.Poll.Format
import IndexPrice.Feed.Wire

/-!
# CoinGecko

One request names the reference coin and every configured coin.  Prices are in
dollars and become prices in the reference coin by division.
-/

namespace IndexPrice.Exchange.CoinGecko

open Feed Feed.Poll Json

def headers (apiKey : String) : List (String × String) :=
  [("x-cg-pro-api-key", apiKey), ("accept", "application/json"), ("User-Agent", "curl")]

def requests (apiKey : String) (tickers reference : List Ticker) :
    Except PayloadFault (List Request) :=
  match reference with
  | [] => .error (.tickers (.noReference "coingecko"))
  | first :: _ =>
    .ok [{
      url := "https://pro-api.coingecko.com/api/v3/simple/price"
      query := [
        ("ids", String.intercalate "," ((first :: tickers).map (·.instrument))),
        ("include_last_updated_at", "true"),
        ("precision", "full"),
        ("vs_currencies", "usd")]
      headers := headers apiKey }]

/-- A price in dollars and its time in seconds. -/
structure Quote where
  usd : Float
  updatedAt : Int

def quote : Decoder Quote := fun depth tree => do
  match ← recordFields? ["usd", "last_updated_at"] depth tree with
  | [usd, updatedAt] =>
    return { usd := ← usd.required Decoder.float, updatedAt := ← updatedAt.required Decoder.int64 }
  | _ => none

def sample (quote : Quote) : Except PayloadFault Sample :=
  match Instant.ofSeconds? quote.updatedAt 0 with
  | some time => .ok ⟨quote.usd, time⟩
  | none => .error (.timestamp (toString quote.updatedAt) .outOfRange)

def parse (body : List UInt8) : Except PayloadFault RawPrices :=
  match (Decoder.map quote).ofSymbols? (Text.ofBytes body) with
  | none => .error .malformed
  | some quotes => readEach quotes fun _ quote => sample quote

def format (apiKey : String) : Format where
  provider := "coingecko"
  requests := requests apiKey
  parse _ _ := parse

end IndexPrice.Exchange.CoinGecko
