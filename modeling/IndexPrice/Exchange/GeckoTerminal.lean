import IndexPrice.Exchange.CoinGecko

/-!
# GeckoTerminal

Tokens have an address on a network, so there is one request for each network, in
order of the networks.  It names the tokens and the network's own reference token
last.  Responses carry no time: a price is as old as its receipt.
-/

namespace IndexPrice.Exchange.GeckoTerminal

open Feed Feed.Poll Json

def byNetwork (tickers : List Ticker) : NameMap (List String) :=
  tickers.foldl
    (fun map ticker => map.update ticker.network [] (· ++ [ticker.instrument]))
    NameMap.empty

def request (apiKey : String) (reference : List Ticker) (network : String)
    (addresses : List String) : Except PayloadFault Request :=
  match reference.find? (·.network = network) with
  | none => .error (.tickers (.noNetworkReference network))
  | some coin =>
    .ok {
      url := "https://api.geckoterminal.com/api/v2/networks/" ++ network ++ "/tokens/multi/"
        ++ String.intercalate "," (addresses ++ [coin.instrument])
      query := []
      headers := CoinGecko.headers apiKey }

def requests (apiKey : String) (tickers reference : List Ticker) :
    Except PayloadFault (List Request) :=
  (byNetwork tickers).entries.mapM fun entry => request apiKey reference entry.1 entry.2

structure Token where
  address : String
  priceUsd : String

def token : Decoder Token := fun depth tree => do
  match ← recordFields? ["address", "price_usd"] depth tree with
  | [address, price] =>
    return { address := ← address.required Decoder.text, priceUsd := ← price.required Decoder.text }
  | _ => none

def item : Decoder Token := fun depth tree => do
  match ← recordFields? ["attributes"] depth tree with
  | [attributes] => attributes.required token
  | _ => none

def tokens : Decoder (List Token) := fun depth tree => do
  match ← recordFields? ["data"] depth tree with
  | [data] => data.required (Decoder.list item)
  | _ => none

/-- Of two entries for one address the later stays. -/
def parse (now : Instant) (body : List UInt8) : Except PayloadFault RawPrices :=
  match tokens.ofSymbols? (Text.ofBytes body) with
  | none => .error .malformed
  | some tokens => do
    let samples ← tokens.mapM fun token => do
      let price ← Wire.floatText token.priceUsd
      return (token.address, Sample.mk price now)
    return NameMap.ofList samples

def format (apiKey : String) : Format where
  provider := "geckoterminal"
  requests := requests apiKey
  parse now _ := parse now

end IndexPrice.Exchange.GeckoTerminal
