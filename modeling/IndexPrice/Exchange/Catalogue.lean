import IndexPrice.Exchange.Binance
import IndexPrice.Exchange.Coinbase
import IndexPrice.Exchange.CoinGecko
import IndexPrice.Exchange.CoinMarketCap
import IndexPrice.Exchange.GeckoTerminal
import IndexPrice.Exchange.Kraken
import IndexPrice.Exchange.Okx

/-!
# The known exchanges

The exchange ids a configuration may name, and the formats they stand for.
-/

namespace IndexPrice.Exchange

open Feed

structure StreamEntry where
  Quote : Type
  format : Stream.Format Quote

/-- The streaming exchanges; Coinbase may be configured under two ids. -/
def stream? (id : String) : Option StreamEntry :=
  match id with
  | "binance" => some ⟨_, Binance.format⟩
  | "cb" => some ⟨_, Coinbase.format "cb"⟩
  | "cb2" => some ⟨_, Coinbase.format "cb2"⟩
  | "okx" => some ⟨_, Okx.format⟩
  | "kraken" => some ⟨_, Kraken.format⟩
  | _ => none

def poll? (id apiKey : String) : Option Poll.Format :=
  match id with
  | "coingecko" => some (CoinGecko.format apiKey)
  | "geckoterminal" => some (GeckoTerminal.format apiKey)
  | "coinmarketcap" => some (CoinMarketCap.format apiKey)
  | _ => none

end IndexPrice.Exchange
