import IndexPrice.Feed.Stream.Format
import IndexPrice.Feed.Wire

/-!
# Kraken

Candle updates are arrays of four: a channel, nine entries of the candle, the name
of the channel and the pair.  Entry 5 of the candle is the close and entry 0 the
time in decimal seconds, both in strings.
-/

namespace IndexPrice.Exchange.Kraken

open Feed Feed.Stream Json

/-- The nine entries of a candle. -/
abbrev Entries := List Value

def update? : Value → Option (String × Entries)
  | .array [_, .array entries, _, .string pair] =>
    if entries.length = 9 then some (pair, entries) else none
  | _ => none

def decode? (text : String) : Option (String × Entries) :=
  (Value.ofText? text).bind update?

def entryText (entries : Entries) (index : Nat) : Except PayloadFault String :=
  match entries[index]? with
  | some (.string text) => .ok text
  | _ => .error (.shape (.entryNotText index))

def sample (entries : Entries) (multiplier : Float) : Except PayloadFault Sample := do
  let close ← entryText entries 5
  let price ← Wire.floatText close
  let seconds ← entryText entries 0
  let time ← Wire.unixSeconds seconds
  return ⟨price * multiplier, time⟩

def subscription (tickers : List Ticker) : Value :=
  .object [
    ("event", .string "subscribe"),
    ("pair", .array (tickers.map fun ticker => .string ticker.instrument)),
    ("subscription", .object [("name", .string "ohlc")])]

def format : Format Entries where
  exchange := "kraken"
  url _ := "wss://ws.kraken.com"
  subscription tickers := some (subscription tickers).print
  decode? := decode?
  sample _ := sample

end IndexPrice.Exchange.Kraken
