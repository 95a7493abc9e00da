import IndexPrice.Feed.Stream.Format
import IndexPrice.Feed.Wire

/-!
# OKX

Index candles of one minute.  A push holds rows of six entries: time in
milliseconds, open, high, low, close and a mark of completion.  The close of the
first row is the price; a time that cannot be read becomes the time of receipt.
-/

namespace IndexPrice.Exchange.Okx

open Feed Feed.Stream Json

abbrev Rows := List (List Value)

structure Push where
  event : Option String
  /-- The instrument, if the push names a channel at all. -/
  instrument : Option String
  rows : Rows

def channelInstrument : Decoder String := fun depth tree => do
  match ← recordFields? ["instId"] depth tree with
  | [instrument] => instrument.orElse "" Decoder.text
  | _ => none

def push : Decoder Push := fun depth tree => do
  match ← recordFields? ["event", "arg", "data"] depth tree with
  | [event, arg, data] =>
    let event ← event.orElse none Decoder.text.nullable
    let instrument ← arg.orElse none (Decoder.nullable channelInstrument)
    let rows ← data.orElse [] Decoder.value.list.list
    return ⟨event, instrument, rows⟩
  | _ => none

/-- Acknowledgements carry an event and no price. -/
def decode? (text : String) : Option (String × Rows) := do
  let push ← push.ofText? text
  if (push.event.getD "") ≠ "" || push.rows.isEmpty then none
  else return (← push.instrument, push.rows)

def candleTime (now : Instant) (entry : Value) : Instant :=
  match Wire.integer entry >>= Wire.pastMillis now with
  | .ok time => time
  | .error _ => now

def sample (now : Instant) (rows : Rows) (multiplier : Float) : Except PayloadFault Sample :=
  match rows with
  | [] => .error (.shape .noRows)
  | [time, _, _, _, close, _] :: _ => do
    let price ← Wire.number close
    return ⟨price * multiplier, candleTime now time⟩
  | row :: _ => .error (.shape (.rowLength row.length))

def subscription (tickers : List Ticker) : Value :=
  let argument := fun (ticker : Ticker) => Value.object [
    ("channel", .string "index-candle1m"),
    ("instId", .string ticker.instrument)]
  .object [("op", .string "subscribe"), ("args", .array (tickers.map argument))]

def format : Format Rows where
  exchange := "okx"
  url _ := "wss://ws.okx.com:8443/ws/v5/business"
  subscription tickers := some (subscription tickers).print
  decode? := decode?
  sample := sample
  ping := some pingWord

end IndexPrice.Exchange.Okx
