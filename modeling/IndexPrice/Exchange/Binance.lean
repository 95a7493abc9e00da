import IndexPrice.Feed.Stream.Format
import IndexPrice.Feed.Wire

/-!
# Binance

Candle streams of one minute.  The instruments are part of the address, so nothing
is sent after dialing.  The price is the close of the running candle and the time
its closing time, or now while that lies ahead.
-/

namespace IndexPrice.Exchange.Binance

open Feed Feed.Stream Json

/-- Close and closing time in milliseconds of a candle. -/
structure Candle where
  close : String
  closeMillis : Int
  deriving DecidableEq, Repr

def candle : Decoder Candle := fun depth tree => do
  match ← recordFields? ["c", "T"] depth tree with
  | [close, time] =>
    return { close := ← close.required Decoder.text, closeMillis := ← time.required Decoder.int64 }
  | _ => none

def event : Decoder (Option Candle) := fun depth tree => do
  match ← recordFields? ["k"] depth tree with
  | [k] => k.optional candle
  | _ => none

def envelope : Decoder (String × Option Candle) := fun depth tree => do
  match ← recordFields? ["stream", "data"] depth tree with
  | [stream, data] => return (← stream.required Decoder.text, ← data.required event)
  | _ => none

def decode? (text : String) : Option (String × Candle) := do
  let (stream, candle) ← envelope.ofText? text
  return (stream, ← candle)

def sample (now : Instant) (candle : Candle) (multiplier : Float) :
    Except PayloadFault Sample := do
  let price ← Wire.floatText candle.close
  let time ← Wire.pastMillis now candle.closeMillis
  return ⟨price * multiplier, time⟩

def url (tickers : List Ticker) : String :=
  "wss://stream.binance.com:9443/stream?streams="
    ++ String.intercalate "/" (tickers.map (·.instrument))

def format : Format Candle where
  exchange := "binance"
  url := url
  subscription _ := none
  decode? := decode?
  sample := sample

end IndexPrice.Exchange.Binance
