import IndexPrice.Json.Printer
import IndexPrice.Json.Record

/-!
# Tickers

A ticker names one instrument on one exchange.  It is written in JSON as an
object of all four fields; a reader may leave out the network and the age.
-/

namespace IndexPrice

structure Ticker where
  exchange : String
  instrument : String
  network : String := ""
  /-- How old a price may be, in seconds, where it differs from the market's. -/
  maxUseAgeSecs : Option Nat := none
  deriving DecidableEq, Repr

namespace Ticker

open Json

def fieldNames : List String := ["exchange_id", "inst_id", "network", "max_use_age_secs"]

def decoder : Decoder Ticker := fun depth tree => do
  match ← recordFields? fieldNames depth tree with
  | [exchange, instrument, network, age] =>
    return {
      exchange := ← exchange.required Decoder.text
      instrument := ← instrument.required Decoder.text
      network := ← network.orElse "" Decoder.text
      maxUseAgeSecs := ← age.orElse none Decoder.nat64.nullable }
  | _ => none

def ofJson? (text : String) : Option Ticker := decoder.ofText? text

def toValue (ticker : Ticker) : Value :=
  .object [
    ("exchange_id", .string ticker.exchange),
    ("inst_id", .string ticker.instrument),
    ("network", .string ticker.network),
    ("max_use_age_secs",
      match ticker.maxUseAgeSecs with
      | none => .null
      | some seconds => .number (.integer seconds))]

def toJson (ticker : Ticker) : String := ticker.toValue.print

end Ticker

end IndexPrice
