import IndexPrice.Feed.Fault
import IndexPrice.Price.Sample
import IndexPrice.Price.Ticker

/-!
# Formats of streaming exchanges

A streaming exchange pushes frames over a socket.  Its format says where to dial,
what to send after dialing, which texts carry a price and how to read the price.
A text that carries no price may still be one of the words `ping` and `pong`.
-/

namespace IndexPrice.Feed.Stream

abbrev Payload := List UInt8

inductive RawFrame where
  | text (text : String)
  | binary (bytes : Payload)
  | ping (bytes : Payload)
  | pong (bytes : Payload)
  deriving DecidableEq, Repr

inductive Message (Quote : Type) where
  | price (instrument : String) (quote : Quote)
  | ping
  | pong
  /-- Acknowledgements, heartbeats and anything else without a price. -/
  | ignored
  deriving DecidableEq, Repr

structure Format (Quote : Type) where
  exchange : String
  url : List Ticker → String
  /-- The message to send right after dialing. -/
  subscription : List Ticker → Option String
  decode? : String → Option (String × Quote)
  sample : Instant → Quote → Float → Except PayloadFault Sample
  /-- What to ping with; an exchange without it is never pinged. -/
  ping : Option Payload := none
  pong : Option Payload := none
  /-- Whether to ping at every liveness check and not only after a quiet time. -/
  pingAlways : Bool := false

def Format.classify {Quote : Type} (format : Format Quote) : RawFrame → Message Quote
  | .text text =>
    match format.decode? text with
    | some (instrument, quote) => .price instrument quote
    | none =>
      if text = "pong" then .pong
      else if text = "ping" then .ping
      else .ignored
  | .pong _ => .pong
  | .ping _ => .ping
  | .binary _ => .ignored

def pingWord : Payload := "ping".toUTF8.toList

end IndexPrice.Feed.Stream
