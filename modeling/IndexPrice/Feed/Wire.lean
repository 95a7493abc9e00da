import IndexPrice.Feed.Fault
import IndexPrice.Json.Printer
import IndexPrice.Time.Timestamp
import IndexPrice.Time.UnixSeconds

/-!
# Values on the wire

How exchanges write prices and times: numbers plain or in strings, milliseconds,
decimal seconds and timestamps.
-/

namespace IndexPrice.Feed.Wire

open Json

def floatText (text : String) : Except PayloadFault Float :=
  (Decimal.readFloat text.toList).mapError fun fault => .number text (.float fault)

/-- A number, plain or in a string. -/
def number : Value → Except PayloadFault Float
  | .number n => .ok n.toFloat
  | .string text => floatText text
  | other => .error (.number other.print .notANumber)

def integer : Value → Except PayloadFault Int
  | .number (.integer n) =>
    if n ≤ Decimal.maxInt64 then .ok n
    else .error (.number (Value.number (.integer n)).print .notAnInteger)
  | .string text =>
    (Decimal.readInt64 text.toList).mapError fun fault => .number text (.integer fault)
  | other => .error (.number other.print .notAnInteger)

/-- Milliseconds since the epoch; a time that lies ahead becomes `now`. -/
def pastMillis (now : Instant) (millis : Int) : Except PayloadFault Instant :=
  match Instant.ofMillis? millis with
  | some time => .ok (time.earliest now)
  | none => .error (.timestamp (toString millis) .outOfRange)

def unixSeconds (text : String) : Except PayloadFault Instant :=
  match Decimal.readFloat text.toList with
  | .error fault => .error (.timestamp text (.float fault))
  | .ok x =>
    match UnixSeconds.instant? (.ofFloat x) with
    | some time => .ok time
    | none => .error (.timestamp text .outOfRange)

def timestamp (text : String) : Except PayloadFault Instant :=
  match readTimestamp? text with
  | some time => .ok time
  | none => .error (.timestamp text .notATimestamp)

end IndexPrice.Feed.Wire
