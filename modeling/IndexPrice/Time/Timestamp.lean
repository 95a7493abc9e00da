import IndexPrice.Decimal.Reading
import IndexPrice.Time.Calendar

/-!
# Timestamps in text

`readTimestamp?` reads a date, a time and a zone such as
`2023-11-14T22:13:20.5Z` or `2023-11-14 23:13:20+01:00`.  The letters may be
small and a blank may stand between date and time.  Second 60 is a leap second,
and digits of the fraction after the ninth are dropped.
-/

namespace IndexPrice

namespace Timestamp

def takeDigits? (n : Nat) (text : List Char) : Option (Nat × List Char) :=
  let digits := text.take n
  if digits.length = n && digits.all Char.isDigit then
    some (Decimal.natOfDigits digits, text.drop n)
  else none

def takeChar? (allowed : List Char) : List Char → Option (List Char)
  | [] => none
  | c :: rest => if allowed.contains c then some rest else none

def takeDate? (text : List Char) : Option (Date × List Char) := do
  let (year, text) ← takeDigits? 4 text
  let text ← takeChar? ['-'] text
  let (month, text) ← takeDigits? 2 text
  let text ← takeChar? ['-'] text
  let (day, text) ← takeDigits? 2 text
  return (⟨year, month, day⟩, text)

/-- The nanoseconds that a string of fraction digits stands for: digits after the ninth are
dropped. -/
def nanosOfFraction (digits : List Char) : Nat :=
  let kept := digits.take 9
  Decimal.natOfDigits kept * Nat.pow 10 (9 - kept.length)

def takeFraction? : List Char → Option (Nat × List Char)
  | '.' :: rest =>
    let digits := rest.takeWhile Char.isDigit
    if digits.isEmpty then none else some (nanosOfFraction digits, rest.dropWhile Char.isDigit)
  | rest => some (0, rest)

def takeTime? (text : List Char) : Option (Nat × Nat × List Char) := do
  let (hour, text) ← takeDigits? 2 text
  let text ← takeChar? [':'] text
  let (minute, text) ← takeDigits? 2 text
  let text ← takeChar? [':'] text
  let (second, text) ← takeDigits? 2 text
  let (nanos, text) ← takeFraction? text
  if 23 < hour || 59 < minute || 60 < second then none
  else if second = 60 then
    return (hour * 3600 + minute * 60 + 59, Span.nanosPerSecond + nanos, text)
  else return (hour * 3600 + minute * 60 + second, nanos, text)

def zone? (text : List Char) : Option Int :=
  if text = ['Z'] || text = ['z'] then some 0
  else do
    let east ← match text.head? with
      | some '+' => some true
      | some '-' | some '\u2212' => some false
      | _ => none
    let (hours, text) ← takeDigits? 2 (text.drop 1)
    let text ← takeChar? [':'] text
    let (minutes, text) ← takeDigits? 2 text
    let offset := Int.ofNat (hours * 3600 + minutes * 60)
    if 59 < minutes || 23 < hours || !text.isEmpty then none
    else return if east then offset else -offset

end Timestamp

open Timestamp in
def readTimestamp? (text : String) : Option Instant := do
  let (date, text) ← takeDate? text.toList
  let text ← takeChar? ['T', 't', ' '] text
  let (second, nanos, text) ← takeTime? text
  let offset ← zone? text
  if date.isValid then
    return ⟨date.daysSinceEpoch * 86400 + Int.ofNat second - offset, nanos⟩
  else none

end IndexPrice
