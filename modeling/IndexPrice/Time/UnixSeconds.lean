import IndexPrice.Decimal.Binary
import IndexPrice.Time.Instant

/-!
# Decimal seconds since the epoch

The whole part of a double gives the second and its fraction the nanoseconds.
The fraction is exact; its product with a thousand million is rounded to fifty-three
bits and then cut.  The arithmetic is on natural numbers throughout.
-/

namespace IndexPrice.UnixSeconds

open Decimal (FloatValue)

/-- `n` rounded to fifty-three bits, ties to the even neighbour. -/
def roundTo53 (n : Nat) : Nat :=
  let unit := Nat.pow 2 (n.log2 + 1 - 53)
  let below := n / unit
  let rest := n % unit
  if unit < 2 * rest ∨ (unit = 2 * rest ∧ below % 2 = 1) then (below + 1) * unit else below * unit

def wholePart (significand : Nat) (exponent : Int) : Nat :=
  significand * Nat.pow 2 exponent.toNat / Nat.pow 2 (-exponent).toNat

def fractionNanos (significand : Nat) (exponent : Int) : Nat :=
  let unit := Nat.pow 2 (-exponent).toNat
  roundTo53 (significand % unit * Span.nanosPerSecond) / unit

def clamp (n : Int) : Int :=
  let bound := Int.ofNat (Nat.pow 2 63)
  max (-bound) (min n (bound - 1))

/-- Whole seconds and nanoseconds; a negative number has no nanoseconds. -/
def split : FloatValue → Int × Nat
  | .nan => (0, 0)
  | .infinity negative =>
    let beyond := Int.ofNat (Nat.pow 2 64)
    (clamp (if negative then -beyond else beyond), 0)
  | .finite true significand exponent => (clamp (-wholePart significand exponent), 0)
  | .finite false significand exponent =>
    (clamp (wholePart significand exponent), fractionNanos significand exponent)

def instant? (x : FloatValue) : Option Instant :=
  Instant.ofSeconds? (split x).1 (split x).2

end IndexPrice.UnixSeconds
