/-!
# The value of a binary float

A double is sixty-four bits: a sign, an eleven-bit exponent field and a
fifty-two-bit fraction.  `FloatValue.ofFloat` reads the number those bits stand
for, and `totalRank` orders all patterns, signed zeros and not-a-number included.
-/

namespace IndexPrice.Decimal

/-! ## Fields of the bit pattern -/

/-- The number a double stands for; a finite one is `± significand * 2 ^ exponent`. -/
inductive FloatValue where
  | nan
  | infinity (negative : Bool)
  | finite (negative : Bool) (significand : Nat) (exponent : Int)
  deriving DecidableEq, Repr

def signField (bits : Nat) : Bool := Nat.pow 2 63 ≤ bits

def exponentField (bits : Nat) : Nat := bits / Nat.pow 2 52 % Nat.pow 2 11

def fractionField (bits : Nat) : Nat := bits % Nat.pow 2 52

def FloatValue.ofBits (bits : Nat) : FloatValue :=
  let negative := signField bits
  let fraction := fractionField bits
  match exponentField bits with
  | 0 => .finite negative fraction (-1074)
  | 2047 => if fraction = 0 then .infinity negative else .nan
  | field => .finite negative (Nat.pow 2 52 + fraction) (Int.ofNat field - 1075)

def FloatValue.ofFloat (x : Float) : FloatValue := .ofBits x.toBits.toNat

/-! ## A total order -/

/--
The place of a pattern in the order not-a-number with the sign, negative infinity,
negative numbers, `-0`, `0`, positive numbers, positive infinity, not-a-number without
the sign.
-/
def totalRank (bits : UInt64) : Int :=
  let bits := Int.ofNat bits.toNat
  if bits < Int.ofNat (Nat.pow 2 63) then bits else Int.ofNat (Nat.pow 2 63) - 1 - bits

end IndexPrice.Decimal
