import IndexPrice.Decimal.Shortest

/-!
# Written forms of a float

Both forms write the shortest digits.  The plain form rounds a tie up, is always
positional and has no fraction when the number is whole; the notation of JSON
rounds a tie to the even digit, keeps a fraction and takes an exponent for numbers
of seventeen or more whole digits and for numbers below `1e-5`.
-/

namespace IndexPrice.Decimal

def zeros (n : Nat) : List Char := List.replicate n '0'

def digitsOf (n : Nat) : List Char := Nat.toDigits 10 n

/-- Digits with a point after the first `whole` of them; `whole` is neither 0 nor all. -/
def pointAfter (whole : Nat) (digits : List Char) : List Char :=
  digits.take whole ++ '.' :: digits.drop whole

def signed (negative : Bool) (text : List Char) : List Char :=
  if negative then '-' :: text else text

/-! ## Plain form -/

def plainDigits (s : Scaled) : List Char :=
  let digits := digitsOf s.digits
  let whole := Int.ofNat digits.length + s.scale
  if 0 ≤ s.scale then digits ++ zeros s.scale.toNat
  else if 0 < whole then pointAfter whole.toNat digits
  else '0' :: '.' :: (zeros (-whole).toNat ++ digits)

def FloatValue.plain : FloatValue → List Char
  | .nan => "NaN".toList
  | .infinity negative => signed negative "inf".toList
  | .finite negative significand exponent =>
    signed negative
      (if significand = 0 then ['0'] else plainDigits (shortest .up significand exponent))

/-- A float as messages show it: `100`, `-0`, `0.1`, `NaN`, `inf`, never an exponent. -/
def plain (x : Float) : String := String.ofList (FloatValue.ofFloat x).plain

/-! ## Notation of JSON -/

/-- Digits and exponent of a positive decimal in the notation of JSON. -/
def notationDigits (s : Scaled) : List Char :=
  let digits := digitsOf s.digits
  let whole := Int.ofNat digits.length + s.scale
  if 0 ≤ s.scale ∧ whole ≤ 16 then digits ++ zeros s.scale.toNat ++ ['.', '0']
  else if 0 < whole ∧ whole ≤ 16 then pointAfter whole.toNat digits
  else if -5 < whole ∧ whole ≤ 0 then '0' :: '.' :: (zeros (-whole).toNat ++ digits)
  else
    let mantissa := if digits.length = 1 then digits else pointAfter 1 digits
    let power := whole - 1
    mantissa ++ 'e' :: (if power < 0 then '-' else '+') :: digitsOf power.natAbs

/-- A finite float as a JSON number that is not read back as an integer. -/
def FloatValue.numeral : FloatValue → List Char
  | .finite negative significand exponent =>
    signed negative
      (if significand = 0 then ['0', '.', '0']
      else notationDigits (shortest .toEven significand exponent))
  | _ => "null".toList

def numeral (x : Float) : List Char := (FloatValue.ofFloat x).numeral

end IndexPrice.Decimal
