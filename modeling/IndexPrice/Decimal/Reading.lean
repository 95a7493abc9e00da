/-!
# Reading numbers from text

A float is an optional sign, digits with at most one point and at least one
digit, and an optional exponent; or one of the words `inf`, `infinity` and `nan`
in any case.  The value is the nearest double.  A whole number is an optional
sign and decimal digits, and must fit its range.
-/

namespace IndexPrice.Decimal

/-! ## Digits -/

def digitValue (c : Char) : Nat := c.toNat - '0'.toNat

def natOfDigits (digits : List Char) : Nat :=
  digits.foldl (fun n c => 10 * n + digitValue c) 0

/-! ## Floats -/

inductive FloatTextError where
  | empty
  | invalid
  deriving DecidableEq, Repr

def FloatTextError.message : FloatTextError → String
  | .empty => "cannot parse float from empty string"
  | .invalid => "invalid float literal"

def takeSign : List Char → Bool × List Char
  | '-' :: rest => (true, rest)
  | '+' :: rest => (false, rest)
  | rest => (false, rest)

/-- The exponent that may follow the digits of a float: nothing, or `e`, a sign and digits. -/
def exponent? : List Char → Option Int
  | [] => some 0
  | c :: rest =>
    let (negative, digits) := takeSign rest
    if c.toLower = 'e' && !digits.isEmpty && digits.all Char.isDigit then
      some (if negative then -Int.ofNat (natOfDigits digits) else Int.ofNat (natOfDigits digits))
    else none

/-- The double nearest to `digits * 10 ^ power`. -/
def nearest (digits : Nat) (power : Int) : Float :=
  Float.ofScientific digits (power < 0) power.natAbs

def unsignedNumber? (text : List Char) : Option Float :=
  let whole := text.takeWhile Char.isDigit
  let rest := text.dropWhile Char.isDigit
  let (fraction, rest) := match rest with
    | '.' :: after => (after.takeWhile Char.isDigit, after.dropWhile Char.isDigit)
    | _ => ([], rest)
  if whole.isEmpty && fraction.isEmpty then none
  else (exponent? rest).map fun power =>
    nearest (natOfDigits (whole ++ fraction)) (power - Int.ofNat fraction.length)

def infinity : Float := 1.0 / 0.0

def notANumber : Float := 0.0 / 0.0

def specialWord? (text : List Char) : Option Float :=
  let word := String.ofList (text.map Char.toLower)
  if word = "inf" ∨ word = "infinity" then some infinity
  else if word = "nan" then some notANumber
  else none

def readFloat (text : List Char) : Except FloatTextError Float :=
  if text.isEmpty then .error .empty
  else
    let (negative, rest) := takeSign text
    match (unsignedNumber? rest).or (specialWord? rest) with
    | some x => .ok (if negative then -x else x)
    | none => .error .invalid

/-! ## Whole numbers -/

inductive IntegerTextError where
  | empty
  | invalidDigit
  | tooLarge
  | tooSmall
  deriving DecidableEq, Repr

def IntegerTextError.message : IntegerTextError → String
  | .empty => "cannot parse integer from empty string"
  | .invalidDigit => "invalid digit found in string"
  | .tooLarge => "number too large to fit in target type"
  | .tooSmall => "number too small to fit in target type"

def minInt64 : Int := -Int.ofNat (Nat.pow 2 63)

def maxInt64 : Int := Int.ofNat (Nat.pow 2 63) - 1

/-- Reads a signed 64-bit integer; the first fault from the left decides the error. -/
def readInt64 (text : List Char) : Except IntegerTextError Int :=
  if text.isEmpty then .error .empty
  else
    let (negative, digits) := takeSign text
    if digits.isEmpty then .error .invalidDigit
    else
      -- the digits before the first character that is none may already leave the range
      let readable := digits.takeWhile Char.isDigit
      let size := Int.ofNat (natOfDigits readable)
      let value := if negative then -size else size
      if maxInt64 < value then .error .tooLarge
      else if value < minInt64 then .error .tooSmall
      else if readable.length < digits.length then .error .invalidDigit
      else .ok value

end IndexPrice.Decimal
