import IndexPrice.Decimal.Reading
import IndexPrice.Text.Hexadecimal
import IndexPrice.Time.Timestamp
import IndexPrice.Toml.Item

/-!
# TOML scalars

Words, numbers, dates and times.  A scalar runs up to a blank, a line break, a
comma, a closing bracket or a comment; only a date may be followed by one blank
and a time.
-/

namespace IndexPrice.Toml

/-! ## Numbers -/

/-- Digits of a class in which single underscores may stand between digits. -/
def isGrouped (isDigit : Char → Bool) : List Char → Bool
  | [] => false
  | [c] => isDigit c
  | c :: '_' :: rest => isDigit c && isGrouped isDigit rest
  | c :: rest => isDigit c && isGrouped isDigit rest

def isPlainDigits (text : List Char) : Bool :=
  isGrouped Char.isDigit text && (text.length = 1 || text.head? ≠ some '0')

def withoutGroups (text : List Char) : List Char := text.filter (· ≠ '_')

def natInBase (base : Nat) (text : List Char) : Nat :=
  Text.natInBase base (withoutGroups text)

def int64? (n : Int) : Option Item :=
  if Decimal.minInt64 ≤ n ∧ n ≤ Decimal.maxInt64 then some (.integer n) else none

def integer? (text : List Char) : Option Item :=
  match text with
  | '0' :: 'x' :: digits =>
    if isGrouped Text.isHex digits then int64? (natInBase 16 digits) else none
  | '0' :: 'o' :: digits =>
    if isGrouped (fun c => '0' ≤ c && c ≤ '7') digits then int64? (natInBase 8 digits) else none
  | '0' :: 'b' :: digits =>
    if isGrouped (fun c => c = '0' || c = '1') digits then int64? (natInBase 2 digits) else none
  | _ =>
    let (negative, digits) := Decimal.takeSign text
    if isPlainDigits digits then
      let size := Int.ofNat (natInBase 10 digits)
      int64? (if negative then -size else size)
    else none

def isFloatTail (text : List Char) : Bool :=
  let isExponent := fun (text : List Char) =>
    match text with
    | c :: rest => (c = 'e' || c = 'E') && isGrouped Char.isDigit (Decimal.takeSign rest).2
    | [] => false
  match text with
  | '.' :: rest =>
    let fraction := rest.takeWhile fun c => c.isDigit || c = '_'
    let rest := rest.drop fraction.length
    isGrouped Char.isDigit fraction && (rest.isEmpty || isExponent rest)
  | _ => isExponent text

/-- A number with a fraction or an exponent; it must not round up to infinity. -/
def float? (text : List Char) : Option Item :=
  let (negative, number) := Decimal.takeSign text
  let special := fun (x : Float) => Item.float (if negative then -x else x)
  if number = "inf".toList then some (special Decimal.infinity)
  else if number = "nan".toList then some (special Decimal.notANumber)
  else
    let whole := number.takeWhile fun c => c.isDigit || c = '_'
    if isPlainDigits whole && isFloatTail (number.drop whole.length) then
      match Decimal.readFloat (withoutGroups text) with
      | .ok x => if x == Decimal.infinity then none else some (.float x)
      | .error _ => none
    else none

/-! ## Dates and times -/

def isDate (text : List Char) : Bool :=
  match Timestamp.takeDate? text with
  | some (date, []) => date.isValid
  | _ => false

def isTime (zoned : Bool) (text : List Char) : Bool :=
  match Timestamp.takeTime? text with
  | some (_, _, []) => true
  | some (_, _, rest) => zoned && (rest.head? ≠ some '\u2212') && (Timestamp.zone? rest).isSome
  | none => false

def isDateTime (text : List Char) : Bool :=
  isDate (text.take 10)
    && (text.drop 10).head?.any (fun c => c = 'T' || c = 't' || c = ' ')
    && isTime true (text.drop 11)

/-! ## Scalars -/

def endsScalar (c : Char) : Bool :=
  c = ' ' || c = '\t' || c = '\n' || c = '\r' || c = ',' || c = ']' || c = '\x7d' || c = '#'

def scalar? (text : List Char) : Option Item :=
  if text = "true".toList then some (.bool true)
  else if text = "false".toList then some (.bool false)
  else if isDate text || isTime false text || isDateTime text then some .moment
  else (integer? text).or (float? text)

/-- Splits off the characters of a scalar; after a date, a blank and a digit belong to it. -/
def takeScalar (text : List Char) : List Char × List Char :=
  let first := text.takeWhile fun c => !endsScalar c
  let rest := text.drop first.length
  match rest with
  | ' ' :: c :: _ =>
    if isDate first && c.isDigit then
      let second := (rest.drop 1).takeWhile fun c => !endsScalar c
      (first ++ ' ' :: second, rest.drop (second.length + 1))
    else (first, rest)
  | _ => (first, rest)

end IndexPrice.Toml
