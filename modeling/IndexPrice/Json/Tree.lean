import IndexPrice.Text.Symbols

/-!
# JSON as written

A `Tree` is a well-formed JSON text with its numbers and strings still as they
were written.  What a number is worth, whether a string is valid Unicode and how
deep a value may nest is asked only of the parts that a reader keeps.
-/

namespace IndexPrice.Json

open Text

/-- A number as written: `fraction` is empty if there is no point. -/
structure NumberText where
  negative : Bool
  whole : List Char
  fraction : List Char
  /-- Whether the exponent has a minus, and its digits. -/
  exponent : Option (Bool × List Char)
  deriving DecidableEq, Repr

inductive StringPart where
  | symbol (symbol : Symbol)
  | escaped (char : Char)
  /-- A code unit of UTF-16, written in hexadecimal. -/
  | unit (code : Nat)
  deriving DecidableEq, Repr

abbrev StringText := List StringPart

inductive Tree where
  | null
  | bool (value : Bool)
  | number (text : NumberText)
  | string (text : StringText)
  | array (items : List Tree)
  | object (fields : List (StringText × Tree))

/-! ## What strings say -/

def surrogatePair (high low : Nat) : Char :=
  Char.ofNat (0x10000 + (high - 0xD800) * 1024 + (low - 0xDC00))

/-- The characters of a string; none if a byte is broken or a surrogate stands alone. -/
def StringText.chars? : StringText → Option (List Char)
  | [] => some []
  | .symbol none :: _ => none
  | .symbol (some c) :: rest => (c :: ·) <$> chars? rest
  | .escaped c :: rest => (c :: ·) <$> chars? rest
  | .unit code :: rest =>
    if code < 0xD800 ∨ 0xE000 ≤ code then (Char.ofNat code :: ·) <$> chars? rest
    else if code < 0xDC00 then
      match rest with
      | .unit low :: rest =>
        if 0xDC00 ≤ low ∧ low < 0xE000 then (surrogatePair code low :: ·) <$> chars? rest else none
      | _ => none
    else none

def StringText.text? (text : StringText) : Option String := text.chars?.map String.ofList

end IndexPrice.Json
