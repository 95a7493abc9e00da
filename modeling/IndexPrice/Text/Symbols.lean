/-!
# Characters and broken bytes

Text that arrives as bytes is read as a list of symbols: a character, or `none`
for a byte that belongs to no character in UTF-8.  A broken byte never takes the
ASCII characters after it along, so punctuation is found in damaged text too.
-/

namespace IndexPrice.Text

/-- A character, or a byte that is part of no character. -/
abbrev Symbol := Option Char

def ofText (text : String) : List Symbol := text.toList.map some

/-! ## Decoding UTF-8 -/

def continuation? (byte : UInt8) : Option Nat :=
  if 0x80 ≤ byte ∧ byte < 0xC0 then some (byte.toNat - 0x80) else none

/-- The character of that code, if it needs at least `least` and is no surrogate. -/
def scalar? (least code : Nat) : Option Char :=
  if least ≤ code ∧ code.isValidChar then some (Char.ofNat code) else none

def twoBytes? (a b : UInt8) : Option Char := do
  let y ← continuation? b
  if 0xC0 ≤ a ∧ a < 0xE0 then scalar? 0x80 ((a.toNat - 0xC0) * 64 + y) else none

def threeBytes? (a b c : UInt8) : Option Char := do
  let y ← continuation? b
  let z ← continuation? c
  if 0xE0 ≤ a ∧ a < 0xF0 then
    scalar? 0x800 (((a.toNat - 0xE0) * 64 + y) * 64 + z)
  else none

def fourBytes? (a b c d : UInt8) : Option Char := do
  let y ← continuation? b
  let z ← continuation? c
  let w ← continuation? d
  if 0xF0 ≤ a ∧ a < 0xF8 then
    scalar? 0x10000 ((((a.toNat - 0xF0) * 64 + y) * 64 + z) * 64 + w)
  else none

def firstChar? : List UInt8 → Option (Char × Nat)
  | [] => none
  | a :: rest =>
    if a < 0x80 then some (Char.ofNat a.toNat, 1)
    else match rest with
      | [] => none
      | b :: rest =>
        match twoBytes? a b with
        | some char => some (char, 2)
        | none => match rest with
          | [] => none
          | c :: rest =>
            match threeBytes? a b c with
            | some char => some (char, 3)
            | none => match rest with
              | [] => none
              | d :: _ => (fourBytes? a b c d).map (·, 4)

def symbolsFrom (skip : Nat) : List UInt8 → List Symbol
  | [] => []
  | byte :: rest =>
    match skip with
    | skip + 1 => symbolsFrom skip rest
    | 0 =>
      match firstChar? (byte :: rest) with
      | some (char, width) => some char :: symbolsFrom (width - 1) rest
      | none => none :: symbolsFrom 0 rest

def ofBytes (bytes : List UInt8) : List Symbol := symbolsFrom 0 bytes

def toText? (symbols : List Symbol) : Option String :=
  (symbols.mapM id).map String.ofList

end IndexPrice.Text
