import IndexPrice.Text.Hexadecimal

/-!
# TOML strings

Four kinds of strings: between double quotes with escapes, between single quotes
as they stand, and both between three quotes over several lines.  The readers take
the text after the opening quotes and return the characters and what follows.
-/

namespace IndexPrice.Toml

def isShown (c : Char) : Bool := c = '\t' || (0x20 ≤ c.toNat && c.toNat ≠ 0x7F)

def takeCodePoint? (length : Nat) (text : List Char) : Option (Char × List Char) :=
  let digits := text.take length
  let code := Text.natInBase 16 digits
  if digits.length = length && digits.all Text.isHex && code.isValidChar then
    some (Char.ofNat code, text.drop length)
  else none

def takeEscape? : List Char → Option (Char × List Char)
  | 'b' :: rest => some ('\x08', rest)
  | 't' :: rest => some ('\t', rest)
  | 'n' :: rest => some ('\n', rest)
  | 'f' :: rest => some ('\x0c', rest)
  | 'r' :: rest => some ('\r', rest)
  | '"' :: rest => some ('"', rest)
  | '\\' :: rest => some ('\\', rest)
  | 'u' :: rest => takeCodePoint? 4 rest
  | 'U' :: rest => takeCodePoint? 8 rest
  | _ => none

def lineBody (quote : Char) (escapes : Bool) : Nat → List Char → Option (List Char × List Char)
  | 0, _ => none
  | _ + 1, [] => none
  | fuel + 1, c :: rest =>
    if c = quote then some ([], rest)
    else if c = '\\' && escapes then do
      let (char, rest) ← takeEscape? rest
      let (chars, rest) ← lineBody quote escapes fuel rest
      return (char :: chars, rest)
    else if isShown c then do
      let (chars, rest) ← lineBody quote escapes fuel rest
      return (c :: chars, rest)
    else none

def takeLineBreak? : List Char → Option (List Char)
  | '\n' :: rest => some rest
  | '\r' :: '\n' :: rest => some rest
  | _ => none

def dropBlanks (text : List Char) : List Char := text.dropWhile fun c => c = ' ' || c = '\t'

def dropWhite : List Char → List Char
  | ' ' :: rest => dropWhite rest
  | '\t' :: rest => dropWhite rest
  | '\n' :: rest => dropWhite rest
  | '\r' :: '\n' :: rest => dropWhite rest
  | text => text

/--
A string over several lines up to its three closing quotes, before which one or two
more may stand.  A backslash at the end of a line joins it to the next word.
-/
def blockBody (quote : Char) (escapes : Bool) : Nat → List Char → Option (List Char × List Char)
  | 0, _ => none
  | _ + 1, [] => none
  | fuel + 1, c :: rest =>
    if c = quote then
      let quotes := (c :: rest).takeWhile (· = quote)
      let after := (c :: rest).drop quotes.length
      if quotes.length < 3 then do
        let (chars, rest) ← blockBody quote escapes fuel after
        return (quotes ++ chars, rest)
      else if quotes.length ≤ 5 then some (quotes.drop 3, after)
      else none
    else if c = '\\' && escapes then
      match takeLineBreak? (dropBlanks rest) with
      | some rest => blockBody quote escapes fuel (dropWhite rest)
      | none => do
        let (char, rest) ← takeEscape? rest
        let (chars, rest) ← blockBody quote escapes fuel rest
        return (char :: chars, rest)
    else
      match takeLineBreak? (c :: rest) with
      | some rest => do
        let (chars, rest) ← blockBody quote escapes fuel rest
        return ('\n' :: chars, rest)
      | none =>
        if isShown c then do
          let (chars, rest) ← blockBody quote escapes fuel rest
          return (c :: chars, rest)
        else none

/-- A line break right after the opening quotes is no part of the string. -/
def dropFirstBreak (text : List Char) : List Char := (takeLineBreak? text).getD text

def takeBlock? (quote : Char) (escapes : Bool) (text : List Char) :
    Option (String × List Char) := do
  let (chars, rest) ← blockBody quote escapes (text.length + 1) (dropFirstBreak text)
  return (String.ofList chars, rest)

def takeLine? (quote : Char) (escapes : Bool) (text : List Char) :
    Option (String × List Char) := do
  let (chars, rest) ← lineBody quote escapes (text.length + 1) text
  return (String.ofList chars, rest)

def takeString? : List Char → Option (String × List Char)
  | '"' :: '"' :: '"' :: rest => takeBlock? '"' true rest
  | '"' :: rest => takeLine? '"' true rest
  | '\'' :: '\'' :: '\'' :: rest => takeBlock? '\'' false rest
  | '\'' :: rest => takeLine? '\'' false rest
  | _ => none

end IndexPrice.Toml
