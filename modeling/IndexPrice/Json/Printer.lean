import IndexPrice.Json.Value

/-!
# Writing JSON

Values are written without blanks, objects in the order of their fields.  Strings
escape quotes, backslashes and control characters only.
-/

namespace IndexPrice.Json

def hexDigit (n : Nat) : Char := (Nat.toDigits 16 n).headD '0'

def escapedChar (c : Char) : List Char :=
  match c with
  | '"' => ['\\', '"']
  | '\\' => ['\\', '\\']
  | '\x08' => ['\\', 'b']
  | '\x0c' => ['\\', 'f']
  | '\n' => ['\\', 'n']
  | '\r' => ['\\', 'r']
  | '\t' => ['\\', 't']
  | _ =>
    if c.toNat < 0x20 then
      ['\\', 'u', '0', '0', hexDigit (c.toNat / 16), hexDigit (c.toNat % 16)]
    else [c]

def stringChars (text : String) : List Char :=
  '"' :: (text.toList.flatMap escapedChar ++ ['"'])

mutual

def Value.chars : Value → List Char
  | .null => "null".toList
  | .bool true => "true".toList
  | .bool false => "false".toList
  | .number n => n.text
  | .string text => stringChars text
  | .array items => '[' :: (Value.itemChars items ++ [']'])
  | .object fields => '\x7b' :: (Value.fieldChars fields ++ ['\x7d'])

def Value.itemChars : List Value → List Char
  | [] => []
  | [v] => v.chars
  | v :: rest => v.chars ++ ',' :: Value.itemChars rest

def Value.fieldChars : List (String × Value) → List Char
  | [] => []
  | [(name, v)] => stringChars name ++ ':' :: v.chars
  | (name, v) :: rest => stringChars name ++ ':' :: (v.chars ++ ',' :: Value.fieldChars rest)

end

def Value.print (v : Value) : String := String.ofList v.chars

end IndexPrice.Json
