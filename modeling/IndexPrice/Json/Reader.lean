import IndexPrice.Json.Tree
import IndexPrice.Text.Hexadecimal

/-!
# Reading JSON

The reader takes one symbol at a time.  Its state is the lexeme being read, the
arrays and objects that are open, and what may come next.  Reading is strict: no
leading zeros, no comma before a closing bracket, no control character inside a
string.  Blanks may stand around every token.
-/

namespace IndexPrice.Json

open Text

/-! ## Numbers -/

def exponentText? : List Char → Option (Option (Bool × List Char))
  | [] => some none
  | c :: rest =>
    let (negative, digits) := match rest with
      | '-' :: digits => (true, digits)
      | '+' :: digits => (false, digits)
      | digits => (false, digits)
    if (c = 'e' || c = 'E') && !digits.isEmpty && digits.all Char.isDigit then
      some (some (negative, digits))
    else none

def NumberText.ofUnsigned? (negative : Bool) (text : List Char) : Option NumberText :=
  let whole := text.takeWhile Char.isDigit
  let rest := text.dropWhile Char.isDigit
  if whole.isEmpty || (whole.head? = some '0' && 1 < whole.length) then none
  else match rest with
    | '.' :: after =>
      let fraction := after.takeWhile Char.isDigit
      if fraction.isEmpty then none
      else (exponentText? (after.dropWhile Char.isDigit)).map (⟨negative, whole, fraction, ·⟩)
    | rest => (exponentText? rest).map (⟨negative, whole, [], ·⟩)

def NumberText.ofChars? : List Char → Option NumberText
  | '-' :: text => ofUnsigned? true text
  | text => ofUnsigned? false text

def isNumberChar (c : Char) : Bool :=
  c.isDigit || c = '-' || c = '+' || c = '.' || c = 'e' || c = 'E'

/-! ## State -/

/-- What is read of the current token; pieces are held last first. -/
inductive Lexeme where
  | blank
  | number (chars : List Char)
  | word (rest : List Char) (value : Tree)
  | string (parts : StringText)
  | escape (parts : StringText)
  | hex (parts : StringText) (digits : Nat) (code : Nat)

/-- An array or object that waits for the value being read; entries are held last first. -/
inductive Frame where
  | array (items : List Tree)
  | object (fields : List (StringText × Tree)) (key : StringText)

inductive Phase where
  | value
  | firstItem
  | key (fields : List (StringText × Tree))
  | colon (fields : List (StringText × Tree)) (key : StringText)
  | complete (tree : Tree)

structure Reader where
  lexeme : Lexeme := .blank
  phase : Phase := .value
  stack : List Frame := []

namespace Reader

/-! ## Tokens -/

def scalar (r : Reader) (tree : Tree) : Option Reader :=
  match r.phase with
  | .value => some { r with lexeme := .blank, phase := .complete tree }
  | .firstItem =>
    some { lexeme := .blank, phase := .complete tree, stack := .array [] :: r.stack }
  | _ => none

/-- A string has been read; it is a key where a key may stand. -/
def closeString (r : Reader) (text : StringText) : Option Reader :=
  match r.phase with
  | .key fields => some { r with lexeme := .blank, phase := .colon fields text }
  | _ => r.scalar (.string text)

def openArray (r : Reader) : Option Reader :=
  match r.phase with
  | .value => some { r with phase := .firstItem }
  | .firstItem => some { r with phase := .firstItem, stack := .array [] :: r.stack }
  | _ => none

def openObject (r : Reader) : Option Reader :=
  match r.phase with
  | .value => some { r with phase := .key [] }
  | .firstItem => some { r with phase := .key [], stack := .array [] :: r.stack }
  | _ => none

def closeArray (r : Reader) : Option Reader :=
  match r.phase, r.stack with
  | .firstItem, _ => some { r with phase := .complete (.array []) }
  | .complete tree, .array items :: stack =>
    some { r with phase := .complete (.array (tree :: items).reverse), stack }
  | _, _ => none

def closeObject (r : Reader) : Option Reader :=
  match r.phase, r.stack with
  | .key [], _ => some { r with phase := .complete (.object []) }
  | .complete tree, .object fields key :: stack =>
    some { r with phase := .complete (.object ((key, tree) :: fields).reverse), stack }
  | _, _ => none

def comma (r : Reader) : Option Reader :=
  match r.phase, r.stack with
  | .complete tree, .array items :: stack =>
    some { r with phase := .value, stack := .array (tree :: items) :: stack }
  | .complete tree, .object fields key :: stack =>
    some { r with phase := .key ((key, tree) :: fields), stack }
  | _, _ => none

def colon (r : Reader) : Option Reader :=
  match r.phase with
  | .colon fields key => some { r with phase := .value, stack := .object fields key :: r.stack }
  | _ => none

/-! ## Symbols -/

def isBlank (c : Char) : Bool := c = ' ' || c = '\t' || c = '\n' || c = '\r'

def start (r : Reader) : Symbol → Option Reader
  | none => none
  | some c =>
    match c with
    | '[' => r.openArray
    | ']' => r.closeArray
    | '\x7b' => r.openObject
    | '\x7d' => r.closeObject
    | ',' => r.comma
    | ':' => r.colon
    | '"' => some { r with lexeme := .string [] }
    | 'n' => some { r with lexeme := .word "ull".toList .null }
    | 't' => some { r with lexeme := .word "rue".toList (.bool true) }
    | 'f' => some { r with lexeme := .word "alse".toList (.bool false) }
    | _ =>
      if isBlank c then some r
      else if c.isDigit || c = '-' then some { r with lexeme := .number [c] }
      else none

def escape? : Char → Option Char
  | '"' => some '"'
  | '\\' => some '\\'
  | '/' => some '/'
  | 'b' => some '\x08'
  | 'f' => some '\x0c'
  | 'n' => some '\n'
  | 'r' => some '\r'
  | 't' => some '\t'
  | _ => none

def flush (r : Reader) : Option Reader :=
  match r.lexeme with
  | .blank => some r
  | .number chars => (NumberText.ofChars? chars.reverse).bind fun text => r.scalar (.number text)
  | _ => none

def inString (r : Reader) (parts : StringText) (symbol : Symbol) : Option Reader :=
  if symbol = some '"' then r.closeString parts.reverse
  else if symbol = some '\\' then some { r with lexeme := .escape parts }
  else if symbol.any (·.toNat < 0x20) then none
  else some { r with lexeme := .string (.symbol symbol :: parts) }

def inEscape (r : Reader) (parts : StringText) (symbol : Symbol) : Option Reader := do
  let c ← symbol
  if c = 'u' then return { r with lexeme := .hex parts 0 0 }
  else return { r with lexeme := .string (.escaped (← escape? c) :: parts) }

def inHex (r : Reader) (parts : StringText) (digits code : Nat) (symbol : Symbol) :
    Option Reader := do
  let code := 16 * code + (← hexValue? (← symbol))
  if digits = 3 then return { r with lexeme := .string (.unit code :: parts) }
  else return { r with lexeme := .hex parts (digits + 1) code }

def feed (r : Reader) (symbol : Symbol) : Option Reader :=
  match r.lexeme with
  | .blank => r.start symbol
  | .number chars =>
    match symbol with
    | some c =>
      if isNumberChar c then some { r with lexeme := .number (c :: chars) }
      else r.flush.bind (·.start symbol)
    | none => none
  | .word [] _ => none
  | .word (c :: rest) value =>
    if symbol = some c then
      if rest.isEmpty then r.scalar value else some { r with lexeme := .word rest value }
    else none
  | .string parts => r.inString parts symbol
  | .escape parts => r.inEscape parts symbol
  | .hex parts digits code => r.inHex parts digits code symbol

def result (r : Reader) : Option Tree := do
  let r ← r.flush
  match r.phase, r.stack with
  | .complete tree, [] => some tree
  | _, _ => none

end Reader

def Tree.ofSymbols? (symbols : List Symbol) : Option Tree :=
  (symbols.foldlM Reader.feed {}).bind Reader.result

def Tree.ofText? (text : String) : Option Tree := Tree.ofSymbols? (ofText text)

end IndexPrice.Json
