import IndexPrice.Log.Pattern.Basic
import IndexPrice.Text.Hexadecimal

/-!
# Escapes in patterns

What a backslash makes of the characters after it.
-/

namespace IndexPrice.Log.Pattern

inductive Escape where
  | symbol (char : Char) (isByte : Bool)
  | shorthand (negated : Bool)
  | anchor
  | wordBoundary
  deriving DecidableEq, Repr

namespace Escape

def isAscii (c : Char) : Bool := c.toNat < 0x80

def traits : Escape → List Trait
  | .symbol char isByte => if isByte && !isAscii char then [.named, .beyondAscii] else [.named]
  | .shorthand negated => if negated then [.tabled, .complement] else [.tabled]
  | .anchor | .wordBoundary => []

def readHex (mode : Mode) : Nat → Nat → List Char → Option (Char × List Char)
  | 0, code, text => if code.isValidChar then some (Char.ofNat code, text) else none
  | digits + 1, code, text =>
    match mode.skipBlanks text with
    | [] => none
    | c :: rest => (Text.hexValue? c).bind fun digit => readHex mode digits (16 * code + digit) rest

/-- The characters after a backslash; classes with a name have no tables. -/
def read (mode : Mode) : List Char → Option (Escape × List Char)
  | [] => none
  | c :: rest =>
    match c with
    | 'x' => (readHex mode 2 0 rest).map fun (char, rest) => (.symbol char true, rest)
    | 'u' => (readHex mode 4 0 rest).map fun (char, rest) => (.symbol char false, rest)
    | 'U' => (readHex mode 8 0 rest).map fun (char, rest) => (.symbol char false, rest)
    | 'd' | 's' | 'w' => some (.shorthand false, rest)
    | 'D' | 'S' | 'W' => some (.shorthand true, rest)
    | 'A' | 'z' => some (.anchor, rest)
    | 'b' | 'B' | '<' | '>' => some (.wordBoundary, rest)
    | 'a' => some (.symbol '\x07' false, rest)
    | 'f' => some (.symbol '\x0c' false, rest)
    | 't' => some (.symbol '\t' false, rest)
    | 'n' => some (.symbol '\n' false, rest)
    | 'r' => some (.symbol '\r' false, rest)
    | 'v' => some (.symbol '\x0b' false, rest)
    | c => if isAscii c && !c.isAlphanum then some (.symbol c false, rest) else none

end Escape

end IndexPrice.Log.Pattern
