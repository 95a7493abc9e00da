import IndexPrice.Decimal.Reading
import IndexPrice.Log.Pattern.Reading
import IndexPrice.Log.Record
import IndexPrice.Text.Classes

/-!
# Directives of a log filter

A directive is a level, the beginning of a target, or a target with a level after an
equals sign: `warn`, `net`, `net=debug`.  Brackets after the target name a span, and
braces in them a field: `net[request]`, `net[{user}]=debug`, `[{user=ann}]`.  A value
after the field is a number, or else a pattern.  A directive without a level lets
everything pass.

Blanks at the ends of a directive are passed over when its marks are looked for, but
they count when it is cut at the marks: blanks at the beginning displace every cut.
-/

namespace IndexPrice.Log

structure Directive where
  /-- What a target begins with. -/
  target : Option String := none
  span : Option String := none
  /-- The name of a field, with the value that is asked for. -/
  field : Option (String × Option String) := none
  rank : Nat := Level.trace.rank
  deriving DecidableEq, Repr

inductive DirectiveFault where
  | malformed
  | level
  | pattern (fault : Pattern.Fault)
  /-- A displaced cut that would part a character. -/
  | partedCharacter
  deriving DecidableEq, Repr

def DirectiveFault.message : DirectiveFault → String
  | .malformed => "invalid filter directive"
  | .level =>
    "error parsing level filter: expected one of \"off\", \"error\", \"warn\", \"info\", "
      ++ "\"debug\", \"trace\", or a number 0-5"
  | .pattern fault => "invalid field filter: " ++ fault.message
  | .partedCharacter => "a cut would part a character"

/-! ## Levels -/

def rankNumber? (text : List Char) : Option Nat :=
  let digits := match text with
    | '+' :: digits => digits
    | digits => digits
  if digits.isEmpty || digits.any (!·.isDigit) then none
  else
    let rank := Decimal.natOfDigits digits
    if rank ≤ Level.trace.rank then some rank else none

/-- A level in words, in any case of letters, or as a number; nothing passes at rank zero. -/
def readRank? (text : List Char) : Option Nat :=
  match rankNumber? text with
  | some rank => some rank
  | none =>
    match String.ofList (text.map Char.toLower) with
    | "off" => some 0
    | "error" => some Level.error.rank
    | "warn" => some Level.warn.rank
    | "info" => some Level.info.rank
    | "debug" => some Level.debug.rank
    | "trace" => some Level.trace.rank
    | _ => none

/-! ## Cutting -/

def afterBytes? : Nat → List Char → Option (List Char)
  | 0, text => some text
  | _, [] => none
  | bytes, c :: rest => if c.utf8Size ≤ bytes then afterBytes? (bytes - c.utf8Size) rest else none

def firstBytes? : Nat → List Char → Option (List Char)
  | 0, _ => some []
  | _, [] => none
  | bytes, c :: rest =>
    if c.utf8Size ≤ bytes then (firstBytes? (bytes - c.utf8Size) rest).map (c :: ·) else none

def cut (text : List Char) (start stop : Nat) : Except DirectiveFault (List Char) :=
  match (afterBytes? start text).bind (firstBytes? (stop - start)) with
  | some part => .ok part
  | none => .error .partedCharacter

def cutToEnd (text : List Char) (start : Nat) : Except DirectiveFault (List Char) :=
  match afterBytes? start text with
  | some part => .ok part
  | none => .error .partedCharacter

def findMark (isMark : Char → Bool) : Nat → List Char → Nat × List Char
  | position, [] => (position, [])
  | position, c :: rest =>
    if isMark c then (position, c :: rest) else findMark isMark (position + c.utf8Size) rest

/-! ## Reading -/

namespace Directive

/-- The level that begins at a position; it goes on to the end of the whole text. -/
def readLevel (whole : List Char) (start : Nat) (directive : Directive) :
    Except DirectiveFault Directive := do
  let level ← cutToEnd whole start
  if level.isEmpty then return directive
  else
    match readRank? level with
    | some rank => return { directive with rank }
    | none => throw .level

def readAfterBrackets (whole : List Char) (position : Nat) (directive : Directive) :
    List Char → Except DirectiveFault Directive
  | [] => .ok directive
  | '=' :: _ => readLevel whole (position + 1) directive
  | _ => .error .malformed

def fieldOf (text : List Char) : String × Option String :=
  match text.splitOn '=' with
  | name :: value :: _ => (String.ofList name, some (String.ofList value))
  | _ => (String.ofList text, none)

/-- Why a value cannot be asked for: what is not a number is a pattern. -/
def valueFault? (value : String) : Option Pattern.Fault :=
  match Decimal.readFloat value.toList with
  | .ok _ => none
  | .error _ => Pattern.fault? value.toList

def readField (whole : List Char) (position : Nat) (directive : Directive) (text : List Char) :
    Except DirectiveFault Directive := do
  let (closing, rest) := findMark (· == '\x7d') position text
  match rest with
  | [] => throw .malformed
  | _ :: rest =>
    let field ← cut whole position closing
    if field.isEmpty then throw .malformed
    else
      let (name, value) := fieldOf field
      match value.bind valueFault?, rest with
      | some fault, _ => throw (.pattern fault)
      | none, ']' :: rest =>
        readAfterBrackets whole (closing + 2) { directive with field := some (name, value) } rest
      | none, _ => throw .malformed

def readBrackets (whole : List Char) (position : Nat) (directive : Directive)
    (text : List Char) : Except DirectiveFault Directive := do
  let (mark, rest) := findMark (fun c => c == ']' || c == '\x7b') position text
  match rest with
  | [] => throw .malformed
  | ']' :: rest =>
    let span ← cut whole position mark
    readAfterBrackets whole (mark + 1) { directive with span := some (String.ofList span) } rest
  | _ :: rest =>
    let span ← cut whole position mark
    let named := if span.isEmpty then none else some (String.ofList span)
    readField whole (mark + 1) { directive with span := named } rest

def isFirstChar (c : Char) : Bool := c == '-' || c == ':' || c == '_' || Text.isAlphanumeric c

def ofWord (whole : List Char) : Directive :=
  match readRank? whole with
  | some rank => { rank }
  | none => { target := some (String.ofList whole) }

def read (whole : List Char) : Except DirectiveFault Directive := do
  match Text.trimmed whole with
  | [] => throw .malformed
  | '[' :: rest => readBrackets whole 1 {} rest
  | c :: rest =>
    if !isFirstChar c then throw .malformed
    else
      let (mark, rest) := findMark (fun c => c == '=' || c == '[') c.utf8Size rest
      match rest with
      | [] => return ofWord whole
      | sign :: rest =>
        let target ← cut whole 0 mark
        let directive : Directive := { target := some (String.ofList target) }
        if sign == '=' then readLevel whole (mark + 1) directive
        else readBrackets whole (mark + 1) directive rest

end Directive

end IndexPrice.Log
