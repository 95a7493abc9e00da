import IndexPrice.Log.Pattern.Escape

/-!
# Sets of characters in patterns

A set between brackets holds characters, ranges, shorthands, named sets such as
`[:digit:]` and other sets, with `&&`, `--` and `~~` between two sets.  A bracket that
closes is a character when nothing stands before it, and so is a dash at the beginning
or the end.
-/

namespace IndexPrice.Log.Pattern

structure CharacterSet where
  depth : Nat
  traits : List Trait
  deriving DecidableEq, Repr

structure SetReading where
  /-- The depth of what stands before the last operator. -/
  before : List Nat := []
  /-- The depths of the items after it. -/
  items : List Nat := []
  traits : List Trait := []
  opening : Bool := true
  deriving DecidableEq, Repr

namespace SetReading

def add (set : SetReading) (depth : Nat) (traits : List Trait) : SetReading :=
  { set with items := set.items ++ [depth], traits := set.traits ++ traits, opening := false }

def depth (set : SetReading) : Nat := joinedDepth (set.before ++ [joinedDepth set.items])

def operator (set : SetReading) : SetReading :=
  { set with before := [set.depth], items := [], opening := false }

def close (set : SetReading) : CharacterSet := { depth := set.depth + 1, traits := set.traits }

end SetReading

namespace CharacterSet

def names : List String :=
  ["alnum", "alpha", "ascii", "blank", "cntrl", "digit", "graph", "lower", "print", "punct",
    "space", "upper", "word", "xdigit"]

def readNegation : List Char → Bool × List Char
  | '^' :: rest => (true, rest)
  | text => (false, text)

def readNamed? : List Char → Option (Bool × List Char)
  | ':' :: rest =>
    let (negated, rest) := readNegation rest
    match rest.dropWhile (· != ':') with
    | ':' :: ']' :: after =>
      if names.contains (String.ofList (rest.takeWhile (· != ':'))) then some (negated, after)
      else none
    | _ => none
  | _ => none

def start (mode : Mode) (text : List Char) : SetReading × List Char :=
  let (negated, rest) := readNegation (mode.skipBlanks text)
  ({ traits := if negated then [.complement] else [] }, rest)

def readMember (mode : Mode) : List Char → Option (Escape × List Char)
  | [] => none
  | '\\' :: rest => Escape.read mode rest
  | c :: rest => some (.symbol c false, rest)

def traitsUpTo (last : Char) : List Trait :=
  if Escape.isAscii last then [.named] else [.named, .beyondAscii]

def traitsOf? : Escape → Option (List Trait)
  | .symbol char _ => some (traitsUpTo char)
  | .shorthand negated => some (Escape.shorthand negated).traits
  | .anchor | .wordBoundary => none

/-- The mark after a dash; a number sign before it is passed over, but not a comment. -/
def markAfterDash (mode : Mode) (text : List Char) : Option Char :=
  if mode.verbose then
    match text.dropWhile Text.isBlank with
    | '#' :: rest => (rest.dropWhile Text.isBlank).head?
    | rest => rest.head?
  else text.head?

def readItem (mode : Mode) (text : List Char) : Option (List Trait × List Char) := do
  let (first, rest) ← readMember mode text
  match mode.skipBlanks rest with
  | '-' :: after =>
    let mark := markAfterDash mode after
    if mark == some ']' || mark == some '-' then return (← traitsOf? first, '-' :: after)
    else
      match first, ← readMember mode (mode.skipBlanks after) with
      | .symbol low _, (.symbol high _, rest) =>
        if low ≤ high then return (traitsUpTo high, rest) else none
      | _, _ => none
  | rest => return (← traitsOf? first, rest)

def readRest (mode : Mode) : Nat → SetReading → List Char → Option (CharacterSet × List Char)
  | 0, _, _ => none
  | fuel + 1, set, text =>
    match mode.skipBlanks text with
    | [] => none
    | c :: rest =>
      if set.opening && c == '-' then
        readRest mode fuel { set.add 0 [.named] with opening := true } rest
      else if set.opening && set.items.isEmpty && c == ']' then
        readRest mode fuel (set.add 0 [.named]) rest
      else if c == ']' then some (set.close, rest)
      else if c == '[' then
        match readNamed? rest with
        | some (negated, rest) =>
          let traits := if negated then [.named, .complement] else [.named]
          readRest mode fuel (set.add 0 traits) rest
        | none =>
          let (inner, rest) := start mode rest
          match readRest mode fuel inner rest with
          | some (inner, rest) => readRest mode fuel (set.add inner.depth inner.traits) rest
          | none => none
      else if (c == '&' || c == '-' || c == '~') && rest.head? == some c then
        readRest mode fuel set.operator (rest.drop 1)
      else
        match readItem mode (c :: rest) with
        | some (traits, rest) => readRest mode fuel (set.add 0 traits) rest
        | none => none

def read (mode : Mode) (text : List Char) : Option (CharacterSet × List Char) :=
  let (set, rest) := start mode text
  readRest mode (rest.length + 1) set rest

end CharacterSet

end IndexPrice.Log.Pattern
