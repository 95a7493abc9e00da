import IndexPrice.Text.Classes

/-!
# Patterns for field values

A filter may ask for the values of a field that match a pattern, a regular expression.
Only fields of spans have values that are matched, and no record here stands in a span,
so all that matters about a pattern is whether it can be built.  A reader therefore
keeps no tree of a pattern: it keeps its depth and what its pieces ask of the mode.

A pattern is matched against the bytes of a text, and it must not match a part of a
character.  No tables of letters and cases are at hand, so while a pattern is about all
of Unicode it cannot ignore case or ask for letters and digits; while it is about ASCII
alone it cannot match what lies beyond.
-/

namespace IndexPrice.Log.Pattern

inductive Fault where
  | malformed
  /-- A boundary of words, which the letters of all scripts make up. -/
  | wordBoundary
  deriving DecidableEq, Repr

def Fault.message : Fault → String
  | .malformed => "error building NFA"
  | .wordBoundary =>
    "unsupported regex feature for DFAs: cannot build DFAs for regexes with Unicode word "
      ++ "boundaries; switch to ASCII word boundaries, or heuristically enable Unicode word "
      ++ "boundaries or use a different regex engine"

/-! ## Modes -/

structure Mode where
  ignoresCase : Bool := false
  unicode : Bool := true
  /-- Blanks and comments are passed over. -/
  verbose : Bool := false
  deriving DecidableEq, Repr

abbrev Flags := List (Char × Bool)

def Mode.set (mode : Mode) (flags : Flags) : Mode where
  ignoresCase := (flags.lookup 'i').getD mode.ignoresCase
  unicode := (flags.lookup 'u').getD mode.unicode
  verbose := (flags.lookup 'x').getD mode.verbose

inductive Trait where
  /-- It names characters, which have a case. -/
  | named
  /-- It asks for a kind of characters that Unicode lists in a table. -/
  | tabled
  /-- It matches everything but some characters. -/
  | complement
  /-- It is about a byte that is no ASCII character. -/
  | beyondAscii
  deriving DecidableEq, Repr

def Mode.allows (mode : Mode) : Trait → Bool
  | .named => !(mode.unicode && mode.ignoresCase)
  | .tabled => !mode.unicode
  | .complement | .beyondAscii => mode.unicode

/-! ## Depth -/

/-- The depth of things that stand side by side: one alone has its own. -/
def joinedDepth : List Nat → Nat
  | [] => 0
  | [depth] => depth
  | depths => depths.foldl max 0 + 1

def maxDepth : Nat := 250

/-! ## Blanks -/

def afterBlanks (inComment : Bool) : List Char → List Char
  | [] => []
  | c :: rest =>
    if inComment then afterBlanks (c != '\n') rest
    else if Text.isBlank c then afterBlanks false rest
    else if c == '#' then afterBlanks true rest
    else c :: rest

def Mode.skipBlanks (mode : Mode) (text : List Char) : List Char :=
  if mode.verbose then afterBlanks false text else text

end IndexPrice.Log.Pattern
