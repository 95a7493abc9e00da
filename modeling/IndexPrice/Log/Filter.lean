import IndexPrice.Log.Directive

/-!
# Filters of log records

A filter is a list of directives, separated by commas.  Of the directives that a
record outside every span meets, the most specific decides: the one with the longest
target, then one with a field, then the one whose field comes last, and of two for the
same target and field the later.  A filter without any directive lets errors pass.
-/

namespace IndexPrice.Log

namespace Directive

/-- Whether it needs a span, so that it says nothing about records outside of spans. -/
def needsSpan (directive : Directive) : Bool :=
  directive.span.isSome || directive.field.any (·.2.isSome)

def fieldName (directive : Directive) : Option String := directive.field.map (·.1)

def isMetBy (directive : Directive) (target : String) (record : Record) : Bool :=
  !directive.needsSpan &&
    (directive.target.all fun start => start.toList.isPrefixOf target.toList) &&
    directive.fieldName.all record.hasField

def targetSize (directive : Directive) : Nat :=
  match directive.target with
  | some target => target.utf8ByteSize + 1
  | none => 0

/-- Whether the first directive gives way to the second, which comes later. -/
def givesWayTo (earlier later : Directive) : Bool :=
  if earlier.targetSize ≠ later.targetSize then decide (earlier.targetSize < later.targetSize)
  else
    match earlier.fieldName, later.fieldName with
    | some first, some second => !decide (second < first)
    | some _, none => false
    | none, _ => true

end Directive

abbrev Filter := List Directive

namespace Filter

def parts (text : String) : List (List Char × Except DirectiveFault Directive) :=
  ((text.toList.splitOn ',').filter (!·.isEmpty)).map fun part => (part, Directive.read part)

def read (text : String) : Filter :=
  match (parts text).filterMap (·.2.toOption) with
  | [] => [{ rank := Level.error.rank }]
  | directives => directives

/-- Whether reading the filter comes to a character that a cut would part. -/
def partsCharacter (text : String) : Bool :=
  (parts text).any fun part =>
    match part.2 with
    | .error .partedCharacter => true
    | _ => false

/-- The warnings that reading the filter gives, up to a cut that would part a character. -/
def warnings (text : String) : List String :=
  warningsOf (parts text)
where
  warningsOf : List (List Char × Except DirectiveFault Directive) → List String
    | [] => []
    | (_, .ok _) :: rest => warningsOf rest
    | (_, .error .partedCharacter) :: _ => []
    | (part, .error fault) :: rest =>
      ("ignoring `" ++ String.ofList part ++ "`: " ++ fault.message) :: warningsOf rest

def deciding? (filter : Filter) (target : String) (record : Record) : Option Directive :=
  (filter.filter (·.isMetBy target record)).foldl
    (fun best directive =>
      match best with
      | some earlier => if earlier.givesWayTo directive then some directive else best
      | none => some directive)
    none

def passes (filter : Filter) (target : String) (record : Record) : Bool :=
  match filter.deciding? target record with
  | some directive => decide (record.level.rank ≤ directive.rank)
  | none => false

end Filter

end IndexPrice.Log
