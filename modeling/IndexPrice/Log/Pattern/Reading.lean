import IndexPrice.Log.Pattern.CharacterSet
import IndexPrice.Log.Pattern.Group

/-!
# Reading patterns

A pattern is a choice of sequences, separated by bars; the pieces of a sequence are
characters, escapes, sets, anchors and groups, each of which may be repeated.  A count
of repetitions in braces cannot occur, because a brace ends the field of a filter.
-/

namespace IndexPrice.Log.Pattern

/-- A piece of a sequence; only a setting of flags cannot be repeated. -/
inductive Piece where
  | setting
  | item (depth : Nat)
  deriving DecidableEq, Repr

def Piece.depth : Piece → Nat
  | .setting => 0
  | .item depth => depth

structure Choice where
  /-- The depths of the sequences that are complete. -/
  complete : List Nat := []
  /-- The pieces of the last sequence, the last one first. -/
  pieces : List Piece := []
  deriving DecidableEq, Repr

namespace Choice

def add (choice : Choice) (piece : Piece) : Choice :=
  { choice with pieces := piece :: choice.pieces }

def nextSequence (choice : Choice) : Choice :=
  { complete := choice.complete ++ [joinedDepth (choice.pieces.map Piece.depth)], pieces := [] }

def depth (choice : Choice) : Nat := joinedDepth choice.nextSequence.complete

def repeatLast? (choice : Choice) : Option Choice :=
  match choice.pieces with
  | .item depth :: pieces => some { choice with pieces := .item (depth + 1) :: pieces }
  | _ => none

end Choice

structure Progress where
  mode : Mode := {}
  names : List (List Char) := []
  /-- Whether a boundary of words in all scripts has come. -/
  hasWordBoundary : Bool := false
  deriving DecidableEq, Repr

namespace Progress

def readPiece (progress : Progress) : List Char → Option (Nat × Progress × List Char)
  | [] => none
  | '[' :: rest =>
    match CharacterSet.read progress.mode rest with
    | some (set, rest) =>
      if set.traits.all progress.mode.allows then some (set.depth, progress, rest) else none
    | none => none
  | '.' :: rest => if progress.mode.allows .complement then some (0, progress, rest) else none
  | '^' :: rest => some (0, progress, rest)
  | '$' :: rest => some (0, progress, rest)
  | '\x7b' :: _ => none
  | text =>
    match CharacterSet.readMember progress.mode text with
    | some (.wordBoundary, rest) =>
      let hasWordBoundary := progress.hasWordBoundary || progress.mode.unicode
      some (0, { progress with hasWordBoundary }, rest)
    | some (escape, rest) =>
      if escape.traits.all progress.mode.allows then some (0, progress, rest) else none
    | none => none

/-- What holds inside a group; no two groups have one name. -/
def enter? (progress : Progress) (name : Option (List Char)) (flags : Flags) : Option Progress :=
  let mode := progress.mode.set flags
  match name with
  | some name =>
    if progress.names.contains name then none
    else some { progress with mode, names := name :: progress.names }
  | none => some { progress with mode }

def readChoice : Nat → Progress → Choice → List Char → Option (Nat × Progress × List Char)
  | 0, _, _, _ => none
  | fuel + 1, progress, choice, text =>
    match progress.mode.skipBlanks text with
    | [] => some (choice.depth, progress, [])
    | ')' :: rest => some (choice.depth, progress, ')' :: rest)
    | '|' :: rest => readChoice fuel progress choice.nextSequence rest
    | '(' :: rest => do
      let (opening, rest) ← Opening.read progress.mode rest
      match opening with
      | .setting flags =>
        let mode := progress.mode.set flags
        readChoice fuel { progress with mode } (choice.add .setting) rest
      | .group name flags =>
        match ← readChoice fuel (← progress.enter? name flags) {} rest with
        | (depth, inner, ')' :: rest) =>
          let after := { inner with mode := progress.mode }
          readChoice fuel after (choice.add (.item (depth + 1))) rest
        | _ => none
    | c :: rest =>
      if c == '?' || c == '*' || c == '+' then do
        let rest := match rest with
          | '?' :: rest => rest
          | rest => rest
        readChoice fuel progress (← choice.repeatLast?) rest
      else do
        let (depth, progress, rest) ← progress.readPiece (c :: rest)
        readChoice fuel progress (choice.add (.item depth)) rest

end Progress

def fault? (text : List Char) : Option Fault :=
  match Progress.readChoice (text.length + 1) {} {} text with
  | some (depth, progress, []) =>
    if maxDepth < depth then some .malformed
    else if progress.hasWordBoundary then some .wordBoundary
    else none
  | _ => some .malformed

end IndexPrice.Log.Pattern
