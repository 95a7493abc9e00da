import IndexPrice.Log.Pattern.Basic

/-!
# Groups in patterns

A parenthesis opens a group, which may have a name, as in `(?<name>…)`, or flags of its
own, as in `(?i-u:…)`.  Flags without a colon, as in `(?x)`, are no group: they are set
for the rest of the group they stand in.
-/

namespace IndexPrice.Log.Pattern

inductive Opening where
  | group (name : Option (List Char)) (flags : Flags)
  | setting (flags : Flags)
  deriving DecidableEq, Repr

namespace Opening

def isNameChar (isFirst : Bool) (c : Char) : Bool :=
  c == '_' ||
    (if isFirst then Text.isAlphabetic c
    else Text.isAlphanumeric c || c == '.' || c == '[' || c == ']')

def isName : List Char → Bool
  | [] => false
  | c :: rest => isNameChar true c && rest.all (isNameChar false)

def readName (text : List Char) : Option (Opening × List Char) :=
  let name := text.takeWhile (· != '>')
  match text.dropWhile (· != '>') with
  | [] => none
  | _ :: rest => if isName name then some (.group (some name) [], rest) else none

def flagLetters : List Char := ['i', 'm', 's', 'U', 'u', 'R', 'x']

/-- The rest of the flags: those after a dash are turned off, and one follows it at least. -/
def readFlags (turnsOn afterDash : Bool) (flags : Flags) :
    List Char → Option (Opening × List Char)
  | [] => none
  | c :: rest =>
    if c == ':' || c == ')' then
      if afterDash then none
      else if c == ':' then some (.group none flags, rest)
      else if flags.isEmpty then none
      else some (.setting flags, rest)
    else if c == '-' then
      if turnsOn then readFlags false true flags rest else none
    else if flagLetters.contains c && (flags.lookup c).isNone then
      readFlags turnsOn false ((c, turnsOn) :: flags) rest
    else none

def read (mode : Mode) (text : List Char) : Option (Opening × List Char) :=
  match mode.skipBlanks text with
  | '?' :: '<' :: rest => readName rest
  | '?' :: 'P' :: '<' :: rest => readName rest
  | '?' :: rest => readFlags true false [] rest
  | rest => some (.group none [], rest)

end Opening

end IndexPrice.Log.Pattern
