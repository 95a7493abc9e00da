/-!
# Targets of requests

A target is a path, or a whole address with a scheme, a host and a path.  A question
mark ends the path, and so does a hash.  Other targets have no path.
-/

namespace IndexPrice.Monitoring

def pathPart (text : List Char) : List Char := text.takeWhile fun c => c != '?' && c != '#'

def isSchemeChar (c : Char) : Bool := c.isAlphanum || c == '+' || c == '-' || c == '.'

def afterScheme? (target : List Char) : Option (List Char) :=
  match target.dropWhile isSchemeChar with
  | ':' :: '/' :: '/' :: rest => some rest
  | _ => none

/-- The path after a host; it is the root if there is none. -/
def pathAfterHost? (text : List Char) : Option (List Char) :=
  let endsHost := fun c => c == '/' || c == '?' || c == '#'
  if (text.takeWhile (!endsHost ·)).isEmpty then none
  else
    match pathPart (text.dropWhile (!endsHost ·)) with
    | [] => some ['/']
    | path => some path

def path? (target : String) : Option String :=
  match target.toList with
  | '/' :: rest => some (String.ofList ('/' :: pathPart rest))
  | chars => ((afterScheme? chars).bind pathAfterHost?).map String.ofList

end IndexPrice.Monitoring
