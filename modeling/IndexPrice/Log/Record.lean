/-!
# Log records
-/

namespace IndexPrice.Log

inductive Level where
  | error
  | warn
  | info
  | debug
  | trace
  deriving DecidableEq, Repr

namespace Level

def name : Level → String
  | .error => "ERROR"
  | .warn => "WARN"
  | .info => "INFO"
  | .debug => "DEBUG"
  | .trace => "TRACE"

def rank : Level → Nat
  | .error => 1
  | .warn => 2
  | .info => 3
  | .debug => 4
  | .trace => 5

end Level

structure Record where
  level : Level
  message : String
  /-- The names of the values that come with the message. -/
  fields : List String := []
  deriving DecidableEq, Repr

def Record.hasField (record : Record) (name : String) : Bool :=
  name = "message" || record.fields.contains name

end IndexPrice.Log
