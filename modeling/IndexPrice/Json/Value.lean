import IndexPrice.Json.Number
import IndexPrice.Json.Reader
import IndexPrice.NameMap

/-!
# JSON values

A `Value` is a JSON text that has been kept whole: its strings are text, its
numbers have a worth, and an object holds each key once, in order, with the last
value given for it.  Values nest at most `depthLimit` arrays and objects.
-/

namespace IndexPrice.Json

inductive Value where
  | null
  | bool (value : Bool)
  | number (value : Number)
  | string (text : String)
  | array (items : List Value)
  | object (fields : List (String × Value))

/-- How many arrays and objects may enclose a kept value, counted from the outermost. -/
def depthLimit : Nat := 127

mutual

def Tree.value? (depth : Nat) : Tree → Option Value
  | .null => some .null
  | .bool b => some (.bool b)
  | .number n => n.number?.map .number
  | .string s => s.text?.map .string
  | .array items =>
    if depth = 0 then none else (Tree.values? (depth - 1) items).map .array
  | .object fields =>
    if depth = 0 then none else (Tree.fieldValues? (depth - 1) [] fields).map .object

def Tree.values? (depth : Nat) : List Tree → Option (List Value)
  | [] => some []
  | t :: rest => do
    let value ← t.value? depth
    let values ← Tree.values? depth rest
    return value :: values

def Tree.fieldValues? (depth : Nat) (earlier : List (String × Value)) :
    List (StringText × Tree) → Option (List (String × Value))
  | [] => some earlier
  | (key, t) :: rest => do
    let name ← key.text?
    let value ← t.value? depth
    Tree.fieldValues? depth (NameMap.insertEntry name value earlier) rest

end

def Value.ofText? (text : String) : Option Value :=
  (Tree.ofText? text).bind (Tree.value? depthLimit)

end IndexPrice.Json
