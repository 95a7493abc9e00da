import IndexPrice.Json.Value

/-!
# Reading records from JSON

A record is an object with the record's fields, or an array of them in their
declared order.  A field may be given once only; other keys are passed over
without looking into their values.  A `Decoder` reads a tree that may nest so
many more levels.
-/

namespace IndexPrice.Json

abbrev Decoder (α : Type) := Nat → Tree → Option α

namespace Decoder

variable {α : Type}

/-! ## Values -/

def text : Decoder String
  | _, .string s => s.text?
  | _, _ => none

def float : Decoder Float
  | _, .number n => n.number?.map Number.toFloat
  | _, _ => none

def integerWithin (least most : Int) : Decoder Int
  | _, .number n =>
    match n.number? with
    | some (.integer value) => if least ≤ value ∧ value ≤ most then some value else none
    | _ => none
  | _, _ => none

def int64 : Decoder Int := integerWithin Decimal.minInt64 Decimal.maxInt64

def nat64 : Decoder Nat := fun depth t =>
  (integerWithin 0 (Int.ofNat (Nat.pow 2 64) - 1) depth t).map Int.toNat

def value : Decoder Value := Tree.value?

def nullable (decode : Decoder α) : Decoder (Option α)
  | _, .null => some none
  | depth, t => (decode depth t).map some

def list (decode : Decoder α) : Decoder (List α)
  | depth + 1, .array items => items.mapM (decode depth)
  | _, _ => none

/-- An object read as a map; of two values for one key the later stays. -/
def map (decode : Decoder α) : Decoder (NameMap α)
  | depth + 1, .object fields => do
    let entries ← fields.mapM fun field => do
      let name ← field.1.text?
      let value ← decode depth field.2
      return (name, value)
    return NameMap.ofList entries
  | _, _ => none

end Decoder

/-! ## Records -/

inductive FieldTree where
  | given (depth : Nat) (tree : Tree)
  | missing
  /-- An array that ends before the field. -/
  | beyond

namespace FieldTree

variable {α : Type}

def required (decode : Decoder α) : FieldTree → Option α
  | given depth tree => decode depth tree
  | _ => none

/-- A field that may be `null`, or missing from an object. -/
def optional (decode : Decoder α) : FieldTree → Option (Option α)
  | given depth tree => decode.nullable depth tree
  | missing => some none
  | beyond => none

def orElse (default : α) (decode : Decoder α) : FieldTree → Option α
  | given depth tree => decode depth tree
  | _ => some default

end FieldTree

def namedField? (depth : Nat) (fields : List (String × Tree)) (name : String) : Option FieldTree :=
  match fields.filter (·.1 = name) with
  | [] => some .missing
  | [field] => some (.given depth field.2)
  | _ => none

def recordFields? (names : List String) : Decoder (List FieldTree)
  | depth + 1, .object fields => do
    let named ← fields.mapM fun field => field.1.text?.map (·, field.2)
    names.mapM (namedField? depth named)
  | depth + 1, .array items =>
    if names.length < items.length then none
    else
      let beyond := List.replicate (names.length - items.length) FieldTree.beyond
      some (items.map (.given depth) ++ beyond)
  | _, _ => none

def Decoder.ofSymbols? {α : Type} (decode : Decoder α) (symbols : List Text.Symbol) : Option α :=
  (Tree.ofSymbols? symbols).bind (decode depthLimit)

def Decoder.ofText? {α : Type} (decode : Decoder α) (text : String) : Option α :=
  decode.ofSymbols? (Text.ofText text)

end IndexPrice.Json
