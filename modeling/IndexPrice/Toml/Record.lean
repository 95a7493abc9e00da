import IndexPrice.Toml.Document

/-!
# Reading records from TOML

A record is a table with the record's fields, or an array that lists them in their
declared order.  Entries and items beyond the declared ones are passed over.  A date
or a time counts as a table without any of the fields.
-/

namespace IndexPrice.Toml

abbrev Decoder (α : Type) := Item → Option α

namespace Decoder

variable {α : Type}

def text : Decoder String
  | .text value => some value
  | _ => none

def bool : Decoder Bool
  | .bool value => some value
  | _ => none

def nat : Decoder Nat
  | .integer value => if 0 ≤ value then some value.toNat else none
  | _ => none

/-- A float; an integer may stand for one. -/
def float : Decoder Float
  | .float value => some value
  | .integer value => some (Float.ofInt value)
  | _ => none

def list (decode : Decoder α) : Decoder (List α)
  | .array items => items.mapM decode
  | .tables elements => elements.mapM fun entries => decode (.table .header entries)
  | _ => none

def optional (decode : Decoder α) : Decoder (Option α) := fun item => (decode item).map some

end Decoder

inductive FieldItem where
  | given (item : Item)
  | missing
  /-- An array that ends before the field. -/
  | beyond

namespace FieldItem

variable {α : Type}

def required (decode : Decoder α) : FieldItem → Option α
  | given item => decode item
  | _ => none

def optional (decode : Decoder α) : FieldItem → Option (Option α)
  | given item => (decode item).map some
  | missing => some none
  | beyond => none

def orElse (default : α) (decode : Decoder α) : FieldItem → Option α
  | given item => decode item
  | _ => some default

end FieldItem

def namedItem (entries : Entries) (name : String) : FieldItem :=
  match itemNamed? name entries with
  | some item => .given item
  | none => .missing

def recordFields? (names : List String) : Decoder (List FieldItem)
  | .table _ entries => some (names.map (namedItem entries))
  | .array items => some (listed items)
  | .tables elements => some (listed (elements.map (.table .header)))
  | .moment => some (names.map fun _ => .missing)
  | _ => none
where
  listed (items : List Item) : List FieldItem :=
    let given := (items.take names.length).map FieldItem.given
    given ++ List.replicate (names.length - given.length) .beyond

end IndexPrice.Toml
