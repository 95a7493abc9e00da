/-!
# TOML items

The tree that a TOML document describes.  A table remembers how it came to be,
because that decides whether later headers and dotted keys may add to it.
-/

namespace IndexPrice.Toml

inductive Origin where
  | header
  /-- Named on the way to the table of a header. -/
  | implied
  /-- Made by a dotted key. -/
  | dotted
  /-- Written between braces, and complete. -/
  | inline
  deriving DecidableEq, Repr

inductive Item where
  | text (value : String)
  | integer (value : Int)
  | float (value : Float)
  | bool (value : Bool)
  | moment
  | array (items : List Item)
  | table (origin : Origin) (entries : List (String × Item))
  /-- The tables that repeated double headers define. -/
  | tables (elements : List (List (String × Item)))

abbrev Entries := List (String × Item)

def itemNamed? (name : String) : Entries → Option Item
  | [] => none
  | entry :: rest => if entry.1 = name then some entry.2 else itemNamed? name rest

/-- Gives `name` the item, in place of an item it has. -/
def setEntry (name : String) (item : Item) : Entries → Entries
  | [] => [(name, item)]
  | entry :: rest =>
    if entry.1 = name then (name, item) :: rest else entry :: setEntry name item rest

/-! ## Adding to tables -/

/--
Changes the table that a header path leads to.  Tables on the way come into being
as implied ones; a list of tables stands for its last element.
-/
def alterAt (change : Entries → Option Entries) : List String → Entries → Option Entries
  | [], entries => change entries
  | name :: path, entries =>
    match itemNamed? name entries with
    | none => do
      let inner ← alterAt change path []
      return setEntry name (.table .implied inner) entries
    | some (.table origin inner) =>
      if origin = .inline then none
      else do
        let inner ← alterAt change path inner
        return setEntry name (.table origin inner) entries
    | some (.tables elements) => do
      let inner ← alterAt change path (← elements.getLast?)
      return setEntry name (.tables (elements.dropLast ++ [inner])) entries
    | some _ => none

/--
Changes the table that a dotted key leads to.  The table itself must come from
dotted keys; tables on the way may also be implied ones.
-/
def alterDotted (change : Entries → Option Entries) : List String → Entries → Option Entries
  | [], entries => change entries
  | name :: path, entries =>
    match itemNamed? name entries with
    | none => do
      let inner ← alterDotted change path []
      return setEntry name (.table .dotted inner) entries
    | some (.table origin inner) =>
      if origin = .dotted ∨ (origin = .implied ∧ path ≠ []) then do
        let inner ← alterDotted change path inner
        return setEntry name (.table origin inner) entries
      else none
    | some (.tables elements) =>
      if path = [] then none
      else do
        let inner ← alterDotted change path (← elements.getLast?)
        return setEntry name (.tables (elements.dropLast ++ [inner])) entries
    | some _ => none

/-- Adds an entry; its name must be new. -/
def addEntry (name : String) (item : Item) (entries : Entries) : Option Entries :=
  if (itemNamed? name entries).isSome then none else some (entries ++ [(name, item)])

def assign (path : List String) (name : String) (item : Item) (entries : Entries) :
    Option Entries :=
  alterDotted (addEntry name item) path entries

/-- Opens the table of a header: a new one, or one that was implied so far. -/
def openTable (name : String) (entries : Entries) : Option Entries :=
  match itemNamed? name entries with
  | none => some (setEntry name (.table .header []) entries)
  | some (.table .implied inner) => some (setEntry name (.table .header inner) entries)
  | some _ => none

def openElement (name : String) (entries : Entries) : Option Entries :=
  match itemNamed? name entries with
  | none => some (setEntry name (.tables [[]]) entries)
  | some (.tables elements) => some (setEntry name (.tables (elements ++ [[]])) entries)
  | some _ => none

end IndexPrice.Toml
