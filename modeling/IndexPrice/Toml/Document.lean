import IndexPrice.Toml.Quotation
import IndexPrice.Toml.Scalar

/-!
# TOML documents

A document is a sequence of headers and assignments, one a line.  A header opens a
table, and the assignments after it add to that table.  Arrays and inline tables
nest at most `depthLimit` levels, and a key has at most that many names.
-/

namespace IndexPrice.Toml

def depthLimit : Nat := 79

/-! ## Blanks and comments -/

/-- Skips blanks, line breaks and comments; fails on a control character in a comment. -/
def skipTrivia (inComment : Bool) : List Char → Option (List Char)
  | [] => some []
  | '\n' :: rest => skipTrivia false rest
  | '\r' :: '\n' :: rest => skipTrivia false rest
  | c :: rest =>
    if inComment then if isShown c then skipTrivia true rest else none
    else if c = ' ' || c = '\t' then skipTrivia false rest
    else if c = '#' then skipTrivia true rest
    else some (c :: rest)

def endLine? (text : List Char) : Option (List Char) :=
  let atBreak := fun (text : List Char) => if text.isEmpty then some [] else takeLineBreak? text
  match dropBlanks text with
  | '#' :: rest => atBreak (rest.dropWhile isShown)
  | text => atBreak text

/-! ## Keys -/

def isBare (c : Char) : Bool := c.isAlphanum || c = '-' || c = '_'

def takeName? (text : List Char) : Option (String × List Char) :=
  match text with
  | '"' :: rest => takeLine? '"' true rest
  | '\'' :: rest => takeLine? '\'' false rest
  | _ =>
    let name := text.takeWhile isBare
    if name.isEmpty then none else some (String.ofList name, text.drop name.length)

/-- Names between points, with blanks around them; the last name is apart. -/
def takeKey? : Nat → List Char → Option (List String × String × List Char)
  | 0, _ => none
  | names + 1, text => do
    let (name, rest) ← takeName? (dropBlanks text)
    match dropBlanks rest with
    | '.' :: rest =>
      let (path, last, rest) ← takeKey? names rest
      return (name :: path, last, rest)
    | rest => return ([], name, rest)

/-! ## Values -/

mutual

def takeValue? : Nat → Nat → List Char → Option (Item × List Char)
  | 0, _, _ => none
  | fuel + 1, depth, text =>
    match text with
    | '[' :: rest => if depth = 0 then none else takeItems? fuel (depth - 1) [] rest
    | '\x7b' :: rest =>
      if depth = 0 then none
      else match dropBlanks rest with
        | '\x7d' :: rest => some (.table .inline [], rest)
        | rest => takeInline? fuel (depth - 1) [] rest
    | '"' :: _ | '\'' :: _ => (takeString? text).map fun (string, rest) => (.text string, rest)
    | _ => do
      let (chars, rest) := takeScalar text
      return (← scalar? chars, rest)

/-- The items of an array up to its closing bracket; `items` are held last first. -/
def takeItems? : Nat → Nat → List Item → List Char → Option (Item × List Char)
  | 0, _, _, _ => none
  | fuel + 1, depth, items, text => do
    match ← skipTrivia false text with
    | ']' :: rest => return (.array items.reverse, rest)
    | text =>
      let (item, rest) ← takeValue? fuel depth text
      match ← skipTrivia false rest with
      | ',' :: rest => takeItems? fuel depth (item :: items) rest
      | ']' :: rest => return (.array (item :: items).reverse, rest)
      | _ => none

def takeInline? : Nat → Nat → Entries → List Char → Option (Item × List Char)
  | 0, _, _, _ => none
  | fuel + 1, depth, entries, text => do
    let (path, name, rest) ← takeKey? (depthLimit) text
    match rest with
    | '=' :: rest =>
      let (item, rest) ← takeValue? fuel depth (dropBlanks rest)
      let entries ← assign path name item entries
      match dropBlanks rest with
      | ',' :: rest => takeInline? fuel depth entries rest
      | '\x7d' :: rest => return (.table .inline entries, rest)
      | _ => none
    | _ => none

end

/-! ## Lines -/

structure Draft where
  root : Entries := []
  path : List String := []

def Draft.assign (draft : Draft) (path : List String) (name : String) (item : Item) :
    Option Draft := do
  let root ← alterAt (Toml.assign path name item) draft.path draft.root
  return { draft with root }

def Draft.openWith (draft : Draft) (change : String → Entries → Option Entries)
    (path : List String) (name : String) : Option Draft := do
  let root ← alterAt (change name) path draft.root
  return ⟨root, path ++ [name]⟩

def takeLineOf? (draft : Draft) (text : List Char) : Option (Draft × List Char) := do
  match text with
  | '[' :: '[' :: rest =>
    let (path, name, rest) ← takeKey? depthLimit rest
    match rest with
    | ']' :: ']' :: rest => return (← draft.openWith openElement path name, ← endLine? rest)
    | _ => none
  | '[' :: rest =>
    let (path, name, rest) ← takeKey? depthLimit rest
    match rest with
    | ']' :: rest => return (← draft.openWith openTable path name, ← endLine? rest)
    | _ => none
  | _ =>
    let (path, name, rest) ← takeKey? depthLimit text
    match rest with
    | '=' :: rest =>
      let rest := dropBlanks rest
      let (item, rest) ← takeValue? (rest.length + 1) depthLimit rest
      return (← draft.assign path name item, ← endLine? rest)
    | _ => none

def takeLines? : Nat → Draft → List Char → Option Entries
  | 0, _, _ => none
  | fuel + 1, draft, text => do
    match ← skipTrivia false text with
    | [] => return draft.root
    | text =>
      let (draft, rest) ← takeLineOf? draft text
      takeLines? fuel draft rest

/-- A byte order mark may stand before the first line. -/
def dropMark : List Char → List Char
  | '\uFEFF' :: rest => rest
  | text => text

def read? (text : String) : Option Entries :=
  let chars := dropMark text.toList
  takeLines? (chars.length + 1) {} chars

end IndexPrice.Toml
