/-!
# Maps from names

A finite map from strings, held as a list of entries in ascending order of the
names.  The order of names is by code point, so a map has one representation and
is listed the same way however it was built.
-/

namespace IndexPrice

structure NameMap (α : Type) where
  entries : List (String × α)
  sorted : entries.Pairwise fun a b => a.1 < b.1

namespace NameMap

variable {α β : Type}

/-! ## Entries -/

/-- Puts an entry into its place, in place of an entry of the same name. -/
def insertEntry (name : String) (value : α) : List (String × α) → List (String × α)
  | [] => [(name, value)]
  | entry :: rest =>
    if name < entry.1 then (name, value) :: entry :: rest
    else if name = entry.1 then (name, value) :: rest
    else entry :: insertEntry name value rest

private theorem mem_insertEntry {name : String} {value : α} {entry : String × α}
    {entries : List (String × α)} (h : entry ∈ insertEntry name value entries) :
    entry = (name, value) ∨ entry ∈ entries := by
  induction entries with
  | nil => simpa [insertEntry] using h
  | cons first rest ih =>
    rw [insertEntry] at h
    split at h
    · simpa using h
    · split at h
      · rcases List.mem_cons.1 h with h | h
        · exact .inl h
        · exact .inr (List.mem_cons_of_mem _ h)
      · rcases List.mem_cons.1 h with h | h
        · exact .inr (h ▸ List.mem_cons_self)
        · exact (ih h).imp id (List.mem_cons_of_mem _)

private theorem lt_of_not_lt_of_ne {a b : String} (not_lt : ¬ a < b) (ne : a ≠ b) : b < a :=
  Decidable.byContradiction fun h =>
    ne (String.le_antisymm (String.not_lt.1 h) (String.not_lt.1 not_lt))

private theorem insertEntry_sorted (name : String) (value : α) {entries : List (String × α)}
    (sorted : entries.Pairwise fun a b => a.1 < b.1) :
    (insertEntry name value entries).Pairwise fun a b => a.1 < b.1 := by
  induction entries with
  | nil => simp [insertEntry]
  | cons first rest ih =>
    have later := (List.pairwise_cons.1 sorted).1
    rw [insertEntry]
    split
    case isTrue lt =>
      refine List.pairwise_cons.2 ⟨fun entry member => ?_, sorted⟩
      rcases List.mem_cons.1 member with rfl | member
      · exact lt
      · exact String.lt_trans lt (later _ member)
    case isFalse not_lt =>
      split
      case isTrue eq =>
        subst eq
        exact List.pairwise_cons.2 ⟨fun _ member => later _ member, sorted.of_cons⟩
      case isFalse ne =>
        refine List.pairwise_cons.2 ⟨fun entry member => ?_, ih sorted.of_cons⟩
        rcases mem_insertEntry member with rfl | member
        · exact lt_of_not_lt_of_ne not_lt ne
        · exact later _ member

def lookup (name : String) : List (String × α) → Option α
  | [] => none
  | entry :: rest => if entry.1 = name then some entry.2 else lookup name rest

/-! ## Maps -/

def empty : NameMap α := ⟨[], .nil⟩

instance : EmptyCollection (NameMap α) := ⟨empty⟩

instance : Inhabited (NameMap α) := ⟨empty⟩

def insert (map : NameMap α) (name : String) (value : α) : NameMap α :=
  ⟨insertEntry name value map.entries, insertEntry_sorted name value map.sorted⟩

def get? (map : NameMap α) (name : String) : Option α := lookup name map.entries

def contains (map : NameMap α) (name : String) : Bool := (map.get? name).isSome

def names (map : NameMap α) : List String := map.entries.map (·.1)

def values (map : NameMap α) : List α := map.entries.map (·.2)

/-- Puts the entries in, one after another: of two of one name the later stays. -/
def ofList (entries : List (String × α)) : NameMap α :=
  entries.foldl (fun map entry => map.insert entry.1 entry.2) empty

def update (map : NameMap α) (name : String) (initial : α) (change : α → α) : NameMap α :=
  map.insert name (change ((map.get? name).getD initial))

def map (f : String → α → β) (m : NameMap α) : NameMap β :=
  ⟨m.entries.map fun entry => (entry.1, f entry.1 entry.2), List.pairwise_map.2 m.sorted⟩

/-! ## Lookup after insertion -/

private theorem lookup_insertEntry_self (name : String) (value : α) (entries : List (String × α)) :
    lookup name (insertEntry name value entries) = some value := by
  induction entries with
  | nil => simp [insertEntry, lookup]
  | cons first rest ih =>
    rw [insertEntry]
    split
    · simp [lookup]
    · split
      · simp [lookup]
      · rename_i ne
        simp [lookup, Ne.symm ne, ih]

private theorem lookup_insertEntry_ne {name other : String} (value : α) (ne : name ≠ other)
    (entries : List (String × α)) :
    lookup other (insertEntry name value entries) = lookup other entries := by
  induction entries with
  | nil => simp [insertEntry, lookup, ne]
  | cons first rest ih =>
    rw [insertEntry]
    split
    · simp [lookup, ne]
    · split
      · rename_i eq
        subst eq
        simp [lookup, ne]
      · by_cases h : first.1 = other <;> simp [lookup, h, ih]

@[simp] theorem get?_empty (name : String) : (empty : NameMap α).get? name = none := rfl

@[simp] theorem get?_insert_self (map : NameMap α) (name : String) (value : α) :
    (map.insert name value).get? name = some value :=
  lookup_insertEntry_self name value map.entries

theorem get?_insert_ne (map : NameMap α) {name other : String} (value : α) (ne : name ≠ other) :
    (map.insert name value).get? other = map.get? other :=
  lookup_insertEntry_ne value ne map.entries

theorem get?_insert (map : NameMap α) (name other : String) (value : α) :
    (map.insert name value).get? other = if name = other then some value else map.get? other := by
  split
  · next eq => rw [← eq, get?_insert_self]
  · next ne => exact map.get?_insert_ne value ne

end NameMap

end IndexPrice
