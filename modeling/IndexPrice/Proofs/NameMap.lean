import IndexPrice.NameMap
import Mathlib.Data.List.Induction

/-!
# Maps from names: listing and building

The names of a map are listed in strictly ascending order, each with the value
that a look-up gives, so a map is known by its look-ups and insertions of different
names may change places.  A map that is built from a list of entries knows exactly
their names.
-/

namespace IndexPrice.NameMap

variable {α : Type}

theorem names_pairwise (map : NameMap α) : map.names.Pairwise (· < ·) :=
  List.pairwise_map.mpr map.sorted

private theorem mem_of_lookup {name : String} {value : α} {entries : List (String × α)}
    (h : lookup name entries = some value) : (name, value) ∈ entries := by
  induction entries with
  | nil => cases h
  | cons entry rest ih =>
      rw [lookup] at h
      split at h
      · next heq =>
          cases h
          exact heq ▸ List.mem_cons_self
      · exact List.mem_cons_of_mem _ (ih h)

private theorem lookup_of_mem {name : String} {value : α} {entries : List (String × α)}
    (sorted : entries.Pairwise fun a b => a.1 < b.1) (h : (name, value) ∈ entries) :
    lookup name entries = some value := by
  induction entries with
  | nil => cases h
  | cons entry rest ih =>
      rcases List.mem_cons.mp h with rfl | hrest
      · simp [lookup]
      · have hlt : entry.1 < name := (List.pairwise_cons.mp sorted).1 _ hrest
        have hne : entry.1 ≠ name := fun heq => String.lt_irrefl name (heq ▸ hlt)
        rw [lookup, if_neg hne]
        exact ih sorted.of_cons hrest

theorem mem_entries_iff (map : NameMap α) (name : String) (value : α) :
    (name, value) ∈ map.entries ↔ map.get? name = some value :=
  ⟨lookup_of_mem map.sorted, mem_of_lookup⟩

theorem mem_names_iff (map : NameMap α) (name : String) :
    name ∈ map.names ↔ (map.get? name).isSome = true := by
  simp only [names, List.mem_map, Prod.exists, mem_entries_iff, exists_and_right, exists_eq_right,
    Option.isSome_iff_exists]

theorem forall_entries_iff (map : NameMap α) {P : String → α → Prop} :
    (∀ entry ∈ map.entries, P entry.1 entry.2) ↔
      ∀ name value, map.get? name = some value → P name value := by
  simp only [Prod.forall, mem_entries_iff]

theorem filterMap_entries {β : Type} (map : NameMap α) (name : String) (f : α → Option β) :
    map.entries.filterMap (fun entry => if entry.1 = name then f entry.2 else none) =
      ((map.get? name).bind f).toList := by
  obtain ⟨entries, hsorted⟩ := map
  unfold get?
  induction entries with
  | nil => rfl
  | cons entry rest ih =>
      obtain ⟨hfirst, hrest⟩ := List.pairwise_cons.mp hsorted
      rw [lookup]
      by_cases heq : entry.1 = name
      · have hnone : rest.filterMap (fun entry => if entry.1 = name then f entry.2 else none) =
            [] := by
          rw [List.filterMap_eq_nil_iff]
          intro later hlater
          exact if_neg fun hsame => String.lt_irrefl name
            (calc
              name = entry.1 := heq.symm
              _ < later.1 := hfirst later hlater
              _ = name := hsame)
        rw [if_pos heq, Option.bind_some]
        cases hvalue : f entry.2 <;> simp [heq, hvalue, hnone]
      · rw [if_neg heq, List.filterMap_cons, if_neg heq]
        exact ih hrest

private theorem nodup_entries (map : NameMap α) : map.entries.Nodup := by
  rw [List.Nodup]
  exact map.sorted.imp fun hlt heq => String.ne_of_lt hlt (congrArg Prod.fst heq)

theorem ext_get? {first second : NameMap α}
    (h : ∀ name, first.get? name = second.get? name) : first = second := by
  have hmem : ∀ entry, entry ∈ first.entries ↔ entry ∈ second.entries := by
    rintro ⟨name, value⟩
    rw [mem_entries_iff, mem_entries_iff, h]
  have hperm : first.entries.Perm second.entries :=
    (List.perm_ext_iff_of_nodup first.nodup_entries second.nodup_entries).mpr hmem
  have hentries : first.entries = second.entries :=
    hperm.eq_of_pairwise
      (fun _ _ _ _ hlt hgt => absurd (String.lt_trans hlt hgt) (String.lt_irrefl _))
      first.sorted second.sorted
  cases first
  cases second
  cases hentries
  rfl

theorem insert_comm (map : NameMap α) {name other : String} (ne : name ≠ other)
    (value last : α) :
    (map.insert name value).insert other last = (map.insert other last).insert name value := by
  apply ext_get?
  intro asked
  simp only [get?_insert]
  by_cases hname : name = asked
  · have hother : other ≠ asked := fun heq => ne (hname.trans heq.symm)
    rw [if_neg hother, if_pos hname, if_pos hname]
  · rw [if_neg hname, if_neg hname]

theorem get?_update (map : NameMap α) (name other : String) (initial : α) (change : α → α) :
    (map.update name initial change).get? other =
      if name = other then some (change ((map.get? name).getD initial)) else map.get? other :=
  get?_insert map name other _

theorem get?_map {β : Type} (f : String → α → β) (map : NameMap α) (name : String) :
    (map.map f).get? name = (map.get? name).map (f name) := by
  change lookup name (map.entries.map fun entry => (entry.1, f entry.1 entry.2)) =
    (lookup name map.entries).map (f name)
  induction map.entries with
  | nil => rfl
  | cons entry rest ih =>
      rw [List.map_cons, lookup, lookup]
      split
      · next heq => rw [heq, Option.map_some]
      · exact ih

theorem contains_insert (map : NameMap α) (name other : String) (value : α) :
    (map.insert name value).contains other = true ↔ name = other ∨ map.contains other = true := by
  rw [contains, get?_insert]
  by_cases heq : name = other
  · simp [heq]
  · simp [heq, contains]

theorem get?_ofList_concat (entries : List (String × α)) (entry : String × α) (name : String) :
    (ofList (entries ++ [entry])).get? name =
      if entry.1 = name then some entry.2 else (ofList entries).get? name := by
  rw [← get?_insert, ofList, List.foldl_append]
  rfl

theorem get?_ofList_const (names : List String) (value : α) (name : String) :
    (ofList (names.map (·, value))).get? name = if name ∈ names then some value else none := by
  induction names using List.reverseRecOn with
  | nil => rfl
  | append_singleton names last ih =>
      rw [List.map_append, List.map_singleton, get?_ofList_concat, ih]
      rcases eq_or_ne last name with rfl | hne
      · simp
      · simp [hne, hne.symm]

theorem get?_ofList_eq_some {entries : List (String × α)} (h : (entries.map (·.1)).Nodup)
    (name : String) (value : α) :
    (ofList entries).get? name = some value ↔ (name, value) ∈ entries := by
  induction entries using List.reverseRecOn with
  | nil => simp [ofList]
  | append_singleton entries last ih =>
      rw [List.map_append, List.nodup_append] at h
      obtain ⟨hentries, -, hdistinct⟩ := h
      have hlast : ∀ value, (last.1, value) ∉ entries := fun value hmem =>
        hdistinct last.1 (List.mem_map.mpr ⟨_, hmem, rfl⟩) last.1 (by simp) rfl
      rw [get?_ofList_concat, List.mem_append, List.mem_singleton]
      split
      · next heq =>
          subst heq
          simp [hlast, Prod.ext_iff, eq_comm]
      · next hne =>
          rw [ih hentries]
          simp [Prod.ext_iff, Ne.symm hne]

/-- Entries of different names are listed in ascending order, however they came. -/
theorem entries_ofList {entries sorted : List (String × α)} (hperm : entries.Perm sorted)
    (hsorted : (sorted.map (·.1)).Pairwise (· < ·)) : (ofList entries).entries = sorted := by
  let map : NameMap α := ⟨sorted, List.pairwise_map.mp hsorted⟩
  have hnodup : (entries.map (·.1)).Nodup := by
    rw [(hperm.map _).nodup_iff]
    exact hsorted.imp fun hlt => String.ne_of_lt hlt
  have hmap : ofList entries = map := by
    apply ext_get?
    intro name
    apply Option.ext
    intro value
    rw [get?_ofList_eq_some hnodup, ← mem_entries_iff, hperm.mem_iff]
  rw [hmap]

end IndexPrice.NameMap
