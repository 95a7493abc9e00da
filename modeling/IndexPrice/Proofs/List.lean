import Mathlib.Data.List.Basic
import Mathlib.Data.List.Induction

/-!
# Lists

Places of a list, its last entry, and traversals by a function that can fail.
-/

namespace IndexPrice

/-! ## Places -/

theorem set_of_getElem? {α : Type} {items : List α} {index : Nat} {item : α}
    (h : items[index]? = some item) : items.set index item = items := by
  obtain ⟨hindex, rfl⟩ := List.getElem?_eq_some_iff.mp h
  exact List.set_getElem_self hindex

theorem getElem?_set_of_getElem? {α : Type} {items : List α} {index : Nat} {item : α}
    (h : items[index]? = some item) (next : α) : (items.set index next)[index]? = some next :=
  List.getElem?_set_self (List.getElem?_eq_some_iff.mp h).1

theorem eq_or_getElem?_of_set {α : Type} {items : List α} {place index : Nat} {item found : α}
    (h : (items.set place item)[index]? = some found) :
    (place = index ∧ found = item) ∨ (place ≠ index ∧ items[index]? = some found) := by
  rcases eq_or_ne place index with rfl | hne
  · have hplace : place < items.length := by
      simpa using (List.getElem?_eq_some_iff.mp h).1
    rw [List.getElem?_set_self hplace] at h
    exact .inl ⟨rfl, (Option.some.inj h).symm⟩
  · rw [List.getElem?_set_ne hne] at h
    exact .inr ⟨hne, h⟩

/-! ## The end of a list -/

theorem eq_concat_of_concat_eq {α : Type} {log earlier later : List α} {last item : α}
    (h : log ++ [last] = earlier ++ item :: later) :
    (later = [] ∧ item = last ∧ log = earlier) ∨
      ∃ shorter, later = shorter ++ [last] ∧ log = earlier ++ item :: shorter := by
  rcases later.eq_nil_or_concat' with rfl | ⟨shorter, final, rfl⟩
  · obtain ⟨hlog, hlast⟩ := List.append_inj' h rfl
    exact .inl ⟨rfl, by simpa using hlast.symm, hlog⟩
  · have hsplit : log ++ [last] = (earlier ++ item :: shorter) ++ [final] := by simpa using h
    obtain ⟨hlog, hlast⟩ := List.append_inj' hsplit rfl
    cases hlast
    exact .inr ⟨shorter, rfl, hlog⟩

theorem findSome?_reverse_eq_some {α β : Type} {f : α → Option β} {entries : List α} {value : β} :
    entries.reverse.findSome? f = some value ↔
      ∃ earlier entry later, entries = earlier ++ entry :: later ∧ f entry = some value ∧
        ∀ other ∈ later, f other = none := by
  rw [List.findSome?_eq_some_iff]
  constructor
  · rintro ⟨before, entry, after, hsplit, hvalue, hnone⟩
    refine ⟨after.reverse, entry, before.reverse, ?_, hvalue, fun other hother => ?_⟩
    · rw [← List.reverse_reverse entries, hsplit]
      simp
    · exact hnone other (List.mem_reverse.mp hother)
  · rintro ⟨earlier, entry, later, rfl, hvalue, hnone⟩
    refine ⟨later.reverse, entry, earlier.reverse, by simp, hvalue, fun other hother => ?_⟩
    exact hnone other (List.mem_reverse.mp hother)

theorem lt_foldl_min {α : Type} {f : α → Nat} {items : List α} {limit bound : Nat} :
    limit < items.foldl (fun least item => min least (f item)) bound ↔
      limit < bound ∧ ∀ item ∈ items, limit < f item := by
  induction items generalizing bound with
  | nil => simp
  | cons item rest ih => rw [List.foldl_cons, ih, Nat.lt_min, List.forall_mem_cons, and_assoc]

/-! ## Traversals that can fail -/

theorem bind_eq_ok {ε α β : Type} {first : Except ε α} {next : α → Except ε β} {result : β} :
    first >>= next = .ok result ↔ ∃ value, first = .ok value ∧ next value = .ok result := by
  cases first <;> simp [bind, Except.bind]

theorem mapM_cons_eq_ok {ε α β : Type} {f : α → Except ε β} {first : α} {rest : List α}
    {results : List β} :
    (first :: rest).mapM f = .ok results ↔
      ∃ result others, f first = .ok result ∧ rest.mapM f = .ok others ∧
        results = result :: others := by
  rw [List.mapM_cons]
  cases hfirst : f first with
  | error cause => simp [bind, Except.bind]
  | ok result =>
      cases hrest : rest.mapM f with
      | error cause => simp [bind, Except.bind]
      | ok others => simp [bind, Except.bind, pure, Except.pure, eq_comm]

theorem exists_mapM_eq_ok {ε α β : Type} {f : α → Except ε β} {entries : List α} :
    (∃ results, entries.mapM f = .ok results) ↔
      ∀ entry ∈ entries, ∃ result, f entry = .ok result := by
  induction entries with
  | nil => simp [pure, Except.pure]
  | cons first rest ih =>
      simp only [mapM_cons_eq_ok, List.forall_mem_cons, ← ih]
      constructor
      · rintro ⟨results, result, others, hfirst, hrest, -⟩
        exact ⟨⟨result, hfirst⟩, others, hrest⟩
      · rintro ⟨⟨result, hfirst⟩, others, hrest⟩
        exact ⟨_, result, others, hfirst, hrest, rfl⟩

theorem mapM_eq_filterMap {α β : Type} (f : α → Option β) (items : List α) :
    items.mapM f = if items.all (f · |>.isSome) then some (items.filterMap f) else none := by
  induction items with
  | nil => rfl
  | cons item items ih =>
      rw [List.mapM_cons, ih, List.all_cons, List.filterMap_cons]
      cases f item with
      | none => rfl
      | some result =>
          rw [Option.isSome_some, Bool.true_and]
          split <;> rfl

theorem mapM_congr {α β : Type} {f g : α → Option β} {items : List α}
    (h : ∀ item ∈ items, f item = g item) : items.mapM f = items.mapM g := by
  induction items with
  | nil => rfl
  | cons item items ih =>
      obtain ⟨hitem, hitems⟩ := List.forall_mem_cons.mp h
      rw [List.mapM_cons, List.mapM_cons, hitem, ih hitems]

end IndexPrice
