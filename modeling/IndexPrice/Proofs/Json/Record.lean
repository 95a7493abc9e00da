import IndexPrice.Json.Record
import IndexPrice.Proofs.List
import Mathlib.Data.List.Perm.Basic

/-!
# Records and the order of their members

What an object gives for a declared field depends on the members of that name only.
So its members may change places, and members that the record does not declare may be
added or left out, whatever their values are.
-/

namespace IndexPrice.Json

def namedMember? (member : StringText × Tree) : Option (String × Tree) :=
  member.1.text?.map (·, member.2)

theorem recordFields?_object (names : List String) (depth : Nat)
    (members : List (StringText × Tree)) :
    recordFields? names (depth + 1) (.object members) =
      if members.all (namedMember? · |>.isSome) then
        names.mapM (namedField? depth (members.filterMap namedMember?))
      else none := by
  change (members.mapM namedMember?).bind (fun named => names.mapM (namedField? depth named)) = _
  rw [mapM_eq_filterMap]
  split <;> rfl

/-! ## One field -/

section

variable {depth : Nat} {members others : List (String × Tree)} {name : String}

private theorem namedField?_perm (h : members.Perm others) :
    namedField? depth members name = namedField? depth others name := by
  have hfilter := h.filter (·.1 = name)
  rw [namedField?, namedField?]
  generalize members.filter (·.1 = name) = found at hfilter
  generalize others.filter (·.1 = name) = also at hfilter
  -- Two members of the name are one too many, so only a single one has a value to compare.
  match found, also, hfilter.length_eq with
  | [], [], _ => rfl
  | [first], [second], _ => rw [List.singleton_perm_singleton.mp hfilter]
  | _ :: _ :: _, _ :: _ :: _, _ => rfl

theorem filter_of_absent (h : ∀ member ∈ members, member.1 ≠ name) :
    members.filter (·.1 = name) = [] := by
  rw [List.filter_eq_nil_iff]
  exact fun member hmember => by simpa using h member hmember

theorem namedField?_append (h : ∀ member ∈ others, member.1 ≠ name) :
    namedField? depth (others ++ members) name = namedField? depth members name := by
  rw [namedField?, namedField?, List.filter_append, filter_of_absent h, List.nil_append]

theorem namedField?_cons_ne {other : String} (h : other ≠ name) (tree : Tree) :
    namedField? depth ((other, tree) :: members) name = namedField? depth members name := by
  simp [namedField?, h]

theorem namedField?_of_absent (h : ∀ member ∈ members, member.1 ≠ name) :
    namedField? depth members name = some .missing := by
  rw [namedField?, filter_of_absent h]

theorem namedField?_cons_self (h : ∀ member ∈ members, member.1 ≠ name) (tree : Tree) :
    namedField? depth ((name, tree) :: members) name = some (.given depth tree) := by
  rw [namedField?, List.filter_cons_of_pos (by simp), filter_of_absent h]

end

/-! ## All fields -/

private theorem recordFields?_perm (names : List String) (depth : Nat)
    {members others : List (StringText × Tree)} (h : members.Perm others) :
    recordFields? names depth (.object members) = recordFields? names depth (.object others) := by
  cases depth with
  | zero => rfl
  | succ depth =>
      rw [recordFields?_object, recordFields?_object, h.all_eq]
      congr 1
      exact mapM_congr fun name _ => namedField?_perm (h.filterMap namedMember?)

theorem ne_of_mem_named {members : List (StringText × Tree)} {name : String}
    (h : ∀ member ∈ members, member.1.text? ≠ some name) :
    ∀ member ∈ members.filterMap namedMember?, member.1 ≠ name := by
  rintro _ hnamed rfl
  obtain ⟨member, hmember, heq⟩ := List.mem_filterMap.mp hnamed
  obtain ⟨text, htext, rfl⟩ := Option.map_eq_some_iff.mp heq
  exact h member hmember htext

/-- A member that the record does not declare is passed over. -/
def Passed (names : List String) (member : StringText × Tree) : Prop :=
  ∃ name, member.1.text? = some name ∧ name ∉ names

theorem recordFields?_append (names : List String) (depth : Nat)
    {extra : List (StringText × Tree)} (h : ∀ member ∈ extra, Passed names member)
    (members : List (StringText × Tree)) :
    recordFields? names depth (.object (extra ++ members)) =
      recordFields? names depth (.object members) := by
  cases depth with
  | zero => rfl
  | succ depth =>
      have hreadable : extra.all (namedMember? · |>.isSome) = true := by
        rw [List.all_eq_true]
        intro member hmember
        obtain ⟨name, hname, -⟩ := h member hmember
        simp [namedMember?, hname]
      rw [recordFields?_object, recordFields?_object, List.all_append, hreadable, Bool.true_and,
        List.filterMap_append]
      congr 1
      refine mapM_congr fun name hname => namedField?_append (ne_of_mem_named ?_)
      intro member hmember hdeclared
      obtain ⟨other, hother, hundeclared⟩ := h member hmember
      rw [hother] at hdeclared
      cases hdeclared
      exact hundeclared hname

/-- The same members in any order, and others that the record does not declare. -/
def Extends (names : List String) (core members : List (StringText × Tree)) : Prop :=
  ∃ extra, (∀ member ∈ extra, Passed names member) ∧ members.Perm (extra ++ core)

theorem recordFields?_of_extends {names : List String} {core members : List (StringText × Tree)}
    (h : Extends names core members) (depth : Nat) :
    recordFields? names depth (.object members) = recordFields? names depth (.object core) := by
  obtain ⟨extra, hextra, hperm⟩ := h
  rw [recordFields?_perm names depth hperm, recordFields?_append names depth hextra]

end IndexPrice.Json
