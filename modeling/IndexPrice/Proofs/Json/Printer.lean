import IndexPrice.Json.Printer
import IndexPrice.Proofs.Json.Reader
import IndexPrice.Proofs.NameMap
import Mathlib.Data.List.TakeWhile

/-!
# Reading what has been written

Every escape is undone by the reader, so no character of a string ends the string or
becomes part of what is around it.  The digits of an integer are read as that integer.
From there a written value reads as its tree, array by array and object by object.
-/

namespace IndexPrice.Json

open Text

/-! ## Strings -/

def writtenChar (c : Char) : StringPart :=
  match c with
  | '"' | '\\' | '\x08' | '\x0c' | '\n' | '\r' | '\t' => .escaped c
  | _ => if c.toNat < 0x20 then .unit c.toNat else .symbol (some c)

def writtenText (text : String) : StringText := text.toList.map writtenChar

private theorem chars?_cons_writtenChar (c : Char) (rest : StringText) :
    StringText.chars? (writtenChar c :: rest) = (c :: ·) <$> rest.chars? := by
  unfold writtenChar
  split
  case h_8 =>
    split
    · next hcontrol =>
        rw [StringText.chars?.eq_def]
        simp only [if_pos (show c.toNat < 0xD800 ∨ 0xE000 ≤ c.toNat by omega), Char.ofNat_toNat]
    · rw [StringText.chars?]
  all_goals rw [StringText.chars?]

private theorem chars?_map_writtenChar (chars : List Char) :
    StringText.chars? (chars.map writtenChar) = some chars := by
  induction chars with
  | nil => rfl
  | cons c chars ih =>
      rw [List.map_cons, chars?_cons_writtenChar, ih, Option.map_eq_map, Option.map_some]

@[simp] theorem text?_writtenText (text : String) : (writtenText text).text? = some text := by
  rw [StringText.text?, writtenText, chars?_map_writtenChar, Option.map_some, String.ofList_toList]

private theorem hexValue?_hexDigit {n : Nat} (h : n < 16) : hexValue? (hexDigit n) = some n := by
  have hall : ∀ n : Fin 16, hexValue? (hexDigit n) = some n.val := by decide
  exact hall ⟨n, h⟩

namespace Reader

private theorem run_escapedChar (c : Char) (parts : StringText) (phase : Phase)
    (stack : List Frame) :
    run ⟨.string parts, phase, stack⟩ ((escapedChar c).map some) =
      some ⟨.string (writtenChar c :: parts), phase, stack⟩ := by
  unfold escapedChar writtenChar
  split
  -- The letters of the short escapes are read by computation; this is every other character.
  case h_8 hquote hbackslash _ _ _ _ _ =>
    split
    · next hcontrol =>
        have hhigh := hexValue?_hexDigit (show c.toNat / 16 < 16 by omega)
        have hlow := hexValue?_hexDigit (show c.toNat % 16 < 16 by omega)
        have hcode : 16 * (c.toNat / 16) + c.toNat % 16 = c.toNat := Nat.div_add_mod _ 16
        have hzero : hexValue? '0' = some 0 := rfl
        simp [run_cons, feed, inString, inEscape, inHex, hhigh, hlow, hcode, hzero]
    · next hplain =>
        have hne : c ≠ '"' ∧ c ≠ '\\' := ⟨hquote, hbackslash⟩
        simp [run_cons, feed, inString, hne, hplain]
  all_goals rfl

private theorem run_escapedText (chars : List Char) (parts : StringText) (phase : Phase)
    (stack : List Frame) :
    run ⟨.string parts, phase, stack⟩ ((chars.flatMap escapedChar).map some) =
      some ⟨.string ((chars.map writtenChar).reverse ++ parts), phase, stack⟩ := by
  induction chars generalizing parts with
  | nil => rfl
  | cons c chars ih =>
      rw [List.flatMap_cons, List.map_append, run_append, run_escapedChar, Option.bind_some, ih,
        List.map_cons, List.reverse_cons, List.append_assoc, List.singleton_append]

private theorem run_stringChars (text : String) (phase : Phase) (stack : List Frame) :
    run ⟨.blank, phase, stack⟩ ((stringChars text).map some) =
      closeString ⟨.string (writtenText text).reverse, phase, stack⟩ (writtenText text) := by
  have hopen : feed ⟨.blank, phase, stack⟩ (some '"') = some ⟨.string [], phase, stack⟩ := rfl
  have hclose : feed ⟨.string (writtenText text).reverse, phase, stack⟩ (some '"') =
      closeString ⟨.string (writtenText text).reverse, phase, stack⟩ (writtenText text) := by
    simp [feed, inString]
  rw [stringChars, List.map_cons, List.map_append, run_cons, hopen, Option.bind_some, run_append,
    run_escapedText, Option.bind_some, List.append_nil]
  change (feed ⟨.string (writtenText text).reverse, phase, stack⟩ (some '"')).bind some = _
  rw [hclose, Option.bind_fun_some]

end Reader

private theorem readsKey_stringChars (name : String) :
    ReadsKey ((stringChars name).map some) (writtenText name) :=
  fun fields stack => Reader.run_stringChars name (.key fields) stack

private theorem Tree.ofSymbols?_stringChars (text : String) :
    Tree.ofSymbols? ((stringChars text).map some) = some (.string (writtenText text)) :=
  Tree.ofSymbols?_of_run (Reader.run_stringChars text .value [])

/-! ## Integers -/

def wholeText (negative : Bool) (n : Nat) : NumberText := ⟨negative, Nat.toDigits 10 n, [], none⟩

private theorem natOfDigits_toDigits (n : Nat) : Decimal.natOfDigits (Nat.toDigits 10 n) = n := by
  have hdigits := Nat.ofDigitChars_ten_toDigits (n := n)
  rw [Nat.ofDigitChars_eq_foldl] at hdigits
  exact hdigits

private theorem integer?_wholeText {n : Nat} (h : n < Nat.pow 2 64) :
    (wholeText false n).integer? = some (Int.ofNat n) := by
  simp only [NumberText.integer?, wholeText, natOfDigits_toDigits, List.isEmpty_nil, Bool.not_true,
    Option.isSome_none, Bool.or_self, Bool.false_eq_true, if_false, if_pos h]

theorem number?_wholeText {n : Nat} (h : n < Nat.pow 2 64) :
    (wholeText false n).number? = some (.integer (Int.ofNat n)) := by
  rw [NumberText.number?, integer?_wholeText h]

private theorem eq_zero_of_leading_zero {n : Nat} (h : (Nat.toDigits 10 n).head? = some '0') :
    n = 0 := by
  induction n using Nat.strongRecOn with
  | ind n ih =>
      by_cases hsmall : n < 10
      · rw [Nat.toDigits_of_lt_base hsmall] at h
        simpa using h
      · have htail : n / 10 = 0 := by
          refine ih (n / 10) (by omega) ?_
          rwa [Nat.toDigits_of_base_le (by omega) (by omega),
            List.head?_append_of_ne_nil _ Nat.toDigits_ne_nil] at h
        omega

theorem isDigit_of_mem_toDigits {n : Nat} {c : Char} (h : c ∈ Nat.toDigits 10 n) :
    c.isDigit = true :=
  Nat.isDigit_of_mem_toDigits (by omega) (by omega) h

private theorem ofUnsigned?_toDigits (negative : Bool) (n : Nat) :
    NumberText.ofUnsigned? negative (Nat.toDigits 10 n) = some (wholeText negative n) := by
  have hwhole : (Nat.toDigits 10 n).takeWhile Char.isDigit = Nat.toDigits 10 n :=
    List.takeWhile_eq_self_iff.mpr fun c => isDigit_of_mem_toDigits
  have hrest : (Nat.toDigits 10 n).dropWhile Char.isDigit = [] :=
    List.dropWhile_eq_nil_iff.mpr fun c => isDigit_of_mem_toDigits
  have hempty : (Nat.toDigits 10 n).isEmpty = false :=
    List.isEmpty_eq_false_iff.mpr Nat.toDigits_ne_nil
  have hzero : ¬ ((Nat.toDigits 10 n).head? = some '0' ∧ 1 < (Nat.toDigits 10 n).length) := by
    rintro ⟨hhead, hlength⟩
    rw [eq_zero_of_leading_zero hhead, Nat.toDigits_zero] at hlength
    simp at hlength
  simp only [NumberText.ofUnsigned?, hwhole, hrest, hempty, Bool.false_or, Bool.and_eq_true,
    decide_eq_true_eq, hzero, if_false]
  rfl

private theorem ofChars?_toDigits (n : Nat) :
    NumberText.ofChars? (Nat.toDigits 10 n) = some (wholeText false n) := by
  rw [NumberText.ofChars?.eq_def]
  split
  · next rest heq =>
      have hminus : '-' ∈ Nat.toDigits 10 n := by simp [heq]
      exact absurd (isDigit_of_mem_toDigits hminus) (by decide)
  · exact ofUnsigned?_toDigits false n

namespace Reader

private theorem isNumberChar_of_isDigit {c : Char} (h : c.isDigit = true) :
    isNumberChar c = true := by
  simp [isNumberChar, h]

private theorem run_numberChars {chars : List Char} (h : ∀ c ∈ chars, isNumberChar c = true)
    (earlier : List Char) (phase : Phase) (stack : List Frame) :
    run ⟨.number earlier, phase, stack⟩ (chars.map some) =
      some ⟨.number (chars.reverse ++ earlier), phase, stack⟩ := by
  induction chars generalizing earlier with
  | nil => rfl
  | cons c chars ih =>
      have hfeed : feed ⟨.number earlier, phase, stack⟩ (some c) =
          some ⟨.number (c :: earlier), phase, stack⟩ := if_pos (h c List.mem_cons_self)
      rw [List.map_cons, run_cons, hfeed, Option.bind_some,
        ih (fun d hd => h d (List.mem_cons_of_mem c hd)), List.reverse_cons, List.append_assoc,
        List.singleton_append]

private theorem start_of_isDigit {c : Char} (h : c.isDigit = true) (r : Reader) :
    r.start (some c) = some { r with lexeme := .number [c] } := by
  have hblank : isBlank c = false := by
    rw [Bool.eq_false_iff]
    intro hblank
    simp only [isBlank, Bool.or_eq_true, decide_eq_true_eq] at hblank
    rcases hblank with ((rfl | rfl) | rfl) | rfl <;> exact absurd h (by decide)
  simp only [start]
  split
  case h_11 => simp [hblank, h]
  all_goals exact absurd h (by decide)

end Reader

private theorem Tree.ofSymbols?_number {first : Char} {chars : List Char}
    (hfirst : first.isDigit = true ∨ first = '-')
    (h : ∀ c ∈ chars, isNumberChar c = true) :
    Tree.ofSymbols? ((first :: chars).map some) =
      (NumberText.ofChars? (first :: chars)).map .number := by
  have hstart : Reader.feed {} (some first) = some ⟨.number [first], .value, []⟩ := by
    rcases hfirst with hdigit | rfl
    · exact Reader.start_of_isDigit hdigit {}
    · rfl
  have hrun : Reader.run {} ((first :: chars).map some) =
      some ⟨.number (first :: chars).reverse, .value, []⟩ := by
    rw [List.map_cons, Reader.run_cons, hstart, Option.bind_some, Reader.run_numberChars h,
      List.reverse_cons]
  change (Reader.run {} ((first :: chars).map some)).bind Reader.result = _
  have hflush : Reader.flush ⟨.number (first :: chars).reverse, .value, []⟩ =
      (NumberText.ofChars? (first :: chars)).bind
        (Reader.scalar ⟨.number (first :: chars).reverse, .value, []⟩ <| .number ·) := by
    conv_rhs => rw [← List.reverse_reverse (first :: chars)]
    rfl
  rw [hrun, Option.bind_some, Reader.result, hflush]
  cases NumberText.ofChars? (first :: chars) <;> rfl

/-- The number as it is written; a float's text is left open. -/
def Number.writtenText? : Number → Option NumberText
  | .integer (.ofNat n) => some (wholeText false n)
  | .integer (.negSucc n) => some (wholeText true (n + 1))
  | .float _ => none

private theorem Tree.ofSymbols?_numberText {n : Number} {text : NumberText}
    (h : n.writtenText? = some text) : Tree.ofSymbols? (n.text.map some) = some (.number text) := by
  have hdigits : ∀ m : Nat, ∀ c ∈ Nat.toDigits 10 m, isNumberChar c = true := fun m c hc =>
    Reader.isNumberChar_of_isDigit (isDigit_of_mem_toDigits hc)
  match n, h with
  | .integer (.ofNat m), rfl =>
      have hread := ofChars?_toDigits m
      rw [Number.text]
      cases hchars : Nat.toDigits 10 m with
      | nil => exact absurd hchars Nat.toDigits_ne_nil
      | cons first chars =>
          have hfirst : first.isDigit = true := isDigit_of_mem_toDigits (n := m) (by simp [hchars])
          have hrest : ∀ c ∈ chars, isNumberChar c = true := by
            intro c hc
            exact hdigits m c (hchars ▸ List.mem_cons_of_mem first hc)
          rw [Tree.ofSymbols?_number (.inl hfirst) hrest, ← hchars, hread]
          rfl
  | .integer (.negSucc m), rfl =>
      rw [Number.text, Tree.ofSymbols?_number (.inr rfl) (hdigits (m + 1)), NumberText.ofChars?,
        ofUnsigned?_toDigits]
      rfl

/-! ## Values -/

mutual

def Value.tree? : Value → Option Tree
  | .null => some .null
  | .bool b => some (.bool b)
  | .number n => n.writtenText?.map .number
  | .string text => some (.string (writtenText text))
  | .array items => (Value.itemTrees? items).map .array
  | .object fields => (Value.fieldTrees? fields).map .object

def Value.itemTrees? : List Value → Option (List Tree)
  | [] => some []
  | v :: rest => do return (← v.tree?) :: (← Value.itemTrees? rest)

def Value.fieldTrees? : List (String × Value) → Option (List (StringText × Tree))
  | [] => some []
  | (name, v) :: rest => do
    return (writtenText name, ← v.tree?) :: (← Value.fieldTrees? rest)

end

def memberSymbols (field : String × Value) : List Symbol :=
  (stringChars field.1).map some ++ some ':' :: field.2.chars.map some

theorem Value.map_itemChars (items : List Value) :
    (Value.itemChars items).map some = [some ','].intercalate (items.map (·.chars.map some)) := by
  induction items with
  | nil => rfl
  | cons v rest ih =>
      cases rest with
      | nil => rw [Value.itemChars, List.map_singleton, List.intercalate_singleton]
      | cons next rest =>
          rw [Value.itemChars, List.map_append, List.map_cons, ih]
          · simp
          · simp

theorem Value.map_fieldChars (fields : List (String × Value)) :
    (Value.fieldChars fields).map some = [some ','].intercalate (fields.map memberSymbols) := by
  induction fields with
  | nil => rfl
  | cons field rest ih =>
      cases rest with
      | nil => simp [Value.fieldChars, memberSymbols]
      | cons next rest =>
          rw [Value.fieldChars, List.map_append, List.map_cons, List.map_append, List.map_cons, ih]
          · simp [memberSymbols]
          · simp

mutual

theorem Value.ofSymbols?_chars :
    ∀ (v : Value) (tree : Tree), v.tree? = some tree →
      Tree.ofSymbols? (v.chars.map some) = some tree
  | .null, _, rfl => rfl
  | .bool true, _, rfl => rfl
  | .bool false, _, rfl => rfl
  | .number n, _, h => by
      obtain ⟨text, htext, rfl⟩ := Option.map_eq_some_iff.mp h
      exact Tree.ofSymbols?_numberText htext
  | .string text, _, rfl => Tree.ofSymbols?_stringChars text
  | .array items, _, h => by
      obtain ⟨trees, htrees, rfl⟩ := Option.map_eq_some_iff.mp h
      rw [Value.chars, List.map_cons, List.map_append, Value.map_itemChars]
      exact Tree.ofSymbols?_array (Value.forall₂_itemTrees items trees htrees)
  | .object fields, _, h => by
      obtain ⟨trees, htrees, rfl⟩ := Option.map_eq_some_iff.mp h
      rw [Value.chars, List.map_cons, List.map_append, Value.map_fieldChars]
      exact Tree.ofSymbols?_object (Value.forall₂_fieldTrees fields trees htrees)

theorem Value.forall₂_itemTrees :
    ∀ (items : List Value) (trees : List Tree), Value.itemTrees? items = some trees →
      List.Forall₂ (fun text tree => Tree.ofSymbols? text = some tree)
        (items.map (·.chars.map some)) trees
  | [], _, rfl => .nil
  | v :: rest, _, h => by
      obtain ⟨tree, htree, h⟩ := Option.bind_eq_some_iff.mp h
      obtain ⟨trees, htrees, ⟨⟩⟩ := Option.bind_eq_some_iff.mp h
      exact .cons (Value.ofSymbols?_chars v tree htree)
        (Value.forall₂_itemTrees rest trees htrees)

theorem Value.forall₂_fieldTrees :
    ∀ (fields : List (String × Value)) (trees : List (StringText × Tree)),
      Value.fieldTrees? fields = some trees →
      List.Forall₂ ReadsMember (fields.map memberSymbols) trees
  | [], _, rfl => .nil
  | (name, v) :: rest, _, h => by
      obtain ⟨tree, htree, h⟩ := Option.bind_eq_some_iff.mp h
      obtain ⟨trees, htrees, ⟨⟩⟩ := Option.bind_eq_some_iff.mp h
      exact .cons ⟨_, _, rfl, readsKey_stringChars name, Value.ofSymbols?_chars v tree htree⟩
        (Value.forall₂_fieldTrees rest trees htrees)

end

theorem Value.ofText?_print {v : Value} {tree : Tree} (h : v.tree? = some tree) :
    Tree.ofText? v.print = some tree := by
  rw [Tree.ofText?, ofText, Value.print, String.toList_ofList]
  exact v.ofSymbols?_chars tree h

theorem Value.names_fieldTrees {fields : List (String × Value)}
    {trees : List (StringText × Tree)} (h : Value.fieldTrees? fields = some trees) :
    trees.map (·.1.text?) = fields.map (some ·.1) := by
  induction fields generalizing trees with
  | nil =>
      cases h
      rfl
  | cons field rest ih =>
      obtain ⟨tree, -, h⟩ := Option.bind_eq_some_iff.mp h
      obtain ⟨later, hlater, ⟨⟩⟩ := Option.bind_eq_some_iff.mp h
      rw [List.map_cons, ih hlater, List.map_cons, text?_writtenText]

theorem Value.members_of_object {fields : List (String × Value)} {tree : Tree}
    (h : (Value.object fields).tree? = some tree) :
    ∃ members, tree = .object members ∧ members.map (·.1.text?) = fields.map (some ·.1) := by
  obtain ⟨members, hmembers, rfl⟩ := Option.map_eq_some_iff.mp h
  exact ⟨members, rfl, Value.names_fieldTrees hmembers⟩

/-! ## Values read back -/

namespace Value

/-- The text of the value is read as the other value, which may nest `depth` levels. -/
def ReadsBack (depth : Nat) (v read : Value) : Prop :=
  ∃ tree, v.tree? = some tree ∧ tree.value? depth = some read

variable {depth : Nat}

theorem ReadsBack.ofText? {v read : Value} (h : ReadsBack depthLimit v read) :
    Value.ofText? v.print = some read := by
  obtain ⟨tree, htree, hread⟩ := h
  rw [Value.ofText?, ofText?_print htree, Option.bind_some, hread]

theorem ReadsBack.string (text : String) : ReadsBack depth (.string text) (.string text) := by
  refine ⟨.string (writtenText text), rfl, ?_⟩
  rw [Tree.value?, text?_writtenText, Option.map_some]

theorem readsBack_items {items results : List Value}
    (h : List.Forall₂ (ReadsBack depth) items results) :
    ∃ trees, Value.itemTrees? items = some trees ∧
      Tree.values? depth trees = some results := by
  induction h with
  | nil => exact ⟨[], rfl, rfl⟩
  | @cons v read items results hv hitems ih =>
      obtain ⟨tree, htree, hread⟩ := hv
      obtain ⟨trees, htrees, hreads⟩ := ih
      refine ⟨tree :: trees, ?_, ?_⟩
      · rw [Value.itemTrees?, htree, htrees]
        rfl
      · rw [Tree.values?, hread, hreads]
        rfl

theorem ReadsBack.array {items results : List Value}
    (h : List.Forall₂ (ReadsBack depth) items results) :
    ReadsBack (depth + 1) (.array items) (.array results) := by
  obtain ⟨trees, htrees, hreads⟩ := readsBack_items h
  refine ⟨.array trees, ?_, ?_⟩
  · rw [Value.tree?, htrees, Option.map_some]
  · rw [Tree.value?, if_neg (Nat.succ_ne_zero depth), Nat.add_sub_cancel, hreads, Option.map_some]

def FieldReadsBack (depth : Nat) (field read : String × Value) : Prop :=
  read.1 = field.1 ∧ ReadsBack depth field.2 read.2

theorem FieldReadsBack.of (name : String) {v read : Value} (h : ReadsBack depth v read) :
    FieldReadsBack depth (name, v) (name, read) :=
  ⟨rfl, h⟩

theorem readsBack_fields {fields results : List (String × Value)}
    (h : List.Forall₂ (FieldReadsBack depth) fields results) :
    ∃ trees, Value.fieldTrees? fields = some trees ∧
      ∀ earlier : NameMap Value, Tree.fieldValues? depth earlier.entries trees =
        some (results.foldl (fun map field => map.insert field.1 field.2) earlier).entries := by
  induction h with
  | nil => exact ⟨[], rfl, fun _ => rfl⟩
  | @cons field read fields results hfield hfields ih =>
      obtain ⟨hname, tree, htree, hread⟩ := hfield
      obtain ⟨trees, htrees, hreads⟩ := ih
      refine ⟨(writtenText field.1, tree) :: trees, ?_, fun earlier => ?_⟩
      · rw [Value.fieldTrees?, htree, htrees]
        rfl
      · rw [Tree.fieldValues?, text?_writtenText, hread, ← hname]
        exact hreads (earlier.insert read.1 read.2)

theorem ReadsBack.object {fields results sorted : List (String × Value)}
    (h : List.Forall₂ (FieldReadsBack depth) fields results) (hperm : results.Perm sorted)
    (hsorted : (sorted.map (·.1)).Pairwise (· < ·)) :
    ReadsBack (depth + 1) (.object fields) (.object sorted) := by
  obtain ⟨trees, htrees, hreads⟩ := readsBack_fields h
  refine ⟨.object trees, ?_, ?_⟩
  · rw [Value.tree?, htrees, Option.map_some]
  · rw [Tree.value?, if_neg (Nat.succ_ne_zero depth), Nat.add_sub_cancel]
    change (Tree.fieldValues? depth (NameMap.empty : NameMap Value).entries trees).map
      Value.object = _
    rw [hreads, Option.map_some, ← NameMap.entries_ofList hperm hsorted, NameMap.ofList]

end Value

end IndexPrice.Json
