import IndexPrice.Json.Reader
import Mathlib.Data.List.Forall2

/-!
# Reading texts inside of texts

The reader looks at the frame on top of its stack only, and never past the frames that
it has pushed itself.  So a text that reads as a tree on its own reads as that tree
wherever a value may stand, and arrays and objects can be put together from texts.
-/

namespace IndexPrice.Json

open Text

namespace Reader

def run (r : Reader) (symbols : List Symbol) : Option Reader := symbols.foldlM feed r

@[simp] theorem run_nil (r : Reader) : r.run [] = some r := rfl

theorem run_cons (r : Reader) (symbol : Symbol) (symbols : List Symbol) :
    r.run (symbol :: symbols) = (r.feed symbol).bind (·.run symbols) := rfl

theorem run_append (r : Reader) (first second : List Symbol) :
    r.run (first ++ second) = (r.run first).bind (·.run second) :=
  List.foldlM_append

/-- Only a number can be ended without a symbol; between tokens there is nothing to end. -/
theorem flush_eq_some {r next : Reader} (h : r.flush = some next) :
    (r.lexeme = .blank ∧ next = r) ∨
      ∃ chars text, r.lexeme = .number chars ∧ NumberText.ofChars? chars.reverse = some text ∧
        r.scalar (.number text) = some next := by
  rw [Reader.flush] at h
  split at h
  · next hblank =>
      cases h
      exact .inl ⟨hblank, rfl⟩
  · next chars hnumber =>
      obtain ⟨text, htext, hscalar⟩ := Option.bind_eq_some_iff.mp h
      exact .inr ⟨chars, text, hnumber, htext, hscalar⟩
  · cases h

/-! ## Readers that do alike -/

/-- Where the first reader makes a step, the second makes it too, and they stay alike. -/
def Follows (Alike : Reader → Reader → Prop) (step : Reader → Option Reader) : Prop :=
  ∀ r other next, Alike r other → step r = some next →
    ∃ after, step other = some after ∧ Alike next after

/-- Readers that differ in what is around a value do alike if they treat its tokens alike. -/
structure Simulation (Alike : Reader → Reader → Prop) : Prop where
  lexeme : ∀ r other, Alike r other → other.lexeme = r.lexeme
  relexed : ∀ r other lexeme, Alike r other → Alike { r with lexeme } { other with lexeme }
  scalar : ∀ tree, Follows Alike (·.scalar tree)
  closeString : ∀ text, Follows Alike (·.closeString text)
  openArray : Follows Alike openArray
  openObject : Follows Alike openObject
  closeArray : Follows Alike closeArray
  closeObject : Follows Alike closeObject
  comma : Follows Alike comma
  colon : Follows Alike colon

section

variable {Alike : Reader → Reader → Prop}

theorem follows_none : Follows Alike fun _ => none := by
  intro r other next halike h
  cases h

private theorem follows_self : Follows Alike some := by
  rintro r other next halike ⟨⟩
  exact ⟨other, rfl, halike⟩

theorem Follows.ite {step else_ : Reader → Option Reader} (c : Prop) [Decidable c]
    (hstep : Follows Alike step) (helse : Follows Alike else_) :
    Follows Alike fun r => if c then step r else else_ r := by
  by_cases hc : c
  · simpa only [if_pos hc] using hstep
  · simpa only [if_neg hc] using helse

private theorem Follows.given {α : Type} (value : Option α) {step : α → Reader → Option Reader}
    (h : ∀ a, Follows Alike (step a)) : Follows Alike fun r => value.bind (step · r) := by
  cases value with
  | none => exact follows_none
  | some a => exact h a

private theorem Follows.bind {step then_ : Reader → Option Reader} (hstep : Follows Alike step)
    (hthen : Follows Alike then_) : Follows Alike fun r => (step r).bind then_ := by
  intro r other next halike h
  obtain ⟨middle, hmiddle, hnext⟩ := Option.bind_eq_some_iff.mp h
  obtain ⟨between, hbetween, halike⟩ := hstep r other middle halike hmiddle
  obtain ⟨after, hafter, halike⟩ := hthen middle between next halike hnext
  exact ⟨after, Option.bind_eq_some_iff.mpr ⟨between, hbetween, hafter⟩, halike⟩

namespace Simulation

variable (sim : Simulation Alike)

include sim

theorem follows_lexeme (lexeme : Lexeme) : Follows Alike fun r => some { r with lexeme } := by
  rintro r other next halike ⟨⟩
  exact ⟨_, rfl, sim.relexed r other lexeme halike⟩

private theorem start (symbol : Symbol) : Follows Alike (·.start symbol) := by
  cases symbol with
  | none => exact follows_none
  | some c =>
      simp only [Reader.start]
      split
      · exact sim.openArray
      · exact sim.closeArray
      · exact sim.openObject
      · exact sim.closeObject
      · exact sim.comma
      · exact sim.colon
      · exact sim.follows_lexeme _
      · exact sim.follows_lexeme _
      · exact sim.follows_lexeme _
      · exact sim.follows_lexeme _
      · exact .ite _ follows_self (.ite _ (sim.follows_lexeme _) follows_none)

private theorem inString (parts : StringText) (symbol : Symbol) :
    Follows Alike (·.inString parts symbol) :=
  .ite _ (sim.closeString parts.reverse) (.ite _ (sim.follows_lexeme (.escape parts))
    (.ite _ follows_none (sim.follows_lexeme (.string (.symbol symbol :: parts)))))

private theorem inEscape (parts : StringText) (symbol : Symbol) :
    Follows Alike (·.inEscape parts symbol) :=
  .given symbol fun c => .ite (c = 'u') (sim.follows_lexeme (.hex parts 0 0))
    (.given (escape? c) fun char => sim.follows_lexeme (.string (.escaped char :: parts)))

private theorem inHex (parts : StringText) (digits code : Nat) (symbol : Symbol) :
    Follows Alike (·.inHex parts digits code symbol) :=
  .given symbol fun c => .given (hexValue? c) fun value =>
    .ite (digits = 3) (sim.follows_lexeme (.string (.unit (16 * code + value) :: parts)))
      (sim.follows_lexeme (.hex parts (digits + 1) (16 * code + value)))

private theorem flush : Follows Alike Reader.flush := by
  intro r other next halike h
  have hlexeme := sim.lexeme r other halike
  rcases flush_eq_some h with ⟨hblank, rfl⟩ | ⟨chars, text, hnumber, htext, hscalar⟩
  · exact ⟨other, by rw [Reader.flush, hlexeme, hblank], halike⟩
  · obtain ⟨after, hafter, halike⟩ := sim.scalar (.number text) r other next halike hscalar
    refine ⟨after, ?_, halike⟩
    rw [Reader.flush, hlexeme, hnumber]
    exact Option.bind_eq_some_iff.mpr ⟨text, htext, hafter⟩

private theorem feed (symbol : Symbol) : Follows Alike (·.feed symbol) := by
  intro r other next halike h
  have hlexeme := sim.lexeme r other halike
  simp only [Reader.feed, hlexeme] at h ⊢
  cases hread : r.lexeme with
  | blank =>
      rw [hread] at h
      exact sim.start symbol r other next halike h
  | number chars =>
      rw [hread] at h
      cases symbol with
      | none => cases h
      | some c =>
          exact (Follows.ite _ (sim.follows_lexeme (.number (c :: chars)))
            (sim.flush.bind (sim.start (some c)))) r other next halike h
  | word rest value =>
      rw [hread] at h
      cases rest with
      | nil => cases h
      | cons c rest =>
          exact (Follows.ite _ (.ite _ (sim.scalar value) (sim.follows_lexeme (.word rest value)))
            follows_none) r other next halike h
  | string parts =>
      rw [hread] at h
      exact sim.inString parts symbol r other next halike h
  | escape parts =>
      rw [hread] at h
      exact sim.inEscape parts symbol r other next halike h
  | hex parts digits code =>
      rw [hread] at h
      exact sim.inHex parts digits code symbol r other next halike h

theorem run (symbols : List Symbol) : Follows Alike (·.run symbols) := by
  induction symbols with
  | nil => exact follows_self
  | cons symbol symbols ih => exact (sim.feed symbol).bind ih

end Simulation

end

/-! ## Frames that are out of sight -/

/-- The same reader inside of further arrays and objects. -/
def inside (r : Reader) (stack : List Frame) : Reader := { r with stack := r.stack ++ stack }

private theorem simulation_inside (stack : List Frame) :
    Simulation fun r other => other = r.inside stack where
  lexeme := by
    rintro r other rfl
    rfl
  relexed := by
    rintro r other lexeme rfl
    rfl
  scalar := by
    rintro tree ⟨lexeme, phase, frames⟩ other next rfl h
    cases phase <;> cases h <;> exact ⟨_, rfl, rfl⟩
  closeString := by
    rintro text ⟨lexeme, phase, frames⟩ other next rfl h
    cases phase <;> cases h <;> exact ⟨_, rfl, rfl⟩
  openArray := by
    rintro ⟨lexeme, phase, frames⟩ other next rfl h
    cases phase <;> cases h <;> exact ⟨_, rfl, rfl⟩
  openObject := by
    rintro ⟨lexeme, phase, frames⟩ other next rfl h
    cases phase <;> cases h <;> exact ⟨_, rfl, rfl⟩
  closeArray := by
    rintro ⟨lexeme, phase, frames⟩ other next rfl h
    rcases frames with _ | ⟨_ | _, frames⟩ <;> cases phase <;> cases h <;> exact ⟨_, rfl, rfl⟩
  closeObject := by
    rintro ⟨lexeme, phase, frames⟩ other next rfl h
    rcases phase with _ | _ | (_ | _) | _ | _ <;> rcases frames with _ | ⟨_ | _, frames⟩ <;>
      cases h <;> exact ⟨_, rfl, rfl⟩
  comma := by
    rintro ⟨lexeme, phase, frames⟩ other next rfl h
    rcases frames with _ | ⟨_ | _, frames⟩ <;> cases phase <;> cases h <;> exact ⟨_, rfl, rfl⟩
  colon := by
    rintro ⟨lexeme, phase, frames⟩ other next rfl h
    cases phase <;> cases h
    exact ⟨_, rfl, rfl⟩

/--
Where the first element of an array may stand, the reader has not pushed the frame of
the array yet.  It does so as soon as the element begins or ends.
-/
inductive Unpushed (stack : List Frame) : Reader → Reader → Prop
  | pending (lexeme : Lexeme) :
      Unpushed stack ⟨lexeme, .value, .array [] :: stack⟩ ⟨lexeme, .firstItem, stack⟩
  | pushed (r : Reader) : Unpushed stack r r

private theorem follows_unpushed {stack : List Frame} {step : Reader → Option Reader}
    (h : ∀ lexeme next, step ⟨lexeme, .value, .array [] :: stack⟩ = some next →
      step ⟨lexeme, .firstItem, stack⟩ = some next) :
    Follows (Unpushed stack) step := by
  rintro r other next (lexeme | r) hstep
  · exact ⟨next, h lexeme next hstep, .pushed next⟩
  · exact ⟨next, hstep, .pushed next⟩

private theorem simulation_unpushed (stack : List Frame) : Simulation (Unpushed stack) where
  lexeme := by
    rintro r other (lexeme | r) <;> rfl
  relexed := by
    rintro r other lexeme (_ | r)
    · exact .pending lexeme
    · exact .pushed _
  scalar tree := follows_unpushed fun _ _ h => h
  closeString text := follows_unpushed fun _ _ h => h
  openArray := follows_unpushed fun _ _ h => h
  openObject := follows_unpushed fun _ _ h => h
  closeArray := follows_unpushed fun _ _ h => by cases h
  closeObject := follows_unpushed fun _ _ h => by cases h
  comma := follows_unpushed fun _ _ h => by cases h
  colon := follows_unpushed fun _ _ h => by cases h

/-! ## Values where they may stand -/

private theorem blank_of_scalar {r next : Reader} {tree : Tree} (h : r.scalar tree = some next) :
    next.lexeme = .blank := by
  obtain ⟨lexeme, phase, stack⟩ := r
  cases phase <;> cases h <;> rfl

private theorem blank_of_flush {r next : Reader} (h : r.flush = some next) :
    next.lexeme = .blank := by
  rcases flush_eq_some h with ⟨hblank, rfl⟩ | ⟨chars, text, -, -, hscalar⟩
  · exact hblank
  · exact blank_of_scalar hscalar

private theorem flush_of_result {r : Reader} {tree : Tree} (h : r.result = some tree) :
    r.flush = some ⟨.blank, .complete tree, []⟩ := by
  obtain ⟨flushed, hflush, htree⟩ := Option.bind_eq_some_iff.mp h
  have hblank := blank_of_flush hflush
  obtain ⟨lexeme, phase, stack⟩ := flushed
  cases hblank
  split at htree
  · next hphase hstack =>
      cases htree
      cases hphase
      cases hstack
      exact hflush
  · cases htree

private theorem feed_of_flush {r next : Reader} (h : r.flush = some next) {c : Char}
    (ends : isNumberChar c = false) : r.feed (some c) = next.start (some c) := by
  rcases flush_eq_some h with ⟨hblank, rfl⟩ | ⟨chars, text, hnumber, -, -⟩
  · rw [feed, hblank]
  · rw [feed, hnumber]
    simp only [ends, Bool.false_eq_true, if_false, h, Option.bind_some]

theorem run_value {symbols : List Symbol} {tree : Tree} (h : Tree.ofSymbols? symbols = some tree)
    (stack : List Frame) {c : Char} (ends : isNumberChar c = false) (rest : List Symbol) :
    run { stack } (symbols ++ some c :: rest) =
      run ⟨.blank, .complete tree, stack⟩ (some c :: rest) := by
  obtain ⟨r, hrun, hresult⟩ := Option.bind_eq_some_iff.mp h
  have hinside : run { stack } symbols = some (r.inside stack) := by
    obtain ⟨_, hother, rfl⟩ := (simulation_inside stack).run symbols {} { stack } r rfl hrun
    exact hother
  have hflush : (r.inside stack).flush = some ⟨.blank, .complete tree, stack⟩ := by
    obtain ⟨_, hother, rfl⟩ :=
      (simulation_inside stack).flush r _ _ rfl (flush_of_result hresult)
    exact hother
  rw [run_append, hinside, Option.bind_some, run_cons, run_cons, feed_of_flush hflush ends]
  rfl

/-! ## Arrays -/

private theorem run_firstItem {symbols : List Symbol} {tree : Tree}
    (h : Tree.ofSymbols? symbols = some tree) (stack : List Frame) {c : Char}
    (hc : c = ',' ∨ c = ']') (rest : List Symbol) :
    run ⟨.blank, .firstItem, stack⟩ (symbols ++ some c :: rest) =
      run ⟨.blank, .value, .array [] :: stack⟩ (symbols ++ some c :: rest) := by
  have ends : isNumberChar c = false := by
    rcases hc with rfl | rfl <;> decide
  obtain ⟨next, hnext, hmoved⟩ : ∃ next,
      feed ⟨.blank, .complete tree, .array [] :: stack⟩ (some c) = some next ∧
        ∀ lexeme, next ≠ ⟨lexeme, .value, .array [] :: stack⟩ := by
    rcases hc with rfl | rfl
    · exact ⟨⟨.blank, .value, .array [tree] :: stack⟩, rfl, by simp⟩
    · exact ⟨⟨.blank, .complete (.array [tree]), stack⟩, rfl, by simp⟩
  have hvalue : run ⟨.blank, .value, .array [] :: stack⟩ (symbols ++ [some c]) = some next := by
    rw [run_value h _ ends, run_cons, hnext]
    rfl
  have hfirst : run ⟨.blank, .firstItem, stack⟩ (symbols ++ [some c]) = some next := by
    obtain ⟨after, hafter, halike⟩ :=
      (simulation_unpushed stack).run _ _ _ next (.pending .blank) hvalue
    -- The comma or bracket has moved on from the frame, so both readers are the same by now.
    cases halike with
    | pending lexeme => exact absurd rfl (hmoved lexeme)
    | pushed => exact hafter
  rw [List.append_cons, run_append _ (symbols ++ [some c]), run_append _ (symbols ++ [some c]),
    hfirst, hvalue]

private theorem run_firstItems {text : List Symbol} {tree : Tree}
    (h : Tree.ofSymbols? text = some tree) (texts : List (List Symbol)) (stack : List Frame)
    (rest : List Symbol) :
    run ⟨.blank, .firstItem, stack⟩
        ([some ','].intercalate (text :: texts) ++ some ']' :: rest) =
      run ⟨.blank, .value, .array [] :: stack⟩
        ([some ','].intercalate (text :: texts) ++ some ']' :: rest) := by
  cases texts with
  | nil =>
      rw [List.intercalate_singleton]
      exact run_firstItem h stack (.inr rfl) rest
  | cons next texts =>
      rw [List.intercalate_cons_cons, List.append_assoc, List.append_assoc, List.singleton_append]
      exact run_firstItem h stack (.inl rfl) _

private theorem run_items {texts : List (List Symbol)} {trees : List Tree}
    (h : List.Forall₂ (fun text tree => Tree.ofSymbols? text = some tree) texts trees) :
    ∀ text tree, Tree.ofSymbols? text = some tree → ∀ before stack rest,
      run ⟨.blank, .value, .array before :: stack⟩
          ([some ','].intercalate (text :: texts) ++ some ']' :: rest) =
        run ⟨.blank, .complete (.array (before.reverse ++ tree :: trees)), stack⟩ rest := by
  induction h with
  | nil =>
      intro text tree htext before stack rest
      rw [List.intercalate_singleton, run_value htext _ (by decide), run_cons]
      simp [feed, start, closeArray]
  | @cons next nextTree texts trees hnext htexts ih =>
      intro text tree htext before stack rest
      rw [List.intercalate_cons_cons, List.append_assoc, List.append_assoc, List.singleton_append,
        run_value htext _ (by decide), run_cons]
      change run ⟨.blank, .value, .array (tree :: before) :: stack⟩ _ = _
      rw [ih next nextTree hnext, List.reverse_cons, List.append_assoc, List.singleton_append]

end Reader

theorem Tree.ofSymbols?_of_run {symbols : List Symbol} {tree : Tree}
    (h : Reader.run {} symbols = some ⟨.blank, .complete tree, []⟩) :
    Tree.ofSymbols? symbols = some tree := by
  change (Reader.run {} symbols).bind Reader.result = some tree
  rw [h]
  rfl

theorem Tree.ofSymbols?_array {texts : List (List Symbol)} {trees : List Tree}
    (h : List.Forall₂ (fun text tree => Tree.ofSymbols? text = some tree) texts trees) :
    Tree.ofSymbols? (some '[' :: ([some ','].intercalate texts ++ [some ']'])) =
      some (.array trees) := by
  apply Tree.ofSymbols?_of_run
  cases h with
  | nil => rfl
  | @cons text tree texts trees htext htexts =>
      change Reader.run ⟨.blank, .firstItem, []⟩ _ = _
      rw [Reader.run_firstItems htext]
      exact Reader.run_items htexts text tree htext [] [] []

/-! ## Objects -/

def ReadsKey (symbols : List Symbol) (key : StringText) : Prop :=
  ∀ fields stack, Reader.run ⟨.blank, .key fields, stack⟩ symbols =
    some ⟨.blank, .colon fields key, stack⟩

def ReadsMember (member : List Symbol) (field : StringText × Tree) : Prop :=
  ∃ key text, member = key ++ some ':' :: text ∧ ReadsKey key field.1 ∧
    Tree.ofSymbols? text = some field.2

namespace Reader

private theorem run_member {member : List Symbol} {field : StringText × Tree}
    (h : ReadsMember member field) (fields : List (StringText × Tree)) (stack : List Frame)
    {c : Char} (ends : isNumberChar c = false) (rest : List Symbol) :
    run ⟨.blank, .key fields, stack⟩ (member ++ some c :: rest) =
      run ⟨.blank, .complete field.2, .object fields field.1 :: stack⟩ (some c :: rest) := by
  obtain ⟨key, text, rfl, hkey, htext⟩ := h
  rw [List.append_assoc, run_append, hkey, Option.bind_some]
  exact run_value htext _ ends rest

private theorem run_members {members : List (List Symbol)} {later : List (StringText × Tree)}
    (h : List.Forall₂ ReadsMember members later) :
    ∀ member field, ReadsMember member field → ∀ fields stack rest,
      run ⟨.blank, .key fields, stack⟩
          ([some ','].intercalate (member :: members) ++ some '\x7d' :: rest) =
        run ⟨.blank, .complete (.object (fields.reverse ++ field :: later)), stack⟩ rest := by
  induction h with
  | nil =>
      intro member field hmember fields stack rest
      rw [List.intercalate_singleton, run_member hmember _ _ (by decide), run_cons]
      simp [feed, start, closeObject]
  | @cons next nextField members later hnext hmembers ih =>
      intro member field hmember fields stack rest
      rw [List.intercalate_cons_cons, List.append_assoc, List.append_assoc, List.singleton_append,
        run_member hmember _ _ (by decide), run_cons]
      change run ⟨.blank, .key (field :: fields), stack⟩ _ = _
      rw [ih next nextField hnext, List.reverse_cons, List.append_assoc, List.singleton_append]

end Reader

theorem Tree.ofSymbols?_object {members : List (List Symbol)} {fields : List (StringText × Tree)}
    (h : List.Forall₂ ReadsMember members fields) :
    Tree.ofSymbols? (some '\x7b' :: ([some ','].intercalate members ++ [some '\x7d'])) =
      some (.object fields) := by
  apply Tree.ofSymbols?_of_run
  cases h with
  | nil => rfl
  | @cons member field members fields hmember hmembers =>
      change Reader.run ⟨.blank, .key [], []⟩ _ = _
      exact Reader.run_members hmembers member field hmember [] [] []

end IndexPrice.Json
