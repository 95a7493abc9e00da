import IndexPrice.Price.Ticker
import IndexPrice.Proofs.Json.Printer
import IndexPrice.Proofs.Json.Record

/-!
# Tickers written and read

A ticker reads back from its JSON text as it was.  The optional fields may be left out
or be given by their defaults, and neither the order of the members nor members that no
ticker has make a difference.
-/

namespace IndexPrice.Ticker

open Json

theorem ofJson?_of_tree {text : String} {tree : Tree} (h : Tree.ofText? text = some tree) :
    ofJson? text = decoder depthLimit tree := by
  change (Tree.ofText? text).bind (decoder depthLimit) = _
  rw [h, Option.bind_some]

/-! ## Written tickers -/

def ageTree : Option Nat → Tree
  | none => .null
  | some seconds => .number (wholeText false seconds)

def memberTrees (ticker : Ticker) : List (StringText × Tree) := [
  (writtenText "exchange_id", .string (writtenText ticker.exchange)),
  (writtenText "inst_id", .string (writtenText ticker.instrument)),
  (writtenText "network", .string (writtenText ticker.network)),
  (writtenText "max_use_age_secs", ageTree ticker.maxUseAgeSecs)]

private theorem ofText?_toJson (ticker : Ticker) :
    Tree.ofText? ticker.toJson = some (.object ticker.memberTrees) := by
  apply Value.ofText?_print
  obtain ⟨exchange, instrument, network, age⟩ := ticker
  cases age <;> rfl

private theorem recordFields?_memberTrees (ticker : Ticker) (depth : Nat) :
    recordFields? fieldNames (depth + 1) (.object ticker.memberTrees) = some [
      .given depth (.string (writtenText ticker.exchange)),
      .given depth (.string (writtenText ticker.instrument)),
      .given depth (.string (writtenText ticker.network)),
      .given depth (ageTree ticker.maxUseAgeSecs)] := by
  simp [recordFields?_object, namedMember?, namedField?, fieldNames, memberTrees]

private theorem text_writtenText (depth : Nat) (text : String) :
    Decoder.text depth (.string (writtenText text)) = some text :=
  text?_writtenText text

private theorem nat64_ageTree (depth : Nat) {age : Option Nat}
    (h : ∀ seconds ∈ age, seconds < Nat.pow 2 64) :
    Decoder.nat64.nullable depth (ageTree age) = some age := by
  cases age with
  | none => rfl
  | some seconds =>
      have hsmall : seconds < Nat.pow 2 64 := h seconds rfl
      have hrange : 0 ≤ Int.ofNat seconds ∧
          Int.ofNat seconds ≤ Int.ofNat (Nat.pow 2 64) - 1 := by
        simp only [Int.ofNat_eq_natCast]
        omega
      change ((Decoder.integerWithin 0 _ depth (.number (wholeText false seconds))).map _).map _ = _
      simp only [Decoder.integerWithin, number?_wholeText hsmall, if_pos hrange]
      rfl

private theorem ofJson?_toJson (ticker : Ticker)
    (h : ∀ seconds ∈ ticker.maxUseAgeSecs, seconds < Nat.pow 2 64) :
    ofJson? ticker.toJson = some ticker := by
  rw [ofJson?_of_tree ticker.ofText?_toJson, decoder, depthLimit, recordFields?_memberTrees]
  simp only [FieldTree.required, FieldTree.orElse, text_writtenText, nat64_ageTree _ h,
    Option.bind_eq_bind, Option.bind_some]
  rfl

/-! ## Defaults, order and other members -/

private theorem decoder_of_extends {core members : List (StringText × Tree)}
    (h : Extends fieldNames core members) (depth : Nat) :
    decoder depth (.object members) = decoder depth (.object core) := by
  rw [decoder, decoder, recordFields?_of_extends h]

def OptionalAbsent (members : List (StringText × Tree)) : Prop :=
  ∀ member ∈ members,
    member.1.text? ≠ some "network" ∧ member.1.text? ≠ some "max_use_age_secs"

theorem mapM_fieldNames (field? : String → Option FieldTree) :
    fieldNames.mapM field? =
      (field? "exchange_id").bind fun exchange => (field? "inst_id").bind fun instrument =>
        (field? "network").bind fun network => (field? "max_use_age_secs").bind fun age =>
          some [exchange, instrument, network, age] := by
  simp [fieldNames, Option.bind_assoc]

section

variable {named : List (String × Tree)} (depth : Nat)
  (networkAbsent : ∀ member ∈ named, member.1 ≠ "network")
  (ageAbsent : ∀ member ∈ named, member.1 ≠ "max_use_age_secs")

include networkAbsent ageAbsent

private theorem fields_of_absent :
    fieldNames.mapM (namedField? depth named) =
      (namedField? depth named "exchange_id").bind fun exchange =>
        (namedField? depth named "inst_id").bind fun instrument =>
          some [exchange, instrument, .missing, .missing] := by
  rw [mapM_fieldNames, namedField?_of_absent networkAbsent, namedField?_of_absent ageAbsent]
  rfl

private theorem fields_of_given (network age : Tree) :
    fieldNames.mapM
        (namedField? depth (("network", network) :: ("max_use_age_secs", age) :: named)) =
      (namedField? depth named "exchange_id").bind fun exchange =>
        (namedField? depth named "inst_id").bind fun instrument =>
          some [exchange, instrument, .given depth network, .given depth age] := by
  have hnetwork : ∀ member ∈ ("max_use_age_secs", age) :: named, member.1 ≠ "network" := by
    simpa using networkAbsent
  rw [mapM_fieldNames, namedField?_cons_self hnetwork]
  simp only [namedField?_cons_ne, namedField?_cons_self ageAbsent, ne_eq, String.reduceEq,
    not_false_eq_true, Option.bind_some]

end

private theorem decoder_defaults {core : List (StringText × Tree)} (absent : OptionalAbsent core)
    {network age empty : StringText} (hnetwork : network.text? = some "network")
    (hage : age.text? = some "max_use_age_secs") (hempty : empty.text? = some "") (depth : Nat) :
    decoder depth (.object ((network, .string empty) :: (age, .null) :: core)) =
      decoder depth (.object core) := by
  cases depth with
  | zero => rfl
  | succ depth =>
      have hnetworkAbsent := ne_of_mem_named fun member hmember => (absent member hmember).1
      have hageAbsent := ne_of_mem_named fun member hmember => (absent member hmember).2
      have hnamed : ((network, Tree.string empty) :: (age, .null) :: core).filterMap namedMember? =
          ("network", .string empty) :: ("max_use_age_secs", .null) ::
            core.filterMap namedMember? := by
        simp [namedMember?, hnetwork, hage]
      have hreadable : ((network, Tree.string empty) :: (age, .null) :: core).all
          (namedMember? · |>.isSome) = core.all (namedMember? · |>.isSome) := by
        simp [namedMember?, hnetwork, hage]
      rw [decoder, decoder, recordFields?_object, recordFields?_object, hreadable, hnamed,
        fields_of_absent depth hnetworkAbsent hageAbsent,
        fields_of_given depth hnetworkAbsent hageAbsent]
      generalize core.filterMap namedMember? = named
      -- What is left differs in the optional fields only: given by a default, or missing.
      split
      · cases namedField? depth named "exchange_id" with
        | none => rfl
        | some exchange =>
            cases namedField? depth named "inst_id" with
            | none => rfl
            | some instrument =>
                simp [FieldTree.orElse, Decoder.text, Decoder.nullable, hempty]
      · rfl

private theorem ofJson?_of_required {text : String} {members : List (StringText × Tree)}
    {exchangeKey instrumentKey exchangeText instrumentText : StringText}
    {exchange instrument : String} (h : Tree.ofText? text = some (.object members))
    (hexchangeKey : exchangeKey.text? = some "exchange_id")
    (hinstrumentKey : instrumentKey.text? = some "inst_id")
    (hexchange : exchangeText.text? = some exchange)
    (hinstrument : instrumentText.text? = some instrument)
    (hmembers : Extends fieldNames
      [(exchangeKey, .string exchangeText), (instrumentKey, .string instrumentText)] members) :
    ofJson? text = some { exchange, instrument } := by
  rw [ofJson?_of_tree h, decoder_of_extends hmembers, decoder, depthLimit, recordFields?_object]
  simp [namedMember?, hexchangeKey, hinstrumentKey, mapM_fieldNames, namedField?,
    FieldTree.required, FieldTree.orElse, Decoder.text, hexchange, hinstrument]

/--
A ticker is read back from its own text, over the whole range of ages.  Reading without
the optional fields is reading with their defaults, whatever the order of the members
and whatever else is given in either text.
-/
theorem read_back_and_defaulted :
    (∀ ticker : Ticker, (∀ seconds ∈ ticker.maxUseAgeSecs, seconds < Nat.pow 2 64) →
      ofJson? ticker.toJson = some ticker) ∧
    ∀ (shortText longText : String) (core short long : List (StringText × Tree))
      (network age empty : StringText),
      Tree.ofText? shortText = some (.object short) →
      Tree.ofText? longText = some (.object long) →
      OptionalAbsent core →
      network.text? = some "network" → age.text? = some "max_use_age_secs" →
      empty.text? = some "" →
      Extends fieldNames core short →
      Extends fieldNames ((network, .string empty) :: (age, .null) :: core) long →
      ofJson? longText = ofJson? shortText := by
  refine ⟨ofJson?_toJson, ?_⟩
  intro shortText longText core short long network age empty hshortText hlongText absent
    hnetwork hage hempty hshort hlong
  calc
    ofJson? longText = decoder depthLimit (.object long) := ofJson?_of_tree hlongText
    _ = decoder depthLimit (.object ((network, .string empty) :: (age, .null) :: core)) :=
        decoder_of_extends hlong depthLimit
    _ = decoder depthLimit (.object core) :=
        decoder_defaults absent hnetwork hage hempty depthLimit
    _ = decoder depthLimit (.object short) := (decoder_of_extends hshort depthLimit).symm
    _ = ofJson? shortText := (ofJson?_of_tree hshortText).symm

theorem largest_age_and_unknown_note :
    let quoted : Ticker := ⟨"okx", "BTC\"\n", "", some 18446744073709551615⟩
    let required := [("inst_id", .string "BTC-USDT"), ("exchange_id", .string "okx")]
    let note := ("note", .array [.number (.integer 1), .object [("a", .bool true)]])
    let spelled := ("max_use_age_secs", .null) :: ("network", .string "") :: (required ++ [note])
    ofJson? quoted.toJson = some quoted ∧
      ofJson? (Value.object spelled).print = ofJson? (Value.object required).print ∧
      ofJson? (Value.object required).print =
        some { exchange := "okx", instrument := "BTC-USDT" } := by
  intro quoted required note spelled
  let core : List (StringText × Tree) := [
    (writtenText "inst_id", .string (writtenText "BTC-USDT")),
    (writtenText "exchange_id", .string (writtenText "okx"))]
  let noteTree : StringText × Tree :=
    (writtenText "note", .array [.number (wholeText false 1),
      .object [(writtenText "a", .bool true)]])
  have hrequired : Tree.ofText? (Value.object required).print = some (.object core) :=
    Value.ofText?_print rfl
  have hspelled : Tree.ofText? (Value.object spelled).print =
      some (.object ((writtenText "max_use_age_secs", .null) ::
        (writtenText "network", .string (writtenText "")) :: (core ++ [noteTree]))) :=
    Value.ofText?_print rfl
  have habsent : OptionalAbsent core := by
    simp [OptionalAbsent, core]
  have hshort : Extends fieldNames core core := ⟨[], by simp, .refl core⟩
  have hlong : Extends fieldNames
      ((writtenText "network", .string (writtenText "")) ::
        (writtenText "max_use_age_secs", .null) :: core)
      ((writtenText "max_use_age_secs", .null) ::
        (writtenText "network", .string (writtenText "")) :: (core ++ [noteTree])) := by
    refine ⟨[noteTree], by simp [Passed, fieldNames, noteTree], ?_⟩
    exact (List.perm_append_singleton noteTree (_ :: _ :: core)).trans
      (.cons noteTree (.swap _ _ core))
  refine ⟨read_back_and_defaulted.1 quoted (by decide), ?_, ?_⟩
  · exact read_back_and_defaulted.2 _ _ core core _ _ _ _ hrequired hspelled habsent
      (text?_writtenText _) (text?_writtenText _) (text?_writtenText _) hshort hlong
  · exact ofJson?_of_required hrequired (text?_writtenText _) (text?_writtenText _)
      (text?_writtenText _) (text?_writtenText _) ⟨[], by simp, .swap _ _ []⟩

end IndexPrice.Ticker
