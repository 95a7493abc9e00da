import IndexPrice.Proofs.Exchange.Subscription
import IndexPrice.Proofs.Feed.Stream.Reception
import IndexPrice.Proofs.List
import Mathlib

/-!
# Candle frames

A text carries a candle exactly if it is an array of four values, of which the second is
an array of nine and the last the pair.  The sample of a candle takes two of the nine
entries by their places, which the length makes safe, and exists exactly if both are texts
that read as a price and as a time.
-/

namespace IndexPrice.Exchange.Kraken

open Feed Feed.Stream Json

/-! ## Frames -/

theorem update?_eq_some {value : Value} {pair : String} {entries : Entries} :
    update? value = some (pair, entries) ↔
      ∃ frame, value = .array frame ∧ frame.length = 4 ∧ frame[3]? = some (.string pair) ∧
        frame[1]? = some (.array entries) ∧ entries.length = 9 := by
  constructor
  · intro h
    unfold update? at h
    split at h
    · next channel candle name text =>
      split at h
      · next hlength =>
        cases h
        exact ⟨_, rfl, rfl, rfl, rfl, hlength⟩
      · cases h
    · cases h
  · rintro ⟨frame, rfl, hlength, hpair, hentries, hnine⟩
    obtain ⟨channel, candle, name, last, rfl⟩ := List.length_eq_four.mp hlength
    obtain rfl : last = .string pair := Option.some.inj hpair
    obtain rfl : candle = .array entries := Option.some.inj hentries
    exact if_pos hnine

/-! ## Samples -/

section

variable {entries : Entries} {index : Nat}

theorem entryText_eq_ok {text : String} :
    entryText entries index = .ok text ↔ entries[index]? = some (.string text) := by
  unfold entryText
  split
  · next held => simp [held]
  · next other => exact iff_of_false nofun (other text)

theorem floatText_eq_ok {text : String} {x : Float} :
    Wire.floatText text = .ok x ↔ Decimal.readFloat text.toList = .ok x := by
  unfold Wire.floatText
  cases Decimal.readFloat text.toList <;> simp [Except.mapError]

theorem sample_eq_ok {multiplier : Float} {sample : Sample} :
    Kraken.sample entries multiplier = .ok sample ↔
      ∃ close seconds price time, entries[5]? = some (.string close) ∧
        entries[0]? = some (.string seconds) ∧ Decimal.readFloat close.toList = .ok price ∧
        Wire.unixSeconds seconds = .ok time ∧ sample = ⟨price * multiplier, time⟩ := by
  simp only [Kraken.sample, bind_eq_ok, entryText_eq_ok, floatText_eq_ok]
  constructor
  · rintro ⟨close, hclose, price, hprice, seconds, hseconds, time, htime, hsample⟩
    exact ⟨close, seconds, price, time, hclose, hseconds, hprice, htime,
      (Except.ok.inj hsample).symm⟩
  · rintro ⟨close, seconds, price, time, hclose, hseconds, hprice, htime, rfl⟩
    exact ⟨close, hclose, price, hprice, seconds, hseconds, time, htime, rfl⟩

/-! ## Places -/

def entryAt (entries : Entries) (index : Nat) : ExceptT PayloadFault Option String := do
  match ← (entries[index]? : Option Value) with
  | .string text => return text
  | _ => throw (.shape (.entryNotText index))

/-- The sample of a candle whose entries are taken by their places alone. -/
def sampleAt (entries : Entries) (multiplier : Float) : ExceptT PayloadFault Option Sample := do
  let close ← entryAt entries 5
  let price ← ofExcept (Wire.floatText close)
  let seconds ← entryAt entries 0
  let time ← ofExcept (Wire.unixSeconds seconds)
  return ⟨price * multiplier, time⟩

private theorem entryAt_of_lt (h : index < entries.length) :
    entryAt entries index = ofExcept (entryText entries index) := by
  have hheld := List.getElem?_eq_getElem h
  unfold entryAt entryText
  rw [hheld]
  cases entries[index] <;> rfl

private theorem ofExcept_bind {α β : Type} (first : Except PayloadFault α)
    (next : α → Except PayloadFault β) :
    (do let value ← ofExcept first; ofExcept (next value) : ExceptT PayloadFault Option β) =
      ofExcept (first >>= next) := by
  cases first <;> rfl

private theorem run_ofExcept {α : Type} (result : Except PayloadFault α) :
    (ofExcept result : ExceptT PayloadFault Option α).run = some result := by
  cases result <;> rfl

private theorem sampleAt_of_length (h : entries.length = 9) (multiplier : Float) :
    (sampleAt entries multiplier).run = some (Kraken.sample entries multiplier) := by
  have hpure : ∀ sample : Sample, (pure sample : ExceptT PayloadFault Option Sample) =
      ofExcept (.ok sample) := fun _ => rfl
  rw [← run_ofExcept]
  simp only [sampleAt, entryAt_of_lt (show 5 < entries.length by omega),
    entryAt_of_lt (show 0 < entries.length by omega), hpure, ofExcept_bind]
  rfl

example : (sampleAt [] 1.0).run = none := rfl

end

/-! ## What comes off the socket -/

private theorem classify_eq_candle {raw : RawFrame} {pair : String} {entries : Entries} :
    format.classify raw = .price pair entries ↔
      ∃ text frame, raw = .text text ∧ Value.ofText? text = some (.array frame) ∧
        frame.length = 4 ∧ frame[3]? = some (.string pair) ∧
        frame[1]? = some (.array entries) ∧ entries.length = 9 := by
  rw [Format.classify_eq_price]
  change (∃ text, raw = .text text ∧ (Value.ofText? text).bind update? = _) ↔ _
  simp only [Option.bind_eq_some_iff, update?_eq_some]
  constructor
  · rintro ⟨text, rfl, _, hvalue, frame, rfl, hframe⟩
    exact ⟨text, frame, rfl, hvalue, hframe⟩
  · rintro ⟨text, frame, rfl, hvalue, hframe⟩
    exact ⟨text, rfl, _, hvalue, frame, rfl, hframe⟩

/--
A frame carries a candle exactly if it is a text of this shape; and no entry of a candle is
missed, whose sample exists exactly if its entries 5 and 0 are texts of a price and a time.
-/
theorem candle_frames (raw : RawFrame) (pair : String) (entries : Entries) :
    (format.classify raw = .price pair entries ↔
      ∃ text frame, raw = .text text ∧ Value.ofText? text = some (.array frame) ∧
        frame.length = 4 ∧ frame[3]? = some (.string pair) ∧
        frame[1]? = some (.array entries) ∧ entries.length = 9) ∧
    (format.classify raw = .price pair entries → ∀ now multiplier,
      (sampleAt entries multiplier).run = some (format.sample now entries multiplier) ∧
      ∀ sample, format.sample now entries multiplier = .ok sample ↔
        ∃ close seconds price time, entries[5]? = some (.string close) ∧
          entries[0]? = some (.string seconds) ∧ Decimal.readFloat close.toList = .ok price ∧
          Wire.unixSeconds seconds = .ok time ∧ sample = ⟨price * multiplier, time⟩) := by
  refine ⟨classify_eq_candle, fun h now multiplier => ?_⟩
  obtain ⟨text, frame, -, -, -, -, -, hlength⟩ := classify_eq_candle.mp h
  exact ⟨sampleAt_of_length hlength multiplier, fun sample => sample_eq_ok⟩

private theorem ofText?_candle (channel name pair : String) (texts : List String) :
    Value.ofText? (Value.array [.string channel, .array (texts.map .string), .string name,
        .string pair]).print =
      some (.array [.string channel, .array (texts.map .string), .string name, .string pair]) :=
  (Value.ReadsBack.array (.cons (.string _) (.cons (readsBack_strings texts)
    (.cons (.string _) (.cons (.string _) .nil))))).ofText?

def xbtTexts : List String :=
  ["1542057314.748456", "1542057360.435743", "3586.70000", "3586.70000", "3586.60000",
    "3586.60000", "3586.68894", "0.03373000", "2"]

theorem sample_of_xbtCandle :
    format.classify (.text (Value.array [.string "42", .array (xbtTexts.map .string),
        .string "ohlc-5", .string "XBT/USD"]).print) = .price "XBT/USD" (xbtTexts.map .string) ∧
      (sampleAt (xbtTexts.map .string) 2.0).run =
        some (format.sample .epoch (xbtTexts.map .string) 2.0) ∧
      format.sample .epoch (xbtTexts.map .string) 2.0 =
        .ok ⟨3586.6 * 2.0, ⟨1542057314, 748456001⟩⟩ := by
  obtain ⟨hclassified, hsampled⟩ := candle_frames (.text (Value.array [.string "42",
    .array (xbtTexts.map .string), .string "ohlc-5", .string "XBT/USD"]).print) "XBT/USD"
    (xbtTexts.map .string)
  have hframe := hclassified.mpr
    ⟨_, _, rfl, ofText?_candle "42" "ohlc-5" "XBT/USD" xbtTexts, rfl, rfl, rfl, rfl⟩
  have hprice : Decimal.readFloat "3586.60000".toList = .ok 3586.6 := by
    decide +kernel
  have htime : Wire.unixSeconds "1542057314.748456" = .ok ⟨1542057314, 748456001⟩ := by
    decide +kernel
  obtain ⟨hsafe, hsample⟩ := hsampled hframe .epoch 2.0
  exact ⟨hframe, hsafe, (hsample _).mpr
    ⟨"3586.60000", "1542057314.748456", _, _, rfl, rfl, hprice, htime, rfl⟩⟩

end IndexPrice.Exchange.Kraken
