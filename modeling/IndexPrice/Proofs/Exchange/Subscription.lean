import IndexPrice.Exchange.Coinbase
import IndexPrice.Exchange.Kraken
import IndexPrice.Exchange.Okx
import IndexPrice.Proofs.Json.Printer

/-!
# What subscriptions ask for

The subscription of a stream is one JSON object.  Reading it gives back the instruments
of the tickers, in order, at the place where the exchange looks for them, and around
them only what is the same in every subscription.  An instrument may be any text.
-/

namespace IndexPrice.Exchange

open Json

/-- The exchanges that are asked for instruments once a connection is open. -/
inductive Venue where
  | okx
  | coinbase (exchange : String)
  | kraken

namespace Venue

def subscription? (tickers : List Ticker) : Venue → Option String
  | .okx => Okx.format.subscription tickers
  | .coinbase exchange => (Coinbase.format exchange).subscription tickers
  | .kraken => Kraken.format.subscription tickers

def members : Venue → List String
  | .okx => ["op", "args"]
  | .coinbase _ => ["type", "product_ids", "channels"]
  | .kraken => ["event", "pair", "subscription"]

/-- The message that asks for the instruments, its members in ascending order. -/
def asking (instruments : List String) : Venue → Value
  | .okx => .object [
      ("args", .array (instruments.map fun instrument => .object [
        ("channel", .string "index-candle1m"),
        ("instId", .string instrument)])),
      ("op", .string "subscribe")]
  | .coinbase _ => .object [
      ("channels", .array [.string "ticker_batch"]),
      ("product_ids", .array (instruments.map .string)),
      ("type", .string "subscribe")]
  | .kraken => .object [
      ("event", .string "subscribe"),
      ("pair", .array (instruments.map .string)),
      ("subscription", .object [("name", .string "ohlc")])]

end Venue

/-- The text is one object with these members, each once, and is read as the value. -/
structure IsMessage (text : String) (members : List String) (value : Value) : Prop where
  members : ∃ fields, Tree.ofText? text = some (.object fields) ∧
    fields.map (·.1.text?) = members.map some
  value : Value.ofText? text = some value

private theorem isMessage_of_readsBack {fields : List (String × Value)} {value : Value}
    (h : Value.ReadsBack depthLimit (.object fields) value) :
    IsMessage (Value.object fields).print (fields.map (·.1)) value where
  members := by
    obtain ⟨tree, htree, -⟩ := h
    obtain ⟨members, rfl, hnames⟩ := Value.members_of_object htree
    refine ⟨members, Value.ofText?_print htree, ?_⟩
    rw [hnames, List.map_map]
    rfl
  value := h.ofText?

/-! ## Reading subscriptions back -/

section

variable {depth : Nat}

theorem readsBack_strings (texts : List String) :
    Value.ReadsBack (depth + 1) (.array (texts.map .string)) (.array (texts.map .string)) := by
  apply Value.ReadsBack.array
  rw [List.forall₂_map_left_iff, List.forall₂_map_right_iff, List.forall₂_same]
  exact fun text _ => .string text

private theorem readsBack_okx (tickers : List Ticker) :
    Value.ReadsBack (depth + 3) (Okx.subscription tickers)
      (Venue.okx.asking (tickers.map (·.instrument))) := by
  have hargs : Value.ReadsBack (depth + 2)
      (.array (tickers.map fun ticker => .object [
        ("channel", .string "index-candle1m"), ("instId", .string ticker.instrument)]))
      (.array ((tickers.map (·.instrument)).map fun instrument => .object [
        ("channel", .string "index-candle1m"), ("instId", .string instrument)])) := by
    apply Value.ReadsBack.array
    rw [List.map_map, List.forall₂_map_left_iff, List.forall₂_map_right_iff, List.forall₂_same]
    intro ticker _
    exact .object (.cons (.of _ (.string _)) (.cons (.of _ (.string _)) .nil)) (.refl _)
      (show ["channel", "instId"].Pairwise (· < ·) by decide)
  exact .object (.cons (.of _ (.string _)) (.cons (.of _ hargs) .nil)) (.swap _ _ [])
    (show ["args", "op"].Pairwise (· < ·) by decide)

private theorem readsBack_coinbase (exchange : String) (tickers : List Ticker) :
    Value.ReadsBack (depth + 2) (Coinbase.subscription tickers)
      ((Venue.coinbase exchange).asking (tickers.map (·.instrument))) := by
  have hproducts : Value.ReadsBack (depth + 1)
      (.array (tickers.map fun ticker => .string ticker.instrument))
      (.array ((tickers.map (·.instrument)).map .string)) := by
    simpa [Function.comp_def] using readsBack_strings (tickers.map (·.instrument))
  exact .object (.cons (.of _ (.string _)) (.cons (.of _ hproducts)
    (.cons (.of _ (readsBack_strings ["ticker_batch"])) .nil))) (List.reverse_perm _).symm
    (show ["channels", "product_ids", "type"].Pairwise (· < ·) by decide)

private theorem readsBack_kraken (tickers : List Ticker) :
    Value.ReadsBack (depth + 2) (Kraken.subscription tickers)
      (Venue.kraken.asking (tickers.map (·.instrument))) := by
  have hpairs : Value.ReadsBack (depth + 1)
      (.array (tickers.map fun ticker => .string ticker.instrument))
      (.array ((tickers.map (·.instrument)).map .string)) := by
    simpa [Function.comp_def] using readsBack_strings (tickers.map (·.instrument))
  have hname : Value.ReadsBack (depth + 1) (.object [("name", .string "ohlc")])
      (.object [("name", .string "ohlc")]) :=
    .object (.cons (.of _ (.string _)) .nil) (.refl _) (by decide)
  exact .object (.cons (.of _ (.string _)) (.cons (.of _ hpairs) (.cons (.of _ hname) .nil)))
    (.refl _) (show ["event", "pair", "subscription"].Pairwise (· < ·) by decide)

end

/--
A subscription asks for the instruments of the tickers and for nothing else, whatever
characters the instruments are made of.
-/
theorem subscription_names_instruments (venue : Venue) (tickers : List Ticker) :
    ∃ text, venue.subscription? tickers = some text ∧
      IsMessage text venue.members (venue.asking (tickers.map (·.instrument))) := by
  cases venue with
  | okx => exact ⟨_, rfl, isMessage_of_readsBack (readsBack_okx tickers)⟩
  | coinbase exchange =>
      exact ⟨_, rfl, isMessage_of_readsBack (readsBack_coinbase exchange tickers)⟩
  | kraken => exact ⟨_, rfl, isMessage_of_readsBack (readsBack_kraken tickers)⟩

example : Venue.kraken.subscription? [{ exchange := "kraken", instrument := "X\"\n" }] =
    some ("\x7b\"event\":\"subscribe\",\"pair\":[\"X\\\"\\n\"]," ++
      "\"subscription\":\x7b\"name\":\"ohlc\"\x7d\x7d") := by
  decide

end IndexPrice.Exchange
