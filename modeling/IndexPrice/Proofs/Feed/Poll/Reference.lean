import IndexPrice.Proofs.Exchange.Conversion

/-!
# What the prices of a response are divided by

Prices in dollars are divided by the price of one reference ticker: the first, in the
order of the configuration, that the response holds.  There are no samples without it,
nor if its price is below the floor.  A price that is not a number is below nothing, and
neither is an infinite one, so the prices of a response can be divided by these as well.
-/

namespace IndexPrice.Feed.Poll

/-- The sample of the first reference ticker for which the response has one. -/
def FirstHeld (reference : List Ticker) (raw : RawPrices) (sample : Sample) : Prop :=
  ∃ earlier coin later, reference = earlier ++ coin :: later ∧
    raw.get? coin.instrument = some sample ∧
    ∀ other ∈ earlier, raw.get? other.instrument = none

/-- A price to divide by: a finite number, not below the floor. -/
def Usable (price : Float) : Prop := price.isFinite = true ∧ 0.01 ≤ price

/-- One sample for each market whose price the response holds, divided by that of the reference. -/
structure Divided (poller : Poller) (raw : RawPrices) (divisor : Float)
    (entries : List (String × Sample)) : Prop where
  once : (entries.map (·.1)).Nodup
  mem_iff : ∀ id sample, (id, sample) ∈ entries ↔ ∃ market found,
    Routed poller.markets id market ∧
    (∀ coin ∈ poller.reference, coin.instrument ≠ market.ticker.instrument) ∧
    raw.get? market.ticker.instrument = some found ∧
    sample = ⟨found.price * (market.multiplier / divisor), found.time⟩

namespace Poller

variable {poller : Poller} {raw : RawPrices}

theorem referenceSample?_eq_some {sample : Sample} :
    poller.referenceSample? raw = some sample ↔ FirstHeld poller.reference raw sample :=
  List.findSome?_eq_some_iff

theorem referenceSample?_eq_none :
    poller.referenceSample? raw = none ↔
      ∀ coin ∈ poller.reference, raw.get? coin.instrument = none :=
  List.findSome?_eq_none_iff

private theorem isReference_eq_false {instrument : String} :
    poller.isReference instrument = false ↔
      ∀ coin ∈ poller.reference, coin.instrument ≠ instrument := by
  simp [isReference]

theorem not_lt_minReferencePrice_iff {price : Float} :
    ¬ price < minReferencePrice ↔ Usable price ∨ price.isNaN = true ∨ price = 1.0 / 0.0 :=
  Decimal.not_lt_iff (by decide +kernel)

private theorem divided_marketSamples (poller : Poller) (raw : RawPrices) (divisor : Float) :
    Divided poller raw divisor (raw.entries.filterMap (poller.marketSample? divisor)) := by
  refine ⟨nodup_marketSamples poller divisor raw, fun id sample => ?_⟩
  simp only [mem_marketSamples, isReference_eq_false]
  rfl

theorem divisor_of_dollars (dollars : poller.format.quotesInReference = false) :
    poller.divisor raw =
      match poller.referenceSample? raw with
      | none => .error .missingReference
      | some sample =>
        if sample.price < minReferencePrice then .error (.referenceTooLow sample.price)
        else .ok sample.price := by
  rw [divisor, dollars]
  rfl

section Dollars

variable (dollars : poller.format.quotesInReference = false)

include dollars

private theorem convert_of_missing (h : poller.referenceSample? raw = none) :
    poller.convert raw = .error .missingReference := by
  rw [convert, divisor_of_dollars dollars, h]
  rfl

private theorem convert_of_low {sample : Sample} (h : poller.referenceSample? raw = some sample)
    (low : sample.price < minReferencePrice) :
    poller.convert raw = .error (.referenceTooLow sample.price) := by
  rw [convert, divisor_of_dollars dollars, h]
  simp only [if_pos low]
  rfl

private theorem convert_of_held {sample : Sample} (h : poller.referenceSample? raw = some sample)
    (passing : ¬ sample.price < minReferencePrice) :
    poller.convert raw =
      .ok (raw.entries.filterMap (poller.marketSample? sample.price)) := by
  rw [convert, divisor_of_dollars dollars, h]
  simp only [if_neg passing]
  rfl

end Dollars

/--
Prices in dollars are converted exactly if the response holds some reference ticker and
the price of the first one held is not below the floor; each market then has its raw
price times its multiplier over that price, at the time of the raw price.  What is not
below the floor is a usable price, or infinite, or not a number.  Otherwise the fault
tells whether no reference ticker is held or the price of the first one is too low.
-/
theorem convert_by_reference (poller : Poller) (raw : RawPrices)
    (dollars : poller.format.quotesInReference = false) :
    (poller.convert raw = .error .missingReference ↔
      ∀ coin ∈ poller.reference, raw.get? coin.instrument = none) ∧
    (∀ price, poller.convert raw = .error (.referenceTooLow price) ↔
      price < 0.01 ∧ ∃ sample, FirstHeld poller.reference raw sample ∧ sample.price = price) ∧
    ((∃ entries, poller.convert raw = .ok entries) ↔
      ∃ sample, FirstHeld poller.reference raw sample ∧
        (Usable sample.price ∨ sample.price.isNaN = true ∨ sample.price = 1.0 / 0.0)) ∧
    (∀ entries sample, poller.convert raw = .ok entries →
      FirstHeld poller.reference raw sample → Divided poller raw sample.price entries) := by
  simp only [← referenceSample?_eq_some, ← referenceSample?_eq_none,
    ← not_lt_minReferencePrice_iff]
  change _ ∧ (∀ price, _ ↔ price < minReferencePrice ∧ _) ∧ _
  cases hheld : poller.referenceSample? raw with
  | none => simp [convert_of_missing dollars hheld]
  | some sample =>
      by_cases hlow : sample.price < minReferencePrice
      · rw [convert_of_low dollars hheld hlow]
        refine ⟨by simp, fun price => ?_, by simp [hlow], by simp⟩
        constructor
        · intro hprice
          cases hprice
          exact ⟨hlow, sample, rfl, rfl⟩
        · rintro ⟨-, held, ⟨⟩, rfl⟩
          rfl
      · rw [convert_of_held dollars hheld hlow]
        refine ⟨by simp, fun price => ?_, by simp [hlow], ?_⟩
        · simp only [reduceCtorEq, false_iff, not_and]
          rintro hprice ⟨held, ⟨⟩, rfl⟩
          exact hlow hprice
        · intro entries held hentries hsame
          cases hentries
          cases hsame
          exact divided_marketSamples poller raw sample.price

/-! ### Prices in words -/

open Exchange

theorem converted_on_one_network :
    tokenPoller.format.quotesInReference = false ∧
      FirstHeld stablecoins ethResponse ⟨0.5, ⟨10, 0⟩⟩ ∧ Usable 0.5 ∧
      ∃ entries, tokenPoller.convert ethResponse = .ok entries ∧
        Divided tokenPoller ethResponse 0.5 entries := by
  have hheld : FirstHeld stablecoins ethResponse ⟨0.5, ⟨10, 0⟩⟩ :=
    ⟨[], token "eth" "0xe", [token "bsc" "0xf"], rfl, by decide +kernel, nofun⟩
  have husable : Usable 0.5 := ⟨by decide +kernel, by decide +kernel⟩
  obtain ⟨-, -, hdone, hdivided⟩ := convert_by_reference tokenPoller ethResponse rfl
  obtain ⟨entries, hentries⟩ := hdone.mpr ⟨_, hheld, .inl husable⟩
  exact ⟨rfl, hheld, husable, entries, hentries, hdivided entries _ hentries hheld⟩

def wordedResponse : String :=
  "\x7b\"data\":[\x7b\"attributes\":\x7b\"address\":\"0xa\",\"price_usd\":\"100\"\x7d\x7d," ++
    "\x7b\"attributes\":\x7b\"address\":\"0xe\",\"price_usd\":\"NaN\"\x7d\x7d]\x7d"

def wordedPrices : RawPrices :=
  NameMap.ofList [("0xa", ⟨100, ⟨10, 0⟩⟩), ("0xe", ⟨0.0 / 0.0, ⟨10, 0⟩⟩)]

theorem divided_by_not_a_number :
    (GeckoTerminal.parse ⟨10, 0⟩ wordedResponse.toUTF8.toList).toOption.map (·.entries) =
        some wordedPrices.entries ∧
      FirstHeld stablecoins wordedPrices ⟨0.0 / 0.0, ⟨10, 0⟩⟩ ∧ ¬ Usable (0.0 / 0.0) ∧
      (tokenPoller.convert wordedPrices).toOption = some [("AAVE", ⟨0.0 / 0.0, ⟨10, 0⟩⟩)] := by
  have hheld : FirstHeld stablecoins wordedPrices ⟨0.0 / 0.0, ⟨10, 0⟩⟩ :=
    ⟨[], token "eth" "0xe", [token "bsc" "0xf"], rfl, by decide +kernel, nofun⟩
  have hunusable : ¬ Usable (0.0 / 0.0) := fun husable =>
    absurd husable.1 (by decide +kernel)
  exact ⟨by decide +kernel, hheld, hunusable, by decide +kernel⟩

end Poller

end IndexPrice.Feed.Poll
