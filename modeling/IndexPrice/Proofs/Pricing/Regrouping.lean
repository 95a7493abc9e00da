import IndexPrice.Proofs.Config.Validity
import IndexPrice.Proofs.List

/-!
# From markets to exchanges

The configuration lists tickers by market; the feeds to start list markets by exchange.  An
exchange has a feed exactly if some block names it, and its feed covers a market exactly if
some block of that market names it.  What the feed knows of the market comes from the last such
block and the last such ticker in it.
-/

namespace IndexPrice.Pricing

def LastTicker (exchange : String) (block : Config.Market) (ticker : Ticker) : Prop :=
  ∃ earlier later, block.sources = earlier ++ ticker :: later ∧ ticker.exchange = exchange ∧
    ∀ other ∈ later, other.exchange ≠ exchange

/-- The last block of a market with a ticker on an exchange, and its last such ticker. -/
def LastNamed (config : Config) (exchange id : String) (block : Config.Market) (ticker : Ticker) :
    Prop :=
  ∃ earlier later, config.markets = earlier ++ block :: later ∧ block.id = id ∧
    LastTicker exchange block ticker ∧
    ∀ other ∈ later, other.id = id → ∀ ticker ∈ other.sources, ticker.exchange ≠ exchange

/-! ## The last one that counts -/

theorem lastTicker_iff {exchange : String} {block : Config.Market} {ticker : Ticker} :
    (block.sources.filter (·.exchange = exchange)).getLast? = some ticker ↔
      LastTicker exchange block ticker := by
  rw [List.getLast?_filter, List.find?_eq_findSome?_guard, findSome?_reverse_eq_some]
  simp only [Option.guard_eq_some_iff, Option.guard_eq_none_iff, decide_eq_true_eq,
    decide_eq_false_iff_not]
  constructor
  · rintro ⟨earlier, _, later, hsplit, ⟨rfl, hexchange⟩, hlater⟩
    exact ⟨earlier, later, hsplit, hexchange, hlater⟩
  · rintro ⟨earlier, later, hsplit, hexchange, hlater⟩
    exact ⟨earlier, ticker, later, hsplit, ⟨rfl, hexchange⟩, hlater⟩

private theorem getLast?_naming (config : Config) (exchange id : String) :
    (naming config exchange id).getLast? =
      config.markets.reverse.findSome? fun block =>
        if block.id = id then
          (block.sources.filter (·.exchange = exchange)).getLast?.map (block, ·)
        else none := by
  -- the last pair that counts lies in the last block that has one
  rw [naming, coverage, List.filter_flatMap, List.getLast?_flatMap]
  congr 1
  funext block
  rw [List.filter_map, List.getLast?_map]
  by_cases hid : block.id = id
  · simp [Function.comp_def, hid]
  · simp [Function.comp_def, hid]

theorem getLast?_naming_eq_some {config : Config} {exchange id : String} {block : Config.Market}
    {ticker : Ticker} :
    (naming config exchange id).getLast? = some (block, ticker) ↔
      LastNamed config exchange id block ticker := by
  have hnone : ∀ other : Config.Market,
      (if other.id = id then
        (other.sources.filter (·.exchange = exchange)).getLast?.map (other, ·)
      else none) = none ↔
        (other.id = id → ∀ ticker ∈ other.sources, ticker.exchange ≠ exchange) := by
    intro other
    by_cases hid : other.id = id <;> simp [hid]
  rw [getLast?_naming, findSome?_reverse_eq_some]
  simp only [hnone, Option.ite_none_right_eq_some, Option.map_eq_some_iff, lastTicker_iff]
  constructor
  · rintro ⟨earlier, other, later, hsplit, ⟨hid, last, hlast, heq⟩, hlater⟩
    cases heq
    exact ⟨earlier, later, hsplit, hid, hlast, hlater⟩
  · rintro ⟨earlier, later, hsplit, hid, hlast, hlater⟩
    exact ⟨earlier, block, later, hsplit, ⟨hid, ticker, hlast, rfl⟩, hlater⟩

/-! ## What a feed knows of a market -/

/-- The age of the ticker in seconds, else that of the block, else the default. -/
def ageSeconds (config : Config) (block : Config.Market) (ticker : Ticker) : Nat :=
  (ticker.maxUseAgeSecs.or block.maxUseAgeSecs).getD config.pricing.defaultMaxUseAgeSecs

theorem feedMarket_eq (config : Config) (block : Config.Market) (ticker : Ticker) :
    feedMarket config block ticker = {
      ticker
      multiplier := if block.multiplier == 0.0 then 1.0 else block.multiplier
      maxUseAge := Span.ofSeconds (ageSeconds config block ticker) } := by
  unfold feedMarket Config.Market.effectiveMultiplier Config.maxUseAge ageSeconds
  cases ticker.maxUseAgeSecs <;> rfl

theorem get?_sourceSpecs_eq_some {config : Config} {spec : SourceSpec}
    (h : spec ∈ sourceSpecs config) {id : String} {market : Feed.Market} :
    spec.markets.get? id = some market ↔
      ∃ block ticker, LastNamed config spec.exchange id block ticker ∧
        market = feedMarket config block ticker := by
  rw [get?_of_sourceSpecs h, Option.map_eq_some_iff]
  constructor
  · rintro ⟨⟨block, ticker⟩, hlast, rfl⟩
    exact ⟨block, ticker, getLast?_naming_eq_some.mp hlast, rfl⟩
  · rintro ⟨block, ticker, hlast, rfl⟩
    exact ⟨(block, ticker), getLast?_naming_eq_some.mpr hlast, rfl⟩

/-! ## Which feeds there are -/

private theorem spec_unique {config : Config} {spec other : SourceSpec}
    (h : spec ∈ sourceSpecs config)
    (hother : other ∈ sourceSpecs config) (same : spec.exchange = other.exchange) :
    spec = other := by
  have hnodup : ((sourceSpecs config).map (·.exchange)).Nodup :=
    (exchanges_pairwise config).imp fun hlt => String.ne_of_lt hlt
  exact List.inj_on_of_nodup_map hnodup h hother same

theorem mem_exchanges_iff (config : Config) (exchange : String) :
    exchange ∈ (sourceSpecs config).map (·.exchange) ↔
      ∃ block ∈ config.markets, ∃ ticker ∈ block.sources, ticker.exchange = exchange := by
  rw [List.mem_map]
  constructor
  · rintro ⟨spec, hspec, rfl⟩
    obtain ⟨id, market, hmarket⟩ := exists_market_of_sourceSpecs hspec
    obtain ⟨block, hblock, ticker, hticker, hexchange, -⟩ :=
      exists_block_of_sourceSpecs hspec hmarket
    exact ⟨block, hblock, ticker, hticker, hexchange⟩
  · rintro ⟨block, hblock, ticker, hticker, hexchange⟩
    obtain ⟨spec, hspec, heq, -⟩ := (contains_of_sourceSpecs config exchange block.id).mpr
      ⟨block, hblock, rfl, ticker, hticker, hexchange⟩
    exact ⟨spec, hspec, heq⟩

private theorem isSome_get?_sourceSpecs {config : Config} {spec : SourceSpec}
    (h : spec ∈ sourceSpecs config) (id : String) :
    (spec.markets.get? id).isSome ↔
      ∃ block ∈ config.markets, block.id = id ∧
        ∃ ticker ∈ block.sources, ticker.exchange = spec.exchange := by
  rw [← contains_of_sourceSpecs]
  constructor
  · intro hsome
    exact ⟨spec, h, rfl, hsome⟩
  · rintro ⟨other, hother, hexchange, hcontains⟩
    rwa [spec_unique hother h hexchange] at hcontains

private theorem reference_of_sourceSpecs {config : Config} {spec : SourceSpec}
    (h : spec ∈ sourceSpecs config) :
    spec.reference = config.coins.flatMap fun coin =>
      if coin.id = config.pricing.referenceCoin then
        coin.tickers.filter (·.exchange = spec.exchange)
      else [] := by
  obtain ⟨⟨exchange, markets⟩, -, rfl⟩ := List.mem_map.mp h
  dsimp only
  unfold Config.referenceTickers
  induction config.coins with
  | nil => rfl
  | cons coin rest ih =>
      rw [List.flatMap_cons, ← ih, List.filter_cons]
      by_cases hcoin : coin.id = config.pricing.referenceCoin
      · simp [hcoin]
      · simp [hcoin]

/--
The exchanges that some ticker of a block names are listed once each, in ascending order.  A
feed covers the markets of those blocks that have a ticker on its exchange, each with what the
last such ticker of the last such block says: that ticker, the factor of the block with zero
for one, and the age of the ticker, else of the block, else the default.  Its reference
tickers are those of the reference coin on the exchange, as configured.
-/
theorem sourceSpecs_regroup (config : Config) :
    ((sourceSpecs config).map (·.exchange)).Pairwise (· < ·) ∧
    (∀ exchange, exchange ∈ (sourceSpecs config).map (·.exchange) ↔
      ∃ block ∈ config.markets, ∃ ticker ∈ block.sources, ticker.exchange = exchange) ∧
    ∀ spec ∈ sourceSpecs config,
      (∀ id, (spec.markets.get? id).isSome ↔
        ∃ block ∈ config.markets, block.id = id ∧
          ∃ ticker ∈ block.sources, ticker.exchange = spec.exchange) ∧
      (∀ id market, spec.markets.get? id = some market ↔
        ∃ block ticker, LastNamed config spec.exchange id block ticker ∧ market = {
          ticker
          multiplier := if block.multiplier == 0.0 then 1.0 else block.multiplier
          maxUseAge := Span.ofSeconds ((ticker.maxUseAgeSecs.or block.maxUseAgeSecs).getD
            config.pricing.defaultMaxUseAgeSecs) }) ∧
      spec.reference = config.coins.flatMap fun coin =>
        if coin.id = config.pricing.referenceCoin then
          coin.tickers.filter (·.exchange = spec.exchange)
        else [] := by
  refine ⟨exchanges_pairwise config, mem_exchanges_iff config, fun spec hspec => ?_⟩
  refine ⟨isSome_get?_sourceSpecs hspec, fun id market => ?_, reference_of_sourceSpecs hspec⟩
  rw [get?_sourceSpecs_eq_some hspec]
  simp only [feedMarket_eq, ageSeconds]

/-! ### A market and the reference coin, each in two blocks -/

def onOkx (instrument : String) (age : Option Nat) : Ticker where
  exchange := "okx"
  instrument := instrument
  maxUseAgeSecs := age

def repeatedConfig : Config where
  service := { name := "repeated" }
  coins := [
    { id := "USDT", tickers := [onOkx "t" none] },
    { id := "USDT", tickers := [onOkx "s" none] }]
  markets := [
    { id := "BTC", multiplier := 1000, maxUseAgeSecs := some 30, sources := [onOkx "a" (some 9)] },
    { id := "BTC", multiplier := 0, maxUseAgeSecs := some 40,
      sources := [onOkx "b" none, onOkx "c" none] },
    { id := "BTC", sources := [{ exchange := "binance", instrument := "d" }] }]

private theorem lastNamed_repeated :
    LastNamed repeatedConfig "okx" "BTC"
      { id := "BTC", multiplier := 0, maxUseAgeSecs := some 40,
        sources := [onOkx "b" none, onOkx "c" none] }
      (onOkx "c" none) := by
  refine ⟨repeatedConfig.markets.take 1, repeatedConfig.markets.drop 2, rfl, rfl, ?_, ?_⟩
  · exact ⟨[onOkx "b" none], [], rfl, rfl, nofun⟩
  · decide

theorem regrouped_repeated :
    (sourceSpecs repeatedConfig).map (·.exchange) = ["binance", "okx"] ∧
      ∃ spec ∈ sourceSpecs repeatedConfig, spec.exchange = "okx" ∧
        spec.markets.get? "BTC" = some ⟨onOkx "c" none, 1.0, Span.ofSeconds 40⟩ ∧
        spec.reference = [onOkx "t" none, onOkx "s" none] := by
  refine ⟨by decide +kernel, ?_⟩
  obtain ⟨-, hexchanges, hspecs⟩ := sourceSpecs_regroup repeatedConfig
  obtain ⟨spec, hspec, hokx⟩ := List.mem_map.mp ((hexchanges "okx").mpr (by decide))
  obtain ⟨-, hmarket, hreference⟩ := hspecs spec hspec
  refine ⟨spec, hspec, hokx, ?_, ?_⟩
  · rw [hmarket, hokx]
    exact ⟨_, _, lastNamed_repeated, by decide +kernel⟩
  · rw [hreference, hokx]
    decide +kernel

end IndexPrice.Pricing
