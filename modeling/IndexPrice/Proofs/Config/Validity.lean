import IndexPrice.Config.Validation
import IndexPrice.Proofs.Decimal.Comparison
import IndexPrice.Proofs.Pricing.Blocks

/-!
# What validation establishes

No fault is found exactly if every part of a configuration is valid.  Whatever the
running tasks derive from a valid configuration is then usable: intervals, timeouts
and ages are positive, and so is every factor, whichever of the configured values
and defaults it comes from.
-/

namespace IndexPrice

namespace Config

/-! ## Valid parts -/

structure ValidSource (ticker : Ticker) : Prop where
  exchange : ticker.exchange ≠ ""
  instrument : ticker.instrument ≠ ""
  age : ticker.maxUseAgeSecs ≠ some 0

structure Market.Valid (market : Market) : Prop where
  id : market.id ≠ ""
  sources : market.sources ≠ []
  multiplier : 0.0 ≤ market.multiplier
  age : market.maxUseAgeSecs ≠ some 0
  source : ∀ ticker ∈ market.sources, ValidSource ticker

structure Pricing.Valid (pricing : Pricing) : Prop where
  update : 0 < pricing.updateIntervalSecs
  age : 0 < pricing.defaultMaxUseAgeSecs
  interval : 0 < pricing.defaultReadIntervalSecs
  timeout : 0 < pricing.defaultReadTimeoutSecs

structure Timing.Valid (timing : Timing) : Prop where
  interval : timing.readIntervalSecs ≠ some 0
  timeout : timing.readTimeoutSecs ≠ some 0

structure Valid (config : Config) : Prop where
  markets : config.markets ≠ []
  market : ∀ market ∈ config.markets, market.Valid
  pricing : config.pricing.Valid
  timing : ∀ timing ∈ config.timings, timing.Valid
  address : config.monitoring.enabled = true → config.monitoring.bindAddress ≠ ""

/-! ## Faults of the parts -/

theorem faultIf_eq_none {condition : Bool} {fault : ConfigFault} :
    faultIf condition fault = none ↔ condition = false := by
  cases condition <;> simp [faultIf]

theorem sourceFault?_eq_none {market : String} {ticker : Ticker} :
    sourceFault? market ticker = none ↔ ValidSource ticker := by
  rw [sourceFault?, Option.or_eq_none_iff, faultIf_eq_none, faultIf_eq_none]
  constructor
  · rintro ⟨hnames, hage⟩
    simp only [Bool.or_eq_false_iff, decide_eq_false_iff_not] at hnames hage
    exact ⟨hnames.1, hnames.2, hage⟩
  · rintro ⟨hexchange, hinstrument, hage⟩
    simp [hexchange, hinstrument, hage]

theorem Market.fault?_eq_none {market : Market} {index : Nat} :
    market.fault? index = none ↔ market.Valid := by
  simp only [fault?, Option.or_eq_none_iff, faultIf_eq_none, List.findSome?_eq_none_iff,
    sourceFault?_eq_none]
  constructor
  · rintro ⟨⟨⟨⟨hid, hsources⟩, hmultiplier⟩, hage⟩, hsource⟩
    exact ⟨by simpa using hid, by simpa using hsources, by simpa using hmultiplier,
      by simpa using hage, hsource⟩
  · rintro ⟨hid, hsources, hmultiplier, hage, hsource⟩
    exact ⟨⟨⟨⟨by simpa using hid, by simpa using hsources⟩, by simpa using hmultiplier⟩,
      by simpa using hage⟩, hsource⟩

theorem Pricing.fault?_eq_none {pricing : Pricing} : pricing.fault? = none ↔ pricing.Valid := by
  simp only [fault?, Option.or_eq_none_iff, faultIf_eq_none, Bool.or_eq_false_iff,
    decide_eq_false_iff_not, ← Nat.pos_iff_ne_zero]
  constructor
  · rintro ⟨⟨hupdate, hage⟩, hinterval, htimeout⟩
    exact ⟨hupdate, hage, hinterval, htimeout⟩
  · rintro ⟨hupdate, hage, hinterval, htimeout⟩
    exact ⟨⟨hupdate, hage⟩, hinterval, htimeout⟩

theorem Timing.fault?_eq_none {timing : Timing} : timing.fault? = none ↔ timing.Valid := by
  simp only [fault?, faultIf_eq_none, Bool.or_eq_false_iff, decide_eq_false_iff_not]
  exact ⟨fun ⟨hinterval, htimeout⟩ => ⟨hinterval, htimeout⟩, fun h => ⟨h.interval, h.timeout⟩⟩

theorem forall_zipIdx_fault?_eq_none {markets : List Market} :
    (∀ entry ∈ markets.zipIdx, entry.1.fault? entry.2 = none) ↔
      ∀ market ∈ markets, market.Valid := by
  constructor
  · intro h market hmarket
    obtain ⟨index, hindex, rfl⟩ := List.getElem_of_mem hmarket
    refine Market.fault?_eq_none.mp (h (markets[index], index) ?_)
    exact List.mk_mem_zipIdx_iff_getElem?.mpr (List.getElem?_eq_getElem hindex)
  · intro h entry hmem
    exact Market.fault?_eq_none.mpr (h entry.1 (List.fst_mem_of_mem_zipIdx hmem))

/-- Validation finds nothing wrong exactly with valid configurations. -/
theorem fault?_eq_none {config : Config} : config.fault? = none ↔ config.Valid := by
  simp only [fault?, Option.or_eq_none_iff, faultIf_eq_none, List.findSome?_eq_none_iff,
    forall_zipIdx_fault?_eq_none, Pricing.fault?_eq_none, Timing.fault?_eq_none,
    Monitoring.fault?]
  constructor
  · rintro ⟨⟨⟨⟨hmarkets, hmarket⟩, hpricing⟩, htiming⟩, haddress⟩
    refine ⟨by simpa using hmarkets, hmarket, hpricing, htiming, fun henabled => ?_⟩
    simpa [henabled] using haddress
  · rintro ⟨hmarkets, hmarket, hpricing, htiming, haddress⟩
    refine ⟨⟨⟨⟨by simpa using hmarkets, hmarket⟩, hpricing⟩, htiming⟩, ?_⟩
    cases henabled : config.monitoring.enabled with
    | false => rfl
    | true => simpa using haddress henabled

theorem read_eq_ok {document : String} {environment : Environment} {config : Config} :
    read document environment = .ok config ↔
      ∃ written, (Toml.read? document).bind ofEntries? = some written ∧ written.Valid ∧
        config = written.withKeys environment := by
  unfold read
  cases (Toml.read? document).bind ofEntries? with
  | none => simp
  | some written =>
      dsimp only
      cases hfault : written.fault? with
      | none => simp [← fault?_eq_none, hfault, eq_comm]
      | some fault => simp [← fault?_eq_none, hfault]

theorem valid_of_read {document : String} {environment : Environment} {config : Config}
    (h : read document environment = .ok config) : config.Valid := by
  obtain ⟨written, -, hvalid, rfl⟩ := read_eq_ok.mp h
  -- the keys that reading adds are not validated, and all else stays as written
  exact ⟨hvalid.markets, hvalid.market, hvalid.pricing, hvalid.timing, hvalid.address⟩

/-! ## What is derived from valid parts -/

theorem ofSeconds_pos {seconds : Nat} : 0 < Span.ofSeconds seconds ↔ 0 < seconds :=
  Nat.mul_pos_iff_of_pos_right (by decide)

theorem getD_pos {configured : Option Nat} {standard : Nat} (hconfigured : configured ≠ some 0)
    (hstandard : 0 < standard) : 0 < configured.getD standard := by
  cases configured with
  | none => exact hstandard
  | some seconds => exact Nat.pos_of_ne_zero fun hzero => hconfigured (congrArg some hzero)

theorem Valid.updateInterval_pos {config : Config} (h : config.Valid) :
    0 < config.updateInterval :=
  ofSeconds_pos.mpr h.pricing.update

theorem Valid.maxUseAge_pos {config : Config} (h : config.Valid) {market : Market}
    (hmarket : market ∈ config.markets) : 0 < config.maxUseAge market :=
  ofSeconds_pos.mpr (getD_pos (h.market market hmarket).age h.pricing.age)

theorem Valid.timed_pos {config : Config} (h : config.Valid) (exchange : String)
    {field : Timing → Option Nat} (configured : ∀ timing, timing.Valid → field timing ≠ some 0)
    {standard : Nat} (hstandard : 0 < standard) :
    0 < Span.ofSeconds (((config.timing? exchange).bind field).getD standard) := by
  refine ofSeconds_pos.mpr (getD_pos ?_ hstandard)
  cases htiming : config.timing? exchange with
  | none => exact nofun
  | some timing => exact configured timing (h.timing timing (List.mem_of_find?_eq_some htiming))

theorem Valid.readInterval_pos {config : Config} (h : config.Valid) (exchange : String) :
    0 < config.readInterval exchange :=
  h.timed_pos exchange (fun _ => Timing.Valid.interval) h.pricing.interval

theorem Valid.readTimeout_pos {config : Config} (h : config.Valid) (exchange : String) :
    0 < config.readTimeout exchange :=
  h.timed_pos exchange (fun _ => Timing.Valid.timeout) h.pricing.timeout

theorem Market.Valid.effectiveMultiplier_pos {market : Market} (h : market.Valid) :
    0.0 < market.effectiveMultiplier := by
  unfold effectiveMultiplier
  -- zero of either sign passes validation, but stands for one
  cases hzero : market.multiplier == 0.0 with
  | true => exact (by decide +kernel : (0.0 : Float) < 1.0)
  | false => exact Decimal.lt_of_le_of_not_beq h.multiplier hzero

end Config

namespace Pricing

open Config

/-! ## Markets of the feeds -/

private theorem exists_market_of_byExchange {config : Config} {exchange : String}
    {markets : Feed.Markets} (h : (byExchange config).get? exchange = some markets) :
    ∃ id market, markets.get? id = some market := by
  unfold byExchange at h
  generalize coverage config = pairs at h
  induction pairs using List.reverseRecOn with
  | nil => cases h
  | append_singleton pairs pair ih =>
      rw [List.foldl_append, List.foldl_cons, List.foldl_nil] at h
      dsimp only at h
      rw [NameMap.update, NameMap.get?_insert] at h
      split at h
      · cases h
        exact ⟨_, _, NameMap.get?_insert_self _ _ _⟩
      · exact ih h

theorem exists_market_of_sourceSpecs {config : Config} {spec : SourceSpec}
    (h : spec ∈ sourceSpecs config) : ∃ id market, spec.markets.get? id = some market := by
  obtain ⟨⟨exchange, markets⟩, hentry, rfl⟩ := List.mem_map.mp h
  exact exists_market_of_byExchange ((NameMap.mem_entries_iff _ _ _).mp hentry)

theorem exists_block_of_sourceSpecs {config : Config} {spec : SourceSpec} {id : String}
    {market : Feed.Market} (h : spec ∈ sourceSpecs config)
    (asked : spec.markets.get? id = some market) :
    ∃ block ∈ config.markets, ∃ ticker ∈ block.sources,
      ticker.exchange = spec.exchange ∧ market = feedMarket config block ticker := by
  rw [get?_of_sourceSpecs h, Option.map_eq_some_iff] at asked
  obtain ⟨pair, hlast, rfl⟩ := asked
  obtain ⟨hblock, hticker, hexchange⟩ := mem_naming (List.mem_of_getLast? hlast)
  exact ⟨pair.1, (List.mem_filter.mp hblock).1, pair.2, hticker, hexchange, rfl⟩

theorem sourceSpecs_ne_nil {config : Config} (h : config.Valid) : sourceSpecs config ≠ [] := by
  obtain ⟨market, hmarket⟩ := List.exists_mem_of_ne_nil _ h.markets
  obtain ⟨ticker, hticker⟩ := List.exists_mem_of_ne_nil _ (h.market market hmarket).sources
  obtain ⟨spec, hspec, -⟩ := (contains_of_sourceSpecs config ticker.exchange market.id).mpr
    ⟨market, hmarket, rfl, ticker, hticker, rfl⟩
  exact List.ne_nil_of_mem hspec

/-! ## Feeds that can run -/

structure SourceSpec.Runnable (spec : SourceSpec) : Prop where
  exchange : spec.exchange ≠ ""
  markets : spec.markets.entries ≠ []
  interval : 0 < spec.readInterval
  timeout : 0 < spec.readTimeout
  age : ∀ id market, spec.markets.get? id = some market → 0 < market.maxUseAge
  multiplier : ∀ id market, spec.markets.get? id = some market →
    0.0 < market.multiplier ∧ market.multiplier.isNaN = false

theorem feedMarket_age_pos {config : Config} {block : Market} {ticker : Ticker}
    (h : config.Valid) (hblock : block ∈ config.markets) (hticker : ticker ∈ block.sources) :
    0 < (feedMarket config block ticker).maxUseAge := by
  have hage := ((h.market block hblock).source ticker hticker).age
  unfold feedMarket
  cases hconfigured : ticker.maxUseAgeSecs with
  | none => exact h.maxUseAge_pos hblock
  | some seconds =>
      refine ofSeconds_pos.mpr (Nat.pos_of_ne_zero fun hzero => hage ?_)
      rw [hconfigured, hzero]

private theorem runnable_of_valid {config : Config} {spec : SourceSpec} (h : config.Valid)
    (hspec : spec ∈ sourceSpecs config) : spec.Runnable := by
  obtain ⟨id, market, hmarket⟩ := exists_market_of_sourceSpecs hspec
  constructor
  case exchange =>
    obtain ⟨block, hblock, ticker, hticker, hexchange, -⟩ :=
      exists_block_of_sourceSpecs hspec hmarket
    exact hexchange ▸ ((h.market block hblock).source ticker hticker).exchange
  case markets => exact List.ne_nil_of_mem ((NameMap.mem_entries_iff _ _ _).mpr hmarket)
  case interval =>
    obtain ⟨entry, -, rfl⟩ := List.mem_map.mp hspec
    exact h.readInterval_pos entry.1
  case timeout =>
    obtain ⟨entry, -, rfl⟩ := List.mem_map.mp hspec
    exact h.readTimeout_pos entry.1
  case age =>
    intro id market hmarket
    obtain ⟨block, hblock, ticker, hticker, -, rfl⟩ := exists_block_of_sourceSpecs hspec hmarket
    exact feedMarket_age_pos h hblock hticker
  case multiplier =>
    intro id market hmarket
    obtain ⟨block, hblock, ticker, -, -, rfl⟩ := exists_block_of_sourceSpecs hspec hmarket
    have hpos := (h.market block hblock).effectiveMultiplier_pos
    exact ⟨hpos, Decimal.isNaN_of_lt hpos⟩

/--
Whatever document is read, what is accepted can run: the pace is positive, some feed
is to be started, every feed has all that it needs, and every market has a positive age.
-/
theorem runnable_of_read {document : String} {environment : Environment} {config : Config}
    (h : Config.read document environment = .ok config) :
    0 < config.updateInterval ∧
    (∀ market ∈ config.markets, 0 < config.maxUseAge market) ∧
    sourceSpecs config ≠ [] ∧
    ∀ spec ∈ sourceSpecs config, spec.Runnable := by
  have hvalid := valid_of_read h
  refine ⟨hvalid.updateInterval_pos, fun _ hmarket => hvalid.maxUseAge_pos hmarket,
    sourceSpecs_ne_nil hvalid, fun _ hspec => runnable_of_valid hvalid hspec⟩

def retimedDocument : String :=
  "[oracle]\nname = \"retimed\"\n" ++
  "[[exchanges]]\nexchange_id = \"okx\"\nread_interval_secs = 3\n" ++
  "[[exchanges]]\nexchange_id = \"okx\"\nread_timeout_secs = 9\n" ++
  "[[markets]]\nmarket_id = \"BTC\"\nmultiplier = -0.0\n" ++
  "sources = [\x7b exchange_id = \"okx\", inst_id = \"b\", max_use_age_secs = 7 \x7d]\n"

def retimedConfig : Config where
  service := { name := "retimed" }
  timings := [{ exchange := "okx", readIntervalSecs := some 3 },
    { exchange := "okx", readTimeoutSecs := some 9 }]
  markets := [
    { id := "BTC", multiplier := -0.0,
      sources := [{ exchange := "okx", instrument := "b", maxUseAgeSecs := some 7 }] }]

theorem runnable_retimed :
    Config.read retimedDocument (fun _ => none) = .ok retimedConfig ∧
      (sourceSpecs retimedConfig).map (fun spec =>
        (spec.readInterval, spec.readTimeout, spec.markets.values.map (·.multiplier))) =
          [(3000000000, 20000000000, [1.0])] ∧
      0 < retimedConfig.updateInterval ∧
      (∀ market ∈ retimedConfig.markets, 0 < retimedConfig.maxUseAge market) ∧
      sourceSpecs retimedConfig ≠ [] ∧
      ∀ spec ∈ sourceSpecs retimedConfig, spec.Runnable := by
  have hread : Config.read retimedDocument (fun _ => none) = .ok retimedConfig := by
    decide +kernel
  exact ⟨hread, by decide +kernel, runnable_of_read hread⟩

end Pricing

end IndexPrice
