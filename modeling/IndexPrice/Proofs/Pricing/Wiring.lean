import IndexPrice.Pricing.Start
import IndexPrice.Proofs.NameMap
import Mathlib.Data.List.Nodup

/-!
# How markets are wired to sources

What a start makes of a configuration: which exchanges cover a market, the desk of
each market that is covered, and a store for every source.
-/

namespace IndexPrice.Pricing

variable {ε : Type}

/-! ## Markets by exchange -/

/-- Whether an exchange is asked for a market. -/
def Asks (exchanges : NameMap Feed.Markets) (exchange id : String) : Prop :=
  ((exchanges.get? exchange).getD NameMap.empty).contains id = true

private theorem asks_update (exchanges : NameMap Feed.Markets) (name id : String)
    (market : Feed.Market) (exchange other : String) :
    Asks (exchanges.update name NameMap.empty (·.insert id market)) exchange other ↔
      Asks exchanges exchange other ∨ (name = exchange ∧ id = other) := by
  rw [Asks, NameMap.update, NameMap.get?_insert]
  by_cases heq : name = exchange
  · subst heq
    rw [if_pos rfl, Option.getD_some, NameMap.contains_insert, or_comm]
    simp [Asks]
  · rw [if_neg heq]
    simp [Asks, heq]

private theorem asks_byExchange (config : Config) (exchange id : String) :
    Asks (byExchange config) exchange id ↔
      ∃ market ∈ config.markets, market.id = id ∧
        ∃ ticker ∈ market.sources, ticker.exchange = exchange := by
  have hpairs : Asks (byExchange config) exchange id ↔
      ∃ pair ∈ coverage config, pair.2.exchange = exchange ∧ pair.1.id = id := by
    unfold byExchange
    generalize coverage config = pairs
    induction pairs using List.reverseRecOn with
    | nil => simp [Asks, NameMap.contains]
    | append_singleton pairs pair ih =>
        rw [List.foldl_append, List.foldl_cons, List.foldl_nil, asks_update, ih]
        simp only [List.mem_append, List.mem_singleton, or_and_right, exists_or, exists_eq_left]
  rw [hpairs]
  constructor
  · rintro ⟨pair, hpair, hexchange, hid⟩
    obtain ⟨market, hmarket, hmem⟩ := List.mem_flatMap.mp hpair
    obtain ⟨ticker, hticker, rfl⟩ := List.mem_map.mp hmem
    exact ⟨market, hmarket, hid, ticker, hticker, hexchange⟩
  · rintro ⟨market, hmarket, hid, ticker, hticker, hexchange⟩
    have hpair : (market, ticker) ∈ coverage config :=
      List.mem_flatMap.mpr ⟨market, hmarket, List.mem_map_of_mem hticker⟩
    exact ⟨_, hpair, hexchange, hid⟩

theorem exchanges_pairwise (config : Config) :
    ((sourceSpecs config).map (·.exchange)).Pairwise (· < ·) := by
  have hnames : (sourceSpecs config).map (·.exchange) = (byExchange config).names := by
    simp [sourceSpecs, NameMap.names]
  rw [hnames]
  exact NameMap.names_pairwise _

theorem contains_of_sourceSpecs (config : Config) (exchange id : String) :
    (∃ spec ∈ sourceSpecs config, spec.exchange = exchange ∧ spec.markets.contains id = true) ↔
      ∃ market ∈ config.markets, market.id = id ∧
        ∃ ticker ∈ market.sources, ticker.exchange = exchange := by
  rw [← asks_byExchange, Asks]
  constructor
  · rintro ⟨spec, hspec, rfl, hcontains⟩
    obtain ⟨⟨exchange, markets⟩, hentry, rfl⟩ := List.mem_map.mp hspec
    rwa [(NameMap.mem_entries_iff _ _ _).mp hentry]
  · intro hasks
    cases hmarkets : (byExchange config).get? exchange with
    | none => simp [hmarkets, NameMap.contains] at hasks
    | some markets =>
        have hentry := (NameMap.mem_entries_iff _ _ _).mpr hmarkets
        exact ⟨_, List.mem_map_of_mem hentry, rfl, by simpa [hmarkets] using hasks⟩

/-! ## Running sources -/

def started? (builder : Builder ε) (spec : SourceSpec) : Option Source :=
  match builder spec with
  | .ok source => source
  | .error _ => none

def coveringExchanges (config : Config) (builder : Builder ε) (market : String) : List String :=
  ((sourceSpecs config).filter fun spec =>
    (started? builder spec).any (·.markets.contains market)).map (·.exchange)

theorem mem_coveringExchanges {config : Config} {builder : Builder ε} {market exchange : String} :
    exchange ∈ coveringExchanges config builder market ↔
      ∃ spec ∈ sourceSpecs config, spec.exchange = exchange ∧
        ∃ source, builder spec = .ok (some source) ∧ market ∈ source.markets := by
  have hstarted : ∀ spec source, started? builder spec = some source ↔
      builder spec = .ok (some source) := by
    intro spec source
    unfold started?
    cases builder spec <;> simp
  simp only [coveringExchanges, List.mem_map, List.mem_filter, Option.any_eq_true, hstarted,
    List.contains_iff_mem]
  constructor
  · rintro ⟨spec, ⟨hspec, hcovers⟩, hexchange⟩
    exact ⟨spec, hspec, hexchange, hcovers⟩
  · rintro ⟨spec, hspec, hexchange, hcovers⟩
    exact ⟨spec, ⟨hspec, hcovers⟩, hexchange⟩

theorem coveringExchanges_pairwise (config : Config) (builder : Builder ε) (market : String) :
    (coveringExchanges config builder market).Pairwise (· < ·) :=
  (exchanges_pairwise config).sublist (List.filter_sublist.map _)

def runningSources (builder : Builder ε) (specs : List SourceSpec) : List (String × Source) :=
  specs.flatMap fun spec => (started? builder spec).toList.map (spec.exchange, ·)

private theorem startSources_eq {builder : Builder ε} {specs : List SourceSpec}
    {sources : List (String × Source)} (h : startSources builder specs = .ok sources) :
    sources = runningSources builder specs := by
  induction specs generalizing sources with
  | nil =>
      cases h
      rfl
  | cons spec rest ih =>
      rw [startSources] at h
      cases hbuilt : builder spec with
      | error cause => simp [hbuilt] at h
      | ok source =>
          simp only [hbuilt] at h
          cases hlater : startSources builder rest with
          | error fault => simp [hlater, Except.map] at h
          | ok later =>
              simp only [hlater, Except.map] at h
              cases h
              simp [ih hlater, runningSources, started?, hbuilt]

/-! ## Desks -/

def covering (sources : List (String × Source)) (market : String) : List String :=
  (sources.filter (·.2.markets.contains market)).map (·.1)

theorem covering_append (earlier later : List (String × Source)) (market : String) :
    covering (earlier ++ later) market = covering earlier market ++ covering later market := by
  simp only [covering, List.filter_append, List.map_append]

theorem covering_runningSources (config : Config) (builder : Builder ε) (market : String) :
    covering (runningSources builder (sourceSpecs config)) market =
      coveringExchanges config builder market := by
  unfold coveringExchanges
  generalize sourceSpecs config = specs
  induction specs with
  | nil => rfl
  | cons spec rest ih =>
      have hsplit : covering (runningSources builder (spec :: rest)) market =
          covering ((started? builder spec).toList.map (spec.exchange, ·)) market ++
            covering (runningSources builder rest) market := covering_append _ _ market
      rw [hsplit, ih, List.filter_cons]
      cases started? builder spec with
      | none => rfl
      | some source => cases hcovers : source.markets.contains market <;> simp_all [covering]

/-- The desk of a market at which nothing has happened. -/
def freshDesk (config : Config) (exchanges : List String) (market : Config.Market) : Desk where
  service := { market := market.id }
  maxUseAge := config.maxUseAge market
  sources := exchanges

theorem desk?_eq (config : Config) (sources : List (String × Source)) (market : Config.Market) :
    desk? config sources market =
      if covering sources market.id = [] then none
      else some (freshDesk config (covering sources market.id) market) := by
  simp only [desk?, List.isEmpty_iff]
  rfl

theorem markets_desks_sublist (config : Config) (sources : List (String × Source)) :
    ((desks config sources).map Desk.market).Sublist (config.markets.map (·.id)) := by
  unfold desks
  generalize config.markets = markets
  induction markets with
  | nil => exact .slnil
  | cons market rest ih =>
      rw [List.filterMap_cons, desk?_eq]
      split
      · next hnone => exact ih.cons _
      · next desk hdesk =>
          split at hdesk
          · cases hdesk
          · cases hdesk
            exact ih.cons_cons market.id

theorem freshDesk_mem_desks {config : Config} {sources : List (String × Source)}
    {market : Config.Market} (configured : market ∈ config.markets)
    (covered : covering sources market.id ≠ []) :
    freshDesk config (covering sources market.id) market ∈ desks config sources :=
  List.mem_filterMap.mpr ⟨market, configured, by rw [desk?_eq, if_neg covered]⟩

theorem eq_freshDesk_of_mem_desks {config : Config} {sources : List (String × Source)}
    {desk : Desk} (h : desk ∈ desks config sources) :
    ∃ exchanges market, desk = freshDesk config exchanges market := by
  obtain ⟨market, -, hbuilt⟩ := List.mem_filterMap.mp h
  rw [desk?_eq] at hbuilt
  split at hbuilt
  · cases hbuilt
  · exact ⟨_, market, (Option.some.inj hbuilt).symm⟩

/-! ## The start -/

theorem system_of_start {config : Config} {builder : Builder ε} {clock : Span}
    {schedule : Schedule} (h : start config builder clock = .ok schedule) :
    ∃ sampler, (sampler = .idle ∨ sampler = .unscheduled) ∧ schedule.system = {
      stores := NameMap.ofList ((runningSources builder (sourceSpecs config)).map
        fun source => (source.1, NameMap.empty))
      desks := desks config (runningSources builder (sourceSpecs config))
      sampler := sampler } := by
  unfold start at h
  cases hsources : startSources builder (sourceSpecs config) with
  | error fault => simp [hsources, bind, Except.bind] at h
  | ok sources =>
      obtain rfl := startSources_eq hsources
      simp only [hsources, bind, Except.bind] at h
      split at h
      · cases h
      · cases h
        unfold Schedule.start
        by_cases htold : clock + config.updateInterval < Schedule.longestClock
        · exact ⟨.idle, .inl rfl, by simp [htold]⟩
        · exact ⟨.unscheduled, .inr rfl, by simp [htold]⟩

/-! ### One market on one exchange -/

def soleConfig : Config where
  service := { name := "sole" }
  markets := [{
    id := "BTC", sources := [{ exchange := "binance", instrument := "btcusdt@kline_1m" }] }]

def soleBuilder : Builder Unit := fun spec => .ok (some ⟨spec.markets.names, []⟩)

def soleSchedule : Schedule :=
  let sources := runningSources soleBuilder (sourceSpecs soleConfig)
  .start {
    stores := NameMap.ofList (sources.map fun source => (source.1, NameMap.empty))
    desks := desks soleConfig sources } soleConfig.updateInterval 0

theorem start_sole : start soleConfig soleBuilder 0 = .ok soleSchedule := rfl

end IndexPrice.Pricing
