import IndexPrice.Exchange.Binance
import IndexPrice.Exchange.CoinGecko
import IndexPrice.Feed.Poll.Poller
import IndexPrice.Proofs.Feed.Stream.Liveness
import IndexPrice.Proofs.Pricing.Regrouping

/-!
# Ages that are too long to check

A market is silent after three times its age, and there is no answer if that is longer than the
longest span.  Validation only asks that no age is zero.  So a document with an age of a third
of the longest span is accepted: the check of a polled provider then never gives an answer, and
the check of a stream gives none unless a market before that one is silent.
-/

namespace IndexPrice

theorem Span.triple?_eq_none {span : Span} : span.triple? = none ↔ longest < 3 * span := by
  simp [triple?]

private theorem Span.longest_lt_triple_ofSeconds {seconds : Nat} :
    longest < 3 * ofSeconds seconds ↔ 2 ^ 64 ≤ 3 * seconds := by
  change 2 ^ 64 * 1000000000 - 1 < 3 * (seconds * 1000000000) ↔ 2 ^ 64 ≤ 3 * seconds
  omega

/-! ## Checks without an answer -/

namespace Feed

/-- An age of which three times as much is longer than the longest span. -/
def Market.Overlong (market : Market) : Prop := Span.longest < 3 * market.maxUseAge

theorem Poll.Poller.silentAmong?_eq_none {lastSeen : String → Instant} {now : Instant}
    {entries : List (String × Market)} :
    silentAmong? lastSeen now entries = none ↔ ∃ entry ∈ entries, entry.2.Overlong := by
  induction entries with
  | nil => simp [silentAmong?]
  | cons entry rest ih =>
      rw [silentAmong?, List.exists_mem_cons_iff, Market.Overlong, ← Span.triple?_eq_none, ← ih]
      cases entry.2.maxUseAge.triple? with
      | none => simp
      | some limit =>
          cases silentAmong? lastSeen now rest with
          | none => simp
          | some silent => by_cases hlate : limit < now.elapsed (lastSeen entry.1) <;> simp [hlate]

theorem Poll.Poller.silent?_eq_none {poller : Poller} {started : Instant}
    {lastData : NameMap Instant} {now : Instant} :
    poller.silent? started lastData now = none ↔
      ∃ id market, poller.markets.get? id = some market ∧ market.Overlong := by
  simp only [silent?, silentAmong?_eq_none, Prod.exists, NameMap.mem_entries_iff]

namespace Stream

def Reached (seen : Observed) (entries : List (String × Market)) : Prop :=
  ∃ earlier entry later, entries = earlier ++ entry :: later ∧ entry.2.Overlong ∧
    ∀ other ∈ earlier, ¬ other.2.Overlong ∧ seen.dataQuiet other.1 ≤ 3 * other.2.maxUseAge

theorem reached_cons {seen : Observed} {entry : String × Market} {rest : List (String × Market)} :
    Reached seen (entry :: rest) ↔ entry.2.Overlong ∨
      ¬ entry.2.Overlong ∧ seen.dataQuiet entry.1 ≤ 3 * entry.2.maxUseAge ∧ Reached seen rest := by
  constructor
  · rintro ⟨earlier, found, later, hsplit, hlong, hearlier⟩
    cases earlier with
    | nil =>
        cases hsplit
        exact .inl hlong
    | cons first earlier =>
        cases hsplit
        obtain ⟨hfirst, hrest⟩ := List.forall_mem_cons.mp hearlier
        exact .inr ⟨hfirst.1, hfirst.2, earlier, found, later, rfl, hlong, hrest⟩
  · rintro (hlong | ⟨hfits, hheard, earlier, found, later, rfl, hlong, hearlier⟩)
    · exact ⟨[], entry, rest, rfl, hlong, nofun⟩
    · exact ⟨entry :: earlier, found, later, rfl, hlong,
        List.forall_mem_cons.mpr ⟨⟨hfits, hheard⟩, hearlier⟩⟩

theorem anySilent?_eq_none {seen : Observed} {entries : List (String × Market)} :
    seen.anySilent? entries = none ↔ Reached seen entries := by
  induction entries with
  | nil => simp [Observed.anySilent?, Reached]
  | cons entry rest ih =>
      rw [Observed.anySilent?, reached_cons, ← ih]
      by_cases hlong : entry.2.Overlong
      · simp [Span.triple?_eq_none.mpr hlong, hlong]
      · have htriple : entry.2.maxUseAge.triple? = some (3 * entry.2.maxUseAge) :=
          if_pos (Nat.not_lt.mp hlong)
        by_cases hlate : 3 * entry.2.maxUseAge < seen.dataQuiet entry.1
        · simp [htriple, hlong, hlate]
        · simp [htriple, hlong, hlate, Nat.not_lt.mp hlate]

private theorem reached_at_start {entries : List (String × Market)} {entry : String × Market}
    (hentry : entry ∈ entries) (hlong : entry.2.Overlong) (created : Instant) :
    Reached (Connector.observed (Connector.create created) created) entries := by
  -- no time has passed, so no market is silent, and the check goes on to the overlong age
  have hheard : ∀ id,
      (Connector.observed (Connector.create created) created).dataQuiet id = 0 := by
    intro id
    change (created.since created).toNat = 0
    simp [Instant.since]
  induction entries with
  | nil => cases hentry
  | cons first rest ih =>
      rw [reached_cons]
      by_cases hfirst : first.2.Overlong
      · exact .inl hfirst
      · refine .inr ⟨hfirst, by simp [hheard], ih ?_⟩
        exact (List.mem_cons.mp hentry).resolve_left fun heq => hfirst (heq ▸ hlong)

variable {Quote : Type}

theorem remedy?_eq_none {format : Format Quote} {markets : Markets} {settings : Settings}
    {seen : Observed} (hinterval : 3 * settings.pingInterval ≤ Span.longest) :
    remedy? format markets settings seen = none ↔ Reached seen markets.entries := by
  have htriple : settings.pingInterval.triple? = some (3 * settings.pingInterval) :=
    if_pos hinterval
  rw [← anySilent?_eq_none, remedy?]
  cases seen.anySilent? markets.entries with
  | none => simp
  | some silent =>
      cases silent with
      | true => simp
      | false =>
          cases format.ping with
          | none => simp
          | some payload =>
              simp only [Observed.pingRemedy?, htriple, reduceCtorEq, iff_false]
              split
              · simp
              · split <;> simp

theorem Connector.checkLiveness?_eq_none {connector : Connector Quote} {connection : Connection}
    {reachable : Bool} {now : Instant}
    (hinterval : 3 * connector.settings.pingInterval ≤ Span.longest) :
    connector.checkLiveness? connection reachable now = none ↔
      Reached (observed connection now) connector.markets.entries := by
  rw [checkLiveness?_eq, Option.map_eq_none_iff, remedy?_eq_none hinterval]

theorem Connector.exists_unanswered_iff {connector : Connector Quote}
    (hinterval : 3 * connector.settings.pingInterval ≤ Span.longest) :
    (∃ connection reachable now, connector.checkLiveness? connection reachable now = none) ↔
      ∃ id market, connector.markets.get? id = some market ∧ market.Overlong := by
  simp only [checkLiveness?_eq_none hinterval, ← NameMap.mem_entries_iff]
  constructor
  · rintro ⟨connection, -, now, earlier, entry, later, hsplit, hlong, -⟩
    exact ⟨entry.1, entry.2, by simp [hsplit], hlong⟩
  · rintro ⟨id, market, hentry, hlong⟩
    exact ⟨create Instant.epoch, true, Instant.epoch, reached_at_start hentry hlong _⟩

end Stream

end Feed

/-! ## Ages of a configuration -/

namespace Pricing

/-- A market of an exchange has an age of a third of the longest span, or more. -/
def OverlongAge (config : Config) (exchange : String) : Prop :=
  ∃ id block ticker, LastNamed config exchange id block ticker ∧
    2 ^ 64 ≤ 3 * ageSeconds config block ticker

variable {config : Config} {spec : SourceSpec}

private theorem overlong_feedMarket {block : Config.Market} {ticker : Ticker} :
    (feedMarket config block ticker).Overlong ↔ 2 ^ 64 ≤ 3 * ageSeconds config block ticker := by
  rw [feedMarket_eq]
  exact Span.longest_lt_triple_ofSeconds

theorem overlongAge_iff (h : spec ∈ sourceSpecs config) :
    (∃ id market, spec.markets.get? id = some market ∧ market.Overlong) ↔
      OverlongAge config spec.exchange := by
  simp only [get?_sourceSpecs_eq_some h]
  constructor
  · rintro ⟨id, _, ⟨block, ticker, hlast, rfl⟩, hlong⟩
    exact ⟨id, block, ticker, hlast, overlong_feedMarket.mp hlong⟩
  · rintro ⟨id, block, ticker, hlast, hlong⟩
    exact ⟨id, _, ⟨block, ticker, hlast, rfl⟩, overlong_feedMarket.mpr hlong⟩

theorem ageSeconds_pos {document : String} {environment : Config.Environment} {id : String}
    {block : Config.Market} {ticker : Ticker}
    (h : Config.read document environment = .ok config) {exchange : String}
    (hlast : LastNamed config exchange id block ticker) : 0 < ageSeconds config block ticker := by
  obtain ⟨_, _, hmarkets, -, ⟨_, _, hsources, -⟩, -⟩ := hlast
  have hblock : block ∈ config.markets := by simp [hmarkets]
  have hticker : ticker ∈ block.sources := by simp [hsources]
  have hage := feedMarket_age_pos (Config.valid_of_read h) hblock hticker
  rw [feedMarket_eq] at hage
  exact Config.ofSeconds_pos.mp hage

/--
Whatever document is read, the age of a market is positive, and three times as much fits into
a span exactly if it fits into sixty-four bits of seconds.  The check of a polled provider has
an answer exactly if that is so for all its markets.  The check of a stream has one unless it
comes to a market for which it is not so, with no silent market before that; and it has one
in every state exactly if it is so for all markets.
-/
theorem checks_by_ages {document : String} {environment : Config.Environment}
    (h : Config.read document environment = .ok config) (hspec : spec ∈ sourceSpecs config) :
    (∀ id market, spec.markets.get? id = some market →
      ∃ block ticker, LastNamed config spec.exchange id block ticker ∧
        market.maxUseAge = Span.ofSeconds (ageSeconds config block ticker) ∧
        0 < ageSeconds config block ticker ∧
        (Span.longest < 3 * market.maxUseAge ↔ 2 ^ 64 ≤ 3 * ageSeconds config block ticker)) ∧
    (∀ poller : Feed.Poll.Poller, poller.markets = spec.markets →
      ∀ started lastData now,
        poller.silent? started lastData now = none ↔ OverlongAge config spec.exchange) ∧
    ∀ (Quote : Type) (connector : Feed.Stream.Connector Quote),
      connector.markets = spec.markets →
      3 * connector.settings.pingInterval ≤ Span.longest →
        (∀ connection reachable now,
          connector.checkLiveness? connection reachable now = none ↔
            Feed.Stream.Reached (Feed.Stream.Connector.observed connection now)
              spec.markets.entries) ∧
        ((∃ connection reachable now,
          connector.checkLiveness? connection reachable now = none) ↔
            OverlongAge config spec.exchange) := by
  refine ⟨fun id market hmarket => ?_, fun poller hmarkets started lastData now => ?_,
    fun Quote connector hmarkets hinterval => ⟨fun connection reachable now => ?_, ?_⟩⟩
  · obtain ⟨block, ticker, hlast, rfl⟩ := (get?_sourceSpecs_eq_some hspec).mp hmarket
    exact ⟨block, ticker, hlast, by rw [feedMarket_eq], ageSeconds_pos h hlast,
      overlong_feedMarket⟩
  · rw [Feed.Poll.Poller.silent?_eq_none, hmarkets]
    exact overlongAge_iff hspec
  · rw [Feed.Stream.Connector.checkLiveness?_eq_none hinterval, hmarkets]
  · rw [Feed.Stream.Connector.exists_unanswered_iff hinterval, hmarkets]
    exact overlongAge_iff hspec

/-! ### The greatest age that a document can hold -/

def agedDocument : String :=
  "oracle.name = \"aged\"\n" ++
  "[[markets]]\nmarket_id = \"BTC\"\nmax_use_age_secs = 9223372036854775807\n" ++
  "sources = [\x7b exchange_id = \"binance\", inst_id = \"a\" \x7d, " ++
  "\x7b exchange_id = \"coingecko\", inst_id = \"a\" \x7d]\n"

def agedConfig : Config where
  service := { name := "aged" }
  markets := [
    { id := "BTC", maxUseAgeSecs := some 9223372036854775807,
      sources := [{ exchange := "binance", instrument := "a" },
        { exchange := "coingecko", instrument := "a" }] }]

private theorem read_aged : Config.read agedDocument (fun _ => none) = .ok agedConfig := by
  decide +kernel

def agedStream (spec : SourceSpec) : Feed.Stream.Connector Exchange.Binance.Candle where
  format := Exchange.Binance.format
  markets := spec.markets

def agedPoller (spec : SourceSpec) : Feed.Poll.Poller where
  format := Exchange.CoinGecko.format ""
  requests := []
  markets := spec.markets
  reference := spec.reference
  maxAttempts := 8

theorem unanswered_by_aged_poller :
    Config.read agedDocument (fun _ => none) = .ok agedConfig ∧
      ∃ spec ∈ sourceSpecs agedConfig, spec.exchange = "coingecko" ∧
        OverlongAge agedConfig spec.exchange ∧
        ∀ started lastData now, (agedPoller spec).silent? started lastData now = none := by
  obtain ⟨spec, hspec, hexchange⟩ :=
    List.mem_map.mp ((mem_exchanges_iff agedConfig "coingecko").mpr (by decide))
  have hlong : OverlongAge agedConfig spec.exchange := by
    rw [hexchange]
    refine ⟨"BTC", _, _, ⟨[], [], rfl, rfl,
      ⟨[{ exchange := "binance", instrument := "a" }], [], rfl, rfl, nofun⟩, nofun⟩, ?_⟩
    decide
  obtain ⟨-, hpolled, -⟩ := checks_by_ages read_aged hspec
  refine ⟨read_aged, spec, hspec, hexchange, hlong, fun started lastData now => ?_⟩
  exact (hpolled (agedPoller spec) rfl started lastData now).mpr hlong

theorem overlong_ages_accepted :
    Config.read agedDocument (fun _ => none) = .ok agedConfig ∧
      (sourceSpecs agedConfig).map (fun spec => (spec.exchange, spec.markets.values.map
        fun market => market.maxUseAge.triple?)) = [("binance", [none]), ("coingecko", [none])] ∧
      (sourceSpecs agedConfig).map (fun spec =>
        (((agedStream spec).checkLiveness? (Feed.Stream.Connector.create ⟨1000, 0⟩) true
            ⟨1001, 0⟩).isNone,
          (agedPoller spec).silent? ⟨1000, 0⟩ NameMap.empty ⟨1001, 0⟩)) =
        [(true, none), (true, none)] :=
  ⟨read_aged, by decide +kernel, by decide +kernel⟩

end Pricing

end IndexPrice
