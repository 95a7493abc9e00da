import IndexPrice.Proofs.Exchange.Requests

/-!
# Responses are converted as they were asked for

A response that holds a price for each name of a request, and nothing else, is
converted with the reference price of that request's own inquiry.  It gives one
sample for each market that the request names.  So requests and conversion agree
on the reference of a market, however many networks and reference tickers there are.
-/

namespace IndexPrice.Exchange

open Feed Feed.Poll

/-! ## Markets with instruments of their own -/

/-- No two markets share an instrument, and none has that of a reference ticker. -/
structure Separate (markets : Markets) (reference : List Ticker) : Prop where
  instruments : ((tickersOf markets).map (·.instrument)).Nodup
  references : ∀ ticker ∈ tickersOf markets, ∀ coin ∈ reference,
    coin.instrument ≠ ticker.instrument

theorem mem_tickersOf {markets : Markets} {id : String} {market : Market}
    (h : markets.get? id = some market) : market.ticker ∈ tickersOf markets :=
  List.mem_map_of_mem (List.mem_map_of_mem ((NameMap.mem_entries_iff _ _ _).mpr h))

private theorem Separate.routed {markets : Markets} {reference : List Ticker}
    (h : Separate markets reference) {id : String} {market : Market}
    (hmarket : markets.get? id = some market) : Routed markets id market := by
  have hentries : (markets.entries.map (·.2.ticker.instrument)).Nodup := by
    simpa [tickersOf, NameMap.values, Function.comp_def] using h.instruments
  exact (forall_routed_iff markets).mpr (distinct_of_nodup hentries) id market hmarket

/-! ## Names of an inquiry -/

private theorem mem_names_of_ticker (provider : Provider) {inquiry : Inquiry} {ticker : Ticker}
    (h : ticker ∈ inquiry.tickers) : ticker.instrument ∈ provider.names inquiry := by
  have hmem : ticker.instrument ∈ inquiry.tickers.map (·.instrument) := List.mem_map_of_mem h
  cases provider with
  | coinGecko => exact List.mem_cons_of_mem _ hmem
  | coinMarketCap => exact hmem
  | geckoTerminal => exact List.mem_append_left _ hmem

private theorem ticker_of_mem_names {provider : Provider} {inquiry : Inquiry} {name : String}
    (h : name ∈ provider.names inquiry) (other : inquiry.reference.instrument ≠ name) :
    ∃ ticker ∈ inquiry.tickers, ticker.instrument = name := by
  cases provider with
  | coinGecko => simpa [Provider.names, other.symm] using h
  | coinMarketCap => simpa [Provider.names] using h
  | geckoTerminal => simpa [Provider.names, other.symm] using h

section Inquiries

variable {provider : Provider} {markets : Markets} {reference : List Ticker}
  {inquiries : List Inquiry} {inquiry : Inquiry} {raw : RawPrices}

theorem named_iff (arranged : Arranged provider (tickersOf markets) reference inquiries)
    (separate : Separate markets reference) (hinquiry : inquiry ∈ inquiries) {id : String}
    {market : Market} (hmarket : markets.get? id = some market) :
    market.ticker.instrument ∈ provider.names inquiry ↔ market.ticker ∈ inquiry.tickers := by
  refine ⟨fun hname => ?_, mem_names_of_ticker provider⟩
  have hother := separate.references _ (mem_tickersOf hmarket) _ (arranged.coin inquiry hinquiry)
  obtain ⟨ticker, hticker, hinstrument⟩ := ticker_of_mem_names hname hother
  -- tickers are told apart by their instruments, so this one is the market's own
  have hsame : ticker = market.ticker := List.inj_on_of_nodup_map separate.instruments
    (arranged.known inquiry hinquiry hticker) (mem_tickersOf hmarket) hinstrument
  exact hsame ▸ hticker

private theorem coin_of_mem_names
    (arranged : Arranged provider (tickersOf markets) reference inquiries)
    (separate : Separate markets reference) (hinquiry : inquiry ∈ inquiries) {coin : Ticker}
    (hcoin : coin ∈ reference) (hname : coin.instrument ∈ provider.names inquiry) :
    inquiry.reference.instrument = coin.instrument := by
  by_contra hother
  obtain ⟨ticker, hticker, hinstrument⟩ := ticker_of_mem_names hname hother
  exact separate.references ticker (arranged.known inquiry hinquiry hticker) coin hcoin
    hinstrument.symm

/-! ## Reference prices -/

private theorem referenceSample?_eq {poller : Poller} {coin : Ticker}
    (hcoin : coin ∈ poller.reference)
    (sole : ∀ other ∈ poller.reference, raw.contains other.instrument = true →
      coin.instrument = other.instrument) :
    poller.referenceSample? raw = raw.get? coin.instrument := by
  unfold Poller.referenceSample?
  cases hfound : poller.reference.findSome? (raw.get? ·.instrument) with
  | none => exact (List.findSome?_eq_none_iff.mp hfound coin hcoin).symm
  | some sample =>
      -- the first one that is held need not be this one, but has the same instrument
      obtain ⟨other, hother, hsample⟩ := List.exists_of_findSome?_eq_some hfound
      have hholds : raw.contains other.instrument = true := by simp [NameMap.contains, hsample]
      rw [sole other hother hholds, hsample]

private theorem divisor_eq {apiKey : String} {poller : Poller}
    (hformat : poller.format = provider.format apiKey)
    (hreference : poller.referenceSample? raw = raw.get? inquiry.reference.instrument)
    (held : ∀ name ∈ provider.names inquiry, raw.contains name = true)
    (high : ∀ found, raw.get? inquiry.reference.instrument = some found → 0.01 ≤ found.price) :
    ∃ divisor, provider.divisor? inquiry raw = some divisor ∧
      poller.divisor raw = .ok divisor := by
  have hquoted : ∀ found, poller.format.quotesInReference = false →
      raw.get? inquiry.reference.instrument = some found →
        poller.divisor raw = .ok found.price := by
    intro found hdollars hfound
    have hhigh : ¬ found.price < Poller.minReferencePrice :=
      Decimal.not_lt_of_le (high found hfound)
    rw [Poller.divisor, hdollars, hreference, hfound]
    simp [hhigh]
  have hheld : ∀ name, name ∈ provider.names inquiry → ∃ found, raw.get? name = some found :=
    fun name hname => Option.isSome_iff_exists.mp (held name hname)
  cases provider with
  | coinMarketCap =>
      refine ⟨1.0, rfl, ?_⟩
      rw [Poller.divisor, hformat]
      rfl
  | coinGecko =>
      obtain ⟨found, hfound⟩ := hheld _ List.mem_cons_self
      exact ⟨found.price, by simp [Provider.divisor?, hfound],
        hquoted found (by rw [hformat]; rfl) hfound⟩
  | geckoTerminal =>
      obtain ⟨found, hfound⟩ := hheld inquiry.reference.instrument (by simp [Provider.names])
      exact ⟨found.price, by simp [Provider.divisor?, hfound],
        hquoted found (by rw [hformat]; rfl) hfound⟩

/-! ## Samples -/

/-- One sample for each market that is named, and for no other market. -/
structure Converted (markets : Markets) (names : List String) (raw : RawPrices) (divisor : Float)
    (entries : List (String × Sample)) : Prop where
  once : (entries.map (·.1)).Nodup
  mem_iff : ∀ id, id ∈ entries.map (·.1) ↔
    ∃ market, markets.get? id = some market ∧ market.ticker.instrument ∈ names
  scaled : ∀ id sample, (id, sample) ∈ entries → ∃ market found,
    markets.get? id = some market ∧ raw.get? market.ticker.instrument = some found ∧
      sample = found.scaled (market.multiplier / divisor)

private theorem converted_marketSamples {poller : Poller} {names : List String} (divisor : Float)
    (separate : Separate poller.markets poller.reference)
    (holds : ∀ name, raw.contains name = true ↔ name ∈ names) :
    Converted poller.markets names raw divisor
      (raw.entries.filterMap (poller.marketSample? divisor)) := by
  refine ⟨Poller.nodup_marketSamples poller divisor raw, fun id => ?_, fun id sample hsample => ?_⟩
  · constructor
    · intro hid
      obtain ⟨⟨_, sample⟩, hsample, rfl⟩ := List.mem_map.mp hid
      obtain ⟨market, found, hrouted, -, hfound, -⟩ := Poller.mem_marketSamples.mp hsample
      exact ⟨market, hrouted.known, (holds _).mp (by simp [NameMap.contains, hfound])⟩
    · rintro ⟨market, hmarket, hname⟩
      obtain ⟨found, hfound⟩ := Option.isSome_iff_exists.mp ((holds _).mpr hname)
      have hother : poller.isReference market.ticker.instrument = false := by
        simpa [Poller.isReference] using separate.references _ (mem_tickersOf hmarket)
      exact List.mem_map_of_mem (Poller.mem_marketSamples.mpr
        ⟨market, found, separate.routed hmarket, hother, hfound, rfl⟩)
  · obtain ⟨market, found, hrouted, -, hfound, hscaled⟩ := Poller.mem_marketSamples.mp hsample
    exact ⟨market, found, hrouted.known, hfound, hscaled⟩

end Inquiries

/-! ## Agreement -/

/-- Requests and conversion of a poller agree on what each inquiry stands for. -/
structure Agrees (provider : Provider) (apiKey : String) (markets : Markets)
    (reference : List Ticker) (poller : Poller) (inquiries : List Inquiry) : Prop where
  requests : poller.requests = inquiries.map (provider.request apiKey)
  named : ∀ inquiry ∈ inquiries, (∀ name ∈ provider.names inquiry, Plain name) →
    provider.named (provider.request apiKey inquiry) = provider.names inquiry
  once : ∀ id market, markets.get? id = some market →
    inquiries.countP (market.ticker.instrument ∈ provider.names ·) = 1
  own : ∀ inquiry ∈ inquiries, ∀ id market, markets.get? id = some market →
    market.ticker.instrument ∈ provider.names inquiry →
      provider.referenceFor? reference market.ticker = some inquiry.reference
  converted : ∀ inquiry ∈ inquiries, ∀ raw : RawPrices,
    (∀ name, raw.contains name = true ↔ name ∈ provider.names inquiry) →
    (∀ found, raw.get? inquiry.reference.instrument = some found → 0.01 ≤ found.price) →
      ∃ divisor entries, provider.divisor? inquiry raw = some divisor ∧
        poller.convert raw = .ok entries ∧
        Converted markets (provider.names inquiry) raw divisor entries

private theorem agrees_of_arranged {provider : Provider} {apiKey : String} {poller : Poller}
    {inquiries : List Inquiry} (hformat : poller.format = provider.format apiKey)
    (hrequests : poller.requests = inquiries.map (provider.request apiKey))
    (arranged : Arranged provider (tickersOf poller.markets) poller.reference inquiries)
    (separate : Separate poller.markets poller.reference) :
    Agrees provider apiKey poller.markets poller.reference poller inquiries := by
  constructor
  case requests => exact hrequests
  case named => exact fun _ _ plain => named_request provider apiKey plain
  case once =>
    intro id market hmarket
    rw [← arranged.once market.ticker (mem_tickersOf hmarket)]
    refine List.countP_congr fun inquiry hinquiry => ?_
    simpa using named_iff arranged separate hinquiry hmarket
  case own =>
    intro inquiry hinquiry id market hmarket hname
    exact arranged.own inquiry hinquiry _
      ((named_iff arranged separate hinquiry hmarket).mp hname)
  case converted =>
    intro inquiry hinquiry raw holds high
    have hreference : poller.referenceSample? raw = raw.get? inquiry.reference.instrument :=
      referenceSample?_eq (arranged.coin inquiry hinquiry) fun coin hcoin hheld =>
        coin_of_mem_names arranged separate hinquiry hcoin ((holds _).mp hheld)
    obtain ⟨divisor, hown, hdivisor⟩ :=
      divisor_eq hformat hreference (fun name => (holds name).mpr) high
    refine ⟨divisor, _, hown, ?_, converted_marketSamples divisor separate holds⟩
    rw [Poller.convert, hdivisor]
    rfl

/--
Whenever a poller can be built, its requests and its conversion agree.  It cannot be
built exactly if the network of some ticker has no reference ticker or, for a provider
without networks, if there is no reference ticker at all.
-/
theorem agrees_of_build (provider : Provider) (apiKey : String) (markets : Markets)
    (reference : List Ticker) (maxAttempts : Nat) :
    (∀ poller, Poller.build (provider.format apiKey) markets reference maxAttempts = .ok poller →
      Separate markets reference →
        ∃ inquiries, Agrees provider apiKey markets reference poller inquiries) ∧
    ((∃ fault, Poller.build (provider.format apiKey) markets reference maxAttempts =
        .error fault) ↔ provider.Unaskable (tickersOf markets) reference) := by
  have hasked := @exists_requests provider apiKey (tickersOf markets) reference
  unfold Poller.build
  cases hrequests : (provider.format apiKey).requests (tickersOf markets) reference with
  | error cause =>
      have hunaskable : provider.Unaskable (tickersOf markets) reference := by
        by_contra haskable
        obtain ⟨requests, hmade⟩ := hasked.mpr haskable
        cases hrequests.symm.trans hmade
      exact ⟨nofun, iff_of_true ⟨_, rfl⟩ hunaskable⟩
  | ok requests =>
      refine ⟨?_, iff_of_false nofun (hasked.mp ⟨requests, hrequests⟩)⟩
      intro poller hpoller separate
      obtain ⟨inquiries, hinquiries, arranged⟩ := arranged_of_requests hrequests
      cases hpoller
      exact ⟨inquiries, @agrees_of_arranged provider apiKey
        ⟨provider.format apiKey, requests, markets, reference, maxAttempts⟩ inquiries rfl hinquiries
        arranged separate⟩

/-! ### Tokens on two networks -/

def token (network address : String) : Ticker :=
  { exchange := "geckoterminal", instrument := address, network := network }

def tokens : Markets := NameMap.ofList [
  ("AAVE", ⟨token "eth" "0xa", 1.0, 60⟩),
  ("CAKE", ⟨token "bsc" "0xc", 1.0, 60⟩),
  ("UNI", ⟨token "eth" "0xb", 1000.0, 60⟩)]

/-- The reference tickers are not in the order of the networks. -/
def stablecoins : List Ticker := [token "eth" "0xe", token "bsc" "0xf"]

def tokenPoller : Poller where
  format := Provider.geckoTerminal.format "key"
  requests := [
    Provider.geckoTerminal.request "key" ⟨[token "bsc" "0xc"], token "bsc" "0xf"⟩,
    Provider.geckoTerminal.request "key"
      ⟨[token "eth" "0xa", token "eth" "0xb"], token "eth" "0xe"⟩]
  markets := tokens
  reference := stablecoins
  maxAttempts := Poller.defaultAttempts

def ethResponse : RawPrices := NameMap.ofList [
  ("0xa", ⟨100, ⟨10, 0⟩⟩), ("0xb", ⟨3, ⟨10, 0⟩⟩), ("0xe", ⟨0.5, ⟨10, 0⟩⟩)]

theorem agrees_on_two_networks :
    Poller.build (Provider.geckoTerminal.format "key") tokens stablecoins
        Poller.defaultAttempts = .ok tokenPoller ∧
      Separate tokens stablecoins ∧
      (tokenPoller.convert ethResponse).toOption =
        some [("AAVE", ⟨200, ⟨10, 0⟩⟩), ("UNI", ⟨6000, ⟨10, 0⟩⟩)] ∧
      ∃ inquiries, Agrees .geckoTerminal "key" tokens stablecoins tokenPoller inquiries := by
  have hrequests : (Provider.geckoTerminal.format "key").requests (tickersOf tokens) stablecoins =
      .ok tokenPoller.requests := by
    decide +kernel
  have hbuild : Poller.build (Provider.geckoTerminal.format "key") tokens stablecoins
      Poller.defaultAttempts = .ok tokenPoller := by
    rw [Poller.build, hrequests]
    rfl
  have hseparate : Separate tokens stablecoins := ⟨by decide +kernel, by decide +kernel⟩
  exact ⟨hbuild, hseparate, by decide +kernel,
    (agrees_of_build .geckoTerminal "key" tokens stablecoins Poller.defaultAttempts).1 tokenPoller
      hbuild hseparate⟩

end IndexPrice.Exchange
