import IndexPrice.Config.Validation
import IndexPrice.Exchange.Binance
import IndexPrice.Feed.Stream.Connector
import IndexPrice.Pricing.Spec
import IndexPrice.Proofs.Feed.Poll.Reading
import Mathlib.Data.List.Nodup

/-!
# Which markets get the prices of an instrument

Prices come by instrument and are kept by market.  A feed sends the prices of an
instrument to one market only: of all its markets with that instrument, the one
with the greatest id.  That market gets every price, scaled by its own multiplier;
the others never get any.  So all markets of a feed are served if and only if no
two of them share an instrument.
-/

namespace IndexPrice.Feed

/-! ## Routes -/

/-- The market is one of these, and no other with its instrument comes later. -/
structure Routed (markets : Markets) (id : String) (market : Market) : Prop where
  known : markets.get? id = some market
  last : ∀ other twin, markets.get? other = some twin →
    twin.ticker.instrument = market.ticker.instrument → other ≤ id

private theorem get?_ofList_routes {entries : List (String × Market)}
    (sorted : entries.Pairwise fun a b => a.1 < b.1) (instrument id : String) (market : Market) :
    (NameMap.ofList (entries.map fun (id, market) =>
        (market.ticker.instrument, id, market))).get? instrument = some (id, market) ↔
      (id, market) ∈ entries ∧ market.ticker.instrument = instrument ∧
        ∀ entry ∈ entries, entry.2.ticker.instrument = instrument → entry.1 ≤ id := by
  -- from the end, because a later market replaces the one that was there
  induction entries using List.reverseRecOn with
  | nil => simp [NameMap.ofList]
  | append_singleton entries newest ih =>
      obtain ⟨hsorted, -, hbelow⟩ := List.pairwise_append.mp sorted
      have hless : ∀ entry ∈ entries, entry.1 < newest.1 := fun entry hentry =>
        hbelow entry hentry newest (List.mem_singleton_self newest)
      rw [List.map_append, List.map_singleton, NameMap.get?_ofList_concat]
      by_cases hnewest : newest.2.ticker.instrument = instrument
      · rw [if_pos hnewest]
        constructor
        · intro heq
          cases heq
          refine ⟨by simp, hnewest, fun entry hentry _ => ?_⟩
          rcases List.mem_append.mp hentry with hearlier | hlast
          · exact String.not_lt.mp fun hgreater =>
              String.lt_irrefl _ (String.lt_trans hgreater (hless entry hearlier))
          · exact List.mem_singleton.mp hlast ▸ String.le_refl _
        · rintro ⟨hmem, -, hlast⟩
          rcases List.mem_append.mp hmem with hearlier | hself
          · exact absurd (hless _ hearlier) (String.not_lt.mpr (hlast newest (by simp) hnewest))
          · rw [List.mem_singleton.mp hself]
      · rw [if_neg hnewest, ih hsorted]
        constructor
        · rintro ⟨hmem, hinstrument, hlast⟩
          refine ⟨List.mem_append_left _ hmem, hinstrument, fun entry hentry hsame => ?_⟩
          rcases List.mem_append.mp hentry with hearlier | hself
          · exact hlast entry hearlier hsame
          · exact absurd (List.mem_singleton.mp hself ▸ hsame) hnewest
        · rintro ⟨hmem, hinstrument, hlast⟩
          refine ⟨?_, hinstrument, fun entry hentry => hlast entry (List.mem_append_left _ hentry)⟩
          rcases List.mem_append.mp hmem with hearlier | hself
          · exact hearlier
          · rw [← List.mem_singleton.mp hself] at hnewest
            exact absurd hinstrument hnewest

theorem get?_routes (markets : Markets) (instrument id : String) (market : Market) :
    (routes markets).get? instrument = some (id, market) ↔
      Routed markets id market ∧ market.ticker.instrument = instrument := by
  rw [routes, get?_ofList_routes markets.sorted, NameMap.mem_entries_iff]
  constructor
  · rintro ⟨hknown, rfl, hlast⟩
    refine ⟨⟨hknown, fun other twin htwin hsame => ?_⟩, rfl⟩
    exact hlast (other, twin) ((NameMap.mem_entries_iff _ _ _).mpr htwin) hsame
  · rintro ⟨⟨hknown, hlast⟩, rfl⟩
    refine ⟨hknown, rfl, fun entry hentry hsame => ?_⟩
    exact hlast entry.1 entry.2 ((NameMap.mem_entries_iff _ _ _).mp hentry) hsame

theorem forall_routed_iff (markets : Markets) :
    (∀ id market, markets.get? id = some market → Routed markets id market) ↔
      ∀ id other market twin, markets.get? id = some market → markets.get? other = some twin →
        market.ticker.instrument = twin.ticker.instrument → id = other := by
  constructor
  · intro hrouted id other market twin hmarket htwin hsame
    refine String.le_antisymm ?_ ?_
    · exact (hrouted other twin htwin).last id market hmarket hsame
    · exact (hrouted id market hmarket).last other twin htwin hsame.symm
  · intro hdistinct id market hmarket
    refine ⟨hmarket, fun other twin htwin hsame => ?_⟩
    exact hdistinct other id twin market htwin hmarket hsame ▸ String.le_refl _

theorem distinct_of_nodup {markets : Markets}
    (h : (markets.entries.map (·.2.ticker.instrument)).Nodup) :
    ∀ id other market twin, markets.get? id = some market → markets.get? other = some twin →
      market.ticker.instrument = twin.ticker.instrument → id = other := by
  intro id other market twin hmarket htwin hsame
  have hentry := (NameMap.mem_entries_iff _ _ _).mpr hmarket
  have hother := (NameMap.mem_entries_iff _ _ _).mpr htwin
  exact congrArg Prod.fst (List.inj_on_of_nodup_map h hentry hother hsame)

def forMarket? (id : String) (entry : String × Sample) : Option Sample :=
  if entry.1 = id then some entry.2 else none

theorem forMarket?_eq_some {id : String} {entry : String × Sample} {sample : Sample} :
    forMarket? id entry = some sample ↔ entry = (id, sample) := by
  obtain ⟨name, held⟩ := entry
  simp [forMarket?]

private theorem load_offer_entry (store : PriceStore) (entry : String × Sample) (id : String) :
    (store.offer entry.1 entry.2).2.load id =
      (forMarket? id entry).toList.foldl PriceStore.hold (store.load id) := by
  rw [PriceStore.load_offer, forMarket?]
  by_cases hid : entry.1 = id
  · simp [hid]
  · simp [hid]

/-! ## Streams -/

namespace Stream.Connector

variable {Quote : Type}

def sampleFor? (connector : Connector Quote) (market : Market) (message : Instant × Incoming) :
    Option Sample :=
  match message.2 with
  | .close | .loose _ => none
  | .frame raw =>
    match connector.format.classify raw with
    | .price instrument quote =>
      if market.ticker.instrument = instrument then
        (connector.format.sample message.1 quote market.multiplier).toOption
      else none
    | _ => none

def sent? (connector : Connector Quote) (message : Instant × Incoming) :
    Option (String × Sample) :=
  match message.2 with
  | .close | .loose _ => none
  | .frame raw =>
    match connector.format.classify raw with
    | .price instrument quote => connector.sample? message.1 instrument quote
    | _ => none

def receiveAll (connector : Connector Quote) (received : Received)
    (messages : List (Instant × Incoming)) : Received :=
  messages.foldl (fun received message => (connector.receive message.1 received message.2).2)
    received

theorem store_take (connector : Connector Quote) (received : Received) (entry : String × Sample) :
    (connector.take received entry).store = (received.store.offer entry.1 entry.2).2 := by
  unfold take PriceStore.offer
  cases received.store.isNews entry.1 entry.2 <;> rfl

private theorem load_receive (connector : Connector Quote) (received : Received)
    (message : Instant × Incoming) (id : String) :
    (connector.receive message.1 received message.2).2.store.load id =
      ((connector.sent? message).bind (forMarket? id)).toList.foldl PriceStore.hold
        (received.store.load id) := by
  obtain ⟨now, incoming⟩ := message
  cases incoming with
  | close => rfl
  | loose bytes => rfl
  | frame raw =>
      simp only [receive, sent?]
      cases connector.format.classify raw with
      | ping => rfl
      | pong => rfl
      | ignored => rfl
      | price instrument quote =>
          dsimp only
          cases connector.sample? now instrument quote with
          | none => rfl
          | some entry =>
              dsimp only
              rw [store_take, load_offer_entry, Option.bind_some]

theorem sample?_eq_some {connector : Connector Quote} {now : Instant} {instrument : String}
    {quote : Quote} {id : String} {sample : Sample} :
    connector.sample? now instrument quote = some (id, sample) ↔
      ∃ market, Routed connector.markets id market ∧ market.ticker.instrument = instrument ∧
        connector.format.sample now quote market.multiplier = .ok sample := by
  simp only [← and_assoc, ← get?_routes]
  simp only [sample?, Option.bind_eq_bind, Option.bind_eq_some_iff, Prod.exists]
  constructor
  · rintro ⟨target, market, hroute, hsample⟩
    cases hread : connector.format.sample now quote market.multiplier with
    | ok found =>
        rw [hread] at hsample
        cases hsample
        exact ⟨market, hroute, hread⟩
    | error cause =>
        rw [hread] at hsample
        cases hsample
  · rintro ⟨market, hroute, hread⟩
    exact ⟨id, market, hroute, by rw [hread]; rfl⟩

private theorem sent_of_routed {connector : Connector Quote} {id : String} {market : Market}
    (routed : Routed connector.markets id market) (message : Instant × Incoming) :
    (connector.sent? message).bind (forMarket? id) = connector.sampleFor? market message := by
  obtain ⟨now, incoming⟩ := message
  cases incoming with
  | close => rfl
  | loose bytes => rfl
  | frame raw =>
      simp only [sent?, sampleFor?]
      cases connector.format.classify raw with
      | ping => rfl
      | pong => rfl
      | ignored => rfl
      | price instrument quote =>
          ext sample
          simp only [Option.bind_eq_some_iff, forMarket?_eq_some, exists_eq_right,
            sample?_eq_some]
          constructor
          · rintro ⟨twin, htwin, hinstrument, hread⟩
            -- an id stands for one market only, so the twin is the market itself
            obtain rfl := Option.some.inj (routed.known.symm.trans htwin.known)
            rw [if_pos hinstrument, hread]
            rfl
          · intro hfound
            split at hfound
            · next hinstrument =>
                refine ⟨market, routed, hinstrument, ?_⟩
                cases hread : connector.format.sample now quote market.multiplier with
                | ok found =>
                    rw [hread] at hfound
                    cases hfound
                    rfl
                | error cause =>
                    rw [hread] at hfound
                    cases hfound
            · cases hfound

private theorem sent_of_unrouted {connector : Connector Quote} {id : String}
    (unrouted : ∀ market, ¬ Routed connector.markets id market) (message : Instant × Incoming) :
    (connector.sent? message).bind (forMarket? id) = none := by
  obtain ⟨now, incoming⟩ := message
  cases incoming with
  | close => rfl
  | loose bytes => rfl
  | frame raw =>
      simp only [sent?]
      cases connector.format.classify raw with
      | ping => rfl
      | pong => rfl
      | ignored => rfl
      | price instrument quote =>
          rw [Option.eq_none_iff_forall_ne_some]
          intro sample hfound
          simp only [Option.bind_eq_some_iff, forMarket?_eq_some, exists_eq_right,
            sample?_eq_some] at hfound
          obtain ⟨market, hrouted, -⟩ := hfound
          exact unrouted market hrouted

private theorem load_receiveAll (connector : Connector Quote) (received : Received)
    (messages : List (Instant × Incoming)) (id : String) :
    (connector.receiveAll received messages).store.load id =
      (messages.filterMap fun message => (connector.sent? message).bind (forMarket? id)).foldl
        PriceStore.hold (received.store.load id) := by
  induction messages using List.reverseRecOn with
  | nil => rfl
  | append_singleton messages message ih =>
      have hlast : [message].filterMap (fun message =>
          (connector.sent? message).bind (forMarket? id)) =
            ((connector.sent? message).bind (forMarket? id)).toList := by
        cases hsent : (connector.sent? message).bind (forMarket? id) <;> simp [hsent]
      rw [List.filterMap_append, List.foldl_append, ← ih, hlast, ← load_receive, receiveAll,
        List.foldl_append]
      rfl

end Stream.Connector

/-! ## Polls -/

namespace Poll.Poller

def sampleFor? (poller : Poller) (market : Market) (divisor : Float) (raw : RawPrices) :
    Option Sample :=
  if poller.isReference market.ticker.instrument then none
  else
    (raw.get? market.ticker.instrument).map fun sample =>
      sample.scaled (market.multiplier / divisor)

private theorem load_takeAll (poller : Poller) (gathered : Gathered)
    (entries : List (String × Sample)) (id : String) :
    (poller.takeAll gathered entries).store.load id =
      (entries.filterMap (forMarket? id)).foldl PriceStore.hold (gathered.store.load id) := by
  induction entries generalizing gathered with
  | nil => rfl
  | cons entry rest ih =>
      have hfirst : (entry :: rest).filterMap (forMarket? id) =
          (forMarket? id entry).toList ++ rest.filterMap (forMarket? id) := by
        cases hentry : forMarket? id entry <;> simp [hentry]
      rw [hfirst, List.foldl_append, ← load_offer_entry, ← store_take, ← ih]
      rfl

theorem marketSample?_eq_some {poller : Poller} {divisor : Float} {entry : String × Sample}
    {id : String} {sample : Sample} :
    poller.marketSample? divisor entry = some (id, sample) ↔
      poller.isReference entry.1 = false ∧
        ∃ market, Routed poller.markets id market ∧ market.ticker.instrument = entry.1 ∧
          entry.2.scaled (market.multiplier / divisor) = sample := by
  simp only [← and_assoc, ← get?_routes]
  unfold marketSample?
  cases poller.isReference entry.1 with
  | true => simp
  | false => simp [Option.map_eq_some_iff]

theorem mem_marketSamples {poller : Poller} {divisor : Float} {raw : RawPrices} {id : String}
    {sample : Sample} :
    (id, sample) ∈ raw.entries.filterMap (poller.marketSample? divisor) ↔ ∃ market found,
      Routed poller.markets id market ∧ poller.isReference market.ticker.instrument = false ∧
      raw.get? market.ticker.instrument = some found ∧
      sample = found.scaled (market.multiplier / divisor) := by
  simp only [List.mem_filterMap, marketSample?_eq_some]
  constructor
  · rintro ⟨⟨instrument, found⟩, hentry, hreference, market, hrouted, rfl, rfl⟩
    exact ⟨market, found, hrouted, hreference, (NameMap.mem_entries_iff _ _ _).mp hentry, rfl⟩
  · rintro ⟨market, found, hrouted, hreference, hfound, rfl⟩
    exact ⟨(market.ticker.instrument, found), (NameMap.mem_entries_iff _ _ _).mpr hfound,
      hreference, market, hrouted, rfl, rfl⟩

theorem nodup_marketSamples (poller : Poller) (divisor : Float) (raw : RawPrices) :
    ((raw.entries.filterMap (poller.marketSample? divisor)).map (·.1)).Nodup := by
  rw [List.Nodup, List.pairwise_map, List.pairwise_filterMap]
  refine raw.sorted.imp ?_
  intro first second hlt entry hentry later hlater heq
  obtain ⟨-, market, hrouted, hinstrument, -⟩ := marketSample?_eq_some.mp hentry
  obtain ⟨-, twin, htwin, hother, -⟩ := marketSample?_eq_some.mp hlater
  -- one id stands for one market, and so for one instrument
  have hsame : market = twin := by
    rw [← Option.some_inj, ← hrouted.known, ← htwin.known, heq]
  exact String.ne_of_lt hlt (by rw [← hinstrument, ← hother, hsame])

private theorem sent_of_routed {poller : Poller} {id : String} {market : Market}
    (routed : Routed poller.markets id market) (divisor : Float) (raw : RawPrices) :
    (raw.entries.filterMap (poller.marketSample? divisor)).filterMap (forMarket? id) =
      (poller.sampleFor? market divisor raw).toList := by
  have hentry : ∀ entry : String × Sample,
      (poller.marketSample? divisor entry).bind (forMarket? id) =
        if entry.1 = market.ticker.instrument then
          if poller.isReference market.ticker.instrument then none
          else some (entry.2.scaled (market.multiplier / divisor))
        else none := by
    intro entry
    ext sample
    simp only [Option.bind_eq_some_iff, forMarket?_eq_some, exists_eq_right,
      marketSample?_eq_some]
    constructor
    · rintro ⟨hreference, twin, htwin, hinstrument, rfl⟩
      obtain rfl := Option.some.inj (routed.known.symm.trans htwin.known)
      simp [hinstrument, hreference]
    · intro hfound
      split at hfound
      · next hinstrument =>
          split at hfound
          · cases hfound
          · next hreference =>
              cases hfound
              exact ⟨by simpa [hinstrument] using hreference, market, routed, hinstrument.symm, rfl⟩
      · cases hfound
  have hpicked := raw.filterMap_entries market.ticker.instrument fun sample =>
    if poller.isReference market.ticker.instrument then none
    else some (sample.scaled (market.multiplier / divisor))
  rw [List.filterMap_filterMap, funext hentry, hpicked, sampleFor?]
  split
  · cases raw.get? market.ticker.instrument <;> rfl
  · cases raw.get? market.ticker.instrument <;> rfl

private theorem sent_of_unrouted {poller : Poller} {id : String}
    (unrouted : ∀ market, ¬ Routed poller.markets id market) (divisor : Float)
    (raw : RawPrices) :
    (raw.entries.filterMap (poller.marketSample? divisor)).filterMap (forMarket? id) = [] := by
  rw [List.filterMap_filterMap, List.filterMap_eq_nil_iff]
  intro entry _
  rw [Option.eq_none_iff_forall_ne_some]
  intro sample hfound
  simp only [Option.bind_eq_some_iff, forMarket?_eq_some, exists_eq_right,
    marketSample?_eq_some] at hfound
  obtain ⟨-, market, hrouted, -⟩ := hfound
  exact unrouted market hrouted

theorem convert_eq_ok {poller : Poller} {raw : RawPrices} {entries : List (String × Sample)}
    (h : poller.convert raw = .ok entries) :
    ∃ divisor, poller.divisor raw = .ok divisor ∧
      entries = raw.entries.filterMap (poller.marketSample? divisor) := by
  unfold convert at h
  cases hdivisor : poller.divisor raw with
  | ok divisor =>
      rw [hdivisor] at h
      cases h
      exact ⟨divisor, rfl, rfl⟩
  | error fault =>
      rw [hdivisor] at h
      cases h

private theorem load_readRequests_of_unrouted {σ : Type} {poller : Poller} {id : String}
    (unrouted : ∀ market, ¬ Routed poller.markets id market) (server : Server σ)
    (requests : List Request) (gathered : Gathered) (s : σ) :
    (poller.readRequests server requests (gathered, s)).1.store.load id =
      gathered.store.load id := by
  induction requests generalizing gathered s with
  | nil => rfl
  | cons request rest ih =>
      rcases good_or_bad poller (fetch server poller.maxAttempts request s).1 with
        ⟨entries, hgood⟩ | ⟨fault, _, hbad⟩
      · rw [readRequests_of_good hgood, ih, load_takeAll]
        obtain ⟨_, _, raw, -, -, hconverted⟩ := hgood
        obtain ⟨divisor, -, rfl⟩ := convert_eq_ok hconverted
        rw [sent_of_unrouted unrouted, List.foldl_nil]
      · rw [readRequests_of_bad hbad, store_giveUp]

end Poll.Poller

/-! ## Who is served -/

/--
A market that prices are sent to has every sample that messages or responses hold for
it offered to its cell, and nothing else; the cell of any other market stays as it is.
All markets of a feed are served exactly if no two of them have one instrument.
-/
theorem served_of_routed (markets : Markets) :
    (∀ {Quote : Type} (connector : Stream.Connector Quote), connector.markets = markets →
      ∀ (received : Stream.Received) (messages : List (Instant × Stream.Incoming)) (id : String),
        (∀ market, Routed markets id market →
          (connector.receiveAll received messages).store.load id =
            (messages.filterMap (connector.sampleFor? market)).foldl PriceStore.hold
              (received.store.load id)) ∧
        ((∀ market, ¬ Routed markets id market) →
          (connector.receiveAll received messages).store.load id = received.store.load id)) ∧
    (∀ poller : Poll.Poller, poller.markets = markets →
      (∀ (gathered : Poll.Gathered) (raw : Poll.RawPrices) (entries : List (String × Sample)),
        poller.convert raw = .ok entries → ∃ divisor, poller.divisor raw = .ok divisor ∧ ∀ id,
          (∀ market, Routed markets id market →
            (poller.takeAll gathered entries).store.load id =
              (poller.sampleFor? market divisor raw).toList.foldl PriceStore.hold
                (gathered.store.load id)) ∧
          ((∀ market, ¬ Routed markets id market) →
            (poller.takeAll gathered entries).store.load id = gathered.store.load id)) ∧
      ∀ {σ : Type} (server : Poll.Server σ) (gathered : Poll.Gathered) (s : σ) (id : String),
        (∀ market, ¬ Routed markets id market) →
          (poller.read server (gathered, s)).1.store.load id = gathered.store.load id) ∧
    ((∀ id market, markets.get? id = some market → Routed markets id market) ↔
      ∀ id other market twin, markets.get? id = some market → markets.get? other = some twin →
        market.ticker.instrument = twin.ticker.instrument → id = other) := by
  refine ⟨?_, ?_, forall_routed_iff markets⟩
  · rintro Quote connector rfl received messages id
    rw [Stream.Connector.load_receiveAll]
    constructor
    · intro market hrouted
      rw [funext (Stream.Connector.sent_of_routed hrouted)]
    · intro hunrouted
      have hnone : messages.filterMap (fun message =>
          (connector.sent? message).bind (forMarket? id)) = [] :=
        List.filterMap_eq_nil_iff.mpr fun message _ =>
          Stream.Connector.sent_of_unrouted hunrouted message
      rw [hnone, List.foldl_nil]
  · rintro poller rfl
    constructor
    · intro gathered raw entries hconverted
      obtain ⟨divisor, hdivisor, rfl⟩ := Poll.Poller.convert_eq_ok hconverted
      refine ⟨divisor, hdivisor, fun id => ?_⟩
      rw [Poll.Poller.load_takeAll]
      constructor
      · intro market hrouted
        rw [Poll.Poller.sent_of_routed hrouted]
      · intro hunrouted
        rw [Poll.Poller.sent_of_unrouted hunrouted, List.foldl_nil]
    · intro σ server gathered s id hunrouted
      exact Poll.Poller.load_readRequests_of_unrouted hunrouted server poller.requests gathered s

/-! ### Two markets with one instrument -/

def pepeTicker : Ticker := { exchange := "binance", instrument := "pepeusdt@kline_1m" }

def pepeConfig : Config where
  service := { name := "pepe" }
  markets := [
    { id := "PEPE-USDT", sources := [pepeTicker] },
    { id := "1000PEPE-USDT", multiplier := 1000, sources := [pepeTicker] }]

def pepeConnector : Stream.Connector Exchange.Binance.Candle where
  format := Exchange.Binance.format
  markets := ((Pricing.byExchange pepeConfig).get? "binance").getD NameMap.empty

def pepeEvent : String :=
  "\x7b\"stream\":\"pepeusdt@kline_1m\",\"data\":\x7b\"k\":" ++
    "\x7b\"c\":\"2\",\"T\":1600000000000\x7d\x7d\x7d"

def pepeMessage : Instant × Stream.Incoming := (⟨1700000000, 0⟩, .frame (.text pepeEvent))

theorem starved_of_shared_instrument :
    pepeConfig.fault? = none ∧
      pepeConnector.markets.names = ["1000PEPE-USDT", "PEPE-USDT"] ∧
      (pepeConnector.markets.values.map (pepeConnector.sampleFor? · pepeMessage)) =
        [some ⟨2000, ⟨1600000000, 0⟩⟩, some ⟨2, ⟨1600000000, 0⟩⟩] ∧
      (pepeConnector.receiveAll {} [pepeMessage]).store.entries =
        [("PEPE-USDT", ⟨2, ⟨1600000000, 0⟩⟩)] := by
  decide +kernel

def pepeMarket : Market where
  ticker := pepeTicker
  multiplier := 1
  maxUseAge := Span.ofSeconds 60

def pepePoller : Poll.Poller where
  format := { provider := "pepe", requests := fun _ _ => .ok [], parse := fun _ _ _ => .ok ∅ }
  requests := []
  markets := pepeConnector.markets
  reference := [{ exchange := "pepe", instrument := "tether" }]
  maxAttempts := 1

def pepePrices : Poll.RawPrices :=
  NameMap.ofList [("tether", ⟨0.5, ⟨70, 0⟩⟩), (pepeTicker.instrument, ⟨2, ⟨71, 0⟩⟩)]

theorem served_beside_starved :
    Routed pepeConnector.markets "PEPE-USDT" pepeMarket ∧
      (∀ market, ¬ Routed pepeConnector.markets "1000PEPE-USDT" market) ∧
      (pepeConnector.receiveAll {} [pepeMessage]).store.load "PEPE-USDT" =
        some ⟨2, ⟨1600000000, 0⟩⟩ ∧
      (pepeConnector.receiveAll {} [pepeMessage]).store.load "1000PEPE-USDT" = none ∧
      (pepePoller.takeAll {} [("PEPE-USDT", ⟨4, ⟨71, 0⟩⟩)]).store.load "PEPE-USDT" =
        some ⟨4, ⟨71, 0⟩⟩ ∧
      (pepePoller.takeAll {} [("PEPE-USDT", ⟨4, ⟨71, 0⟩⟩)]).store.load "1000PEPE-USDT" = none := by
  have hrouted : Routed pepeConnector.markets "PEPE-USDT" pepeMarket :=
    ((get?_routes _ pepeTicker.instrument _ _).mp (by decide +kernel)).1
  have hunrouted : ∀ market, ¬ Routed pepeConnector.markets "1000PEPE-USDT" market := by
    intro market hlast
    have hmarket : market = { pepeMarket with multiplier := 1000 } :=
      Option.some.inj (hlast.known.symm.trans (by decide +kernel))
    have hlater := hlast.last "PEPE-USDT" pepeMarket hrouted.known (by rw [hmarket])
    exact absurd hlater (by decide +kernel)
  obtain ⟨hstream, hpoll, -⟩ := served_of_routed pepeConnector.markets
  have hreceived := hstream pepeConnector rfl {} [pepeMessage]
  obtain ⟨divisor, hdivisor, hconverted⟩ := (hpoll pepePoller rfl).1 {} pepePrices
    [("PEPE-USDT", ⟨4, ⟨71, 0⟩⟩)] (by decide +kernel)
  have hhalf : pepePoller.divisor pepePrices = .ok 0.5 := by decide +kernel
  obtain rfl : divisor = 0.5 := Except.ok.inj (hdivisor.symm.trans hhalf)
  refine ⟨hrouted, hunrouted, ?_, (hreceived _).2 hunrouted, ?_, (hconverted _).2 hunrouted⟩
  · rw [(hreceived _).1 pepeMarket hrouted]
    decide +kernel
  · rw [(hconverted _).1 pepeMarket hrouted]
    decide +kernel

end IndexPrice.Feed
