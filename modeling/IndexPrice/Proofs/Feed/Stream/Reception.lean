import IndexPrice.Proofs.Feed.Routing

/-!
# What a stream leaves behind

The store of a connector is what comes of offering the samples of its price frames,
one after another, and the stored ones are counted.  Nothing else that comes over the
stream touches either, and only the end of a session asks for a reconnect.
-/

namespace IndexPrice.Feed.Stream

variable {Quote : Type}

theorem Format.classify_eq_price {format : Format Quote} {raw : RawFrame} {instrument : String}
    {quote : Quote} :
    format.classify raw = .price instrument quote ↔
      ∃ text, raw = .text text ∧ format.decode? text = some (instrument, quote) := by
  cases raw with
  | binary bytes => simp [classify]
  | ping bytes => simp [classify]
  | pong bytes => simp [classify]
  | text text =>
      simp only [classify, RawFrame.text.injEq, exists_eq_left']
      cases hdecoded : format.decode? text with
      | none =>
          simp only [reduceCtorEq, iff_false]
          split
          · simp
          · split <;> simp
      | some decoded => simp [Prod.ext_iff]

namespace Connector

variable {connector : Connector Quote} {received : Received} {message : Instant × Incoming}

/-! ## Single messages -/

theorem sent?_eq_some
    (distinct : ∀ id other market twin, connector.markets.get? id = some market →
      connector.markets.get? other = some twin →
        market.ticker.instrument = twin.ticker.instrument → id = other)
    {id : String} {sample : Sample} :
    connector.sent? message = some (id, sample) ↔
      ∃ text instrument quote market, message.2 = .frame (.text text) ∧
        connector.format.decode? text = some (instrument, quote) ∧
        connector.markets.get? id = some market ∧ market.ticker.instrument = instrument ∧
        connector.format.sample message.1 quote market.multiplier = .ok sample := by
  have hrouted := (forall_routed_iff connector.markets).mpr distinct
  obtain ⟨now, incoming⟩ := message
  constructor
  · intro hsent
    cases incoming with
    | close => cases hsent
    | loose bytes => cases hsent
    | frame raw =>
        cases hclassified : connector.format.classify raw with
        | ping => simp [sent?, hclassified] at hsent
        | pong => simp [sent?, hclassified] at hsent
        | ignored => simp [sent?, hclassified] at hsent
        | price instrument quote =>
            obtain ⟨text, rfl, hdecoded⟩ := Format.classify_eq_price.mp hclassified
            simp only [sent?, hclassified] at hsent
            obtain ⟨market, hmarket, hinstrument, hread⟩ := sample?_eq_some.mp hsent
            exact ⟨text, instrument, quote, market, rfl, hdecoded, hmarket.known, hinstrument,
              hread⟩
  · rintro ⟨text, instrument, quote, market, rfl, hdecoded, hknown, hinstrument, hread⟩
    have hclassified := Format.classify_eq_price.mpr ⟨text, rfl, hdecoded⟩
    simp only [sent?, hclassified]
    exact sample?_eq_some.mpr ⟨market, hrouted id market hknown, hinstrument, hread⟩

private theorem receive_of_sent {entry : String × Sample}
    (h : connector.sent? message = some entry) :
    connector.receive message.1 received message.2 = (.none, connector.take received entry) := by
  obtain ⟨now, incoming⟩ := message
  cases incoming with
  | close => cases h
  | loose bytes => cases h
  | frame raw =>
      simp only [sent?] at h
      cases hclassified : connector.format.classify raw with
      | ping => simp [hclassified] at h
      | pong => simp [hclassified] at h
      | ignored => simp [hclassified] at h
      | price instrument quote =>
          simp only [hclassified] at h
          simp only [receive, hclassified, h]

theorem receive_of_unsent (h : connector.sent? message = none) :
    (connector.receive message.1 received message.2).2.store = received.store ∧
      (connector.receive message.1 received message.2).2.metrics = received.metrics := by
  obtain ⟨now, incoming⟩ := message
  cases incoming with
  | close => exact ⟨rfl, rfl⟩
  | loose bytes => exact ⟨rfl, rfl⟩
  | frame raw =>
      simp only [sent?] at h
      simp only [receive]
      cases hclassified : connector.format.classify raw with
      | ping => exact ⟨rfl, rfl⟩
      | pong => exact ⟨rfl, rfl⟩
      | ignored => exact ⟨rfl, rfl⟩
      | price instrument quote =>
          simp only [hclassified] at h
          simp [h]

private theorem reconnect_iff_close (connector : Connector Quote) (now : Instant)
    (received : Received) (incoming : Incoming) :
    (connector.receive now received incoming).1 = .reconnect ↔ incoming = .close := by
  cases incoming with
  | close => exact iff_of_true rfl rfl
  | loose bytes => simp [receive]
  | frame raw =>
      simp only [receive]
      cases connector.format.classify raw with
      | pong => simp
      | ignored => simp
      | ping => cases connector.format.pong <;> simp
      | price instrument quote =>
          dsimp only
          cases connector.sample? now instrument quote <;> simp

private theorem metrics_take (connector : Connector Quote) (received : Received)
    (entry : String × Sample) :
    (connector.take received entry).metrics =
      if (received.store.offer entry.1 entry.2).1 then
        received.metrics.sampleStored connector.format.exchange
      else received.metrics := by
  unfold take PriceStore.offer
  cases received.store.isNews entry.1 entry.2 <;> rfl

/-! ## Sequences of messages -/

theorem receiveAll_concat (connector : Connector Quote) (received : Received)
    (messages : List (Instant × Incoming)) (last : Instant × Incoming) :
    connector.receiveAll received (messages ++ [last]) =
      (connector.receive last.1 (connector.receiveAll received messages) last.2).2 := by
  simp [receiveAll]

private theorem store_receiveAll (connector : Connector Quote) (received : Received)
    (messages : List (Instant × Incoming)) :
    (connector.receiveAll received messages).store =
      (received.store.offerAll (messages.filterMap connector.sent?)).2 := by
  induction messages using List.reverseRecOn with
  | nil => rfl
  | append_singleton messages message ih =>
      rw [receiveAll_concat, List.filterMap_append]
      cases hsent : connector.sent? message with
      | none => simp [hsent, (receive_of_unsent hsent).1, ih]
      | some entry =>
          simp only [hsent, List.filterMap_cons, List.filterMap_nil]
          rw [receive_of_sent hsent, store_take, ih, PriceStore.offerAll_concat]

private theorem metrics_receiveAll (connector : Connector Quote) (received : Received)
    (messages : List (Instant × Incoming)) :
    (connector.receiveAll received messages).metrics =
        { received.metrics with
          storedSamples := (connector.receiveAll received messages).metrics.storedSamples } ∧
      ∀ exchange, (connector.receiveAll received messages).metrics.storedSamples.of exchange =
        received.metrics.storedSamples.of exchange +
          if connector.format.exchange = exchange then
            (received.store.offerAll (messages.filterMap connector.sent?)).1.count true
          else 0 := by
  induction messages using List.reverseRecOn with
  | nil => exact ⟨rfl, fun exchange => by simp [receiveAll, PriceStore.offerAll]⟩
  | append_singleton messages message ih =>
      obtain ⟨hothers, hcount⟩ := ih
      rw [receiveAll_concat, List.filterMap_append]
      cases hsent : connector.sent? message with
      | none =>
          rw [(receive_of_unsent hsent).2]
          simpa [hsent] using ⟨hothers, hcount⟩
      | some entry =>
          simp only [hsent, List.filterMap_cons, List.filterMap_nil]
          rw [receive_of_sent hsent, metrics_take, store_receiveAll, PriceStore.offerAll_concat]
          cases (PriceStore.offer _ entry.1 entry.2).1 with
          | false => simpa using ⟨hothers, hcount⟩
          | true =>
              refine ⟨?_, fun exchange => ?_⟩
              · rw [hothers]
                rfl
              · rw [if_pos rfl, Metrics.sampleStored, Counts.of_count, hcount]
                split <;> simp [Nat.add_assoc]

/--
For markets that their instruments tell apart, the store is that of offering the
samples of the price frames in order: of those texts that the exchange's format reads
as a price of a configured instrument, and whose sample by the multiplier of that
market is sound.  The counter of the exchange goes up by the samples that were stored.
Every other message leaves store and counters as they are, and only the end of the
session asks for a reconnect.
-/
theorem store_eq_offerAll (connector : Connector Quote)
    (distinct : ∀ id other market twin, connector.markets.get? id = some market →
      connector.markets.get? other = some twin →
        market.ticker.instrument = twin.ticker.instrument → id = other)
    (received : Received) (messages : List (Instant × Incoming)) :
    (∀ message id sample, connector.sent? message = some (id, sample) ↔
      ∃ text instrument quote market, message.2 = .frame (.text text) ∧
        connector.format.decode? text = some (instrument, quote) ∧
        connector.markets.get? id = some market ∧ market.ticker.instrument = instrument ∧
        connector.format.sample message.1 quote market.multiplier = .ok sample) ∧
    (connector.receiveAll received messages).store =
      (received.store.offerAll (messages.filterMap connector.sent?)).2 ∧
    (connector.receiveAll received messages).metrics =
      { received.metrics with
        storedSamples := (connector.receiveAll received messages).metrics.storedSamples } ∧
    (∀ exchange, (connector.receiveAll received messages).metrics.storedSamples.of exchange =
      received.metrics.storedSamples.of exchange +
        if connector.format.exchange = exchange then
          (received.store.offerAll (messages.filterMap connector.sent?)).1.count true
        else 0) ∧
    (∀ message, connector.sent? message = none →
      (connector.receive message.1 received message.2).2.store = received.store ∧
        (connector.receive message.1 received message.2).2.metrics = received.metrics) ∧
    ∀ now incoming,
      (connector.receive now received incoming).1 = .reconnect ↔ incoming = .close := by
  obtain ⟨hothers, hcount⟩ := metrics_receiveAll connector received messages
  exact ⟨fun message id sample => sent?_eq_some distinct, store_receiveAll _ _ _, hothers, hcount,
    fun message => receive_of_unsent, fun now => reconnect_iff_close _ _ _⟩

/-! ### Two markets on one stream -/

def pairConnector : Connector Exchange.Binance.Candle where
  format := Exchange.Binance.format
  markets := NameMap.ofList (["btc", "eth"].map fun coin => (coin, {
    ticker := { exchange := "binance", instrument := coin ++ "usdt@kline_1m" }
    multiplier := 2
    maxUseAge := 60 }))

def candleEvent (instrument price : String) : Incoming :=
  .frame (.text ("\x7b\"stream\":\"" ++ instrument ++ "\",\"data\":\x7b\"k\":" ++
    "\x7b\"c\":\"" ++ price ++ "\",\"T\":1600000000000\x7d\x7d\x7d"))

def mixedMessages : List (Instant × Incoming) :=
  [candleEvent "btcusdt@kline_1m" "10", candleEvent "btcusdt@kline_1m" "10",
    .frame (.ping []), candleEvent "ethusdt@kline_1m" "1", candleEvent "dogeusdt@kline_1m" "7",
    candleEvent "ethusdt@kline_1m" "soon", .frame (.binary [1]), .loose [1], .close,
    candleEvent "btcusdt@kline_1m" "11"].map (⟨1700000000, 0⟩, ·)

theorem store_of_mixedMessages :
    (pairConnector.receiveAll {} mixedMessages).store.entries =
        [("btc", ⟨22, ⟨1600000000, 0⟩⟩), ("eth", ⟨2, ⟨1600000000, 0⟩⟩)] ∧
      (pairConnector.receiveAll {} mixedMessages).metrics.storedSamples.of "binance" = 3 := by
  obtain ⟨-, hstore, -, hcount, -⟩ := pairConnector.store_eq_offerAll
    (distinct_of_nodup (by decide +kernel)) {} mixedMessages
  rw [hstore, hcount]
  decide +kernel

end Connector

end IndexPrice.Feed.Stream
