import IndexPrice.Config.Validation
import IndexPrice.Exchange.Binance
import IndexPrice.Feed.Stream.Connector
import IndexPrice.Proofs.Consensus.Finite
import IndexPrice.Proofs.Price.Store
import IndexPrice.Proofs.Pricing.Ledger
import IndexPrice.Proofs.Pricing.Wiring

/-!
# Finite published prices

What is published for a market is made of prices that have been offered for it: they
lie in a store, then in a list in the mailbox, and the consensus rule picks one of the
list or a mean of two.  So everything published is finite if what is offered is, and
nothing in the way of a price excludes one that is not finite if it is the only one.
-/

namespace IndexPrice.Pricing

/-! ## Where prices lie -/

/-- The prices in the stores and in the mailboxes all have a property, market by market. -/
structure System.Holds (P : String → Float → Prop) (system : System) : Prop where
  stored : ∀ source store, system.stores.get? source = some store →
    ∀ market sample, store.load market = some sample → P market sample.price
  posted : ∀ desk ∈ system.desks, ∀ tick, desk.mailbox.content = some tick →
    ∀ price ∈ tick, P desk.market price

private theorem Desk.sample_of_freshPrices {desk : Desk} {stores : Stores} {now : Instant}
    {price : Float} (h : price ∈ desk.freshPrices stores now) :
    ∃ source store sample, stores.get? source = some store ∧
      store.load desk.market = some sample ∧ sample.price = price := by
  obtain ⟨sample, hsample, hprice⟩ := List.mem_map.mp h
  obtain ⟨source, -, hfound⟩ := List.mem_filterMap.mp (List.mem_filter.mp hsample).1
  obtain ⟨store, hstore, hload⟩ := Option.bind_eq_some_iff.mp hfound
  exact ⟨source, store, sample, hstore, hload, hprice⟩

namespace System

variable {P : String → Float → Prop} {system after : System} {action : Action}
  {events : List Event}

private theorem Holds.of_transition (h : system.Holds P)
    (htransition : Transition system action events after)
    (offered : ∀ source market sample, action = .offer source market sample →
      P market sample.price) : after.Holds P := by
  cases htransition with
  | offered source market sample store running =>
      refine ⟨fun other held hother id kept hload => ?_, h.posted⟩
      dsimp only at hother
      rw [NameMap.get?_insert] at hother
      split at hother
      · cases hother
        rw [PriceStore.load_offer] at hload
        split at hload
        · next hid =>
            subst hid
            rcases PriceStore.eq_or_eq_of_hold hload with rfl | hbefore
            · exact offered source market kept rfl
            · exact h.stored source store running market kept hbefore
        · exact h.stored source store running id kept hload
      · exact h.stored other held hother id kept hload
  | ignored source market sample unknown => exact h
  | cancelling => exact ⟨h.stored, h.posted⟩
  | finished now hungUp => exact h
  | ending now idle cancelled => exact ⟨h.stored, h.posted⟩
  | beginning now idle uncancelled => exact ⟨h.stored, h.posted⟩
  | passed now begun next turn behind => exact ⟨h.stored, h.posted⟩
  | looked now begun next desk after forwarded turn present forward =>
      refine ⟨h.stored, forall_desks_set h.posted next ?_⟩
      cases Desk.forwarding_of_forward forward with
      | nothing stale => exact h.posted desk (List.mem_of_getElem? present)
      | posted fresh opened emptied =>
          intro tick htick price hprice
          obtain rfl := Option.some.inj htick
          obtain ⟨source, store, sample, hstore, hload, rfl⟩ := Desk.sample_of_freshPrices hprice
          exact h.stored source store hstore desk.market sample hload
  | failed now begun next desk fault turn present forward => exact ⟨h.stored, h.posted⟩
  | absent index outcome nobody => exact h
  | served index outcome desk next events present step =>
      have hposted := h.posted desk (List.mem_of_getElem? present)
      refine ⟨h.stored, forall_desks_set h.posted index ?_⟩
      cases Desk.serving_of_step step with
      | finished outcome ended => exact hposted
      | leaving outcome running reason => exact fun tick htick => by cases htick
      | waiting outcome idle uncancelled emptied => exact hposted
      | accepting outcome tick accepted next idle uncancelled content verdict =>
          exact fun tick htick => by cases htick
      | rejecting outcome tick rejection next idle uncancelled content verdict =>
          exact fun tick htick => by cases htick
      | pending call busy uncancelled => exact hposted
      | concluding outcome call busy uncancelled answered => exact hposted

private theorem composed_of_published (h : Transition system action events after) {market : String}
    {price : Float} (hpublished : .published market price ∈ events) :
    ∃ desk ∈ system.desks, desk.market = market ∧
      ∃ tick, desk.mailbox.content = some tick ∧ Composed tick price := by
  cases h with
  | served index outcome desk next events present step =>
      cases Desk.serving_of_step step with
      | accepting outcome tick accepted next idle uncancelled content verdict =>
          simp only [List.mem_cons, reduceCtorEq, Event.published.injEq, List.not_mem_nil,
            or_false, false_or] at hpublished
          obtain ⟨rfl, rfl⟩ := hpublished
          exact ⟨desk, List.mem_of_getElem? present, rfl, tick, content,
            composed_of_evaluate verdict⟩
      | rejecting outcome tick rejection next idle uncancelled content verdict =>
          simp at hpublished
      | concluding outcome call busy uncancelled answered =>
          cases outcome <;> simp [MarketService.conclude] at hpublished
      | finished outcome ended => cases hpublished
      | leaving outcome running reason => cases hpublished
      | waiting outcome idle uncancelled emptied => cases hpublished
      | pending call busy uncancelled => cases hpublished
  | _ => cases hpublished

end System

/-! ## Runs -/

def Action.price? (market : String) : Action → Option Float
  | .offer _ id given => if id = market then some given.price else none
  | _ => none

def offeredPrices (market : String) (actions : List Action) : List Float :=
  actions.filterMap (Action.price? market)

private theorem mem_offeredPrices {source market : String} {sample : Sample} {actions : List Action}
    (h : .offer source market sample ∈ actions) : sample.price ∈ offeredPrices market actions :=
  List.mem_filterMap.mpr ⟨_, h, if_pos rfl⟩

namespace System

theorem holds_run {P : String → Float → Prop} {system : System} (h : system.Holds P)
    {actions : List Action}
    (offered : ∀ source market sample, .offer source market sample ∈ actions →
      P market sample.price) : (system.run actions).2.Holds P := by
  induction actions using List.reverseRecOn with
  | nil => exact h
  | append_singleton actions action ih =>
      rw [run_concat]
      refine (ih fun source market sample hmem => ?_).of_transition (transition_of_step _ action) ?_
      · exact offered source market sample (List.mem_append_left _ hmem)
      · rintro source market sample rfl
        exact offered source market sample (by simp)

/-- What is published of a run is composed of prices with the property that all offers have. -/
theorem composed_run {P : String → Float → Prop} {system : System} (h : system.Holds P)
    {actions : List Action}
    (offered : ∀ source market sample, .offer source market sample ∈ actions →
      P market sample.price) {market : String} {price : Float}
    (hpublished : .published market price ∈ (system.run actions).1) :
    ∃ tick, (∀ source ∈ tick, P market source) ∧ Composed tick price := by
  induction actions using List.reverseRecOn with
  | nil => cases hpublished
  | append_singleton actions action ih =>
      have hbefore : ∀ source market sample, .offer source market sample ∈ actions →
          P market sample.price := fun source market sample hmem =>
        offered source market sample (List.mem_append_left _ hmem)
      rw [run_concat] at hpublished
      rcases List.mem_append.mp hpublished with hearlier | hlast
      · exact ih hbefore hearlier
      · obtain ⟨desk, hdesk, rfl, tick, hcontent, hcomposed⟩ :=
          composed_of_published (transition_of_step _ action) hlast
        exact ⟨tick, (holds_run h hbefore).posted desk hdesk tick hcontent, hcomposed⟩

end System

private theorem holds_of_start {ε : Type} {config : Config} {builder : Builder ε} {clock : Span}
    {schedule : Schedule} (h : start config builder clock = .ok schedule)
    (P : String → Float → Prop) : schedule.system.Holds P := by
  obtain ⟨sampler, -, hsystem⟩ := system_of_start h
  rw [hsystem]
  constructor
  · intro source store hstore market sample hload
    have hstores := NameMap.get?_ofList_const
      ((runningSources builder (sourceSpecs config)).map (·.1)) (NameMap.empty : PriceStore) source
    rw [List.map_map] at hstores
    obtain rfl : store = NameMap.empty := by
      have hsome := hstores.symm.trans hstore
      split at hsome
      · exact (Option.some.inj hsome).symm
      · cases hsome
    cases hload
  · intro desk hdesk tick hcontent
    obtain ⟨exchanges, market, rfl⟩ := eq_freshDesk_of_mem_desks hdesk
    cases hcontent

private theorem mem_publishedPrices {market : String} {price : Float} {events : List Event} :
    price ∈ publishedPrices market events ↔ .published market price ∈ events := by
  unfold publishedPrices
  rw [List.mem_filterMap]
  constructor
  · rintro ⟨event, hevent, hprice⟩
    cases event with
    | published name value =>
        simp only [Event.published?, Option.ite_none_right_eq_some, Option.some.injEq] at hprice
        obtain ⟨rfl, rfl⟩ := hprice
        exact hevent
    | accepted name forced => cases hprice
    | rejected name reason => cases hprice
    | sinkFailed name => cases hprice
  · exact fun hevent => ⟨_, hevent, if_pos rfl⟩

/--
A published price that is not finite has been offered as it is, or is the mean of two
finite prices whose sum is not finite.  So everything published for a market is finite
if every price offered for it lies well within the range of doubles.
-/
theorem published_isFinite {ε : Type} {config : Config} {builder : Builder ε} {clock : Span}
    {schedule : Schedule} (started : start config builder clock = .ok schedule)
    (actions : List Action) (market : String) :
    (∀ price ∈ publishedPrices market (schedule.system.run actions).1, price.isFinite = false →
      price ∈ offeredPrices market actions ∨
        ∃ lower ∈ offeredPrices market actions, ∃ upper ∈ offeredPrices market actions,
          lower.isFinite = true ∧ upper.isFinite = true ∧ (lower + upper).isFinite = false ∧
            price = (lower + upper) / 2.0) ∧
    ((∀ price ∈ offeredPrices market actions, -1e307 < price ∧ price < 1e307) →
      ∀ price ∈ publishedPrices market (schedule.system.run actions).1,
        price.isFinite = true) := by
  have hcause : ∀ price ∈ publishedPrices market (schedule.system.run actions).1,
      price.isFinite = false → price ∈ offeredPrices market actions ∨
        ∃ lower ∈ offeredPrices market actions, ∃ upper ∈ offeredPrices market actions,
          lower.isFinite = true ∧ upper.isFinite = true ∧ (lower + upper).isFinite = false ∧
            price = (lower + upper) / 2.0 := by
    intro price hprice hinfinite
    -- the property that the run keeps: to be among the offers for this market
    have hholds := holds_of_start started fun id price =>
      id = market → price ∈ offeredPrices market actions
    obtain ⟨tick, htick, hcomposed⟩ := System.composed_run hholds
      (fun source id sample hmem hid => hid ▸ mem_offeredPrices hmem)
      (mem_publishedPrices.mp hprice)
    rcases hcomposed.of_not_finite hinfinite with halone | hmean
    · exact .inl (htick price (by simp [halone]) rfl)
    · obtain ⟨lower, hlower, upper, hupper, hsum⟩ := hmean
      exact .inr ⟨lower, htick lower hlower rfl, upper, htick upper hupper rfl, hsum⟩
  refine ⟨hcause, fun hbetween price hprice => ?_⟩
  cases hfinite : price.isFinite with
  | true => rfl
  | false =>
      rcases hcause price hprice hfinite with hoffered | hmean
      · obtain ⟨hleft, hright⟩ := hbetween price hoffered
        exact hfinite.symm.trans (Decimal.isFinite_of_between hleft hright)
      · obtain ⟨lower, hlower, upper, hupper, -, -, hsum, -⟩ := hmean
        have hadd := Decimal.isFinite_add_of_between (hbetween lower hlower) (hbetween upper hupper)
        exact hsum.symm.trans hadd

/-! ### One price -/

def soleActions (sample : Sample) : List Action :=
  [.offer "binance" "BTC" sample, .sample ⟨1700000010, 0⟩, .sample ⟨1700000010, 0⟩,
    .serve 0 .never]

theorem published_of_moderate :
    (∀ price ∈ offeredPrices "BTC" (soleActions ⟨100, ⟨1700000000, 0⟩⟩),
      -1e307 < price ∧ price < 1e307) ∧
    publishedPrices "BTC" (soleSchedule.system.run (soleActions ⟨100, ⟨1700000000, 0⟩⟩)).1 =
      [100] ∧
    ∀ price ∈ publishedPrices "BTC"
      (soleSchedule.system.run (soleActions ⟨100, ⟨1700000000, 0⟩⟩)).1,
        price.isFinite = true := by
  have hbetween : ∀ price ∈ offeredPrices "BTC" (soleActions ⟨100, ⟨1700000000, 0⟩⟩),
      -1e307 < price ∧ price < 1e307 := by decide +kernel
  exact ⟨hbetween, by decide +kernel, (published_isFinite start_sole _ "BTC").2 hbetween⟩

def soleConnector : Feed.Stream.Connector Exchange.Binance.Candle where
  format := Exchange.Binance.format
  markets := ((byExchange soleConfig).get? "binance").getD NameMap.empty

/-- A price in words that every reader of decimal numbers knows. -/
def infiniteEvent : String :=
  "\x7b\"stream\":\"btcusdt@kline_1m\",\"data\":\x7b\"k\":" ++
    "\x7b\"c\":\"inf\",\"T\":1700000000000\x7d\x7d\x7d"

theorem infinity_published :
    soleConfig.fault? = none ∧ start soleConfig soleBuilder 0 = .ok soleSchedule ∧
      (soleConnector.receive ⟨1700000005, 0⟩ {} (.frame (.text infiniteEvent))).2.store.load
        "BTC" = some ⟨1.0 / 0.0, ⟨1700000000, 0⟩⟩ ∧
      publishedPrices "BTC"
        (soleSchedule.system.run (soleActions ⟨1.0 / 0.0, ⟨1700000000, 0⟩⟩)).1 = [1.0 / 0.0] ∧
      (1.0 / 0.0 : Float).isFinite = false :=
  ⟨by decide +kernel, start_sole, by decide +kernel, by decide +kernel, by decide +kernel⟩

end IndexPrice.Pricing
