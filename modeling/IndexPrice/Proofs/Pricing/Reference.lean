import IndexPrice.Proofs.Price.Store
import IndexPrice.Proofs.Pricing.Looks
import IndexPrice.Proofs.Pricing.Wiring

/-!
# The reference for one market

What pricing hands to the sink for a market is what one consensus, on its own and
from a fresh start, accepts of the lists that the passes find for this market.
Other markets, their sources and their services have no part in it.
-/

namespace IndexPrice.Pricing

/-! ## What sources have offered -/

namespace Action

def offer? (source market : String) : Action → Option Sample
  | .offer name id given => if name = source ∧ id = market then some given else none
  | _ => none

def offered (source market : String) (actions : List Action) : List Sample :=
  actions.filterMap (offer? source market)

end Action

namespace System

/-- The store of a source holds what these samples have left of a market. -/
def Stocked (system : System) (source market : String) (samples : List Sample) : Prop :=
  ∃ store, system.stores.get? source = some store ∧
    store.load market = PriceStore.heldAfter samples

private theorem Stocked.of_transition {system after : System} {action : Action}
    {events : List Event}
    (htransition : Transition system action events after) {source market : String}
    {samples : List Sample} (h : system.Stocked source market samples) :
    after.Stocked source market (samples ++ (action.offer? source market).toList) := by
  obtain ⟨store, hstore, hload⟩ := h
  have hidle : ∀ actions : List Sample, actions = [] → ∀ system' : System,
      system'.stores = system.stores → system'.Stocked source market (samples ++ actions) := by
    rintro _ rfl system' hsame
    rw [List.append_nil, Stocked, hsame]
    exact ⟨store, hstore, hload⟩
  cases htransition with
  | offered name id sample held running =>
      by_cases hname : name = source
      · subst hname
        rw [hstore] at running
        cases running
        refine ⟨_, NameMap.get?_insert_self _ _ _, ?_⟩
        rw [PriceStore.load_offer, hload]
        by_cases hid : id = market
        · simp [Action.offer?, hid, hload]
        · simp [Action.offer?, hid]
      · refine ⟨store, ?_, ?_⟩
        · rw [← hstore]
          exact NameMap.get?_insert_ne _ _ hname
        · simpa [Action.offer?, hname] using hload
  | ignored name id sample unknown =>
      have hname : name ≠ source := by
        rintro rfl
        rw [hstore] at unknown
        cases unknown
      exact hidle _ (by simp [Action.offer?, hname]) _ rfl
  | cancelling => exact hidle _ rfl _ rfl
  | finished now hungUp => exact hidle _ rfl _ rfl
  | ending now idle cancelled => exact hidle _ rfl _ rfl
  | beginning now idle uncancelled => exact hidle _ rfl _ rfl
  | passed now begun next turn behind => exact hidle _ rfl _ rfl
  | looked now begun next desk after forwarded turn present forward => exact hidle _ rfl _ rfl
  | failed now begun next desk fault turn present forward => exact hidle _ rfl _ rfl
  | absent index outcome nobody => exact hidle _ rfl _ rfl
  | served index outcome desk after events present step => exact hidle _ rfl _ rfl

theorem stocked_run {system : System} {source market : String}
    (h : system.Stocked source market []) (actions : List Action) :
    (system.run actions).2.Stocked source market (Action.offered source market actions) := by
  induction actions using List.reverseRecOn with
  | nil => exact h
  | append_singleton actions action ih =>
      have hstep := ih.of_transition (transition_of_step _ action)
      rw [run_concat, Action.offered, List.filterMap_append]
      have hlast : [action].filterMap (Action.offer? source market) =
          (action.offer? source market).toList := by
        cases haction : action.offer? source market <;> simp [haction]
      rw [hlast]
      exact hstep

private theorem Stocked.latest {system : System} {source market : String} {samples : List Sample}
    (h : system.Stocked source market samples) :
    system.latest market source = PriceStore.heldAfter samples := by
  obtain ⟨store, hstore, hload⟩ := h
  rw [System.latest, hstore, Option.bind_some, hload]

end System

/-! ## Runs seen from one market -/

/--
A run of pricing from its start on, and a market that is wired in it and whose
service keeps up.
-/
structure MarketRun (ε : Type) where
  config : Config
  distinct : (config.markets.map (·.id)).Nodup
  builder : Builder ε
  clock : Span
  schedule : Schedule
  started : start config builder clock = .ok schedule
  market : Config.Market
  configured : market ∈ config.markets
  wired : coveringExchanges config builder market.id ≠ []
  actions : List Action
  keepsUp : System.KeepsUp market.id schedule.system actions

namespace MarketRun

variable {ε : Type}

def exchanges (run : MarketRun ε) : List String :=
  coveringExchanges run.config run.builder run.market.id

def maxUseAge (run : MarketRun ε) : Span := run.config.maxUseAge run.market

def looks (run : MarketRun ε) : List Look := run.schedule.system.looks run.market.id run.actions

def final (run : MarketRun ε) : System := (run.schedule.system.run run.actions).2

def published (run : MarketRun ε) : List Float :=
  publishedPrices run.market.id (run.schedule.system.run run.actions).1

/-- The service is still there and has nothing left to take. -/
def CaughtUp (run : MarketRun ε) : Prop :=
  ∀ desk ∈ run.final.desks, desk.market = run.market.id →
    desk.mailbox.closed = false ∧ desk.mailbox.content = none

private theorem stocked (run : MarketRun ε) {exchange : String} (h : exchange ∈ run.exchanges)
    (actions : List Action) :
    (run.schedule.system.run actions).2.Stocked exchange run.market.id
      (Action.offered exchange run.market.id actions) := by
  refine System.stocked_run ⟨NameMap.empty, ?_, rfl⟩ actions
  obtain ⟨sampler, -, hsystem⟩ := system_of_start run.started
  have hknown : exchange ∈ (runningSources run.builder (sourceSpecs run.config)).map (·.1) := by
    rw [exchanges, ← covering_runningSources] at h
    exact (List.filter_sublist.map _).subset h
  have hstores := NameMap.get?_ofList_const
    ((runningSources run.builder (sourceSpecs run.config)).map (·.1))
    (NameMap.empty : PriceStore) exchange
  rw [if_pos hknown, List.map_map] at hstores
  rw [hsystem]
  exact hstores

private theorem follows_start (run : MarketRun ε) :
    ∃ index, run.schedule.system.Follows (freshDesk run.config run.exchanges run.market) index
      [] [] [] := by
  obtain ⟨sampler, hsampler, hsystem⟩ := system_of_start run.started
  have hcovering := covering_runningSources run.config run.builder run.market.id
  have hmem := freshDesk_mem_desks run.configured (hcovering.trans_ne run.wired)
  rw [hcovering] at hmem
  obtain ⟨index, hindex⟩ := List.mem_iff_getElem?.mp hmem
  have hdue : sampler.due index = [] := by
    rcases hsampler with rfl | rfl <;> rfl
  refine ⟨index, ?_, ⟨[], rfl, by simp, ?_⟩, _, [], [], rfl, ?_, ⟨rfl, rfl, rfl⟩, ?_, ?_, ?_⟩
  · rw [hsystem]
    exact (markets_desks_sublist _ _).nodup run.distinct
  · rw [hsystem, hdue]
    exact fun _ => rfl
  · rw [hsystem]
    exact hindex
  · exact .blank _ rfl rfl
  · exact fun _ => rfl
  · intro hclosed
    cases hclosed

private theorem follows (run : MarketRun ε) :
    ∃ index, run.final.Follows (freshDesk run.config run.exchanges run.market) index run.looks
      (run.schedule.system.passes run.actions) run.published := by
  obtain ⟨index, hstart⟩ := run.follows_start
  exact ⟨index, System.follows_run hstart run.keepsUp⟩

/-! ## Two runs -/

/-- The looks see the same of these exchanges at the same times. -/
def SeeAlike (exchanges : List String) (first second : List Look) : Prop :=
  List.Forall₂ (fun one other => one.begun = other.begun ∧
    ∀ exchange ∈ exchanges, one.latest exchange = other.latest exchange) first second

private theorem foundLists_eq_of_seeAlike {exchanges : List String} {first second : List Look}
    (h : SeeAlike exchanges first second) (maxUseAge : Span) :
    foundLists exchanges maxUseAge first = foundLists exchanges maxUseAge second := by
  unfold foundLists
  congr 1
  induction h with
  | nil => rfl
  | cons hlook hrest ih =>
      rw [List.map_cons, List.map_cons, ih]
      congr 1
      refine List.filterMap_congr fun exchange hexchange => ?_
      rw [hlook.1, hlook.2 exchange hexchange]

private theorem acceptedPrices_prefix {earlier lists : List Tick} (h : earlier <+: lists) :
    acceptedPrices earlier <+: acceptedPrices lists := by
  obtain ⟨later, rfl⟩ := h
  rw [acceptedPrices, acceptedPrices, Consensus.verdicts_append, List.filterMap_append]
  exact List.prefix_append _ _

theorem ledger (run : MarketRun ε) :
    ∃ taken left, taken ++ left = foundLists run.exchanges run.maxUseAge run.looks ∧
      left.length ≤ 1 ∧ run.published = acceptedPrices taken ∧
      ∃ desk ∈ run.final.desks, desk.market = run.market.id ∧
        (desk.mailbox.closed = false → left = desk.mailbox.content.toList) := by
  obtain ⟨index, -, -, desk, taken, left, hall, hstanding⟩ := run.follows
  exact ⟨taken, left, hall, hstanding.ledger.few, hstanding.ledger.paid, desk,
    List.mem_of_getElem? hstanding.present, hstanding.alike.market,
    fun hopened => (hstanding.ledger.opened hopened).1⟩

theorem published_of_caughtUp (run : MarketRun ε) (h : run.CaughtUp) :
    run.published = acceptedPrices (foundLists run.exchanges run.maxUseAge run.looks) := by
  obtain ⟨taken, left, hall, -, hpublished, desk, hdesk, hmarket, hleft⟩ := run.ledger
  obtain ⟨hopened, hempty⟩ := h desk hdesk hmarket
  have hnone : left = [] := by rw [hleft hopened, hempty, Option.toList_none]
  rw [hpublished, ← hall, hnone, List.append_nil]

private theorem published_prefix (run : MarketRun ε) :
    run.published <+: acceptedPrices (foundLists run.exchanges run.maxUseAge run.looks) := by
  obtain ⟨taken, left, hall, -, hpublished, -⟩ := run.ledger
  rw [hpublished, ← hall]
  exact acceptedPrices_prefix (List.prefix_append taken left)

/--
Pricing publishes for a market what a fresh consensus accepts of the lists found
for it.  Its exchanges are those whose running source covers it, each of them
once and in ascending order, and sources are asked for what the configuration
reads from their exchange.  A list has the prices of those whose latest sample is
young enough.  Every pass looks at the market once, except perhaps the last one,
and every list but perhaps the last one has been taken out.  So runs in which the
market's samples are alike publish the same, whatever else is different.
-/
theorem published_eq_reference (run : MarketRun ε) :
    (run.exchanges.Pairwise (· < ·) ∧
      (∀ exchange, exchange ∈ run.exchanges ↔
        ∃ spec ∈ sourceSpecs run.config, spec.exchange = exchange ∧
          ∃ source, run.builder spec = .ok (some source) ∧ run.market.id ∈ source.markets) ∧
      (∀ exchange,
        (∃ spec ∈ sourceSpecs run.config, spec.exchange = exchange ∧
          spec.markets.contains run.market.id = true) ↔
        ∃ ticker ∈ run.market.sources, ticker.exchange = exchange)) ∧
    (∀ earlier, earlier <+: run.actions → ∀ exchange ∈ run.exchanges,
      (run.schedule.system.run earlier).2.latest run.market.id exchange =
        PriceStore.heldAfter (Action.offered exchange run.market.id earlier)) ∧
    (∃ pending, run.schedule.system.passes run.actions = run.looks.map (·.begun) ++ pending ∧
      pending.length ≤ 1) ∧
    (∃ taken left, taken ++ left = foundLists run.exchanges run.maxUseAge run.looks ∧
      left.length ≤ 1 ∧ run.published = acceptedPrices taken ∧
      ∃ desk ∈ run.final.desks, desk.market = run.market.id ∧
        (desk.mailbox.closed = false → left = desk.mailbox.content.toList)) ∧
    (∀ other : MarketRun ε, other.exchanges = run.exchanges → other.maxUseAge = run.maxUseAge →
      SeeAlike run.exchanges other.looks run.looks →
        (other.CaughtUp → run.CaughtUp → other.published = run.published) ∧
        (other.published <+: run.published ∨ run.published <+: other.published)) := by
  refine ⟨⟨coveringExchanges_pairwise _ _ _, fun exchange => mem_coveringExchanges, ?_⟩, ?_, ?_,
    run.ledger, ?_⟩
  · intro exchange
    rw [contains_of_sourceSpecs]
    constructor
    · rintro ⟨market, hmarket, hid, hticker⟩
      rwa [← List.inj_on_of_nodup_map run.distinct hmarket run.configured hid]
    · intro hticker
      exact ⟨run.market, run.configured, rfl, hticker⟩
  · intro earlier _ exchange hexchange
    exact (run.stocked hexchange earlier).latest
  · obtain ⟨index, -, ⟨pending, hpasses, hpending⟩, -⟩ := run.follows
    exact ⟨pending, hpasses, hpending.few⟩
  · intro other hexchanges hage hlooks
    have hlists : foundLists other.exchanges other.maxUseAge other.looks =
        foundLists run.exchanges run.maxUseAge run.looks := by
      rw [hexchanges, hage, foundLists_eq_of_seeAlike hlooks]
    constructor
    · intro hother hrun
      rw [other.published_of_caughtUp hother, run.published_of_caughtUp hrun, hlists]
    · have hprefix := other.published_prefix
      rw [hlists] at hprefix
      exact List.prefix_or_prefix_of_prefix hprefix run.published_prefix

/-! ### A pair of markets -/

def pairConfig : Config where
  service := { name := "pair" }
  markets := [
    { id := "ETH", sources := [{ exchange := "a", instrument := "ETHUSDT" }] },
    { id := "BTC", sources := [{ exchange := "b", instrument := "BTCUSDT" },
      { exchange := "a", instrument := "BTCUSDT" }] }]

def pairBuilder : Builder Unit := fun spec => .ok (some ⟨spec.markets.names, []⟩)

def pairActions (before between : List Action) : List Action :=
  before ++ [.offer "a" "BTC" ⟨100, ⟨70, 0⟩⟩, .offer "b" "BTC" ⟨102, ⟨0, 0⟩⟩] ++
    List.replicate 4 (.sample ⟨75, 0⟩) ++ [.serve 1 .never, .serve 1 .delivered] ++ between ++
      List.replicate 4 (.sample ⟨150, 0⟩) ++ [.serve 1 .never]

def pairSchedule : Schedule :=
  let sources := runningSources pairBuilder (sourceSpecs pairConfig)
  .start {
    stores := NameMap.ofList (sources.map fun source => (source.1, NameMap.empty))
    desks := desks pairConfig sources } pairConfig.updateInterval 0

def pairRun (before between : List Action)
    (keepsUp : System.KeepsUp "BTC" pairSchedule.system (pairActions before between)) :
    MarketRun Unit where
  config := pairConfig
  distinct := by decide
  builder := pairBuilder
  clock := 0
  schedule := pairSchedule
  started := rfl
  market := pairConfig.markets[1]
  configured := List.getElem_mem _
  wired := by decide +kernel
  actions := pairActions before between
  keepsUp := keepsUp

def quietRun : MarketRun Unit := pairRun [] [] (by decide +kernel)

def busyRun : MarketRun Unit :=
  pairRun [.offer "a" "ETH" ⟨3, ⟨70, 0⟩⟩] [.serve 0 .never, .serve 0 .failed] (by decide +kernel)

theorem published_of_pair :
    quietRun.exchanges = ["a", "b"] ∧ quietRun.published = [100] ∧
      (∃ taken left, taken ++ left = [[100]] ∧ left.length ≤ 1 ∧
        quietRun.published = acceptedPrices taken) ∧
      busyRun.published = quietRun.published := by
  obtain ⟨-, -, -, ⟨taken, left, hall, hfew, hpaid, -⟩, hothers⟩ := quietRun.published_eq_reference
  have hlists : foundLists quietRun.exchanges quietRun.maxUseAge quietRun.looks =
      [[100]] := by decide +kernel
  have hlooks : SeeAlike quietRun.exchanges busyRun.looks quietRun.looks :=
    .cons ⟨rfl, by decide +kernel⟩ (.cons ⟨rfl, by decide +kernel⟩ .nil)
  refine ⟨by decide +kernel, by decide +kernel, ⟨taken, left, hall.trans hlists, hfew, hpaid⟩, ?_⟩
  refine (hothers busyRun rfl rfl hlooks).1 ?_ ?_
  · unfold CaughtUp
    decide +kernel
  · unfold CaughtUp
    decide +kernel

end MarketRun

end IndexPrice.Pricing
