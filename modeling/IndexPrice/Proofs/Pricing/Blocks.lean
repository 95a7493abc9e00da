import IndexPrice.Config.Validation
import IndexPrice.Proofs.Pricing.Looks
import IndexPrice.Proofs.Pricing.Wiring

/-!
# One service for each market block

Validation lets several blocks of a configuration have one market id.  A start gives
each of them a desk and a service of its own, all with the same sources, so a pass
prices that market as often as there are blocks.  For the feed of an exchange the last
block that names it counts, with its multiplier.
-/

namespace IndexPrice.Pricing

variable {ε : Type}

def blocksOf (config : Config) (id : String) : List Config.Market :=
  config.markets.filter (·.id = id)

/-! ## Desks of a market -/

private theorem market_freshDesk (config : Config) (exchanges : List String)
    (market : Config.Market) :
    (freshDesk config exchanges market).market = market.id := rfl

private theorem filter_desks (config : Config) (sources : List (String × Source)) (id : String) :
    (desks config sources).filter (·.market = id) =
      if covering sources id = [] then []
      else (blocksOf config id).map (freshDesk config (covering sources id)) := by
  unfold desks blocksOf
  generalize config.markets = markets
  induction markets with
  | nil => simp
  | cons market rest ih =>
      rw [List.filterMap_cons, desk?_eq, List.filter_cons]
      by_cases hid : market.id = id
      · subst hid
        by_cases hcovered : covering sources market.id = []
        · simpa [hcovered] using ih
        · rw [if_neg hcovered] at ih ⊢
          simpa [market_freshDesk, hcovered] using ih
      · by_cases hcovered : covering sources market.id = []
        · simpa [hcovered, hid] using ih
        · simpa [hcovered, hid, market_freshDesk] using ih

/-! ## What the feed of an exchange makes of the blocks -/

def naming (config : Config) (exchange id : String) : List (Config.Market × Ticker) :=
  (coverage config).filter fun pair => pair.2.exchange = exchange ∧ pair.1.id = id

private theorem get?_byExchange (config : Config) (exchange id : String) :
    ((byExchange config).get? exchange).bind (·.get? id) =
      (naming config exchange id).getLast?.map fun pair => feedMarket config pair.1 pair.2 := by
  unfold byExchange naming
  generalize coverage config = pairs
  -- from the end, because a later pair replaces the one that was there
  induction pairs using List.reverseRecOn with
  | nil => rfl
  | append_singleton pairs pair ih =>
      rw [List.foldl_append, List.foldl_cons, List.foldl_nil, List.filter_append]
      dsimp only
      rw [NameMap.update, NameMap.get?_insert]
      by_cases hexchange : pair.2.exchange = exchange
      · subst hexchange
        rw [if_pos rfl, Option.bind_some, NameMap.get?_insert]
        by_cases hid : pair.1.id = id
        · simp [hid]
        · rw [if_neg hid]
          have hskipped : [pair].filter
              (fun other => other.2.exchange = pair.2.exchange ∧ other.1.id = id) = [] := by
            simp [hid]
          rw [hskipped, List.append_nil, ← ih]
          cases NameMap.get? _ pair.2.exchange <;> rfl
      · rw [if_neg hexchange, ih]
        simp [hexchange]

theorem mem_naming {config : Config} {exchange id : String} {pair : Config.Market × Ticker}
    (h : pair ∈ naming config exchange id) :
    pair.1 ∈ blocksOf config id ∧ pair.2 ∈ pair.1.sources ∧ pair.2.exchange = exchange := by
  obtain ⟨hpair, hnames⟩ := List.mem_filter.mp h
  obtain ⟨hexchange, hid⟩ := of_decide_eq_true hnames
  obtain ⟨market, hmarket, hmem⟩ := List.mem_flatMap.mp hpair
  obtain ⟨ticker, hticker, rfl⟩ := List.mem_map.mp hmem
  exact ⟨List.mem_filter.mpr ⟨hmarket, by simpa using hid⟩, hticker, hexchange⟩

theorem get?_of_sourceSpecs {config : Config} {spec : SourceSpec} (h : spec ∈ sourceSpecs config)
    (id : String) :
    spec.markets.get? id = (naming config spec.exchange id).getLast?.map fun pair =>
      feedMarket config pair.1 pair.2 := by
  obtain ⟨⟨exchange, markets⟩, hentry, rfl⟩ := List.mem_map.mp h
  rw [← get?_byExchange, (NameMap.mem_entries_iff _ _ _).mp hentry, Option.bind_some]

private theorem multiplier_of_sourceSpecs {config : Config} {spec : SourceSpec} {id : String}
    {market : Feed.Market} (h : spec ∈ sourceSpecs config)
    (asked : spec.markets.get? id = some market) :
    ∃ block ∈ blocksOf config id, market.multiplier = block.effectiveMultiplier := by
  rw [get?_of_sourceSpecs h, Option.map_eq_some_iff] at asked
  obtain ⟨pair, hlast, rfl⟩ := asked
  exact ⟨pair.1, (mem_naming (List.mem_of_getLast? hlast)).1, rfl⟩

/-! ## Verdicts and passes -/

def Event.isVerdictOn (market : String) : Event → Bool
  | .accepted name _ => name = market
  | .rejected name _ => name = market
  | _ => false

def verdictsOn (market : String) (events : List Event) : Nat :=
  events.countP (Event.isVerdictOn market)

def Desk.holds (market : String) (desk : Desk) : Bool :=
  desk.market = market && desk.mailbox.content.isSome

private theorem Desk.Forwarding.holds_le {desk after : Desk} {stores : Stores} {now : Instant}
    {forwarded : Bool} (h : desk.Forwarding stores now (.ok (forwarded, after))) (market : String) :
    (after.holds market).toNat ≤
      (desk.holds market).toNat + if desk.market = market then 1 else 0 := by
  have hsame := h.alike.market
  cases h with
  | nothing stale => exact Nat.le_add_right _ _
  | posted fresh opened emptied =>
      rw [holds, hsame]
      by_cases hmarket : desk.market = market <;> simp [hmarket]

private theorem Desk.Serving.verdicts_le {desk after : Desk} {cancelled hungUp : Bool} {calls : Nat}
    {outcome : SinkOutcome} {events : List Event}
    (h : desk.Serving cancelled hungUp calls outcome events after) (market : String) :
    verdictsOn market events + (after.holds market).toNat ≤ (desk.holds market).toNat := by
  cases h with
  | finished outcome ended => simp [verdictsOn]
  | leaving outcome running reason => simp [verdictsOn, holds, stop, Mailbox.close]
  | waiting outcome idle uncancelled emptied => simp [verdictsOn]
  | accepting outcome tick accepted next idle uncancelled content verdict =>
      by_cases hmarket : desk.market = market <;>
        simp [verdictsOn, Event.isVerdictOn, holds, content, hmarket]
  | rejecting outcome tick rejection next idle uncancelled content verdict =>
      by_cases hmarket : desk.market = market <;>
        simp [verdictsOn, Event.isVerdictOn, holds, content, hmarket]
  | pending call busy uncancelled => simp [verdictsOn]
  | concluding outcome call busy uncancelled answered =>
      have hnone : verdictsOn market (MarketService.conclude desk.market outcome) = 0 := by
        cases outcome <;> rfl
      rw [hnone, Nat.zero_add]
      exact Nat.le_refl _

private theorem Desk.Serving.published_le {desk after : Desk} {cancelled hungUp : Bool}
    {calls : Nat} {outcome : SinkOutcome} {events : List Event}
    (h : desk.Serving cancelled hungUp calls outcome events after) (market : String) :
    (publishedPrices market events).length ≤ verdictsOn market events := by
  cases h with
  | finished outcome ended => exact Nat.le_refl _
  | leaving outcome running reason => exact Nat.le_refl _
  | waiting outcome idle uncancelled emptied => exact Nat.le_refl _
  | accepting outcome tick accepted next idle uncancelled content verdict =>
      by_cases hmarket : desk.market = market <;>
        simp [verdictsOn, Event.isVerdictOn, publishedPrices, Event.published?, List.filterMap_cons,
          hmarket]
  | rejecting outcome tick rejection next idle uncancelled content verdict => exact Nat.zero_le _
  | pending call busy uncancelled => exact Nat.le_refl _
  | concluding outcome call busy uncancelled answered =>
      cases outcome <;> exact Nat.zero_le _

private theorem countP_set {P : Desk → Bool} {desks : List Desk} {index : Nat} {desk : Desk}
    (h : desks[index]? = some desk) (next : Desk) :
    (desks.set index next).countP P + (P desk).toNat = desks.countP P + (P next).toNat := by
  induction desks generalizing index with
  | nil => cases h
  | cons first rest ih =>
      cases index with
      | zero =>
          cases h
          cases hdesk : P desk <;> cases hnext : P next <;> simp [hdesk, hnext]
      | succ index =>
          have hrest := ih h
          cases hfirst : P first <;> simp [hfirst] <;> omega

namespace System

def looksDue (system : System) (market : String) : Nat :=
  match system.sampler with
  | .passing _ next => ((system.desks.map Desk.market).drop next).count market
  | _ => 0

/-- The ticks of a market that wait at its desks, and those that the pass under way can add. -/
def backlog (system : System) (market : String) : Nat :=
  system.desks.countP (Desk.holds market) + system.looksDue market

def desksOf (system : System) (market : String) : Nat :=
  (system.desks.map Desk.market).count market

private theorem looksDue_of_turn {system : System} {begun : Instant} {next : Nat} {desk : Desk}
    (turn : system.sampler = .passing begun next) (present : system.desks[next]? = some desk)
    (market : String) :
    system.looksDue market =
      ((system.desks.map Desk.market).drop (next + 1)).count market +
        if desk.market = market then 1 else 0 := by
  obtain ⟨hplace, rfl⟩ := List.getElem?_eq_some_iff.mp present
  rw [looksDue, turn]
  dsimp only
  rw [List.drop_eq_getElem_cons (by simpa using hplace), List.count_cons, List.getElem_map]
  simp

private theorem verdicts_le_of_transition {system after : System} {action : Action}
    {events : List Event} (h : Transition system action events after) (market : String) :
    verdictsOn market events + after.backlog market ≤
      system.backlog market + system.desksOf market * (system.begins? action).toList.length ∧
    (publishedPrices market events).length ≤ verdictsOn market events := by
  have hnone : verdictsOn market [] = 0 := rfl
  have hsame := markets_of_transition h
  refine ⟨?_, ?_⟩
  · cases h with
    | offered source name sample store running =>
        exact Nat.le_add_right_of_le (Nat.le_of_eq (Nat.zero_add _))
    | ignored source name sample unknown =>
        exact Nat.le_add_right_of_le (Nat.le_of_eq (Nat.zero_add _))
    | cancelling => exact Nat.le_add_right_of_le (Nat.le_of_eq (Nat.zero_add _))
    | finished now hungUp => exact Nat.le_add_right_of_le (Nat.le_of_eq (Nat.zero_add _))
    | ending now idle cancelled => simp [hnone, backlog, looksDue, idle]
    | beginning now idle uncancelled =>
        simp [hnone, backlog, looksDue, begins?, idle, uncancelled, desksOf]
    | passed now begun next turn behind =>
        simp only [hnone, backlog, looksDue, turn]
        omega
    | looked now begun next desk after forwarded turn present forward =>
        -- a look adds a tick at most, and is due no more
        have hheld := (Desk.forwarding_of_forward forward).holds_le market
        have hset := countP_set (P := Desk.holds market) present after
        rw [backlog, backlog, looksDue_of_turn turn present market, looksDue, hsame, hnone]
        dsimp only
        omega
    | failed now begun next desk fault turn present forward =>
        simp only [hnone, backlog, looksDue, turn]
        omega
    | absent index outcome nobody => exact Nat.le_add_right_of_le (Nat.le_of_eq (Nat.zero_add _))
    | served index outcome desk after events present step =>
        have hserved := (Desk.serving_of_step step).verdicts_le market
        have hset := countP_set (P := Desk.holds market) present after
        rw [backlog, backlog, looksDue, looksDue, hsame]
        dsimp only
        omega
  · cases h with
    | served index outcome desk after events present step =>
        exact (Desk.serving_of_step step).published_le market
    | _ => exact Nat.le_refl _

theorem desksOf_run (system : System) (actions : List Action) (market : String) :
    (system.run actions).2.desksOf market = system.desksOf market := by
  rw [desksOf, markets_run, desksOf]

/-- In any part of a run, a market gets one verdict for each of its desks and each pass at most. -/
theorem verdicts_le_run (system : System) (actions : List Action) (market : String) :
    verdictsOn market (system.run actions).1 + (system.run actions).2.backlog market ≤
      system.backlog market + system.desksOf market * (system.passes actions).length ∧
    (publishedPrices market (system.run actions).1).length ≤
      verdictsOn market (system.run actions).1 := by
  induction actions using List.reverseRecOn with
  | nil => exact ⟨by simp [verdictsOn, passes, observe], Nat.le_refl _⟩
  | append_singleton actions action ih =>
      obtain ⟨hbefore, hprices⟩ := ih
      obtain ⟨hstep, hprice⟩ :=
        verdicts_le_of_transition (transition_of_step (system.run actions).2 action) market
      have hpasses : (system.passes (actions ++ [action])).length =
          (system.passes actions).length +
            ((system.run actions).2.begins? action).toList.length := by
        rw [passes, observe_concat, List.length_append, passes]
      have hverdicts : verdictsOn market (system.run (actions ++ [action])).1 =
          verdictsOn market (system.run actions).1 +
            verdictsOn market ((system.run actions).2.step action).1 := by
        rw [run_concat, verdictsOn, List.countP_append]
        rfl
      rw [desksOf_run] at hstep
      refine ⟨?_, ?_⟩
      · rw [hverdicts, hpasses, Nat.mul_add, run_concat]
        dsimp only
        omega
      · rw [hverdicts, run_concat, publishedPrices_append, List.length_append]
        omega

end System

/-! ## Services of a start -/

private theorem filter_desks_of_start {config : Config} {builder : Builder ε} {clock : Span}
    {schedule : Schedule} (started : start config builder clock = .ok schedule) (id : String) :
    schedule.system.desks.filter (·.market = id) =
      if coveringExchanges config builder id = [] then []
      else (blocksOf config id).map (freshDesk config (coveringExchanges config builder id)) := by
  obtain ⟨sampler, -, hsystem⟩ := system_of_start started
  rw [hsystem, ← covering_runningSources]
  exact filter_desks config _ id

private theorem desksOf_start {config : Config} {builder : Builder ε} {clock : Span}
    {schedule : Schedule} (started : start config builder clock = .ok schedule) (id : String) :
    schedule.system.desksOf id =
      if coveringExchanges config builder id = [] then 0 else (blocksOf config id).length := by
  have hcount : schedule.system.desksOf id =
      (schedule.system.desks.filter (·.market = id)).length := by
    rw [System.desksOf, List.count_eq_countP, List.countP_map, List.countP_eq_length_filter]
    congr 2
  rw [hcount, filter_desks_of_start started]
  split <;> simp

private theorem backlog_start {config : Config} {builder : Builder ε} {clock : Span}
    {schedule : Schedule} (started : start config builder clock = .ok schedule) (id : String) :
    schedule.system.backlog id = 0 := by
  obtain ⟨sampler, hsampler, hsystem⟩ := system_of_start started
  have hdue : schedule.system.looksDue id = 0 := by
    rcases hsampler with rfl | rfl <;> simp [hsystem, System.looksDue]
  rw [System.backlog, hdue, Nat.add_zero, List.countP_eq_zero, hsystem]
  intro desk hdesk
  obtain ⟨exchanges, market, rfl⟩ := eq_freshDesk_of_mem_desks hdesk
  simp [Desk.holds, freshDesk]

/--
A start gives each block of a covered market a desk, and so a service, of its own.
Markets have one service each iff no id of a covered market is repeated.  In any part
of a run a market is evaluated, and its price published, once at most for each of its
blocks and each pass, and once for each tick that was waiting.  The feed of an exchange
scales a market as the last block with that id that names the exchange, so there is
one multiplier if there is one block.
-/
theorem services_of_blocks {config : Config} {builder : Builder ε} {clock : Span}
    {schedule : Schedule} (started : start config builder clock = .ok schedule) :
    (∀ id, schedule.system.desks.filter (·.market = id) =
      if coveringExchanges config builder id = [] then []
      else (blocksOf config id).map (freshDesk config (coveringExchanges config builder id))) ∧
    ((schedule.system.desks.map Desk.market).Nodup ↔
      ∀ id, coveringExchanges config builder id ≠ [] → (blocksOf config id).length ≤ 1) ∧
    (∀ id, schedule.system.backlog id = 0) ∧
    (∀ id earlier later,
      let system := (schedule.system.run earlier).2
      verdictsOn id (system.run later).1 ≤
        system.backlog id + (blocksOf config id).length * (system.passes later).length ∧
      (publishedPrices id (system.run later).1).length ≤ verdictsOn id (system.run later).1) ∧
    (∀ spec ∈ sourceSpecs config, ∀ id, spec.markets.get? id =
      (naming config spec.exchange id).getLast?.map fun pair => feedMarket config pair.1 pair.2) ∧
    (∀ id, (blocksOf config id).length ≤ 1 → ∀ spec ∈ sourceSpecs config,
      ∀ other ∈ sourceSpecs config, ∀ market twin, spec.markets.get? id = some market →
        other.markets.get? id = some twin → market.multiplier = twin.multiplier) := by
  have hcount := desksOf_start started
  refine ⟨filter_desks_of_start started, ?_, backlog_start started, ?_,
    fun spec => get?_of_sourceSpecs, ?_⟩
  · rw [List.nodup_iff_count_le_one]
    constructor
    · intro hsingle id hcovered
      have hbound := hsingle id
      rwa [← System.desksOf, hcount, if_neg hcovered] at hbound
    · intro hsingle id
      rw [← System.desksOf, hcount]
      split
      · exact Nat.zero_le 1
      · next hcovered => exact hsingle id hcovered
  · intro id earlier later system
    obtain ⟨hverdicts, hprices⟩ := system.verdicts_le_run later id
    have hdesks : system.desksOf id ≤ (blocksOf config id).length := by
      rw [System.desksOf_run, hcount]
      split
      · exact Nat.zero_le _
      · exact Nat.le_refl _
    have hbound := Nat.mul_le_mul_right (system.passes later).length hdesks
    exact ⟨by omega, hprices⟩
  · intro id hsingle spec hspec other hother market twin hmarket htwin
    obtain ⟨block, hblock, hmultiplier⟩ := multiplier_of_sourceSpecs hspec hmarket
    obtain ⟨same, hsame, hother⟩ := multiplier_of_sourceSpecs hother htwin
    obtain ⟨sole, hsole⟩ : ∃ sole, blocksOf config id = [sole] := by
      refine List.length_eq_one_iff.mp (Nat.le_antisymm hsingle ?_)
      exact List.length_pos_of_mem hblock
    rw [hsole, List.mem_singleton] at hblock hsame
    rw [hmultiplier, hother, hblock, hsame]

/-! ### Two blocks of one market -/

def twinDocument : String :=
  "[oracle]\nname = \"twin\"\n" ++
  "[[markets]]\nmarket_id = \"BTC\"\n" ++
  "sources = [\x7b exchange_id = \"binance\", inst_id = \"a\" \x7d]\n" ++
  "[[markets]]\nmarket_id = \"BTC\"\nmultiplier = 1000.0\n" ++
  "sources = [\x7b exchange_id = \"okx\", inst_id = \"b\" \x7d]\n"

def twinConfig : Config where
  service := { name := "twin" }
  markets := [
    { id := "BTC", sources := [{ exchange := "binance", instrument := "a" }] },
    { id := "BTC", multiplier := 1000, sources := [{ exchange := "okx", instrument := "b" }] }]

def twinSchedule : Schedule :=
  let sources := runningSources soleBuilder (sourceSpecs twinConfig)
  .start {
    stores := NameMap.ofList (sources.map fun source => (source.1, NameMap.empty))
    desks := desks twinConfig sources } twinConfig.updateInterval 0

def twinActions : List Action :=
  [.offer "binance" "BTC" ⟨100, ⟨10, 0⟩⟩] ++ List.replicate 4 (.sample ⟨20, 0⟩) ++
    [.serve 0 .delivered, .serve 1 .delivered]

private theorem start_twin : start twinConfig soleBuilder 0 = .ok twinSchedule := rfl

theorem desks_of_twin :
    twinSchedule.system.desks.filter (·.market = "BTC") =
        (blocksOf twinConfig "BTC").map (freshDesk twinConfig ["binance", "okx"]) ∧
      ¬ (twinSchedule.system.desks.map Desk.market).Nodup := by
  obtain ⟨hdesks, hsingle, -⟩ := services_of_blocks start_twin
  have hcovered : coveringExchanges twinConfig soleBuilder "BTC" = ["binance", "okx"] := by
    decide +kernel
  refine ⟨?_, fun hnodup => ?_⟩
  · rw [hdesks, hcovered]
    rfl
  · have hblocks := hsingle.mp hnodup "BTC" (by simp [hcovered])
    revert hblocks
    decide +kernel

theorem market_served_twice :
    Config.read twinDocument (fun _ => none) = .ok twinConfig ∧
      start twinConfig soleBuilder 0 = .ok twinSchedule ∧
      twinSchedule.system.desks.map Desk.market = ["BTC", "BTC"] ∧
      twinSchedule.system.passes twinActions = [⟨20, 0⟩] ∧
      publishedPrices "BTC" (twinSchedule.system.run twinActions).1 = [100, 100] ∧
      (sourceSpecs twinConfig).map (fun spec => (spec.markets.get? "BTC").map (·.multiplier)) =
        [some 1, some 1000] := by
  refine ⟨by decide +kernel, start_twin, by decide +kernel, by decide +kernel, by decide +kernel,
    by decide +kernel⟩

end IndexPrice.Pricing
