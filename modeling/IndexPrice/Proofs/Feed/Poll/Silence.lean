import IndexPrice.Exchange.CoinGecko
import IndexPrice.Proofs.Feed.Poll.Reading
import Mathlib.Logic.Function.Iterate

/-!
# Which markets have fallen silent

A poller notes the time of each sample that its store takes.  So the noted times are
those of the stored samples, however many reads there have been and however they ended,
and a market counts as silent by the age of its stored sample.
-/

namespace IndexPrice.Feed.Poll

def Timed (gathered : Gathered) : Prop :=
  ∀ id, gathered.lastData.get? id = (gathered.store.load id).map (·.time)

private theorem timed_empty (metrics : Metrics) : Timed { metrics } := fun _ => rfl

namespace Poller

/-! ## Noted times -/

private theorem timed_take {gathered : Gathered} (h : Timed gathered) (poller : Poller)
    (entry : String × Sample) : Timed (poller.take gathered entry) := by
  intro id
  cases hnews : (gathered.store.offer entry.1 entry.2).1 with
  | false =>
      rw [take_of_stale hnews]
      exact h id
  | true =>
      rw [take_of_news hnews, PriceStore.offer_of_news hnews]
      change (gathered.lastData.insert _ _).get? id =
        ((gathered.store.insert entry.1 entry.2).get? id).map _
      rw [NameMap.get?_insert, NameMap.get?_insert]
      split
      · rfl
      · exact h id

private theorem timed_takeAll {gathered : Gathered} (h : Timed gathered) (poller : Poller)
    (entries : List (String × Sample)) : Timed (poller.takeAll gathered entries) := by
  induction entries generalizing gathered with
  | nil => exact h
  | cons entry rest ih => exact ih (timed_take h poller entry)

variable {σ : Type}

private theorem timed_read {state : Gathered × σ} (h : Timed state.1) (poller : Poller)
    (server : Server σ) : Timed (poller.read server state).1 := by
  have hcourse := course_readRequests poller server poller.requests state.1 state.2
  change Timed (poller.readRequests server poller.requests (state.1, state.2)).1
  generalize poller.readRequests server poller.requests (state.1, state.2) = final at hcourse ⊢
  cases hcourse with
  | @finished batches good => exact timed_takeAll h poller batches.flatten
  | @stopped earlier later request batches fault split good bad =>
      intro id
      rw [store_giveUp, lastData_giveUp]
      exact timed_takeAll h poller batches.flatten id

private theorem timed_reads {state : Gathered × σ} (h : Timed state.1) (poller : Poller)
    (server : Server σ) (passes : Nat) : Timed ((poller.read server)^[passes] state).1 := by
  induction passes with
  | zero => exact h
  | succ passes ih =>
      rw [Function.iterate_succ_apply']
      exact timed_read ih poller server

/-! ## Silence -/

private theorem silentAmong?_eq {lastSeen : String → Instant} {now : Instant}
    {entries : List (String × Market)}
    (bounded : ∀ entry ∈ entries, 3 * entry.2.maxUseAge ≤ Span.longest) :
    silentAmong? lastSeen now entries = some
      ((entries.filter fun entry =>
        decide (3 * entry.2.maxUseAge < now.elapsed (lastSeen entry.1))).map (·.1)) := by
  induction entries with
  | nil => rfl
  | cons entry rest ih =>
      obtain ⟨hfirst, hrest⟩ := List.forall_mem_cons.mp bounded
      have htriple : entry.2.maxUseAge.triple? = some (3 * entry.2.maxUseAge) := if_pos hfirst
      rw [silentAmong?, htriple, ih hrest, List.filter_cons]
      by_cases hsilent : 3 * entry.2.maxUseAge < now.elapsed (lastSeen entry.1)
      · simp [hsilent]
      · simp [hsilent]

theorem lt_elapsed_iff {limit : Nat} {now start : Instant} :
    limit < now.elapsed start ↔ (limit : Int) < now.since start := by
  unfold Instant.elapsed
  omega

theorem silent?_eq_some {poller : Poller}
    (bounded : ∀ id market, poller.markets.get? id = some market →
      3 * market.maxUseAge ≤ Span.longest)
    (started : Instant) (lastData : NameMap Instant) (now : Instant) :
    ∃ silent, poller.silent? started lastData now = some silent ∧
      silent.Pairwise (· < ·) ∧
      ∀ id, id ∈ silent ↔ ∃ market, poller.markets.get? id = some market ∧
        ((3 * market.maxUseAge : Nat) : Int) < now.since ((lastData.get? id).getD started) := by
  refine ⟨_, silentAmong?_eq (poller.markets.forall_entries_iff.mpr bounded), ?_, fun id => ?_⟩
  · rw [List.pairwise_map]
    exact poller.markets.sorted.filter _
  · simp only [List.mem_map, List.mem_filter, decide_eq_true_eq, lt_elapsed_iff]
    constructor
    · rintro ⟨⟨name, market⟩, ⟨hentry, hlate⟩, rfl⟩
      exact ⟨market, (NameMap.mem_entries_iff _ _ _).mp hentry, hlate⟩
    · rintro ⟨market, hmarket, hlate⟩
      exact ⟨(id, market), ⟨(NameMap.mem_entries_iff _ _ _).mpr hmarket, hlate⟩, rfl⟩

/--
However many reads there have been since nothing was stored or noted, the noted times are
those of the stored samples.  So the silent markets, in ascending order, are those whose
stored sample, or whose start without one, lies back by more than three times their age.
-/
theorem silent_by_stored_samples {σ : Type} (poller : Poller) (server : Server σ)
    (metrics : Metrics) (s : σ) (passes : Nat) :
    let gathered := ((poller.read server)^[passes] ({ metrics }, s)).1
    (∀ id, gathered.lastData.get? id = (gathered.store.load id).map (·.time)) ∧
    ((∀ id market, poller.markets.get? id = some market → 3 * market.maxUseAge ≤ Span.longest) →
      ∀ started now, ∃ silent, poller.silent? started gathered.lastData now = some silent ∧
        silent.Pairwise (· < ·) ∧
        ∀ id, id ∈ silent ↔ ∃ market, poller.markets.get? id = some market ∧
          ((3 * market.maxUseAge : Nat) : Int) <
            now.since (((gathered.store.load id).map (·.time)).getD started)) := by
  intro gathered
  have htimed : Timed gathered := timed_reads (timed_empty metrics) poller server passes
  refine ⟨htimed, fun bounded started now => ?_⟩
  simp only [← htimed _]
  exact silent?_eq_some bounded started gathered.lastData now

/-! ### A price that stands still -/

def coin (instrument : String) : Market where
  ticker := { exchange := "coingecko", instrument }
  multiplier := 1
  maxUseAge := Span.ofSeconds 60

def coinPoller : Poller where
  format := Exchange.CoinGecko.format "key"
  requests := [{ url := "https://prices", query := [], headers := [] }]
  markets := NameMap.ofList [("BTC", coin "bitcoin"), ("PEPE", coin "pepe")]
  reference := [(coin "tether").ticker]
  maxAttempts := 1

/-- Gives these responses in order and then none. -/
def scripted : Server (List Response)
  | _, [] => (none, [])
  | _, response :: rest => (some response, rest)

def bitcoinQuote (updated : String) : Response where
  status := 200
  body := some ("\x7b\"tether\":\x7b\"usd\":1,\"last_updated_at\":" ++ updated ++
    "\x7d,\"bitcoin\":\x7b\"usd\":7,\"last_updated_at\":" ++ updated ++
    "\x7d\x7d").toUTF8.toList
  received := ⟨300, 0⟩

def standingQuotes : List Response :=
  [bitcoinQuote "100", { bitcoinQuote "150" with status := 500 }, bitcoinQuote "200"]

theorem silent_after_standing :
    let gathered := ((coinPoller.read scripted)^[3] ({}, standingQuotes)).1
    gathered.lastData.entries = [("BTC", ⟨100, 0⟩)] ∧
      (∀ id market, coinPoller.markets.get? id = some market →
        3 * market.maxUseAge ≤ Span.longest) ∧
      coinPoller.silent? ⟨200, 0⟩ gathered.lastData ⟨281, 0⟩ = some ["BTC"] ∧
      ∃ silent, coinPoller.silent? ⟨200, 0⟩ gathered.lastData ⟨281, 0⟩ = some silent ∧
        ∀ id, id ∈ silent ↔ ∃ market, coinPoller.markets.get? id = some market ∧
          ((3 * market.maxUseAge : Nat) : Int) < (Instant.mk 281 0).since
            (((gathered.store.load id).map (·.time)).getD ⟨200, 0⟩) := by
  intro gathered
  have hbounded : ∀ id market, coinPoller.markets.get? id = some market →
      3 * market.maxUseAge ≤ Span.longest := by
    intro id market hmarket
    have hall : ∀ entry ∈ coinPoller.markets.entries,
        3 * entry.2.maxUseAge ≤ Span.longest := by decide +kernel
    exact hall (id, market) ((NameMap.mem_entries_iff _ _ _).mpr hmarket)
  obtain ⟨-, hsilent⟩ := coinPoller.silent_by_stored_samples scripted {} standingQuotes 3
  obtain ⟨silent, heq, -, hmem⟩ := hsilent hbounded ⟨200, 0⟩ ⟨281, 0⟩
  exact ⟨by decide +kernel, hbounded, by decide +kernel, silent, heq, hmem⟩

end Poller

end IndexPrice.Feed.Poll
