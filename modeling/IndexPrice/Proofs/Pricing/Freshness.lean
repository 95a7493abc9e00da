import IndexPrice.Proofs.Price.TrailingRun
import IndexPrice.Proofs.Pricing.Looks

/-!
# Which sources still count

A source contributes to a market as long as its price came up recently enough.
Samples that only confirm the price do not make it any younger, so a source whose
price stands still drops out in the end, however often it is heard.
-/

namespace IndexPrice.Pricing.Desk

open PriceStore

def youngPrice (desk : Desk) (now : Instant) (latest : Option Sample) : Option Float :=
  (latest.filter fun sample => decide (sample.age now ≤ desk.maxUseAge)).map (·.price)

private theorem freshPrices_eq_filterMap (desk : Desk) (stores : Stores) (now : Instant) :
    desk.freshPrices stores now = desk.sources.filterMap fun source =>
      desk.youngPrice now ((stores.get? source).bind (·.load desk.market)) :=
  freshPrices_eq_tick ⟨rfl, rfl, rfl⟩ { stores, desks := [] } now

def contribution (desk : Desk) (now : Instant) (entries : List (String × Sample)) :
    Option Float :=
  match trailingRun (offeredFor desk.market entries) with
  | [] => none
  | first :: _ => if first.age now ≤ desk.maxUseAge then some first.price else none

private theorem youngPrice_load (desk : Desk) (now : Instant) (entries : List (String × Sample)) :
    desk.youngPrice now ((offerAll ∅ entries).2.load desk.market) =
      desk.contribution now entries := by
  rw [load_eq_head?, contribution]
  cases trailingRun (offeredFor desk.market entries) with
  | nil => rfl
  | cons first rest =>
      by_cases hyoung : first.age now ≤ desk.maxUseAge
      · simp [youngPrice, Option.filter, hyoung]
      · simp [youngPrice, Option.filter, hyoung]

theorem contribution_append (desk : Desk) (now : Instant) {entries later : List (String × Sample)}
    (hne : offeredFor desk.market entries ≠ [])
    (hsteady : Steady (trailingRun (offeredFor desk.market entries) ++
      offeredFor desk.market later)) :
    desk.contribution now (entries ++ later) = desk.contribution now entries := by
  obtain ⟨first, rest, hrun⟩ :=
    List.exists_cons_of_ne_nil (mt trailingRun_eq_nil_iff.mp hne)
  unfold contribution
  rw [offeredFor_append, trailingRun_append_of_steady hne hsteady, hrun]
  rfl

private theorem freshPrices_of_offers {desk : Desk} {stores : Stores}
    {offers : String → List (String × Sample)}
    (hoffers : ∀ source ∈ desk.sources,
      stores.get? source = some (offerAll ∅ (offers source)).2) (now : Instant) :
    desk.freshPrices stores now =
      desk.sources.filterMap fun source => desk.contribution now (offers source) := by
  rw [freshPrices_eq_filterMap]
  refine List.filterMap_congr fun source hsource => ?_
  rw [hoffers source hsource, Option.bind_some, youngPrice_load]

/--
What a source contributes is fixed by its trailing run of equal prices.  Whatever has
been offered for any markets, the store holds the first sample of the longest steady
suffix of the samples for a market, and nothing if there are none; a sample is stored
exactly if it starts such a run, and samples for other markets change nothing.  So the
fresh prices of a desk are those prices, source by source, whose run began no longer ago
than the desk allows, and samples that only prolong a run do not matter.
-/
theorem freshPrices_by_trailingRuns :
    (∀ (entries : List (String × Sample)) (market : String),
      let store := (offerAll ∅ entries).2
      let samples := offeredFor market entries
      (∀ other, other <:+ trailingRun samples ↔ other <:+ samples ∧ Steady other) ∧
      store.load market = (trailingRun samples).head? ∧
      (store.load market = none ↔ samples = []) ∧
      (∀ sample, (store.offer market sample).1 = true ↔
        trailingRun (samples ++ [sample]) = [sample]) ∧
      (∀ other sample, other ≠ market →
        (store.offer other sample).2.load market = store.load market)) ∧
    (∀ (desk : Desk) (stores : Stores) (offers : String → List (String × Sample)) (now : Instant),
      (∀ source ∈ desk.sources, stores.get? source = some (offerAll ∅ (offers source)).2) →
        desk.freshPrices stores now =
          desk.sources.filterMap fun source => desk.contribution now (offers source)) ∧
    (∀ (desk : Desk) (now : Instant) (entries later : List (String × Sample)),
      offeredFor desk.market entries ≠ [] →
      Steady (trailingRun (offeredFor desk.market entries) ++ offeredFor desk.market later) →
        desk.contribution now (entries ++ later) = desk.contribution now entries) := by
  refine ⟨?_, fun desk stores offers now hoffers => freshPrices_of_offers hoffers now,
    fun desk now entries later => desk.contribution_append now⟩
  intro entries market store samples
  have hload : store.load market = (trailingRun samples).head? := load_eq_head? entries market
  refine ⟨fun other => suffix_trailingRun_iff, hload, ?_, ?_, ?_⟩
  · rw [hload, List.head?_eq_none_iff, trailingRun_eq_nil_iff]
  · intro sample
    rw [offer_stored_iff, hload, trailingRun_concat_eq_singleton_iff]
  · intro other sample hother
    rw [load_offer, if_neg hother]

/-! ### Confirmed prices -/

def threeSources : Desk where
  service := { market := "BTC" }
  maxUseAge := Span.ofSeconds 30
  sources := ["a", "b", "c"]

def threeHistories : String → List (String × Sample)
  | "a" => [("BTC", ⟨100, ⟨0, 0⟩⟩), ("ETH", ⟨7, ⟨60, 0⟩⟩), ("BTC", ⟨100, ⟨69, 0⟩⟩)]
  | "b" => [("BTC", ⟨90, ⟨0, 0⟩⟩), ("BTC", ⟨101, ⟨60, 0⟩⟩), ("BTC", ⟨101, ⟨69, 0⟩⟩)]
  | _ => [("BTC", ⟨0.0, ⟨45, 0⟩⟩), ("BTC", ⟨-0.0, ⟨69, 0⟩⟩)]

def threeStores : Stores :=
  NameMap.ofList (threeSources.sources.map fun source =>
    (source, (offerAll ∅ (threeHistories source)).2))

theorem freshPrices_of_threeSources :
    (∀ source ∈ threeSources.sources,
      threeStores.get? source = some (offerAll ∅ (threeHistories source)).2) ∧
    threeSources.freshPrices threeStores ⟨70, 0⟩ = [101, 0.0] ∧
    Steady (trailingRun (offeredFor "BTC" (threeHistories "b")) ++
      offeredFor "BTC" [("BTC", ⟨101, ⟨95, 0⟩⟩)]) ∧
    threeSources.contribution ⟨95, 0⟩ (threeHistories "b" ++ [("BTC", ⟨101, ⟨95, 0⟩⟩)]) =
      none := by
  obtain ⟨-, hfresh, hlater⟩ := freshPrices_by_trailingRuns
  have hstores : ∀ source ∈ threeSources.sources,
      threeStores.get? source = some (offerAll ∅ (threeHistories source)).2 := by
    simp only [threeSources, List.forall_mem_cons, List.not_mem_nil, false_implies,
      implies_true, and_true]
    exact ⟨rfl, rfl, rfl⟩
  have hsteady : Steady (trailingRun (offeredFor "BTC" (threeHistories "b")) ++
      offeredFor "BTC" [("BTC", ⟨101, ⟨95, 0⟩⟩)]) := by decide +kernel
  refine ⟨hstores, ?_, hsteady, ?_⟩
  · rw [hfresh threeSources threeStores threeHistories ⟨70, 0⟩ hstores]
    decide +kernel
  · rw [hlater threeSources ⟨95, 0⟩ (threeHistories "b") _ (by decide +kernel) hsteady]
    decide +kernel

end IndexPrice.Pricing.Desk
