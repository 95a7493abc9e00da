import IndexPrice.Proofs.Decimal.Comparison
import IndexPrice.Proofs.Pricing.Publication
import IndexPrice.Proofs.Pricing.Reference

/-!
# The order of sources

A tick is evaluated through sorted lists, counts and one more vote in front, so it
matters which prices a tick has, and how often, but not in which order.  This takes an
order of prices in which no two different prices are equal.  The order of all bit
patterns is one: it tells the zeros apart, and what is not a number by sign and payload.
-/

namespace IndexPrice

variable {α : Type} [PriceArithmetic α]

/-! ## Sorted prices -/

/-- The order in which prices are sorted is linear. -/
class SortablePrices (α : Type) [PriceArithmetic α] : Prop where
  trans : ∀ a b c : α, PriceArithmetic.inOrder a b = true → PriceArithmetic.inOrder b c = true →
    PriceArithmetic.inOrder a c = true
  total : ∀ a b : α, (PriceArithmetic.inOrder a b || PriceArithmetic.inOrder b a) = true
  antisymm : ∀ a b : α, PriceArithmetic.inOrder a b = true → PriceArithmetic.inOrder b a = true →
    a = b

private theorem SortablePrices.of_rank (rank : α → Int) (injective : Function.Injective rank)
    (inOrder : ∀ a b : α, PriceArithmetic.inOrder a b = decide (rank a ≤ rank b)) :
    SortablePrices α where
  trans a b c := by
    simp only [inOrder, decide_eq_true_eq]
    exact Int.le_trans
  total a b := by
    simp only [inOrder, Bool.or_eq_true, decide_eq_true_eq]
    exact Int.le_total _ _
  antisymm a b := by
    simp only [inOrder, decide_eq_true_eq]
    exact fun hab hba => injective (Int.le_antisymm hab hba)

instance {rule : Decimal.NaNRule} : SortablePrices (Decimal.BitPattern rule) :=
  .of_rank (fun x => Decimal.totalRank x.bits)
    (fun _ _ h => Decimal.BitPattern.ext (Decimal.totalRank_injective h))
    fun _ _ => by simp only [PriceArithmetic.inOrder]

instance : SortablePrices Float :=
  .of_rank (fun x => Decimal.totalRank x.toBits)
    (fun _ _ h => Float.toBits_inj.mp (Decimal.totalRank_injective h))
    fun _ _ => by simp only [PriceArithmetic.inOrder]

variable [SortablePrices α]

theorem mergeSort_of_perm {prices others : List α} (h : prices.Perm others) :
    prices.mergeSort PriceArithmetic.inOrder = others.mergeSort PriceArithmetic.inOrder := by
  have hsorted : ∀ list : List α, (list.mergeSort PriceArithmetic.inOrder).Pairwise
      fun a b => PriceArithmetic.inOrder a b = true :=
    List.pairwise_mergeSort SortablePrices.trans SortablePrices.total
  have hperm : (prices.mergeSort PriceArithmetic.inOrder).Perm
      (others.mergeSort PriceArithmetic.inOrder) :=
    (List.mergeSort_perm prices _).trans (h.trans (List.mergeSort_perm others _).symm)
  exact hperm.eq_of_pairwise (fun a b _ _ => SortablePrices.antisymm a b) (hsorted prices)
    (hsorted others)

theorem median_of_perm {prices others : List α} (h : prices.Perm others) :
    median prices = median others := by
  simp only [median, mergeSort_of_perm h]

/-! ## Agreement -/

theorem agreement_of_perm {prices others : List α} (h : prices.Perm others) :
    agreement prices = agreement others := by
  simp only [agreement, median_of_perm h, h.length_eq, (h.filter _).length_eq]

theorem jointAgreement_of_perm (previous : Option α) {tick other : List α} (h : tick.Perm other) :
    jointAgreement previous tick = jointAgreement previous other := by
  simp only [jointAgreement, agreement_of_perm h, agreement_of_perm (h.append_left previous.toList)]

theorem usablePrices_of_perm (previous : Option α) {tick other : List α} (h : tick.Perm other) :
    (usablePrices previous tick).Perm (usablePrices previous other) := by
  simp only [usablePrices, jointAgreement_of_perm previous h]
  exact h.filter _

/-! ## Verdicts -/

private theorem Combination.of_perm {previous : Option α} {tick other : List α}
    {outcome : Except (Rejection α) (α × Nat)} (h : Combination previous tick outcome)
    (hperm : tick.Perm other) : Combination previous other outcome := by
  have hjoint := jointAgreement_of_perm previous hperm
  have husable := usablePrices_of_perm previous hperm
  cases h with
  | empty none =>
      subst none
      exact .empty hperm.nil_eq.symm
  | single price one =>
      subst one
      exact .single price (List.perm_singleton.mp hperm.symm)
  | apart several disagreed =>
      rw [hjoint] at disagreed ⊢
      exact .apart (hperm.length_eq ▸ several) disagreed
  | outside several agreed unusable =>
      rw [hjoint] at agreed
      rw [unusable] at husable
      exact .outside (hperm.length_eq ▸ several) agreed husable.nil_eq.symm
  | joined several agreed usable =>
      rw [hjoint] at agreed
      rw [median_of_perm husable, husable.length_eq]
      refine .joined (hperm.length_eq ▸ several) agreed fun hnone => usable ?_
      rw [hnone] at husable
      exact husable.eq_nil

theorem combine_of_perm (previous : Option α) {tick other : List α} (h : tick.Perm other) :
    combine previous tick = combine previous other :=
  (combine_of_combination ((combination_of_combine rfl).of_perm h)).symm

namespace Consensus

theorem evaluate_of_perm (state : Consensus α) {tick other : List α} (h : tick.Perm other) :
    state.evaluate tick = state.evaluate other := by
  simp only [evaluate, combine_of_perm state.lastAccepted h]

theorem run_of_perm (state : Consensus α) {ticks others : List (List α)}
    (h : List.Forall₂ List.Perm ticks others) : state.run ticks = state.run others := by
  induction h generalizing state with
  | nil => rfl
  | cons htick _ ih =>
      rw [run, run, state.evaluate_of_perm htick, ih]

theorem after_of_perm (state : Consensus α) {ticks others : List (List α)}
    (h : List.Forall₂ List.Perm ticks others) : state.after ticks = state.after others := by
  induction h generalizing state with
  | nil => rfl
  | cons htick _ ih => rw [after_cons, after_cons, state.evaluate_of_perm htick, ih]

end Consensus

/-! ## What is published -/

namespace Pricing

theorem acceptedPrices_of_perm {lists others : List Tick}
    (h : List.Forall₂ List.Perm lists others) :
    acceptedPrices lists = acceptedPrices others := by
  rw [acceptedPrices, acceptedPrices, Consensus.verdicts, Consensus.verdicts,
    Consensus.run_of_perm _ h]

namespace MarketService

theorem process_of_perm (service : MarketService α) {tick other : Tick α}
    (h : tick.Perm other) (outcome : SinkOutcome) :
    service.process tick outcome = service.process other outcome := by
  have hevaluate : service.evaluate tick = service.evaluate other := by
    simp only [evaluate, service.consensus.evaluate_of_perm h]
  rw [process, process, hevaluate]

theorem processAll_of_perm (sink : Sink) (calls : Nat) (service : MarketService α)
    {ticks others : List (Tick α)} (h : List.Forall₂ List.Perm ticks others) :
    processAll sink calls service ticks = processAll sink calls service others := by
  induction h generalizing calls service with
  | nil => rfl
  | cons htick _ ih =>
      rw [processAll, processAll, service.process_of_perm htick]
      dsimp only
      rw [ih]

theorem after_of_perm (sink : Sink) (calls : Nat) (service : MarketService α)
    {ticks others : List (Tick α)} (h : List.Forall₂ List.Perm ticks others) :
    after sink calls service ticks = after sink calls service others := by
  rw [after_eq, after_eq, service.consensus.after_of_perm h, Consensus.verdicts,
    Consensus.verdicts, service.consensus.run_of_perm h]

end MarketService

open MarketService in
/--
Ticks that have the same prices in another order have the same verdict, down to the
last bit, and leave the same state behind.  This holds for whatever prices are sorted by
a linear order, all bit patterns of doubles among them.  So a service announces the same
for two sequences of such ticks, publishes the same prices, and is the same in the end,
and two runs of pricing that find such lists for a market publish the same prices for it.
-/
theorem published_of_permuted :
    (∀ {α : Type} [PriceArithmetic α] [SortablePrices α] (state : Consensus α)
      (tick other : List α), tick.Perm other → state.evaluate tick = state.evaluate other) ∧
    (∀ {α : Type} [PriceArithmetic α] [SortablePrices α] (ticks others : List (Tick α)),
      List.Forall₂ List.Perm ticks others →
      (∀ state : Consensus α, state.run ticks = state.run others) ∧
      ∀ (service : MarketService α) (sink : Sink) (calls : Nat),
        processAll sink calls service ticks = processAll sink calls service others ∧
        publishedPrices service.market (announced sink calls service ticks) =
          publishedPrices service.market (announced sink calls service others) ∧
        after sink calls service ticks = after sink calls service others) ∧
    (∀ {ε ε' : Type} (one : MarketRun ε) (other : MarketRun ε'),
      List.Forall₂ List.Perm (foundLists one.exchanges one.maxUseAge one.looks)
        (foundLists other.exchanges other.maxUseAge other.looks) →
      one.CaughtUp → other.CaughtUp → one.published = other.published) := by
  refine ⟨fun state tick other => state.evaluate_of_perm,
    fun ticks others hperm => ⟨fun state => state.run_of_perm hperm, ?_⟩, ?_⟩
  · intro service sink calls
    have hall := processAll_of_perm sink calls service hperm
    exact ⟨hall, by rw [announced, announced, hall], after_of_perm sink calls service hperm⟩
  · intro ε ε' one other hfound hone hother
    rw [one.published_of_caughtUp hone, other.published_of_caughtUp hother,
      acceptedPrices_of_perm hfound]

/-! ### What is not a number, with and without the sign -/

/-- The machine's own not-a-number has the sign. -/
def signedRule : Decimal.NaNRule where
  answer _ _ _ := 0xfff8000000000000
  notANumber _ _ _ := rfl

abbrev SignedPattern := Decimal.BitPattern signedRule

def sortedTick : Tick SignedPattern := [⟨0xfff8000000000000⟩, 100.0, 105.1]

def mixedTicks : List (Tick SignedPattern) :=
  [sortedTick, [⟨0x7ff8000000000001⟩, 0.0, ⟨0x8000000000000000⟩, ⟨0xfff8000000000000⟩, 102.0]]

def shuffledTicks : List (Tick SignedPattern) :=
  [[105.1, ⟨0xfff8000000000000⟩, 100.0],
    [⟨0x8000000000000000⟩, 102.0, ⟨0xfff8000000000000⟩, ⟨0x7ff8000000000001⟩, 0.0]]

/-- With the sign, what is no number is sorted to the front and leaves 100 in the middle. -/
private theorem evaluate_sortedTick :
    ({} : Consensus SignedPattern).evaluate sortedTick = (.error (.inconsistent 100.0), {}) := by
  have hsorted : sortedTick.Pairwise (PriceArithmetic.inOrder · ·) := by decide +kernel
  have hmedian : median sortedTick = 100.0 := by
    rw [median, List.mergeSort_of_pairwise hsorted]
    decide +kernel
  have hjoint : jointAgreement none sortedTick = ⟨100.0, false⟩ := by
    simp only [jointAgreement, Option.toList_none, List.nil_append, Option.isNone_none,
      Bool.or_true, if_true, agreement, hmedian, Agreement.mk.injEq, true_and]
    decide +kernel
  have hcombine := combine_of_combination
    (Combination.apart (by decide : 2 ≤ sortedTick.length) (congrArg Agreement.reached hjoint))
  rw [Consensus.evaluate, hcombine, hjoint]

def pricedBy (first second : Float) : List Action :=
  [.offer "a" "BTC" ⟨first, ⟨70, 0⟩⟩, .offer "b" "BTC" ⟨second, ⟨70, 0⟩⟩] ++
    List.replicate 4 (.sample ⟨75, 0⟩) ++ [.serve 1 .never]

def pricedRun (first second : Float)
    (keepsUp : System.KeepsUp "BTC" MarketRun.pairSchedule.system (pricedBy first second)) :
    MarketRun Unit :=
  { MarketRun.quietRun with actions := pricedBy first second, keepsUp }

def risingRun : MarketRun Unit := pricedRun 100 102 (by decide +kernel)

def fallingRun : MarketRun Unit := pricedRun 102 100 (by decide +kernel)

theorem published_of_shuffled :
    List.Forall₂ List.Perm mixedTicks shuffledTicks ∧ mixedTicks ≠ shuffledTicks ∧
      ({} : Consensus SignedPattern).evaluate [105.1, ⟨0xfff8000000000000⟩, 100.0] =
        (.error (.inconsistent 100.0), {}) ∧
      ({} : Consensus SignedPattern).run mixedTicks = Consensus.run {} shuffledTicks ∧
      MarketService.processAll (fun _ => .failed) 0 ⟨"BTC", {}⟩ mixedTicks =
        MarketService.processAll (fun _ => .failed) 0 ⟨"BTC", {}⟩ shuffledTicks ∧
      foundLists risingRun.exchanges risingRun.maxUseAge risingRun.looks = [[100, 102]] ∧
      foundLists fallingRun.exchanges fallingRun.maxUseAge fallingRun.looks = [[102, 100]] ∧
      risingRun.published = fallingRun.published := by
  obtain ⟨hticks, hsequences, hruns⟩ := published_of_permuted
  have hfirst : sortedTick.Perm [105.1, ⟨0xfff8000000000000⟩, 100.0] := by decide +kernel
  have hperm : List.Forall₂ List.Perm mixedTicks shuffledTicks :=
    .cons hfirst (.cons (by decide +kernel) .nil)
  have hsequence := hsequences mixedTicks shuffledTicks hperm
  have hrising : foundLists risingRun.exchanges risingRun.maxUseAge risingRun.looks =
      [[100, 102]] := by decide +kernel
  have hfalling : foundLists fallingRun.exchanges fallingRun.maxUseAge fallingRun.looks =
      [[102, 100]] := by decide +kernel
  refine ⟨hperm, by decide +kernel, ?_, hsequence.1 {}, (hsequence.2 _ _ _).1, hrising,
    hfalling, ?_⟩
  · rw [← hticks {} _ _ hfirst]
    exact evaluate_sortedTick
  · refine hruns risingRun fallingRun ?_ ?_ ?_
    · rw [hrising, hfalling]
      exact .cons (.swap _ _ _) .nil
    · unfold MarketRun.CaughtUp
      decide +kernel
    · unfold MarketRun.CaughtUp
      decide +kernel

end Pricing

end IndexPrice
