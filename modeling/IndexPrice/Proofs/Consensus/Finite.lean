import IndexPrice.Proofs.Consensus.History
import IndexPrice.Proofs.Decimal.Finite
import Mathlib.Data.List.GetD

/-!
# Finite composite prices

Of several prices only finite ones are usable, since nothing else lies near a median.
The composite price is one of them or the mean of two of them.  So it is finite
unless the sum of two finite prices is not, or the price of the only source is not.
-/

namespace IndexPrice

open Decimal

/-! ## Medians -/

private theorem mem_or_mean_of_median {α : Type} [PriceArithmetic α] {prices : List α}
    (hne : prices ≠ []) :
    median prices ∈ prices ∨
      ∃ lower ∈ prices, ∃ upper ∈ prices, median prices = (lower + upper) / 2.0 := by
  have hperm := List.mergeSort_perm prices PriceArithmetic.inOrder
  have hpos : 0 < (prices.mergeSort PriceArithmetic.inOrder).length := by
    rw [hperm.length_eq]
    exact List.length_pos_iff.mpr hne
  have hmem : ∀ index < (prices.mergeSort PriceArithmetic.inOrder).length,
      (prices.mergeSort PriceArithmetic.inOrder).getD index 0.0 ∈ prices := by
    intro index hindex
    rw [List.getD_eq_getElem _ _ hindex]
    exact hperm.mem_iff.mp (List.getElem_mem hindex)
  simp only [median]
  rw [if_neg (by simpa using List.ne_nil_of_length_pos hpos)]
  split
  · exact .inr ⟨_, hmem _ (by omega), _, hmem _ (by omega), rfl⟩
  · exact .inl (hmem _ (by omega))

private theorem isFinite_mean (lower upper : Float) :
    ((lower + upper) / 2.0).isFinite = (lower + upper).isFinite := by
  cases hsum : (lower + upper).isFinite with
  | true => exact isFinite_half hsum
  | false => exact not_finite_div hsum 2.0

/-! ## Usable prices -/

private theorem isFinite_of_closeEnough {price target tolerance : Float}
    (htolerance : tolerance.isFinite = true)
    (h : closeEnough price target tolerance = true) : price.isFinite = true := by
  cases hprice : price.isFinite with
  | true => rfl
  | false =>
      unfold closeEnough at h
      split at h
      · exact hprice.symm.trans (isFinite_of_beq_zero h)
      · have hratio := not_finite_div (not_finite_sub hprice target) target
        exact absurd (of_decide_eq_true h) (not_abs_le_of_not_finite hratio htolerance)

private theorem isFinite_of_usable {previous : Option Float} {tick : List Float} {price : Float}
    (h : price ∈ usablePrices previous tick) : price ∈ tick ∧ price.isFinite = true := by
  obtain ⟨hmem, hclose⟩ := List.mem_filter.mp h
  exact ⟨hmem, isFinite_of_closeEnough (by decide) hclose⟩

inductive Composed (tick : List Float) (price : Float) : Prop
  | alone (single : tick = [price])
  | among (mem : price ∈ tick) (finite : price.isFinite = true)
  | between (lower upper : Float) (lowerMem : lower ∈ tick) (upperMem : upper ∈ tick)
      (lowerFinite : lower.isFinite = true) (upperFinite : upper.isFinite = true)
      (mean : price = (lower + upper) / 2.0)

private theorem composed_of_combine {previous : Option Float} {tick : List Float} {price : Float}
    {sources : Nat} (h : combine previous tick = .ok (price, sources)) : Composed tick price := by
  cases combination_of_combine h with
  | single price one => exact .alone one
  | joined several agreed usable =>
      rcases mem_or_mean_of_median usable with hmem | ⟨lower, hlower, upper, hupper, hmean⟩
      · obtain ⟨htick, hfinite⟩ := isFinite_of_usable hmem
        exact .among htick hfinite
      · obtain ⟨hlowerMem, hlowerFinite⟩ := isFinite_of_usable hlower
        obtain ⟨hupperMem, hupperFinite⟩ := isFinite_of_usable hupper
        exact .between lower upper hlowerMem hupperMem hlowerFinite hupperFinite hmean

theorem composed_of_evaluate {state next : Consensus Float} {tick : List Float}
    {accepted : Accepted Float} (h : state.evaluate tick = (.ok accepted, next)) :
    Composed tick accepted.price :=
  composed_of_combine (Consensus.combine_of_accepted (Consensus.ruling_of_evaluate h) rfl)

theorem Composed.of_not_finite {tick : List Float} {price : Float} (h : Composed tick price)
    (hprice : price.isFinite = false) :
    tick = [price] ∨ ∃ lower ∈ tick, ∃ upper ∈ tick, lower.isFinite = true ∧
      upper.isFinite = true ∧ (lower + upper).isFinite = false ∧ price = (lower + upper) / 2.0 := by
  cases h with
  | alone single => exact .inl single
  | among mem finite => exact absurd (hprice.symm.trans finite) Bool.false_ne_true
  | between lower upper lowerMem upperMem lowerFinite upperFinite mean =>
      refine .inr ⟨lower, lowerMem, upper, upperMem, lowerFinite, upperFinite, ?_, mean⟩
      rw [← isFinite_mean, ← mean, hprice]

end IndexPrice
