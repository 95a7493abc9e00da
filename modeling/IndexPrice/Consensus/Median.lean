import IndexPrice.Consensus.Arithmetic

/-!
# Median and agreement

The median of an even number of prices is the mean of the two middle ones.
Prices agree when at least two of them lie within five percent of their median.
-/

namespace IndexPrice

variable {α : Type} [PriceArithmetic α]

/-- The middle price, or the mean of the two middle prices; zero for no prices. -/
def median (prices : List α) : α :=
  let sorted := prices.mergeSort PriceArithmetic.inOrder
  let half := sorted.length / 2
  let upper := sorted.getD half 0.0
  if sorted.isEmpty then 0.0
  else if sorted.length % 2 = 0 then (sorted.getD (half - 1) 0.0 + upper) / 2.0
  else upper

/-- Whether `price` differs from `target` by at most `tolerance` of `target`. -/
def closeEnough (price target tolerance : α) : Bool :=
  if PriceArithmetic.isZero target then PriceArithmetic.isZero price
  else PriceArithmetic.atMost (PriceArithmetic.abs ((price - target) / target)) tolerance

def consistencyTolerance : α := 0.05

structure Agreement (α : Type) where
  median : α
  reached : Bool

/-- Fewer than two prices agree trivially. -/
def agreement (prices : List α) : Agreement α :=
  let middle := median prices
  let near := prices.filter (closeEnough · middle consistencyTolerance)
  ⟨middle, decide (prices.length < 2 ∨ 2 ≤ near.length)⟩

end IndexPrice
