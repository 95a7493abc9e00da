import IndexPrice.Decimal.BitPattern

/-!
# Price arithmetic

The consensus rule adds, subtracts, divides, compares and sorts prices.  It is
written once for every type with these operations.  The running program uses
doubles, of which one is no number; bit patterns also tell apart what is no number.
The rational numbers give the same rule without rounding.
-/

namespace IndexPrice

/-- What the consensus rule asks of a type of prices. -/
class PriceArithmetic (α : Type) extends Add α, Sub α, Div α, OfScientific α where
  abs : α → α
  isZero : α → Bool
  atMost : α → α → Bool
  /-- The order in which prices are sorted; total, unlike the comparison of doubles. -/
  inOrder : α → α → Bool

instance : PriceArithmetic Float where
  toOfScientific := inferInstance
  abs := Float.abs
  isZero x := x == 0.0
  atMost x y := decide (x ≤ y)
  inOrder x y := decide (Decimal.totalRank x.toBits ≤ Decimal.totalRank y.toBits)

instance {rule : Decimal.NaNRule} : PriceArithmetic (Decimal.BitPattern rule) where
  toOfScientific := inferInstance
  abs := Decimal.BitPattern.abs
  isZero x := x.unpack.beq (0.0 : Float).toModel.unpack
  atMost x y := x.unpack.le y.unpack
  inOrder x y := decide (Decimal.totalRank x.bits ≤ Decimal.totalRank y.bits)

instance : PriceArithmetic Rat where
  toOfScientific := inferInstance
  abs := Rat.abs
  isZero x := decide (x = 0)
  atMost x y := decide (x ≤ y)
  inOrder x y := decide (x ≤ y)

end IndexPrice
