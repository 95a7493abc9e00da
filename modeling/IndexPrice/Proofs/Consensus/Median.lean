import IndexPrice.Consensus.Median
import Mathlib.Algebra.Order.Field.Basic
import Mathlib.Algebra.Order.Field.Rat
import Mathlib.Data.List.Forall2
import Mathlib.Data.List.GetD
import Mathlib.Tactic.Linarith
import Mathlib.Tactic.NormNum
import Mathlib.Tactic.Ring

/-!
# Medians of rational prices

Without rounding, the median is the mean of the two prices in the middle of the
sorted list, which are one and the same when their number is odd.  A place in the
sorted list is told by counting the prices below and not above, so that counting also
tells on which side of a bound the median lies and which way it moves.
-/

namespace IndexPrice

/-! ## The operations on rational prices -/

theorem inOrder_iff (a b : Rat) : PriceArithmetic.inOrder a b = true ↔ a ≤ b := by
  simp [PriceArithmetic.inOrder]

theorem consistencyTolerance_eq : (consistencyTolerance : Rat) = 1 / 20 := by
  change (0.05 : Rat) = 1 / 20
  norm_num

theorem closeEnough_iff {price target tolerance : Rat} (htarget : 0 < target) :
    closeEnough price target tolerance = true ↔
      (1 - tolerance) * target ≤ price ∧ price ≤ (1 + tolerance) * target := by
  have hne : ¬ target = 0 := ne_of_gt htarget
  have habs : ∀ x : Rat, PriceArithmetic.abs x = |x| := by
    intro x
    change x.abs = |x|
    rcases le_total 0 x with hx | hx
    · rw [abs_of_nonneg hx, Rat.abs_of_nonneg hx]
    · rw [abs_of_nonpos hx, Rat.abs_of_nonpos hx]
  unfold closeEnough
  simp only [PriceArithmetic.isZero, hne, decide_false, PriceArithmetic.atMost, habs]
  simp only [Bool.false_eq_true, if_false, decide_eq_true_eq]
  change |(price - target) / target| ≤ tolerance ↔ _
  rw [abs_div, abs_of_pos htarget, div_le_iff₀ htarget, abs_le]
  constructor
  · rintro ⟨hlower, hupper⟩
    constructor <;> linarith
  · rintro ⟨hlower, hupper⟩
    constructor <;> linarith

/-! ## Sorted prices -/

def sortedPrices (prices : List Rat) : List Rat := prices.mergeSort PriceArithmetic.inOrder

private theorem sortedPrices_perm (prices : List Rat) : (sortedPrices prices).Perm prices :=
  List.mergeSort_perm prices _

@[simp] theorem sortedPrices_length (prices : List Rat) :
    (sortedPrices prices).length = prices.length :=
  (sortedPrices_perm prices).length_eq

private theorem sortedPrices_pairwise (prices : List Rat) :
    (sortedPrices prices).Pairwise (· ≤ ·) := by
  have h : (sortedPrices prices).Pairwise fun a b => PriceArithmetic.inOrder a b = true := by
    apply List.pairwise_mergeSort
    · intro a b c hab hbc
      simp only [inOrder_iff] at hab hbc ⊢
      exact le_trans hab hbc
    · intro a b
      simp only [Bool.or_eq_true, inOrder_iff]
      exact le_total a b
  exact h.imp fun hab => (inOrder_iff _ _).mp hab

/-! ## Places -/

/--
The place of a price, counted upwards from zero: no more than `place` prices are below it
and more than `place` prices are not above it.
-/
structure StandsAt (prices : List Rat) (place : Nat) (price : Rat) : Prop where
  below : prices.countP (· < price) ≤ place
  reached : place < prices.countP (· ≤ price)

private theorem standsAt_of_sorted {before behind : List Rat} {price : Rat}
    (hsorted : (before ++ price :: behind).Pairwise (· ≤ ·)) :
    StandsAt (before ++ price :: behind) before.length price := by
  obtain ⟨-, htail, hacross⟩ := List.pairwise_append.mp hsorted
  have hbehind : behind.countP (· < price) = 0 := by
    rw [List.countP_eq_zero]
    intro later hlater
    simpa using (List.pairwise_cons.mp htail).1 later hlater
  have hbefore : before.countP (· ≤ price) = before.length := by
    rw [List.countP_eq_length]
    intro earlier hearlier
    simpa using hacross earlier hearlier price List.mem_cons_self
  constructor
  · simpa [hbehind] using List.countP_le_length
  · simp [hbefore]

private theorem standsAt_of_getElem? {prices : List Rat} {place : Nat} {price : Rat}
    (h : (sortedPrices prices)[place]? = some price) : StandsAt prices place price := by
  obtain ⟨hplace, rfl⟩ := List.getElem?_eq_some_iff.mp h
  have hsplit := List.take_append_drop place (sortedPrices prices)
  rw [← List.getElem_cons_drop hplace] at hsplit
  have hsorted := sortedPrices_pairwise prices
  rw [← hsplit] at hsorted
  have hstands := standsAt_of_sorted hsorted
  rw [hsplit, List.length_take_of_le hplace.le] at hstands
  have hperm := sortedPrices_perm prices
  exact ⟨hperm.countP_eq _ ▸ hstands.below, hperm.countP_eq _ ▸ hstands.reached⟩

private theorem countP_le_add_countP_lt (prices : List Rat) (bound : Rat) :
    prices.countP (· ≤ bound) + prices.countP (bound < ·) = prices.length := by
  simpa using (List.length_eq_countP_add_countP (· ≤ bound) (l := prices)).symm

private theorem countP_le_of_raised {prices raised : List Rat}
    (h : List.Forall₂ (· ≤ ·) prices raised)
    (bound : Rat) : raised.countP (· ≤ bound) ≤ prices.countP (· ≤ bound) := by
  induction h with
  | nil => exact Nat.le_refl _
  | cons hle _ ih =>
      simp only [List.countP_cons, decide_eq_true_eq]
      split
      · next habove =>
        rw [if_pos (hle.trans habove)]
        omega
      · omega

namespace StandsAt

variable {prices : List Rat} {place : Nat} {price bound : Rat}

private theorem mem (h : StandsAt prices place price) : price ∈ prices := by
  by_contra habsent
  have hcount : prices.countP (· ≤ price) = prices.countP (· < price) := by
    apply List.countP_congr
    intro other hother
    have hne : other ≠ price := fun heq => habsent (heq ▸ hother)
    simpa using (lt_iff_le_and_ne.trans (and_iff_left hne)).symm
  exact absurd h.reached (not_lt.mpr (hcount ▸ h.below))

private theorem le_of_countP (h : StandsAt prices place price)
    (few : prices.countP (· < bound) ≤ place) : bound ≤ price := by
  by_contra hless
  have hcount : prices.countP (· ≤ price) ≤ prices.countP (· < bound) := by
    apply List.countP_mono_left
    intro other _ hother
    simpa using lt_of_le_of_lt (by simpa using hother) (not_le.mp hless)
  have hreached := h.reached
  omega

private theorem ge_of_countP (h : StandsAt prices place price)
    (many : place < prices.countP (· ≤ bound)) : price ≤ bound := by
  by_contra hless
  have hcount : prices.countP (· ≤ bound) ≤ prices.countP (· < price) := by
    apply List.countP_mono_left
    intro other _ hother
    simpa using lt_of_le_of_lt (by simpa using hother) (not_le.mp hless)
  have hbelow := h.below
  omega

theorem le_of_raised (h : StandsAt prices place price) {raised : List Rat} {later : Nat}
    (hrise : List.Forall₂ (· ≤ ·) prices raised) (hbound : StandsAt raised later bound)
    (hlater : place ≤ later) : price ≤ bound := by
  apply h.ge_of_countP
  calc place ≤ later := hlater
    _ < raised.countP (· ≤ bound) := hbound.reached
    _ ≤ prices.countP (· ≤ bound) := countP_le_of_raised hrise bound

end StandsAt

/-! ## The median -/

private theorem median_eq_mean {prices : List Rat} (hne : prices ≠ []) :
    ∃ lower upper, (sortedPrices prices)[(prices.length - 1) / 2]? = some lower ∧
      (sortedPrices prices)[prices.length / 2]? = some upper ∧
      median prices = (lower + upper) / 2 := by
  have hpos : 0 < prices.length := List.length_pos_iff.mpr hne
  have hlower : (prices.length - 1) / 2 < (sortedPrices prices).length := by
    rw [sortedPrices_length]
    omega
  have hupper : prices.length / 2 < (sortedPrices prices).length := by
    rw [sortedPrices_length]
    omega
  refine ⟨(sortedPrices prices)[(prices.length - 1) / 2], (sortedPrices prices)[prices.length / 2],
    List.getElem?_eq_getElem hlower, List.getElem?_eq_getElem hupper, ?_⟩
  have hnonempty : (sortedPrices prices).isEmpty = false := by
    rw [List.isEmpty_eq_false_iff, ← List.length_pos_iff, sortedPrices_length]
    exact hpos
  change (if (sortedPrices prices).isEmpty then _ else _) = _
  simp only [hnonempty, Bool.false_eq_true, if_false]
  rw [← sortedPrices, sortedPrices_length]
  split
  · next heven =>
      have hmiddle : prices.length / 2 - 1 = (prices.length - 1) / 2 := by omega
      rw [hmiddle, List.getD_eq_getElem _ _ hlower, List.getD_eq_getElem _ _ hupper]
      change (_ + _) / (2.0 : Rat) = _
      norm_num
  · next hodd =>
      have hmiddle : (prices.length - 1) / 2 = prices.length / 2 := by omega
      simp only [hmiddle, List.getD_eq_getElem _ _ hupper]
      ring

theorem exists_middle {prices : List Rat} (hne : prices ≠ []) :
    ∃ lower upper, StandsAt prices ((prices.length - 1) / 2) lower ∧
      StandsAt prices (prices.length / 2) upper ∧ lower ≤ upper ∧
      median prices = (lower + upper) / 2 := by
  obtain ⟨lower, upper, hlower, hupper, hmedian⟩ := median_eq_mean hne
  have hlower := standsAt_of_getElem? hlower
  have hupper := standsAt_of_getElem? hupper
  exact ⟨lower, upper, hlower, hupper,
    hlower.le_of_raised (List.forall₂_refl prices) hupper (by omega), hmedian⟩

theorem le_median_of_countP {prices : List Rat} {bound : Rat}
    (few : 2 * prices.countP (· < bound) < prices.length) : bound ≤ median prices := by
  have hne : prices ≠ [] := by
    rintro rfl
    simp at few
  obtain ⟨lower, upper, hlower, hupper, -, hmedian⟩ := exists_middle hne
  have hfirst : bound ≤ lower := hlower.le_of_countP (by omega)
  have hsecond : bound ≤ upper := hupper.le_of_countP (by omega)
  rw [hmedian]
  linarith

theorem median_le_of_countP {prices : List Rat} {bound : Rat}
    (few : 2 * prices.countP (bound < ·) < prices.length) : median prices ≤ bound := by
  have hne : prices ≠ [] := by
    rintro rfl
    simp at few
  have hlength := countP_le_add_countP_lt prices bound
  obtain ⟨lower, upper, hlower, hupper, -, hmedian⟩ := exists_middle hne
  have hfirst : lower ≤ bound := hlower.ge_of_countP (by omega)
  have hsecond : upper ≤ bound := hupper.ge_of_countP (by omega)
  rw [hmedian]
  linarith

/-! ## What makes it a median -/

theorem median_monotone {prices raised : List Rat} (h : List.Forall₂ (· ≤ ·) prices raised) :
    median prices ≤ median raised := by
  cases h with
  | nil => exact le_refl _
  | @cons price higher prices raised hle hmore =>
      have h : List.Forall₂ (· ≤ ·) (price :: prices) (higher :: raised) := .cons hle hmore
      obtain ⟨lower, upper, hlower, hupper, -, hmedian⟩ :=
        exists_middle (List.cons_ne_nil price prices)
      obtain ⟨lower', upper', hlower', hupper', -, hmedian'⟩ :=
        exists_middle (List.cons_ne_nil higher raised)
      have hlength := h.length_eq
      have hfirst : lower ≤ lower' := hlower.le_of_raised h hlower' (by omega)
      have hsecond : upper ≤ upper' := hupper.le_of_raised h hupper' (by omega)
      rw [hmedian, hmedian']
      linarith

/--
The median splits the prices in halves and lies among them; it is the price in the middle,
or the mean of the two prices there, and no rise of prices lowers it.
-/
theorem median_in_the_middle {prices : List Rat} (hne : prices ≠ []) :
    2 * prices.countP (· < median prices) ≤ prices.length ∧
    2 * prices.countP (median prices < ·) ≤ prices.length ∧
    prices.min hne ≤ median prices ∧ median prices ≤ prices.max hne ∧
    (prices.length % 2 = 1 →
      median prices ∈ prices ∧ StandsAt prices (prices.length / 2) (median prices)) ∧
    (prices.length % 2 = 0 → ∃ lower ∈ prices, ∃ upper ∈ prices,
      StandsAt prices (prices.length / 2 - 1) lower ∧ StandsAt prices (prices.length / 2) upper ∧
      median prices = (lower + upper) / 2) ∧
    ∀ raised, List.Forall₂ (· ≤ ·) prices raised → median prices ≤ median raised := by
  obtain ⟨lower, upper, hlower, hupper, hordered, hmedian⟩ := exists_middle hne
  have hfrom : lower ≤ median prices := by
    rw [hmedian]
    linarith
  have hupto : median prices ≤ upper := by
    rw [hmedian]
    linarith
  refine ⟨?_, ?_, ?_, ?_, fun hodd => ?_, fun heven => ?_, fun _ => median_monotone⟩
  · have hcount : prices.countP (· < median prices) ≤ prices.countP (· < upper) :=
      List.countP_mono_left fun price _ hprice => by
        simpa using lt_of_lt_of_le (by simpa using hprice) hupto
    have hbelow := hupper.below
    omega
  · have hcount : prices.countP (median prices < ·) ≤ prices.countP (lower < ·) :=
      List.countP_mono_left fun price _ hprice => by
        simpa using lt_of_le_of_lt hfrom (by simpa using hprice)
    have hreached := hlower.reached
    have hlength := countP_le_add_countP_lt prices lower
    omega
  · exact (List.min_le_of_mem hlower.mem).trans hfrom
  · exact hupto.trans (List.le_max_of_mem hupper.mem)
  · have hmeet : upper ≤ lower :=
      hupper.le_of_raised (List.forall₂_refl prices) hlower (by omega)
    have hmiddle : median prices = upper := le_antisymm hupto (hmeet.trans hfrom)
    rw [hmiddle]
    exact ⟨hupper.mem, hupper⟩
  · rw [show prices.length / 2 - 1 = (prices.length - 1) / 2 by omega]
    exact ⟨lower, hlower.mem, upper, hupper.mem, hlower, hupper, hmedian⟩

theorem median_of_four_prices :
    ([3, 1, 4, 1] : List Rat) ≠ [] ∧
      (∃ lower ∈ ([3, 1, 4, 1] : List Rat), ∃ upper ∈ ([3, 1, 4, 1] : List Rat),
        StandsAt [3, 1, 4, 1] 1 lower ∧ StandsAt [3, 1, 4, 1] 2 upper ∧
        median [3, 1, 4, 1] = (lower + upper) / 2) ∧
      1 ≤ median ([3, 1, 4, 1] : List Rat) ∧
      median ([3, 1, 4, 1] : List Rat) ≤ median [3, 2, 5, 1] := by
  have hne : ([3, 1, 4, 1] : List Rat) ≠ [] := by decide
  obtain ⟨-, -, hleast, -, -, heven, hrise⟩ := median_in_the_middle hne
  have hmin : ([3, 1, 4, 1] : List Rat).min (by decide) = 1 := by decide
  refine ⟨hne, heven rfl, ?_, hrise _ ?_⟩
  · exact hmin.symm.le.trans hleast
  · norm_num

end IndexPrice
