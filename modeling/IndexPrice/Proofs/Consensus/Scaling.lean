import IndexPrice.Proofs.Consensus.Median
import IndexPrice.Proofs.Consensus.Transport
import Mathlib

/-!
# The unit of account

To quote all prices in another unit is to multiply them by one positive factor.
The order of prices, their means and their relative distances follow the factor, so
a market is judged the same in every unit.
-/

namespace IndexPrice

/-! ## Verdicts and states in another unit -/

def Accepted.scaled (factor : Rat) (accepted : Accepted Rat) : Accepted Rat :=
  { accepted with price := factor * accepted.price }

def Rejection.scaled (factor : Rat) : Rejection Rat → Rejection Rat
  | .inconsistent middle => .inconsistent (factor * middle)
  | .noUsableData => .noUsableData
  | .priceJump last candidate run => .priceJump (factor * last) (factor * candidate) run

def Verdict.scaled (factor : Rat) : Verdict Rat → Verdict Rat
  | .ok accepted => .ok (accepted.scaled factor)
  | .error rejection => .error (rejection.scaled factor)

def Consensus.scaled (factor : Rat) (state : Consensus Rat) : Consensus Rat :=
  { state with lastAccepted := state.lastAccepted.map (factor * ·) }

private theorem scaled_zero (factor : Rat) : factor * (0.0 : Rat) = 0.0 := by
  norm_num

section

variable {factor : Rat} (positive : 0 < factor)

include positive

/-! ## Medians and distances -/

private theorem inOrder_scaled (a b : Rat) :
    PriceArithmetic.inOrder (factor * a) (factor * b) = PriceArithmetic.inOrder a b := by
  rw [Bool.eq_iff_iff, inOrder_iff, inOrder_iff]
  exact mul_le_mul_iff_right₀ positive

private theorem median_scaled (prices : List Rat) :
    median (prices.map (factor * ·)) = factor * median prices :=
  median_map (scaled_zero factor) (inOrder_scaled positive)
    (fun a b => by rw [← mul_add, mul_div_assoc]) prices

private theorem closeEnough_scaled (price target tolerance : Rat) :
    closeEnough (factor * price) (factor * target) tolerance =
      closeEnough price target tolerance := by
  have hzero : ∀ x : Rat, PriceArithmetic.isZero (factor * x) = PriceArithmetic.isZero x := by
    intro x
    simp [PriceArithmetic.isZero, ne_of_gt positive]
  have hratio : (factor * price - factor * target) / (factor * target) =
      (price - target) / target := by
    rw [← mul_sub, mul_div_mul_left _ _ (ne_of_gt positive)]
  unfold closeEnough
  rw [hzero, hzero]
  split
  · rfl
  · exact congrArg
      (fun ratio => PriceArithmetic.atMost (PriceArithmetic.abs ratio) tolerance) hratio

private theorem followed_scaled : Followed (factor * · : Rat → Rat) where
  zero := scaled_zero factor
  median := median_scaled positive
  consistent price target := closeEnough_scaled positive price target consistencyTolerance
  steady price target := closeEnough_scaled positive price target jumpTolerance

end

namespace Consensus

/--
The rule does not depend on the unit of account.  If all prices of a run, the ones
remembered from before it among them, are multiplied by one positive factor, then each
tick has the verdict that it had, with the same number of sources, forced or not as it
was, and after as long a run of rejections; only the prices in the verdicts and in the
states are multiplied by the factor.
-/
theorem run_scaled (factor : Rat) (positive : 0 < factor) (state : Consensus Rat)
    (ticks : List (List Rat)) :
    (state.scaled factor).run (ticks.map (·.map (factor * ·))) =
      (state.run ticks).map fun after => (after.1.scaled factor, after.2.scaled factor) := by
  have hscaled := (followed_scaled positive).run state ticks
  have hverdict (verdict : Verdict Rat) :
      verdict.mapPrice (factor * ·) = verdict.scaled factor := by
    rcases verdict with (middle | _ | ⟨last, candidate, run⟩) | accepted <;> rfl
  simp only [hverdict] at hscaled
  exact hscaled

theorem run_per_thousand :
    (0 : Rat) < 1000 ∧
      ({} : Consensus Rat).run [[100, 102, 5000], [200], [3, 9], []] =
        [(.ok ⟨101, 2, false⟩, ⟨some 101, 0⟩), (.error (.priceJump 101 200 1), ⟨some 101, 1⟩),
          (.error (.inconsistent 6), ⟨some 101, 1⟩), (.error .noUsableData, ⟨some 101, 1⟩)] ∧
      ({} : Consensus Rat).run [[100000, 102000, 5000000], [200000], [3000, 9000], []] =
        [(.ok ⟨101000, 2, false⟩, ⟨some 101000, 0⟩),
          (.error (.priceJump 101000 200000 1), ⟨some 101000, 1⟩),
          (.error (.inconsistent 6000), ⟨some 101000, 1⟩),
          (.error .noUsableData, ⟨some 101000, 1⟩)] := by
  have hpositive : (0 : Rat) < 1000 := by norm_num
  have hrun : ({} : Consensus Rat).run [[100, 102, 5000], [200], [3, 9], []] =
      [(.ok ⟨101, 2, false⟩, ⟨some 101, 0⟩), (.error (.priceJump 101 200 1), ⟨some 101, 1⟩),
        (.error (.inconsistent 6), ⟨some 101, 1⟩), (.error .noUsableData, ⟨some 101, 1⟩)] := by
    cbv
  have hscaled := run_scaled 1000 hpositive {} [[100, 102, 5000], [200], [3, 9], []]
  rw [hrun] at hscaled
  refine ⟨hpositive, hrun, ?_⟩
  norm_num [scaled, Verdict.scaled, Accepted.scaled, Rejection.scaled] at hscaled
  exact hscaled

end Consensus

end IndexPrice
