import IndexPrice.Proofs.Consensus.Combination

/-!
# The rule under a map of prices

Some maps of prices are followed by medians and by the comparisons of the rule.  Each step
of the rule then follows the map too, and so does a whole run: what comes of mapped prices
are the mapped verdicts and states.
-/

namespace IndexPrice

variable {α β : Type}

/-! ## Mapped verdicts and states -/

def Accepted.mapPrice (f : α → β) (accepted : Accepted α) : Accepted β :=
  ⟨f accepted.price, accepted.sources, accepted.forced⟩

def Rejection.mapPrice (f : α → β) : Rejection α → Rejection β
  | .inconsistent middle => .inconsistent (f middle)
  | .noUsableData => .noUsableData
  | .priceJump last candidate run => .priceJump (f last) (f candidate) run

def Verdict.mapPrice (f : α → β) : Verdict α → Verdict β
  | .ok accepted => .ok (accepted.mapPrice f)
  | .error rejection => .error (rejection.mapPrice f)

def Consensus.mapPrice (f : α → β) (state : Consensus α) : Consensus β :=
  ⟨state.lastAccepted.map f, state.rejectedRun⟩

def Agreement.mapPrice (f : α → β) (agreement : Agreement α) : Agreement β :=
  ⟨f agreement.median, agreement.reached⟩

variable [PriceArithmetic α] [PriceArithmetic β]

/-- Medians and the two comparisons of the rule follow a map of prices. -/
structure Followed (f : α → β) : Prop where
  zero : f 0.0 = 0.0
  median : ∀ prices, median (prices.map f) = f (median prices)
  consistent : ∀ price target, closeEnough (f price) (f target) consistencyTolerance =
    closeEnough price target consistencyTolerance
  steady : ∀ price target, closeEnough (f price) (f target) jumpTolerance =
    closeEnough price target jumpTolerance

namespace Followed

variable {f : α → β} (h : Followed f)

include h

/-! ## Agreement -/

private theorem filter (prices : List α) (target : α) :
    (prices.map f).filter (closeEnough · (f target) consistencyTolerance) =
      (prices.filter (closeEnough · target consistencyTolerance)).map f := by
  rw [List.filter_map]
  congr 2
  funext price
  exact h.consistent price target

private theorem agreement (prices : List α) :
    IndexPrice.agreement (prices.map f) = (IndexPrice.agreement prices).mapPrice f := by
  simp only [IndexPrice.agreement, Agreement.mapPrice, h.median, h.filter, List.length_map]

private theorem jointAgreement (previous : Option α) (tick : List α) :
    IndexPrice.jointAgreement (previous.map f) (tick.map f) =
      (IndexPrice.jointAgreement previous tick).mapPrice f := by
  have hjoint : (previous.map f).toList ++ tick.map f = (previous.toList ++ tick).map f := by
    cases previous <;> simp
  have hreached (agreement : Agreement α) :
      (agreement.mapPrice f).reached = agreement.reached := rfl
  simp only [IndexPrice.jointAgreement, hjoint, h.agreement, Option.isNone_map, hreached,
    apply_ite (Agreement.mapPrice f)]

private theorem usablePrices (previous : Option α) (tick : List α) :
    IndexPrice.usablePrices (previous.map f) (tick.map f) =
      (IndexPrice.usablePrices previous tick).map f := by
  rw [IndexPrice.usablePrices, h.jointAgreement]
  exact h.filter _ _

private theorem combination {previous : Option α} {tick : List α}
    {outcome : Except (Rejection α) (α × Nat)} (houtcome : Combination previous tick outcome) :
    Combination (previous.map f) (tick.map f)
      ((outcome.map fun composite => (f composite.1, composite.2)).mapError
        (Rejection.mapPrice f)) := by
  have hjoint := h.jointAgreement previous tick
  have husable := h.usablePrices previous tick
  have hseveral : 2 ≤ tick.length → 2 ≤ (tick.map f).length := by simp
  have hreached : (IndexPrice.jointAgreement (previous.map f) (tick.map f)).reached =
      (IndexPrice.jointAgreement previous tick).reached := by
    rw [hjoint, Agreement.mapPrice]
  cases houtcome with
  | empty none =>
      subst none
      exact .empty rfl
  | single price one =>
      subst one
      exact .single (f price) rfl
  | apart several disagreed =>
      have hmapped := Combination.apart (hseveral several) (hreached.trans disagreed)
      rw [hjoint] at hmapped
      exact hmapped
  | outside several agreed unusable =>
      have hnone : IndexPrice.usablePrices (previous.map f) (tick.map f) = [] := by
        rw [husable, unusable, List.map_nil]
      exact .outside (hseveral several) (hreached.trans agreed) hnone
  | joined several agreed usable =>
      have hsome : IndexPrice.usablePrices (previous.map f) (tick.map f) ≠ [] := by
        rw [husable]
        exact mt List.map_eq_nil_iff.mp usable
      have hmapped := Combination.joined (hseveral several) (hreached.trans agreed) hsome
      rw [husable, h.median, List.length_map] at hmapped
      exact hmapped

private theorem combine (previous : Option α) (tick : List α) :
    IndexPrice.combine (previous.map f) (tick.map f) =
      ((IndexPrice.combine previous tick).map fun composite =>
        (f composite.1, composite.2)).mapError (Rejection.mapPrice f) :=
  combine_of_combination (h.combination (combination_of_combine rfl))

/-! ## Ticks and runs -/

private theorem withinJump (state : Consensus α) (candidate : α) :
    (state.mapPrice f).withinJump (f candidate) = state.withinJump candidate := by
  unfold Consensus.withinJump Consensus.mapPrice
  cases state.lastAccepted with
  | none => rfl
  | some last => exact h.steady candidate last

private theorem judge (state : Consensus α) (candidate : α) (sources : Nat) :
    (state.mapPrice f).judge (f candidate) sources =
      ((state.judge candidate sources).1.mapPrice f,
        (state.judge candidate sources).2.mapPrice f) := by
  have hlast : (state.mapPrice f).lastAccepted.getD 0.0 = f (state.lastAccepted.getD 0.0) := by
    rw [← h.zero]
    exact Option.getD_map _ _ _
  have hrun : (state.mapPrice f).rejectedRun = state.rejectedRun := rfl
  unfold Consensus.judge
  simp only [h.withinJump, hlast, hrun]
  split <;> rfl

private theorem evaluate (state : Consensus α) (tick : List α) :
    (state.mapPrice f).evaluate (tick.map f) =
      ((state.evaluate tick).1.mapPrice f, (state.evaluate tick).2.mapPrice f) := by
  have hcombine : IndexPrice.combine (state.mapPrice f).lastAccepted (tick.map f) = _ :=
    h.combine state.lastAccepted tick
  unfold Consensus.evaluate
  rw [hcombine]
  cases IndexPrice.combine state.lastAccepted tick with
  | error rejection => rfl
  | ok composite => exact h.judge state composite.1 composite.2

theorem run (state : Consensus α) (ticks : List (List α)) :
    (state.mapPrice f).run (ticks.map (·.map f)) =
      (state.run ticks).map fun after => (after.1.mapPrice f, after.2.mapPrice f) := by
  induction ticks generalizing state with
  | nil => rfl
  | cons tick ticks ih =>
      rw [List.map_cons, Consensus.run, Consensus.run, h.evaluate]
      dsimp only
      rw [ih, List.map_cons]

end Followed

/-! ## Maps of single operations -/

/-- A map of prices commutes with sorting, and with the mean of two prices. -/
theorem median_map {f : α → β} (zero : f 0.0 = 0.0)
    (inOrder : ∀ a b, PriceArithmetic.inOrder (f a) (f b) = PriceArithmetic.inOrder a b)
    (mean : ∀ a b : α, (f a + f b) / 2.0 = f ((a + b) / 2.0)) (prices : List α) :
    median (prices.map f) = f (median prices) := by
  have hsorted : (prices.map f).mergeSort PriceArithmetic.inOrder =
      (prices.mergeSort PriceArithmetic.inOrder).map f :=
    (List.map_mergeSort fun a _ b _ => (inOrder a b).symm).symm
  -- a place past the end reads as zero, which the map does not move
  have hplace : ∀ place, ((prices.mergeSort PriceArithmetic.inOrder).map f).getD place 0.0 =
      f ((prices.mergeSort PriceArithmetic.inOrder).getD place 0.0) := by
    intro place
    rw [← zero]
    simp only [List.getD_eq_getElem?_getD, List.getElem?_map, Option.getD_map]
  simp only [median, hsorted, List.length_map, List.isEmpty_map, hplace]
  split
  · exact zero.symm
  · split
    · exact mean _ _
    · rfl

end IndexPrice
