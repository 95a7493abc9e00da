import IndexPrice.Proofs.Consensus.Median
import IndexPrice.Proofs.Consensus.NewPrices

/-!
# Majorities of honest sources

If more than half of the prices of a tick lie in an interval, so does the median
on which the prices must agree, with or without the vote of the previous price.
The usable prices lie within five percent of that median and their own median
among them, so the other sources cannot move the composite price far.
-/

namespace IndexPrice

/-- More than half of the prices lie between the bounds. -/
def MajorityWithin (lo hi : Rat) (prices : List Rat) : Prop :=
  prices.length < 2 * prices.countP fun price => decide (lo ≤ price ∧ price ≤ hi)

theorem MajorityWithin.median_mem {lo hi : Rat} {prices : List Rat}
    (h : MajorityWithin lo hi prices) : lo ≤ median prices ∧ median prices ≤ hi := by
  unfold MajorityWithin at h
  have hsplit := List.length_eq_countP_add_countP
    (fun price : Rat => decide (lo ≤ price ∧ price ≤ hi)) (l := prices)
  constructor
  · apply le_median_of_countP
    have hbelow : prices.countP (· < lo) ≤
        prices.countP fun price => ¬ decide (lo ≤ price ∧ price ≤ hi) = true := by
      apply List.countP_mono_left
      intro price _ hlt
      simp only [decide_eq_true_eq] at hlt ⊢
      exact fun hwithin => not_le.mpr hlt hwithin.1
    omega
  · apply median_le_of_countP
    have habove : prices.countP (hi < ·) ≤
        prices.countP fun price => ¬ decide (lo ≤ price ∧ price ≤ hi) = true := by
      apply List.countP_mono_left
      intro price _ hlt
      simp only [decide_eq_true_eq] at hlt ⊢
      exact fun hwithin => not_le.mpr hlt hwithin.2
    omega

private theorem median_mem_of_forall {lo hi : Rat} {prices : List Rat} (hne : prices ≠ [])
    (h : ∀ price ∈ prices, lo ≤ price ∧ price ≤ hi) :
    lo ≤ median prices ∧ median prices ≤ hi := by
  apply MajorityWithin.median_mem
  have hall : (prices.countP fun price => decide (lo ≤ price ∧ price ≤ hi)) = prices.length :=
    List.countP_eq_length.mpr fun price hmem => decide_eq_true (h price hmem)
  have hpos := List.length_pos_iff.mpr hne
  rw [MajorityWithin, hall]
  omega

private theorem MajorityWithin.with_previous {lo hi : Rat} {previous : Option Rat} {tick : List Rat}
    (h : MajorityWithin lo hi tick)
    (hprevious : ∀ last, previous = some last → lo ≤ last ∧ last ≤ hi) :
    MajorityWithin lo hi (previous.toList ++ tick) := by
  cases previous with
  | none => simpa using h
  | some last =>
      have hlast : decide (lo ≤ last ∧ last ≤ hi) = true := decide_eq_true (hprevious last rfl)
      unfold MajorityWithin at h ⊢
      rw [Option.toList_some, List.singleton_append, List.length_cons, List.countP_cons, hlast]
      simp only [if_true]
      omega

private theorem jointAgreement_median_mem {lo hi : Rat} {previous : Option Rat} {tick : List Rat}
    (h : MajorityWithin lo hi tick)
    (hprevious : ∀ last, previous = some last → lo ≤ last ∧ last ≤ hi) :
    lo ≤ (jointAgreement previous tick).median ∧
      (jointAgreement previous tick).median ≤ hi := by
  unfold jointAgreement
  dsimp only
  split
  · exact (h.with_previous hprevious).median_mem
  · exact h.median_mem

private theorem closeEnough_of_mem {lo hi price middle : Rat} (hlo : 0 < lo)
    (hnarrow : hi ≤ 1.05 * lo)
    (hprice : lo ≤ price ∧ price ≤ hi) (hmiddle : lo ≤ middle ∧ middle ≤ hi) :
    closeEnough price middle consistencyTolerance = true := by
  have hpos : 0 < middle := lt_of_lt_of_le hlo hmiddle.1
  rw [closeEnough_iff hpos, consistencyTolerance_eq]
  obtain ⟨hprice_lo, hprice_hi⟩ := hprice
  obtain ⟨hmiddle_lo, hmiddle_hi⟩ := hmiddle
  norm_num at hnarrow ⊢
  constructor <;> linarith

private theorem agreement_reached_of_majority {lo hi : Rat} {prices : List Rat} (hlo : 0 < lo)
    (hnarrow : hi ≤ 1.05 * lo) (h : MajorityWithin lo hi prices) :
    (agreement prices).reached = true := by
  have hnear : (prices.countP fun price => decide (lo ≤ price ∧ price ≤ hi)) ≤
      prices.countP (closeEnough · (median prices) consistencyTolerance) := by
    apply List.countP_mono_left
    intro price _ hwithin
    exact closeEnough_of_mem hlo hnarrow (of_decide_eq_true hwithin) h.median_mem
  unfold MajorityWithin at h
  simp only [agreement, decide_eq_true_eq, ← List.countP_eq_length_filter]
  omega

private theorem median_usablePrices_mem {lo hi : Rat} {previous : Option Rat} {tick : List Rat}
    (hlo : 0 < lo) (h : MajorityWithin lo hi tick)
    (hprevious : ∀ last, previous = some last → lo ≤ last ∧ last ≤ hi)
    (husable : usablePrices previous tick ≠ []) :
    0.95 * lo ≤ median (usablePrices previous tick) ∧
      median (usablePrices previous tick) ≤ 1.05 * hi := by
  apply median_mem_of_forall husable
  intro price hmem
  obtain ⟨hmiddle_lo, hmiddle_hi⟩ := jointAgreement_median_mem h hprevious
  have hclose := (List.mem_filter.mp hmem).2
  rw [closeEnough_iff (lt_of_lt_of_le hlo hmiddle_lo), consistencyTolerance_eq] at hclose
  obtain ⟨hprice_lo, hprice_hi⟩ := hclose
  norm_num at hprice_lo hprice_hi ⊢
  constructor <;> linarith

private theorem combine_of_majority {lo hi : Rat} {previous : Option Rat} {tick : List Rat}
    (hlo : 0 < lo) (several : 2 ≤ tick.length) (hnarrow : hi ≤ 1.05 * lo)
    (h : MajorityWithin lo hi tick)
    (hprevious : ∀ last, previous = some last → lo ≤ last ∧ last ≤ hi) :
    ∃ price sources, combine previous tick = .ok (price, sources) := by
  have hreached : (jointAgreement previous tick).reached = true := by
    unfold jointAgreement
    dsimp only
    split
    · exact agreement_reached_of_majority hlo hnarrow (h.with_previous hprevious)
    · exact agreement_reached_of_majority hlo hnarrow h
  have hne : tick ≠ [] := List.ne_nil_of_length_pos (by omega)
  exact ⟨_, _, by rw [combine_eq previous hne, if_pos hreached]⟩

namespace Consensus

/--
A minority of faulty sources does not steer the price: when more than half of at
least two prices lie in an interval of positive prices, together with the price
accepted before if there is one, the composite price is at most five percent
outside of the interval.  When the interval is itself that narrow, there is a
composite price.
-/
theorem composite_mem_of_majority (state : Consensus Rat) (tick : List Rat) (lo hi : Rat)
    (hlo : 0 < lo) (several : 2 ≤ tick.length)
    (majority : tick.length < 2 * tick.countP fun price => decide (lo ≤ price ∧ price ≤ hi))
    (previous : ∀ last, state.lastAccepted = some last → lo ≤ last ∧ last ≤ hi) :
    (∀ price, (state.evaluate tick).1.composite? = some price →
      0.95 * lo ≤ price ∧ price ≤ 1.05 * hi) ∧
    (hi ≤ 1.05 * lo →
      (∀ middle, (state.evaluate tick).1 ≠ .error (.inconsistent middle)) ∧
        (state.evaluate tick).1 ≠ .error .noUsableData) := by
  have hmajority : MajorityWithin lo hi tick := majority
  have hruling := evaluate_ruling state tick
  constructor
  · intro price hprice
    obtain ⟨sources, hcombine⟩ := combine_of_composite? hruling hprice
    cases combination_of_combine hcombine with
    | single price one => simp [one] at several
    | joined several agreed usable =>
        exact median_usablePrices_mem hlo hmajority previous usable
  · intro hnarrow
    obtain ⟨price, sources, hcombine⟩ :=
      combine_of_majority hlo several hnarrow hmajority previous
    have hprice : (state.evaluate tick).1.composite? = some price := by
      rw [composite?_of_ruling hruling, hcombine]
      rfl
    constructor
    · intro middle hverdict
      rw [hverdict] at hprice
      cases hprice
    · intro hverdict
      rw [hverdict] at hprice
      cases hprice

theorem composite_mem_of_two_honest :
    (0 : Rat) < 100 ∧ 100 ≤ (101 : Rat) ∧
      (∀ price, ((⟨some 100, 3⟩ : Consensus Rat).evaluate [100, 5000, 101]).1.composite? =
          some price → 0.95 * 100 ≤ price ∧ price ≤ 1.05 * 101) ∧
      ((⟨some 100, 3⟩ : Consensus Rat).evaluate [100, 5000, 101]).1 ≠ .error .noUsableData := by
  have h := composite_mem_of_majority ⟨some 100, 3⟩ [100, 5000, 101] 100 101 (by norm_num)
    (by decide) (by decide) (by simp; norm_num)
  exact ⟨by norm_num, by norm_num, h.1, (h.2 (by norm_num)).2⟩

end Consensus

end IndexPrice
