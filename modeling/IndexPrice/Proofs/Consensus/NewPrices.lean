import IndexPrice.Proofs.Consensus.History
import Mathlib

/-!
# New prices in a composite price

Prices agree when two of them lie near their median, and the price accepted before
is only one of those that are asked.  So at least one price of the tick itself is
near the agreed median, with the vote of the previous price or without it, and a
composite price is always made from prices of the tick.
-/

namespace IndexPrice

variable {α : Type} [PriceArithmetic α]

/-! ## Agreement as a count -/

/-- How many of the prices lie near the middle. -/
def supporters (middle : α) (prices : List α) : Nat :=
  prices.countP (closeEnough · middle consistencyTolerance)

theorem supporters_append (middle : α) (earlier later : List α) :
    supporters middle (earlier ++ later) = supporters middle earlier + supporters middle later :=
  List.countP_append

private theorem supporters_toList_le (middle : α) (previous : Option α) :
    supporters middle previous.toList ≤ 1 := by
  calc supporters middle previous.toList ≤ previous.toList.length := List.countP_le_length
    _ ≤ 1 := by cases previous <;> simp

theorem reached_iff {prices : List α} :
    (agreement prices).reached = true ↔
      prices.length < 2 ∨ 2 ≤ supporters (agreement prices).median prices := by
  simp only [agreement, decide_eq_true_eq, supporters, List.countP_eq_length_filter]

private theorem several_of_not_reached {prices : List α} (h : (agreement prices).reached = false) :
    2 ≤ prices.length := by
  by_contra few
  have hreached := reached_iff.mpr (.inl (Nat.lt_of_not_le few))
  exact absurd (hreached.symm.trans h) (by simp)

/-! ## Agreement with or without the previous price -/

theorem jointAgreement_eq (previous : Option α) (tick : List α) :
    jointAgreement previous tick =
      if (agreement (previous.toList ++ tick)).reached = true then
        agreement (previous.toList ++ tick)
      else agreement tick := by
  unfold jointAgreement
  cases hjoint : (agreement (previous.toList ++ tick)).reached with
  | true => simp [hjoint]
  | false =>
      cases previous with
      | none => simp
      | some last => simp only [hjoint, Option.isNone_some, Bool.or_false]

theorem not_reached_iff (previous : Option α) (tick : List α) :
    (jointAgreement previous tick).reached = false ↔
      (agreement (previous.toList ++ tick)).reached = false ∧ (agreement tick).reached = false := by
  rw [jointAgreement_eq]
  split
  · next hjoint => simp [hjoint]
  · next halone => simp [halone]

private theorem median_of_not_reached {previous : Option α} {tick : List α}
    (disagreed : (jointAgreement previous tick).reached = false) :
    (jointAgreement previous tick).median = median tick := by
  obtain ⟨hjoint, -⟩ := (not_reached_iff previous tick).mp disagreed
  rw [jointAgreement_eq, if_neg (by simp [hjoint])]
  rfl

theorem supporters_pos {previous : Option α} {tick : List α} (several : 2 ≤ tick.length)
    (agreed : (jointAgreement previous tick).reached = true) :
    0 < supporters (jointAgreement previous tick).median tick := by
  rw [jointAgreement_eq] at agreed ⊢
  split
  · next hjoint =>
      -- of the two prices that agree, at most one is the previous price
      have hprevious := supporters_toList_le (agreement (previous.toList ++ tick)).median previous
      rcases reached_iff.mp hjoint with few | many
      · rw [List.length_append] at few
        omega
      · rw [supporters_append] at many
        omega
  · next halone =>
      -- the retry asks the new prices alone
      rw [if_neg halone] at agreed
      rcases reached_iff.mp agreed with few | many <;> omega

theorem usablePrices_ne_nil {previous : Option α} {tick : List α} (several : 2 ≤ tick.length)
    (agreed : (jointAgreement previous tick).reached = true) :
    usablePrices previous tick ≠ [] := by
  have hpos := supporters_pos several agreed
  rw [supporters, List.countP_eq_length_filter] at hpos
  exact List.ne_nil_of_length_pos hpos

/-! ## What a composite price is made from -/

/-- A single price counts as it is; of several, those near the agreed median do. -/
def contributing (previous : Option α) (tick : List α) : List α :=
  if tick.length = 1 then tick else usablePrices previous tick

private theorem contributing_sublist (previous : Option α) (tick : List α) :
    (contributing previous tick).Sublist tick := by
  unfold contributing
  split
  · exact List.Sublist.refl tick
  · exact List.filter_sublist

theorem contributing_ne_nil {previous : Option α} {tick : List α} (hne : tick ≠ [])
    (agreed : (jointAgreement previous tick).reached = true) :
    contributing previous tick ≠ [] := by
  unfold contributing
  split
  · exact hne
  · next hlength =>
      have hpos := List.length_pos_iff.mpr hne
      exact usablePrices_ne_nil (by omega) agreed

/-- A tick with prices combines to a median of new prices, unless they disagree. -/
theorem combine_eq (previous : Option α) {tick : List α} (hne : tick ≠ []) :
    combine previous tick =
      if (jointAgreement previous tick).reached = true then
        .ok (median (contributing previous tick), (contributing previous tick).length)
      else .error (.inconsistent (median tick)) := by
  cases hreached : (jointAgreement previous tick).reached with
  | true =>
      rw [if_pos rfl]
      by_cases hlength : tick.length = 1
      · obtain ⟨price, rfl⟩ := List.length_eq_one_iff.mp hlength
        simp [contributing, combine, median]
      · have hpos := List.length_pos_iff.mpr hne
        have several : 2 ≤ tick.length := by omega
        rw [contributing, if_neg hlength]
        exact combine_of_combination
          (.joined several hreached (usablePrices_ne_nil several hreached))
  | false =>
      have several := several_of_not_reached ((not_reached_iff previous tick).mp hreached).2
      rw [if_neg (by simp), ← median_of_not_reached hreached]
      exact combine_of_combination (.apart several hreached)

theorem combine_eq_noUsableData_iff (previous : Option α) (tick : List α) :
    combine previous tick = .error .noUsableData ↔ tick = [] := by
  constructor
  · intro hnothing
    by_contra hne
    rw [combine_eq previous hne] at hnothing
    split at hnothing <;> cases hnothing
  · rintro rfl
    rfl

theorem combine_eq_inconsistent_iff (previous : Option α) (tick : List α) (middle : α) :
    combine previous tick = .error (.inconsistent middle) ↔
      (agreement (previous.toList ++ tick)).reached = false ∧
        (agreement tick).reached = false ∧ middle = median tick := by
  rw [← and_assoc, ← not_reached_iff]
  by_cases hne : tick = []
  · subst hne
    have hreached : (jointAgreement previous ([] : List α)).reached ≠ false := by
      intro hnot
      have several := several_of_not_reached ((not_reached_iff previous []).mp hnot).2
      simp at several
    simp [combine, hreached]
  · rw [combine_eq previous hne]
    cases (jointAgreement previous tick).reached with
    | true => simp
    | false => simp [eq_comm]

theorem combine_eq_ok_iff (previous : Option α) (tick : List α) (price : α) (sources : Nat) :
    combine previous tick = .ok (price, sources) ↔
      tick ≠ [] ∧ (jointAgreement previous tick).reached = true ∧
        price = median (contributing previous tick) ∧
        sources = (contributing previous tick).length := by
  by_cases hne : tick = []
  · simp [hne, combine]
  · rw [combine_eq previous hne]
    cases (jointAgreement previous tick).reached with
    | true => simp [hne, eq_comm]
    | false => simp

namespace Consensus

theorem evaluate_eq_error_iff (state : Consensus α) (tick : List α) {rejection : Rejection α}
    (notJump : Verdict.isJump (.error rejection) = false) :
    (state.evaluate tick).1 = .error rejection ↔
      combine state.lastAccepted tick = .error rejection := by
  have hruling := evaluate_ruling state tick
  generalize (state.evaluate tick).1 = verdict at hruling ⊢
  generalize (state.evaluate tick).2 = next at hruling
  cases hruling with
  | withheld withheld nothing _ => simp [nothing]
  | agreed price sources composite within => simp [composite]
  | forced price sources composite beyond exhausted => simp [composite]
  | jumped last price sources composite beyond bounded =>
      rw [composite]
      constructor
      · intro hjump
        cases hjump
        cases notJump
      · intro herror
        cases herror

/--
Only a tick without prices has no usable data.  Any other tick that is not rejected as
inconsistent has a composite price, which is the median of some of its own prices, one
at least, and an accepted tick counts those.  A tick is inconsistent exactly if its
prices agree neither with the vote of the previous price nor on their own, and so never
if they agree on their own.
-/
theorem composite_from_new_prices (state : Consensus α) (tick : List α) :
    let verdict := (state.evaluate tick).1
    let new := contributing state.lastAccepted tick
    (verdict = .error .noUsableData ↔ tick = []) ∧
    (tick ≠ [] → (∀ middle, verdict ≠ .error (.inconsistent middle)) →
      new ≠ [] ∧ new.Sublist tick ∧ verdict.composite? = some (median new)) ∧
    (∀ accepted, verdict = .ok accepted →
      accepted.price = median new ∧ accepted.sources = new.length ∧
        1 ≤ accepted.sources ∧ accepted.sources ≤ tick.length) ∧
    ((agreement tick).reached = true → ∀ middle, verdict ≠ .error (.inconsistent middle)) ∧
    (∀ middle, verdict = .error (.inconsistent middle) ↔
      (agreement (state.lastAccepted.toList ++ tick)).reached = false ∧
        (agreement tick).reached = false ∧ middle = median tick) := by
  intro verdict new
  have hruling : Ruling state tick verdict (state.evaluate tick).2 := evaluate_ruling state tick
  have hinconsistent : ∀ middle, verdict = .error (.inconsistent middle) ↔
      (agreement (state.lastAccepted.toList ++ tick)).reached = false ∧
        (agreement tick).reached = false ∧ middle = median tick := fun middle =>
    (state.evaluate_eq_error_iff tick rfl).trans (combine_eq_inconsistent_iff _ _ _)
  refine ⟨?_, ?_, ?_, ?_, hinconsistent⟩
  · exact (state.evaluate_eq_error_iff tick rfl).trans (combine_eq_noUsableData_iff _ _)
  · intro hne hconsistent
    have hreached : (jointAgreement state.lastAccepted tick).reached = true := by
      by_contra hnot
      have hdisagreed := (not_reached_iff state.lastAccepted tick).mp (by simpa using hnot)
      exact hconsistent (median tick) ((hinconsistent _).mpr ⟨hdisagreed.1, hdisagreed.2, rfl⟩)
    refine ⟨contributing_ne_nil hne hreached, contributing_sublist _ _, ?_⟩
    rw [composite?_of_ruling hruling, combine_eq _ hne, if_pos hreached]
    rfl
  · intro accepted hok
    obtain ⟨hne, hreached, hprice, hsources⟩ :=
      (combine_eq_ok_iff _ _ _ _).mp (combine_of_accepted hruling hok)
    have hpos := List.length_pos_iff.mpr (contributing_ne_nil hne hreached)
    have hle := (contributing_sublist state.lastAccepted tick).length_le
    rw [hsources]
    exact ⟨hprice, rfl, hpos, hle⟩
  · intro halone middle hverdict
    obtain ⟨-, hnot, -⟩ := (hinconsistent middle).mp hverdict
    exact absurd (halone.symm.trans hnot) (by simp)

example : ((⟨some 100, 0⟩ : Consensus Rat).evaluate [200, 210, 50]).1 =
    .error (.priceJump 100 205 1) := by
  cbv

end Consensus

end IndexPrice
