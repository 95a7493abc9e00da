import IndexPrice.Consensus.Rule

/-!
# How a tick is combined

The ways in which the prices of one tick become a composite price or fail to,
each with what it takes.
-/

namespace IndexPrice

variable {α : Type} [PriceArithmetic α]

def usablePrices (previous : Option α) (tick : List α) : List α :=
  tick.filter (closeEnough · (jointAgreement previous tick).median consistencyTolerance)

inductive Combination (previous : Option α) (tick : List α) :
    Except (Rejection α) (α × Nat) → Prop
  | empty (none : tick = []) : Combination previous tick (.error .noUsableData)
  | single (price : α) (one : tick = [price]) : Combination previous tick (.ok (price, 1))
  | apart (several : 2 ≤ tick.length)
      (disagreed : (jointAgreement previous tick).reached = false) :
      Combination previous tick (.error (.inconsistent (jointAgreement previous tick).median))
  | outside (several : 2 ≤ tick.length)
      (agreed : (jointAgreement previous tick).reached = true)
      (unusable : usablePrices previous tick = []) :
      Combination previous tick (.error .noUsableData)
  | joined (several : 2 ≤ tick.length)
      (agreed : (jointAgreement previous tick).reached = true)
      (usable : usablePrices previous tick ≠ []) :
      Combination previous tick
        (.ok (median (usablePrices previous tick), (usablePrices previous tick).length))

theorem combination_of_combine {previous : Option α} {tick : List α}
    {outcome : Except (Rejection α) (α × Nat)} (h : combine previous tick = outcome) :
    Combination previous tick outcome := by
  subst h
  match tick with
  | [] => exact .empty rfl
  | [price] => exact .single price rfl
  | first :: second :: rest =>
      have hseveral : 2 ≤ (first :: second :: rest).length := by simp
      cases hagreed : (jointAgreement previous (first :: second :: rest)).reached with
      | false =>
          simp only [combine, hagreed]
          exact .apart hseveral hagreed
      | true =>
          simp only [combine, hagreed, if_true]
          rw [← usablePrices]
          split
          · next hnone => exact .outside hseveral hagreed hnone
          · next hsome => exact .joined hseveral hagreed hsome

theorem combine_of_combination {previous : Option α} {tick : List α}
    {outcome : Except (Rejection α) (α × Nat)} (h : Combination previous tick outcome) :
    combine previous tick = outcome := by
  have hseveral : 2 ≤ tick.length → ∃ first second rest, tick = first :: second :: rest := by
    intro several
    rcases tick with _ | ⟨first, _ | ⟨second, rest⟩⟩
    · cases several
    · simp at several
    · exact ⟨first, second, rest, rfl⟩
  cases h with
  | empty none => rw [none, combine]
  | single price one => rw [one, combine]
  | apart several disagreed =>
      obtain ⟨first, second, rest, rfl⟩ := hseveral several
      simp [combine, disagreed]
  | outside several agreed unusable =>
      obtain ⟨first, second, rest, rfl⟩ := hseveral several
      simp only [combine, agreed, if_true]
      rw [← usablePrices, unusable]
  | joined several agreed usable =>
      obtain ⟨first, second, rest, rfl⟩ := hseveral several
      simp only [combine, agreed, if_true]
      rw [← usablePrices]
      split
      · next hnone => exact absurd hnone usable
      · rfl

end IndexPrice
