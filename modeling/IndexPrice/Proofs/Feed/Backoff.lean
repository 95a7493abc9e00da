import IndexPrice.Feed.Backoff
import Mathlib.Algebra.Group.Nat.Defs
import Mathlib.Data.List.Basic
import Mathlib.Logic.Function.Iterate

/-!
# The schedule of dials

To double again and again and stop at the longest span is to double without end and
to cut once.  So every delay of a schedule has a closed form, and once the attempts
are used up the schedule has no answer any more.
-/

namespace IndexPrice

/-! ## Doubling -/

namespace Span

def parts (span : Span) : Nat × Nat := (span.seconds, span.subsecond)

/-- Doubles the parts of a span apart, with a carry, in sixty-four bits of seconds. -/
def doubleParts (parts : Nat × Nat) : Nat × Nat :=
  let seconds := 2 * parts.1 + 2 * parts.2 / nanosPerSecond
  if seconds < 2 ^ 64 then (seconds, 2 * parts.2 % nanosPerSecond) else longest.parts

private theorem parts_double {span : Span} (h : span ≤ longest) :
    span.double.parts = doubleParts span.parts := by
  have hlongest : longest + 1 = 2 ^ 64 * nanosPerSecond := rfl
  by_cases hfits : 2 * span.seconds + 2 * span.subsecond / nanosPerSecond < 2 ^ 64
  · have hshort : span.double = 2 * span := by
      simp only [double, seconds, subsecond, nanosPerSecond] at hfits hlongest ⊢
      unfold Span at *
      omega
    have hparts : (2 * span).seconds = 2 * span.seconds + 2 * span.subsecond / nanosPerSecond ∧
        (2 * span).subsecond = 2 * span.subsecond % nanosPerSecond := by
      simp only [seconds, subsecond, nanosPerSecond]
      unfold Span at *
      omega
    simp only [hshort, parts, doubleParts, hfits, if_true, hparts]
  · have hlong : span.double = longest := by
      simp only [double, seconds, subsecond, nanosPerSecond] at hfits hlongest ⊢
      unfold Span at *
      omega
    simp only [hlong, doubleParts, parts, hfits, if_false]

private theorem min_double (n cap : Nat) : min (2 * min n cap) cap = min (2 * n) cap := by
  omega

private theorem double_min (span : Span) (doublings : Nat) :
    double (min (span * 2 ^ doublings) longest) = min (span * 2 ^ (doublings + 1)) longest := by
  calc
    double (min (span * 2 ^ doublings) longest)
      = min (2 * (span * 2 ^ doublings)) longest := min_double _ _
    _ = min (span * 2 ^ (doublings + 1)) longest := by
        rw [Nat.pow_succ', Nat.mul_left_comm]

end Span

namespace Feed.Backoff

/-! ## Delays -/

/-- The delay that the failed dial of that number is followed by, counted from one. -/
def delay (initial : Span) (failure : Nat) : Span :=
  min (initial * 2 ^ (failure - 1)) Span.longest

private theorem delay_le (initial : Span) (failure : Nat) : delay initial failure ≤ Span.longest :=
  Nat.min_le_right _ _

private theorem delay_first {initial : Span} (h : initial ≤ Span.longest) :
    delay initial 1 = initial := by
  simp [delay, Nat.min_eq_left h]

private theorem double_delay (initial : Span) (failure : Nat) :
    (delay initial (failure + 1)).double = delay initial (failure + 2) :=
  Span.double_min initial failure

/-- The delays are what doubling seconds and nanoseconds again and again comes to. -/
theorem parts_delay {initial : Span} (h : initial ≤ Span.longest) (failures : Nat) :
    (delay initial (failures + 1)).parts = Span.doubleParts^[failures] initial.parts := by
  induction failures with
  | zero => rw [delay_first h, Function.iterate_zero_apply]
  | succ failures ih =>
      rw [← double_delay, Span.parts_double (delay_le _ _), ih, Function.iterate_succ_apply']

/-- While there are attempts left, the next delay is the one of the next failure. -/
def OnCourse (initial : Span) (b : Backoff) : Prop :=
  b.nextDelay = delay initial (b.failures + 1) ∨ b.maxAttempts ≤ b.failures + 1

theorem onCourse_first {initial : Span} (h : initial ≤ Span.longest) (maxAttempts : Nat) :
    OnCourse initial { nextDelay := initial, maxAttempts } :=
  .inl (delay_first h).symm

theorem recordFailure_eq {initial : Span} {b : Backoff} (h : b.OnCourse initial) :
    (b.recordFailure.1 =
        if b.failures + 1 < b.maxAttempts then some (delay initial (b.failures + 1)) else none) ∧
      b.recordFailure.2.failures = b.failures + 1 ∧
      b.recordFailure.2.maxAttempts = b.maxAttempts ∧
      b.recordFailure.2.OnCourse initial := by
  by_cases hroom : b.failures + 1 < b.maxAttempts
  · have hnext : b.nextDelay = delay initial (b.failures + 1) := h.resolve_right (by omega)
    have hspent : ¬ b.maxAttempts ≤ b.failures + 1 := by omega
    simp only [recordFailure, hspent, if_false, hroom, if_true]
    refine ⟨by rw [hnext], trivial, trivial, .inl ?_⟩
    rw [hnext]
    exact double_delay initial b.failures
  · have hspent : b.maxAttempts ≤ b.failures + 1 := by omega
    simp only [recordFailure, hspent, if_true, hroom, if_false]
    exact ⟨trivial, trivial, trivial, .inr (Nat.le_succ_of_le hspent)⟩

theorem answers_run {initial : Span} {b : Backoff} (h : b.OnCourse initial) (calls : Nat) :
    (b.run calls).map Prod.fst =
      (List.range' (b.failures + 1) calls).map fun failure =>
        if failure < b.maxAttempts then some (delay initial failure) else none := by
  induction calls generalizing b with
  | zero => rfl
  | succ calls ih =>
      obtain ⟨hanswer, hfailures, hattempts, hcourse⟩ := recordFailure_eq h
      rw [run, List.map_cons, ih hcourse, hfailures, hattempts, hanswer]
      rfl

end Feed.Backoff

end IndexPrice
