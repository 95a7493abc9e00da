import IndexPrice.Feed.Wire
import IndexPrice.Proofs.Decimal.Value
import Mathlib

/-!
# Decimal seconds and the instants they name

The whole part of a double is taken exactly and its fraction to a nanosecond, so that a
number of seconds from zero on names an instant less than a nanosecond away.  The rounding
of the product never fills up a second.  A number below zero loses its fraction, and what
is not a number is read as the epoch.
-/

namespace IndexPrice

/-- The seconds from the epoch to an instant that is no leap second. -/
def Instant.exactSeconds (time : Instant) : Rat :=
  time.seconds + time.nanos / Span.nanosPerSecond

namespace UnixSeconds

open Decimal

/-! ## Rounding to fifty-three bits -/

def spacing (n : Nat) : Nat := Nat.pow 2 (n.log2 + 1 - 53)

private theorem roundTo53_cases (n : Nat) :
    roundTo53 n = n / spacing n * spacing n ∨
      roundTo53 n = (n / spacing n + 1) * spacing n ∧ spacing n ≤ 2 * (n % spacing n) := by
  unfold roundTo53 spacing
  dsimp only
  split
  · exact .inr ⟨rfl, by omega⟩
  · exact .inl rfl

/-- Rounding does not pass the neighbour below, and moves by half the spacing at most. -/
private theorem roundTo53_bounds (n : Nat) :
    n / spacing n * spacing n ≤ roundTo53 n ∧ 2 * roundTo53 n ≤ 2 * n + spacing n := by
  have hdivision := Nat.div_add_mod' n (spacing n)
  rcases roundTo53_cases n with h | ⟨h, hupper⟩
  · rw [h]
    omega
  · rw [h, Nat.succ_mul]
    omega

private theorem spacing_dvd {n bits : Nat} (h : n < 2 ^ bits) : spacing n ∣ 2 ^ (bits - 53) := by
  refine pow_dvd_pow 2 ?_
  rcases Nat.eq_zero_or_pos n with rfl | hpos
  · simp
  · have hlog := (Nat.log2_lt (Nat.ne_of_gt hpos)).mpr h
    omega

section

variable (significand : Nat) (exponent : Int)

/-! ## Nanoseconds -/

def denominator : Nat := 2 ^ (-exponent).toNat

def fractionNumerator : Nat := significand % denominator exponent * Span.nanosPerSecond

private theorem fractionNanos_eq :
    fractionNanos significand exponent =
      roundTo53 (fractionNumerator significand exponent) / denominator exponent := rfl

theorem denominator_pos : 0 < denominator exponent := Nat.two_pow_pos _

theorem remainder_lt : significand % denominator exponent < denominator exponent :=
  Nat.mod_lt _ (denominator_pos exponent)

private theorem spacing_dvd_denominator :
    spacing (fractionNumerator significand exponent) ∣ denominator exponent := by
  have hsmall : fractionNumerator significand exponent < 2 ^ (30 + (-exponent).toNat) := by
    have hremainder := remainder_lt significand exponent
    rw [Nat.pow_add, ← denominator, fractionNumerator, Span.nanosPerSecond]
    omega
  exact (spacing_dvd hsmall).trans (pow_dvd_pow 2 (by omega))

private theorem fractionNanos_bounds :
    fractionNumerator significand exponent <
        (fractionNanos significand exponent + 1) * denominator exponent ∧
      fractionNanos significand exponent * denominator exponent <
        fractionNumerator significand exponent + denominator exponent := by
  have hpos := denominator_pos exponent
  have hdvd := spacing_dvd_denominator significand exponent
  have hspacing := Nat.le_of_dvd hpos hdvd
  obtain ⟨hbelow, habove⟩ := roundTo53_bounds (fractionNumerator significand exponent)
  rw [fractionNanos_eq]
  generalize fractionNumerator significand exponent = numerator at *
  generalize denominator exponent = unit at *
  constructor
  · -- the whole nanoseconds below are neighbours, which rounding does not pass
    have hwhole : numerator / unit * unit ≤ roundTo53 numerator := by
      refine Nat.le_trans ?_ hbelow
      have hneighbour : spacing numerator ∣ numerator / unit * unit := hdvd.mul_left _
      rw [← Nat.div_mul_cancel hneighbour]
      exact Nat.mul_le_mul_right _ (Nat.div_le_div_right (Nat.div_mul_le_self _ _))
    have hfloor : numerator / unit ≤ roundTo53 numerator / unit :=
      (Nat.le_div_iff_mul_le hpos).mpr hwhole
    calc numerator < unit * (numerator / unit + 1) := Nat.lt_mul_div_succ numerator hpos
      _ = (numerator / unit + 1) * unit := Nat.mul_comm _ _
      _ ≤ _ := Nat.mul_le_mul_right _ (Nat.succ_le_succ hfloor)
  · have hcut := Nat.div_mul_le_self (roundTo53 numerator) unit
    omega

variable {significand} in
/-- Fifty-three bits leave a gap below one that rounding does not close. -/
private theorem fractionNanos_lt (short : significand < 2 ^ 53) :
    fractionNanos significand exponent < Span.nanosPerSecond := by
  have hremainder := remainder_lt significand exponent
  have hmod : significand % denominator exponent ≤ significand := Nat.mod_le _ _
  have hnumerator : fractionNumerator significand exponent < 2 ^ 83 := by
    rw [fractionNumerator, Span.nanosPerSecond]
    omega
  have hspacing : spacing (fractionNumerator significand exponent) ≤ 2 ^ 30 :=
    Nat.le_of_dvd (by decide) (spacing_dvd hnumerator)
  have habove := (roundTo53_bounds (fractionNumerator significand exponent)).2
  -- the product stays `nanosPerSecond` below that of a full second; half a spacing is less
  have hfraction : fractionNumerator significand exponent + Span.nanosPerSecond ≤
      Span.nanosPerSecond * denominator exponent := by
    rw [fractionNumerator, Span.nanosPerSecond]
    omega
  rw [fractionNanos_eq, Nat.div_lt_iff_lt_mul (denominator_pos exponent)]
  rw [Span.nanosPerSecond] at *
  omega

/-! ## Whole part and fraction of the number -/

theorem magnitude_nonneg : 0 ≤ magnitude significand exponent := by
  unfold magnitude
  positivity

private theorem magnitude_eq :
    magnitude significand exponent = wholePart significand exponent +
      (significand % denominator exponent : Nat) / (denominator exponent : Rat) := by
  obtain ⟨power, rfl | rfl⟩ := exponent.eq_nat_or_neg
  · simp [magnitude, wholePart, denominator, Nat.mod_one]
  · have hdivision := congrArg (Nat.cast : Nat → Rat) (Nat.div_add_mod significand (2 ^ power))
    have hpos : (0 : Rat) < 2 ^ power := by positivity
    push_cast at hdivision
    simp only [magnitude, wholePart, denominator, zpow_neg, zpow_natCast, Int.toNat_neg_natCast,
      neg_neg, Int.toNat_natCast, Nat.pow_eq, pow_zero, mul_one, Nat.cast_pow, Nat.cast_ofNat]
    rw [← div_eq_mul_inv, div_eq_iff hpos.ne', add_mul, div_mul_cancel₀ _ hpos.ne']
    linarith

private theorem floor_magnitude :
    ⌊magnitude significand exponent⌋ = wholePart significand exponent := by
  have hpos : (0 : Rat) < denominator exponent := by exact_mod_cast denominator_pos exponent
  have hfraction :
      ((significand % denominator exponent : Nat) : Rat) / denominator exponent < 1 := by
    rw [div_lt_one hpos]
    exact_mod_cast remainder_lt significand exponent
  rw [magnitude_eq, Int.floor_eq_iff]
  push_cast at hfraction ⊢
  exact ⟨le_add_of_nonneg_right (by positivity), by linarith⟩

def nanosecond : Rat := 1 / Span.nanosPerSecond

private theorem abs_fractionNanos_sub_lt :
    |(fractionNanos significand exponent : Rat) / Span.nanosPerSecond -
      (significand % denominator exponent : Nat) / (denominator exponent : Rat)| < nanosecond := by
  have hunit : (0 : Rat) < denominator exponent := by exact_mod_cast denominator_pos exponent
  have hsecond : (0 : Rat) < Span.nanosPerSecond := by norm_num [Span.nanosPerSecond]
  obtain ⟨hlower, hupper⟩ := fractionNanos_bounds significand exponent
  rw [fractionNumerator] at hlower hupper
  generalize fractionNanos significand exponent = nanos at *
  generalize significand % denominator exponent = remainder at *
  have hbelow : (remainder : Rat) / denominator exponent < (nanos + 1) / Span.nanosPerSecond := by
    rw [div_lt_div_iff₀ hunit hsecond]
    exact_mod_cast hlower
  have habove : (nanos - 1 : Rat) / Span.nanosPerSecond < remainder / denominator exponent := by
    rw [div_lt_div_iff₀ hsecond hunit, sub_mul, one_mul, sub_lt_iff_lt_add]
    exact_mod_cast hupper
  rw [add_div] at hbelow
  rw [sub_div] at habove
  rw [abs_lt, nanosecond]
  constructor <;> linarith

/-! ## The second that is read -/

def wholeSeconds (q : Rat) : Int := if 0 ≤ q then ⌊q⌋ else ⌈q⌉

private theorem wholeSeconds_magnitude :
    wholeSeconds (magnitude significand exponent) = wholePart significand exponent := by
  rw [wholeSeconds, if_pos (magnitude_nonneg significand exponent), floor_magnitude]

private theorem wholeSeconds_neg_magnitude :
    wholeSeconds (-magnitude significand exponent) = -wholePart significand exponent := by
  have hnonneg := magnitude_nonneg significand exponent
  rw [← floor_magnitude, wholeSeconds]
  split
  · next hneg =>
    have hzero : magnitude significand exponent = 0 := by linarith
    simp [hzero]
  · exact Int.ceil_neg

end

def InCalendar (second : Int) : Prop :=
  Instant.firstSecond ≤ second ∧ second ≤ Instant.lastSecond

private theorem ofSeconds?_clamp (second : Int) (nanos : Nat) :
    (¬ InCalendar second → Instant.ofSeconds? (clamp second) nanos = none) ∧
      (InCalendar second → Instant.ofSeconds? (clamp second) nanos = some ⟨second, nanos⟩) := by
  have hbound : Int.ofNat (Nat.pow 2 63) = 9223372036854775808 := rfl
  constructor
  · intro hout
    refine if_neg fun hin => hout ?_
    simp only [clamp, hbound, InCalendar, Instant.firstSecond, Instant.lastSecond] at hin ⊢
    omega
  · intro hin
    have hclamp : clamp second = second := by
      simp only [clamp, hbound, InCalendar, Instant.firstSecond, Instant.lastSecond] at hin ⊢
      omega
    rw [hclamp]
    exact if_pos hin

/-! ## Numbers and instants -/

structure ReadFrom (q : Rat) (time : Instant) : Prop where
  seconds : time.seconds = wholeSeconds q
  regular : time.inLeapSecond = false
  near : 0 ≤ q → |time.exactSeconds - q| < nanosecond
  cut : q < 0 → time.nanos = 0

private theorem split_of_reading {u : Float.Model.UnpackedFloat} {value : FloatValue} {q : Rat}
    (hreading : Reading u value) (hq : unpackedValue? u = some q) :
    ∃ nanos, split value = (clamp (wholeSeconds q), nanos) ∧
      ReadFrom q ⟨wholeSeconds q, nanos⟩ := by
  cases hreading with
  | nan => cases hq
  | infinity sign negative => cases hq
  | finite negative significand exponent short hvalue =>
      have hnonneg := magnitude_nonneg significand exponent
      rw [hvalue, Option.some.injEq] at hq
      subst hq
      cases negative with
      | false =>
          have hwhole := wholeSeconds_magnitude significand exponent
          have hfraction := abs_fractionNanos_sub_lt significand exponent
          refine ⟨fractionNanos significand exponent, ?_, rfl, ?_, fun _ => ?_, fun hneg => ?_⟩
          · exact congrArg (clamp ·, _) hwhole.symm
          · exact decide_eq_false (Nat.not_le.mpr (fractionNanos_lt exponent short))
          · simp only [Bool.false_eq_true, if_false, hwhole, Instant.exactSeconds]
            rw [magnitude_eq]
            push_cast at hfraction ⊢
            rwa [add_sub_add_left_eq_sub]
          · exact absurd hneg (not_lt.mpr hnonneg)
      | true =>
          have hwhole := wholeSeconds_neg_magnitude significand exponent
          refine ⟨0, congrArg (clamp ·, 0) hwhole.symm, rfl, rfl, fun hpos => ?_, fun _ => rfl⟩
          have hzero : magnitude significand exponent = 0 := by
            have : 0 ≤ -magnitude significand exponent := hpos
            linarith
          simp [hzero, wholeSeconds, Instant.exactSeconds, nanosecond, Span.nanosPerSecond]

theorem ReadFrom.abs_sub_le_iff {q : Rat} {time : Instant} (h : ReadFrom q time) :
    |time.exactSeconds - q| ≤ nanosecond ↔ 0 ≤ q ∨ ⌈q⌉ - q ≤ nanosecond := by
  rcases le_or_gt 0 q with hpos | hneg
  · exact iff_of_true (h.near hpos).le (.inl hpos)
  · have hexact : time.exactSeconds = ⌈q⌉ := by
      rw [Instant.exactSeconds, h.seconds, h.cut hneg, wholeSeconds, if_neg (not_le.mpr hneg)]
      simp
    have hceil : 0 ≤ ⌈q⌉ - q := sub_nonneg.mpr (Int.le_ceil q)
    rw [hexact, abs_of_nonneg hceil]
    exact (or_iff_right (not_le.mpr hneg)).symm

end UnixSeconds

namespace Feed.Wire

open UnixSeconds

/--
The seconds that a text gives, by the number it is read as.  A number from zero on names
an instant less than a nanosecond away; one below zero is cut to its whole part, and what
is not a number is the epoch.
-/
theorem unixSeconds_by_value (text : String) :
    (∀ fault, Decimal.readFloat text.toList = .error fault →
      unixSeconds text = .error (.timestamp text (.float fault))) ∧
    ∀ x, Decimal.readFloat text.toList = .ok x →
      (x.isNaN = true ∧ unixSeconds text = .ok .epoch) ∨
      (x.isInf = true ∧ unixSeconds text = .error (.timestamp text .outOfRange)) ∨
      ∃ q, x.isFinite = true ∧ Decimal.exactValue? x = some q ∧
        (¬ InCalendar (wholeSeconds q) →
          unixSeconds text = .error (.timestamp text .outOfRange)) ∧
        (InCalendar (wholeSeconds q) → ∃ time, unixSeconds text = .ok time ∧ ReadFrom q time ∧
          (|time.exactSeconds - q| ≤ nanosecond ↔ 0 ≤ q ∨ ⌈q⌉ - q ≤ nanosecond)) := by
  constructor
  · intro fault hfault
    simp [unixSeconds, hfault]
  · intro x hx
    have hreading := Decimal.reading_ofFloat x
    have hfinite {q : Rat} := Decimal.isFinite_of_exactValue? (x := x) (q := q)
    change (x.toModel.unpack.isNaN = true ∧ _) ∨ (x.toModel.unpack.isInf = true ∧ _) ∨ _
    simp only [unixSeconds, hx, instant?]
    unfold Decimal.exactValue? at *
    generalize Decimal.FloatValue.ofFloat x = value at *
    generalize x.toModel.unpack = u at *
    cases hreading with
    | nan => exact .inl ⟨rfl, rfl⟩
    | infinity sign negative =>
        refine .inr (.inl ⟨rfl, ?_⟩)
        cases negative <;> rfl
    | finite negative significand exponent short hq =>
        obtain ⟨nanos, hsplit, hread⟩ := split_of_reading (.finite _ _ _ short hq) hq
        obtain ⟨hout, hin⟩ := ofSeconds?_clamp _ nanos
        refine .inr (.inr ⟨_, hfinite hq, hq, fun h => ?_, fun h => ?_⟩)
        · rw [hsplit, hout h]
        · rw [hsplit, hin h]
          exact ⟨_, rfl, hread, hread.abs_sub_le_iff⟩

/-- The greatest double below one names an instant of its own second. -/
theorem unixSeconds_below_one :
    Decimal.readFloat "0.9999999999999999".toList = .ok 0.9999999999999999 ∧
      ∃ time, unixSeconds "0.9999999999999999" = .ok time ∧
        time.seconds = 0 ∧ time.inLeapSecond = false ∧
        |time.exactSeconds - (1 - 1 / 2 ^ 53)| ≤ nanosecond := by
  have hread : Decimal.readFloat "0.9999999999999999".toList = .ok 0.9999999999999999 := rfl
  have hvalue : Decimal.exactValue? 0.9999999999999999 = some (1 - 1 / 2 ^ 53) := by
    have hunpack : (0.9999999999999999 : Float).toModel.unpack =
        .finite .positive (2 ^ 53 - 1) (-53) (by decide) := rfl
    rw [Decimal.exactValue?, hunpack]
    norm_num [Decimal.unpackedValue?, Float.Model.UnpackedFloat.Sign.apply]
  have hwhole : wholeSeconds (1 - 1 / 2 ^ 53) = 0 := by
    norm_num [wholeSeconds]
  have hcalendar : InCalendar (wholeSeconds (1 - 1 / 2 ^ 53)) := by
    rw [hwhole]
    exact ⟨by decide, by decide⟩
  rcases (unixSeconds_by_value "0.9999999999999999").2 _ hread with
    ⟨hnan, -⟩ | ⟨hinf, -⟩ | ⟨q, -, hq, -, htime⟩
  · cases hnan
  · cases hinf
  · obtain rfl := Option.some.inj (hvalue.symm.trans hq)
    obtain ⟨time, hok, hfrom, hnear⟩ := htime hcalendar
    exact ⟨hread, time, hok, hfrom.seconds.trans hwhole, hfrom.regular,
      hnear.mpr (.inl (by norm_num))⟩

theorem misread_seconds :
    (Decimal.readFloat "-1.5".toList = .ok (-1.5) ∧
      Decimal.exactValue? (-1.5) = some (-3 / 2) ∧
      unixSeconds "-1.5" = .ok ⟨-1, 0⟩ ∧
      nanosecond < |Instant.exactSeconds ⟨-1, 0⟩ - -3 / 2|) ∧
    (Decimal.readFloat "nan".toList = .ok Decimal.notANumber ∧
      Decimal.notANumber.isFinite = false ∧
      unixSeconds "nan" = .ok .epoch) := by
  refine ⟨⟨rfl, ?_, rfl, ?_⟩, rfl, rfl, rfl⟩
  · have hunpack : (-1.5 : Float).toModel.unpack =
        .finite .negative (3 * 2 ^ 51) (-52) (by decide) := rfl
    rw [Decimal.exactValue?, hunpack]
    norm_num [Decimal.unpackedValue?, Float.Model.UnpackedFloat.Sign.apply]
  · norm_num [nanosecond, Instant.exactSeconds, Span.nanosPerSecond]

end Feed.Wire

end IndexPrice
