import IndexPrice.Decimal.Binary
import Mathlib

/-!
# Comparing doubles

Not-a-number is neither below nor above nor equal to anything; all other doubles are
compared as numbers, so that both zeros are equal.  So what is not below a finite bound
need not be above it.  The order of bit patterns by `totalRank` tells all of them apart,
and what is no number stands at both ends of it.
-/

namespace IndexPrice.Decimal

open Float.Model Float.Model.UnpackedFloat

/-! ## Comparison as numbers -/

theorem compare_swap (u v : UnpackedFloat) :
    (UnpackedFloat.compare u v).map Ordering.swap = UnpackedFloat.compare v u := by
  cases u with
  | notANumber => cases v <;> rfl
  | infinity sign =>
      cases v with
      | infinity other => cases sign <;> cases other <;> rfl
      | _ => cases sign <;> rfl
  | zero sign =>
      cases v with
      | infinity other => cases other <;> rfl
      | finite other mantissa exponent positive => cases other <;> rfl
      | _ => rfl
  | finite sign mantissa exponent positive =>
      cases v with
      | notANumber => cases sign <;> rfl
      | infinity other => cases sign <;> cases other <;> rfl
      | zero other => cases sign <;> rfl
      | finite other n second positive' =>
          cases sign <;> cases other <;>
            simp [UnpackedFloat.compare, Ordering.swap_then, Int.compare_swap, Nat.compare_swap]

theorem le_iff_compare {x y : Float} :
    x ≤ y ↔ (UnpackedFloat.compare x.toModel.unpack y.toModel.unpack).any Ordering.isLE = true := by
  change decide (x.toModel ≤ y.toModel) = true ↔ _
  rw [decide_eq_true_iff]
  rfl

theorem lt_iff_compare {x y : Float} :
    x < y ↔ UnpackedFloat.compare x.toModel.unpack y.toModel.unpack = some .lt := by
  change decide (x.toModel < y.toModel) = true ↔ _
  rw [decide_eq_true_iff]
  exact beq_iff_eq

private theorem beq_iff_compare {x y : Float} :
    (x == y) = true ↔ UnpackedFloat.compare x.toModel.unpack y.toModel.unpack = some .eq := by
  change (UnpackedFloat.compare x.toModel.unpack y.toModel.unpack == some .eq) = true ↔ _
  exact beq_iff_eq

theorem not_lt_of_le {x y : Float} (h : x ≤ y) : ¬ y < x := by
  rw [le_iff_compare] at h
  rw [lt_iff_compare, ← compare_swap]
  intro hlt
  cases hcompare : UnpackedFloat.compare x.toModel.unpack y.toModel.unpack with
  | none => simp [hcompare] at h
  | some ordering => cases ordering <;> simp_all

theorem lt_of_le_of_not_beq {x y : Float} (h : x ≤ y) (hne : (y == x) = false) : x < y := by
  rw [le_iff_compare] at h
  rw [← Bool.not_eq_true, beq_iff_compare, ← compare_swap] at hne
  rw [lt_iff_compare]
  cases hcompare : UnpackedFloat.compare x.toModel.unpack y.toModel.unpack with
  | none => simp [hcompare] at h
  | some ordering => cases ordering <;> simp_all

theorem isNaN_of_lt {x y : Float} (h : x < y) : y.isNaN = false := by
  rw [lt_iff_compare] at h
  change y.toModel.unpack.isNaN = false
  cases hy : y.toModel.unpack with
  | notANumber =>
      rw [hy] at h
      cases hx : x.toModel.unpack <;> simp [hx, UnpackedFloat.compare] at h
  | _ => rfl

/-! ## Bounds -/

private theorem unpack_injective {x y : Float} (h : x.toModel.unpack = y.toModel.unpack) :
    x = y := by
  have hbits : x.toModel.toBits.toBitVec = y.toModel.toBits.toBitVec :=
    (unpack_inj_of_valid x.toModel.valid y.toModel.valid (by decide)).mp h
  exact Float.toBits_inj.mp (UInt64.toBitVec_inj.mp hbits)

theorem isNaN_iff_unpack {x : Float} : x.isNaN = true ↔ x.toModel.unpack = .notANumber :=
  UnpackedFloat.isNaN_iff

private theorem not_isNaN_of_isFinite {x : Float} (h : x.isFinite = true) : ¬ x.isNaN = true := by
  change x.toModel.unpack.isFinite = true at h
  rw [isNaN_iff_unpack]
  intro hnan
  rw [hnan] at h
  cases h

private theorem notANumber_of_compare {u v : UnpackedFloat} (h : UnpackedFloat.compare u v = none) :
    u = .notANumber ∨ v = .notANumber := by
  cases u with
  | notANumber => exact .inl rfl
  | infinity sign =>
      cases v with
      | notANumber => exact .inr rfl
      | infinity other => cases h
      | _ => cases sign <;> cases h
  | zero sign =>
      cases v with
      | notANumber => exact .inr rfl
      | zero other => cases h
      | infinity other => cases other <;> cases h
      | finite other mantissa exponent positive => cases other <;> cases h
  | finite sign mantissa exponent positive =>
      cases v with
      | notANumber => exact .inr rfl
      | zero other => cases sign <;> cases h
      | infinity other => cases sign <;> cases other <;> cases h
      | finite other n second positive' => cases sign <;> cases other <;> cases h

private theorem lt_or_le {x y : Float} (hx : ¬ x.isNaN = true) (hy : ¬ y.isNaN = true) :
    x < y ∨ y ≤ x := by
  rw [lt_iff_compare, le_iff_compare, ← compare_swap x.toModel.unpack y.toModel.unpack]
  cases hcompare : UnpackedFloat.compare x.toModel.unpack y.toModel.unpack with
  | none =>
      rcases notANumber_of_compare hcompare with hnan | hnan
      · exact absurd (isNaN_iff_unpack.mpr hnan) hx
      · exact absurd (isNaN_iff_unpack.mpr hnan) hy
  | some ordering => cases ordering <;> simp

private theorem compare_infinity {u : UnpackedFloat} (h : u.isFinite = true) (sign : Sign) :
    UnpackedFloat.compare u (.infinity sign) =
      some (match sign with | .positive => .lt | .negative => .gt) := by
  cases u with
  | notANumber => cases h
  | infinity other => cases h
  | zero other => cases sign <;> rfl
  | finite other mantissa exponent positive => cases other <;> cases sign <;> rfl

private theorem le_infinity {bound : Float} (h : bound.isFinite = true) : bound ≤ 1.0 / 0.0 := by
  have hcompare : UnpackedFloat.compare bound.toModel.unpack (1.0 / 0.0 : Float).toModel.unpack =
      some .lt := compare_infinity h .positive
  rw [le_iff_compare, hcompare]
  rfl

private theorem eq_infinity_of_le {x bound : Float} (hbound : bound.isFinite = true) (h : bound ≤ x)
    (hx : x.isFinite = false) : x = 1.0 / 0.0 := by
  change x.toModel.unpack.isFinite = false at hx
  rw [le_iff_compare] at h
  apply unpack_injective
  change x.toModel.unpack = .infinity .positive
  cases hunpacked : x.toModel.unpack with
  | notANumber =>
      rw [hunpacked, ← compare_swap] at h
      cases h
  | infinity sign =>
      rw [hunpacked, compare_infinity hbound] at h
      cases sign with
      | positive => rfl
      | negative => cases h
  | zero sign => simp [hunpacked, UnpackedFloat.isFinite] at hx
  | finite sign mantissa exponent positive => simp [hunpacked, UnpackedFloat.isFinite] at hx

private theorem not_lt_of_isNaN {x y : Float} (h : x.isNaN = true) : ¬ x < y := by
  rw [lt_iff_compare, isNaN_iff_unpack.mp h]
  exact nofun

/-- What a finite bound does not hold off: the numbers from it on, and what is no number. -/
theorem not_lt_iff {x bound : Float} (hbound : bound.isFinite = true) :
    ¬ x < bound ↔
      (x.isFinite = true ∧ bound ≤ x) ∨ x.isNaN = true ∨ x = 1.0 / 0.0 := by
  constructor
  · intro hnot
    by_cases hnan : x.isNaN = true
    · exact .inr (.inl hnan)
    · have hle : bound ≤ x :=
        (lt_or_le hnan (not_isNaN_of_isFinite hbound)).resolve_left hnot
      cases hfinite : x.isFinite with
      | true => exact .inl ⟨rfl, hle⟩
      | false => exact .inr (.inr (eq_infinity_of_le hbound hle hfinite))
  · rintro (⟨-, hle⟩ | hnan | rfl)
    · exact not_lt_of_le hle
    · exact not_lt_of_isNaN hnan
    · exact not_lt_of_le (le_infinity hbound)

/-! ## The total order -/

private theorem totalRank_eq (bits : UInt64) :
    totalRank bits =
      if bits.toNat < 2 ^ 63 then (bits.toNat : Int) else 9223372036854775807 - bits.toNat := by
  have hbound : Int.ofNat (Nat.pow 2 63) = 9223372036854775808 := rfl
  have hbits : Int.ofNat bits.toNat = bits.toNat := rfl
  unfold totalRank
  dsimp only
  rw [hbound, hbits]
  split
  · rw [if_pos (by omega)]
  · rw [if_neg (by omega)]
    omega

theorem totalRank_injective : Function.Injective totalRank := by
  intro x y h
  have hx := x.toNat_lt
  have hy := y.toNat_lt
  rw [totalRank_eq, totalRank_eq] at h
  apply UInt64.toNat_inj.mp
  split at h <;> split at h <;> omega

private theorem ofBits_eq_nan_iff {bits : Nat} :
    FloatValue.ofBits bits = .nan ↔ exponentField bits = 2047 ∧ fractionField bits ≠ 0 := by
  unfold FloatValue.ofBits
  dsimp only
  split
  · next hzero => simp [hzero]
  · next hones => simp [hones]
  · next field _ hother => simpa using fun hones => absurd hones hother

/-- What is no number stands outside of all numbers, on the side of its sign. -/
theorem totalRank_of_nan {bits other : UInt64} (hnan : FloatValue.ofBits bits.toNat = .nan)
    (hnumber : FloatValue.ofBits other.toNat ≠ .nan) :
    if signField bits.toNat then totalRank bits < totalRank other
      else totalRank other < totalRank bits := by
  have hbits := bits.toNat_lt
  have hother := other.toNat_lt
  rw [ofBits_eq_nan_iff] at hnan
  rw [Ne, ofBits_eq_nan_iff, not_and_not_right] at hnumber
  rw [totalRank_eq, totalRank_eq, signField]
  simp only [exponentField, fractionField, Nat.pow_eq, decide_eq_true_eq] at hnan hnumber ⊢
  split <;> split <;> split <;> omega

end IndexPrice.Decimal
