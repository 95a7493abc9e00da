import Mathlib

/-!
# Finite doubles

Which operations on doubles can leave the finite numbers, and which can come back.
What is infinite or not a number stays so under subtraction from it, division of it
and absolute values, and lies below no finite bound.  Halving a finite number gives
a finite one, because rounding moves the exponent up by one at most.
-/

namespace IndexPrice.Decimal

open Float.Model Float.Model.UnpackedFloat

/-! ## What is not finite -/

inductive OutOfRange : UnpackedFloat → Prop
  | notANumber : OutOfRange .notANumber
  | infinity (sign : Sign) : OutOfRange (.infinity sign)

theorem outOfRange_of_not_finite {x : Float} (h : x.isFinite = false) :
    OutOfRange x.toModel.unpack := by
  change x.toModel.unpack.isFinite = false at h
  cases hx : x.toModel.unpack with
  | notANumber => exact .notANumber
  | infinity sign => exact .infinity sign
  | zero sign => simp [hx, UnpackedFloat.isFinite] at h
  | finite sign mantissa exponent positive => simp [hx, UnpackedFloat.isFinite] at h

namespace OutOfRange

variable {u : UnpackedFloat}

private theorem not_finite_pack (h : OutOfRange u) :
    (Float.Model.pack u).unpack.isFinite = false := by
  cases h with
  | notANumber => rfl
  | infinity sign => cases sign <;> rfl

private theorem sub (h : OutOfRange u) (v : UnpackedFloat) :
    OutOfRange (UnpackedFloat.sub .binary64 u v) := by
  cases h with
  | notANumber => exact .notANumber
  | infinity sign =>
      cases v with
      | notANumber => exact .notANumber
      | infinity other =>
          simp only [UnpackedFloat.sub]
          split
          · exact .infinity sign
          · exact .notANumber
      | zero other => exact .infinity sign
      | finite other mantissa exponent positive => exact .infinity sign

private theorem div (h : OutOfRange u) (v : UnpackedFloat) :
    OutOfRange (UnpackedFloat.div .binary64 u v) := by
  cases h with
  | notANumber => exact .notANumber
  | infinity sign =>
      cases v with
      | notANumber => exact .notANumber
      | infinity other => exact .notANumber
      | zero other => exact .infinity _
      | finite other mantissa exponent positive => exact .infinity _

private theorem not_abs_le (h : OutOfRange u) {bound : UnpackedFloat}
    (hbound : bound.isFinite = true) :
    UnpackedFloat.le (Float.Model.pack u.abs).unpack bound = false := by
  cases h with
  | notANumber => rfl
  | infinity sign =>
      have habs : (Float.Model.pack (UnpackedFloat.infinity sign).abs).unpack =
          .infinity .positive := by
        cases sign <;> rfl
      rw [habs]
      cases bound with
      | notANumber => cases hbound
      | infinity sign => cases hbound
      | zero sign => rfl
      | finite sign mantissa exponent positive => rfl

private theorem not_beq_zero (h : OutOfRange u) :
    UnpackedFloat.beq u (0.0 : Float).toModel.unpack = false := by
  have hzero : (0.0 : Float).toModel.unpack = .zero .positive := by rfl
  rw [hzero]
  cases h with
  | notANumber => rfl
  | infinity sign => cases sign <;> rfl

end OutOfRange

theorem not_finite_sub {x : Float} (h : x.isFinite = false) (y : Float) :
    (x - y).isFinite = false :=
  ((outOfRange_of_not_finite h).sub y.toModel.unpack).not_finite_pack

theorem not_finite_div {x : Float} (h : x.isFinite = false) (y : Float) :
    (x / y).isFinite = false :=
  ((outOfRange_of_not_finite h).div y.toModel.unpack).not_finite_pack

theorem not_abs_le_of_not_finite {x bound : Float} (hx : x.isFinite = false)
    (hbound : bound.isFinite = true) : ¬ x.abs ≤ bound := by
  have hle := (outOfRange_of_not_finite hx).not_abs_le
    (show bound.toModel.unpack.isFinite = true from hbound)
  intro habs
  change decide (x.abs.toModel ≤ bound.toModel) = true at habs
  rw [decide_eq_true_iff] at habs
  exact Bool.false_ne_true (hle.symm.trans habs)

theorem isFinite_of_beq_zero {x : Float} (h : (x == 0.0) = true) : x.isFinite = true := by
  cases hx : x.isFinite with
  | true => rfl
  | false => exact absurd ((outOfRange_of_not_finite hx).not_beq_zero.symm.trans h) (by decide)

/-! ## What stays finite -/

def maxExponent : Int := 971

inductive InRange : UnpackedFloat → Prop
  | zero (sign : Sign) : InRange (.zero sign)
  | finite (sign : Sign) (mantissa : Nat) (exponent : Int) (positive : 0 < mantissa)
      (bounded : exponent ≤ maxExponent) : InRange (.finite sign mantissa exponent positive)

private theorem isFinite_unpack_components {exponent : BitVec 11} (h : exponent ≠ -1#11)
    (sign : Sign) (mantissa : BitVec 52) :
    (UnpackedFloat.unpack .binary64 (packComponents .binary64 sign exponent mantissa)).isFinite =
      true := by
  unfold UnpackedFloat.unpack
  simp only [unpackExponent_packComponents]
  rw [if_neg h]
  split
  · split <;> rfl
  · rfl

private theorem isFinite_pack {u : UnpackedFloat} (h : InRange u) :
    (Float.Model.pack u).unpack.isFinite = true := by
  change (UnpackedFloat.unpack .binary64 (UnpackedFloat.pack .binary64 u)).isFinite = true
  cases h with
  | zero sign => exact isFinite_unpack_components (by decide) sign 0#52
  | finite sign mantissa exponent positive bounded =>
      have hbias : Float.Model.Format.binary64.exponentBias = 1023 := rfl
      simp only [UnpackedFloat.pack, hbias]
      generalize hbiased : (exponent + (1023 : Nat) + (52 : Nat)).toNat = biased
      have hsmall : biased ≤ 2046 := by
        rw [maxExponent] at bounded
        omega
      have hexponent : BitVec.ofNat 11 biased ≠ -1#11 := by
        intro heq
        have hvalue := congrArg BitVec.toNat heq
        rw [BitVec.toNat_ofNat, Nat.mod_eq_of_lt (by omega)] at hvalue
        change biased = 2047 at hvalue
        omega
      rw [if_neg (show ¬ 2 ^ 11 ≤ biased + 1 by omega)]
      split
      · exact isFinite_unpack_components hexponent sign _
      · exact isFinite_unpack_components (by decide) sign _

private theorem shiftRight_mantissa (em : ExtendedMantissa) (shift : Nat) :
    (em >>> shift).mantissa = em.mantissa / 2 ^ shift := by
  induction shift with
  | zero => simp [HShiftRight.hShiftRight, Nat.repeat]
  | succ shift ih =>
      change (em >>> shift).mantissa / 2 = _
      rw [ih, Nat.div_div_eq_div_mul, Nat.pow_succ]

private theorem roundedMantissa_le (em : ExtendedMantissa) :
    em.roundedMantissa ≤ em.mantissa + 1 := by
  obtain ⟨mantissa, roundBit, stickyBit⟩ := em
  have hparity : mantissa % 2 ≤ 1 := Nat.lt_succ_iff.mp (Nat.mod_lt mantissa (by decide))
  cases roundBit <;> cases stickyBit <;>
    simp [ExtendedMantissa.roundedMantissa, ExtendedMantissa.accuracy,
      Accuracy.roundToNearestEven, hparity]

private theorem targetExponent_eq (mantissa : Nat) (exponent : Int) :
    Float.Model.Format.binary64.targetExponent (Float.Model.totalExponent mantissa exponent) =
      max (mantissa.log2 + 1 + exponent - 53) (-1074) := rfl

private theorem shiftToTargetExponent_lt (mantissa : Nat) (exponent : Int) (accuracy : Accuracy) :
    (shiftToTargetExponent .binary64 mantissa exponent accuracy).1.mantissa < 2 ^ 53 := by
  have hmantissa : ∀ accuracy : Accuracy,
      (ExtendedMantissa.ofMantissaAndAccuracy mantissa accuracy).mantissa = mantissa := by
    intro accuracy
    cases accuracy with
    | exact => rfl
    | inexact side => cases side <;> rfl
  simp only [shiftToTargetExponent, shiftToExponent, shiftRight_mantissa, hmantissa,
    targetExponent_eq]
  rw [Nat.div_lt_iff_lt_mul (Nat.two_pow_pos _), ← Nat.pow_add]
  calc mantissa < 2 ^ (mantissa.log2 + 1) := Nat.lt_log2_self
    _ ≤ _ := Nat.pow_le_pow_right (by decide) (by omega)

theorem log2_lt {n bits : Nat} (h : n < 2 ^ bits) (hbits : 0 < bits) : n.log2 < bits := by
  rcases Nat.eq_zero_or_pos n with rfl | hpos
  · simpa using hbits
  · exact (Nat.log2_lt (Nat.ne_of_gt hpos)).mpr h

private theorem inRange_round {sign : Sign} {mantissa : Nat} {exponent : Int} {accuracy : Accuracy}
    (hexponent : exponent < maxExponent)
    (htotal : mantissa.log2 + 1 + exponent < maxExponent + 53) :
    InRange (roundWithAccuracy .binary64 sign mantissa exponent accuracy) := by
  have hshifted := shiftToTargetExponent_lt mantissa exponent accuracy
  have hfirst : (shiftToTargetExponent .binary64 mantissa exponent accuracy).2 < maxExponent := by
    simp only [shiftToTargetExponent, shiftToExponent, targetExponent_eq]
    rw [maxExponent] at *
    omega
  simp only [roundWithAccuracy]
  generalize shiftToTargetExponent .binary64 mantissa exponent accuracy = first at *
  obtain ⟨em, shifted⟩ := first
  dsimp only at *
  -- rounding may carry into a fifty-fourth bit, which the second shift takes back
  have hlog : em.roundedMantissa.log2 < 54 := by
    have hrounded := roundedMantissa_le em
    exact log2_lt (by omega) (by decide)
  split
  · exact .zero sign
  · next hpositive =>
      refine .finite sign _ _ _ ?_
      simp only [shiftToTargetExponent, shiftToExponent, targetExponent_eq]
      rw [maxExponent] at *
      omega

/-! ## Halves -/

private theorem bounds_of_unpack {x : Float} {sign : Sign} {mantissa : Nat} {exponent : Int}
    {positive : 0 < mantissa}
    (h : x.toModel.unpack = .finite sign mantissa exponent positive) :
    mantissa < 2 ^ 53 ∧ exponent ≤ maxExponent := by
  change UnpackedFloat.unpack .binary64 x.toModel.toBits.toBitVec = _ at h
  have hbias : Float.Model.Format.binary64.exponentBias = 1023 := rfl
  simp only [UnpackedFloat.unpack, hbias] at h
  generalize @unpackExponent .binary64 x.toModel.toBits.toBitVec = field at h
  rw [maxExponent]
  have hfield : field.toNat < 2 ^ 11 := field.isLt
  have hbits : (@unpackMantissa .binary64 x.toModel.toBits.toBitVec).toNat < 2 ^ 52 :=
    BitVec.isLt _
  split at h
  · split at h <;> cases h
  · next hordinary =>
      have hexponent : field.toNat ≠ 2047 := fun heq => hordinary (BitVec.eq_of_toNat_eq heq)
      split at h
      · next hsubnormal =>
          have hnone : field.toNat = 0 := congrArg BitVec.toNat hsubnormal
          split at h
          · cases h
          · cases h
            exact ⟨by omega, by omega⟩
      · cases h
        exact ⟨BitVec.isLt _, by omega⟩

/-- Dividing by two takes one off the exponent, so no carry can bring it out of range. -/
theorem isFinite_half {x : Float} (h : x.isFinite = true) : (x / 2.0).isFinite = true := by
  have htwo : (2.0 : Float).toModel.unpack = .finite .positive (2 ^ 52) (-51) (by decide) := by
    rfl
  change (Float.Model.pack (UnpackedFloat.div .binary64 x.toModel.unpack
    (2.0 : Float).toModel.unpack)).unpack.isFinite = true
  change x.toModel.unpack.isFinite = true at h
  rw [htwo]
  cases hx : x.toModel.unpack with
  | notANumber => simp [hx, UnpackedFloat.isFinite] at h
  | infinity sign => simp [hx, UnpackedFloat.isFinite] at h
  | zero sign => exact isFinite_pack (.zero _)
  | finite sign mantissa exponent positive =>
      obtain ⟨hmantissa, hexponent⟩ := bounds_of_unpack hx
      have hlog := log2_lt hmantissa (by decide)
      have htarget : Float.Model.Format.binary64.targetExponent
          (Float.Model.totalExponent mantissa exponent -
            Float.Model.totalExponent (2 ^ 52) (-51)) =
          max (mantissa.log2 + 1 + exponent - 2 - 53) (-1074) := rfl
      refine isFinite_pack ?_
      simp only [UnpackedFloat.div, divCore, htarget]
      generalize hquotient : min (exponent - -51)
        (max (mantissa.log2 + 1 + exponent - 2 - 53) (-1074)) = target
      rw [maxExponent] at hexponent
      -- the quotient by a power of two keeps the bits that the shift has not added
      refine inRange_round ?_ ?_
      · rw [maxExponent]
        omega
      · rw [maxExponent]
        generalize hshift : (exponent - -51 - target).toNat = shift
        generalize hq : mantissa <<< shift / 2 ^ 52 = quotient
        rcases Nat.eq_zero_or_pos quotient with rfl | hpos
        · simp
          omega
        · have hbound : 2 ^ (quotient.log2 + 52) < 2 ^ (mantissa.log2 + 1 + shift) := by
            calc 2 ^ (quotient.log2 + 52) = 2 ^ quotient.log2 * 2 ^ 52 := Nat.pow_add _ _ _
              _ ≤ quotient * 2 ^ 52 := Nat.mul_le_mul_right _ (Nat.log2_self_le (by omega))
              _ ≤ mantissa <<< shift := by
                rw [← hq]
                exact Nat.div_mul_le_self _ _
              _ = mantissa * 2 ^ shift := Nat.shiftLeft_eq _ _
              _ < 2 ^ (mantissa.log2 + 1) * 2 ^ shift :=
                Nat.mul_lt_mul_of_pos_right Nat.lt_log2_self (Nat.two_pow_pos _)
              _ = 2 ^ (mantissa.log2 + 1 + shift) := (Nat.pow_add _ _ _).symm
          have hless := (Nat.pow_lt_pow_iff_right (by decide)).mp hbound
          omega

/-! ## Sums -/

private theorem inRange_normalize {mantissa exponent : Int} {bits : Nat} (zeroSign : Sign)
    (hmantissa : mantissa.natAbs < 2 ^ bits) (hbits : bits + exponent < maxExponent + 53)
    (hexponent : exponent < maxExponent) :
    InRange (UnpackedFloat.normalize .binary64 mantissa exponent zeroSign) := by
  have hround : ∀ (sign : Sign) (magnitude : Nat), magnitude ≠ 0 → magnitude < 2 ^ bits →
      InRange (UnpackedFloat.round .binary64 sign magnitude exponent) := by
    intro sign magnitude hpos hmagnitude
    simp only [UnpackedFloat.round, decreaseExponent, targetExponent_eq]
    have hlog := (Nat.log2_lt hpos).mpr hmagnitude
    generalize htarget : max (magnitude.log2 + 1 + exponent - 53) (-1074) = target
    generalize hshift : (exponent - target).toNat = shift
    have hshifted : (magnitude <<< shift).log2 < bits + shift := by
      refine log2_lt ?_ (by omega)
      rw [Nat.shiftLeft_eq, Nat.pow_add]
      exact Nat.mul_lt_mul_of_pos_right hmagnitude (Nat.two_pow_pos _)
    rw [maxExponent] at *
    refine inRange_round ?_ ?_
    · rw [maxExponent]
      omega
    · rw [maxExponent]
      omega
  unfold UnpackedFloat.normalize
  split
  · next hnegative =>
      have hlt := Int.compare_eq_lt.mp hnegative
      exact hround _ _ (by omega) (by omega)
  · exact .zero zeroSign
  · next hpositive =>
      have hgt := Int.compare_eq_gt.mp hpositive
      exact hround _ _ (by omega) (by omega)

/-- Finite, with an exponent that leaves room for a sum. -/
inductive Small : UnpackedFloat → Prop
  | zero (sign : Sign) : Small (.zero sign)
  | finite (sign : Sign) (mantissa : Nat) (exponent : Int) (positive : 0 < mantissa)
      (short : mantissa < 2 ^ 53) (bounded : exponent ≤ 967) :
      Small (.finite sign mantissa exponent positive)

private theorem compare_of_lt {x y : Float} (h : x < y) :
    UnpackedFloat.compare x.toModel.unpack y.toModel.unpack = some .lt := by
  change decide (x.toModel < y.toModel) = true at h
  rw [decide_eq_true_iff] at h
  exact eq_of_beq h

private theorem small_of_between {x : Float} (hlower : -1e307 < x) (hupper : x < 1e307) :
    Small x.toModel.unpack := by
  have hleft : (-1e307 : Float) = Float.ofBits 0xffac7b1f3cac7433 := by decide +kernel
  have hright : (1e307 : Float) = Float.ofBits 0x7fac7b1f3cac7433 := by decide +kernel
  obtain ⟨left, hleftPos, hleftUnpack⟩ : ∃ mantissa positive,
      (Float.ofBits 0xffac7b1f3cac7433).toModel.unpack =
        .finite .negative mantissa 967 positive := ⟨_, _, rfl⟩
  obtain ⟨right, hrightPos, hrightUnpack⟩ : ∃ mantissa positive,
      (Float.ofBits 0x7fac7b1f3cac7433).toModel.unpack =
        .finite .positive mantissa 967 positive := ⟨_, _, rfl⟩
  have habove := compare_of_lt hlower
  have hbelow := compare_of_lt hupper
  rw [hleft, hleftUnpack] at habove
  rw [hright, hrightUnpack] at hbelow
  cases hx : x.toModel.unpack with
  | notANumber => simp [hx, UnpackedFloat.compare] at hbelow
  | infinity sign =>
      cases sign with
      | positive => simp [hx, UnpackedFloat.compare] at hbelow
      | negative => simp [hx, UnpackedFloat.compare] at habove
  | zero sign => exact .zero sign
  | finite sign mantissa exponent positive =>
      refine .finite sign mantissa exponent positive (bounds_of_unpack hx).1 ?_
      by_contra hgreater
      cases sign with
      | positive =>
          have hcompare := Int.compare_eq_gt.mpr (Int.not_le.mp hgreater)
          simp [hx, UnpackedFloat.compare, hcompare] at hbelow
      | negative =>
          have hcompare := Int.compare_eq_lt.mpr (Int.not_le.mp hgreater)
          simp [hx, UnpackedFloat.compare, hcompare] at habove

private theorem Small.isFinite {u : UnpackedFloat} (h : Small u) : u.isFinite = true := by
  cases h with
  | zero sign => rfl
  | finite sign mantissa exponent positive short bounded => rfl

private theorem Small.inRange {u : UnpackedFloat} (h : Small u) : InRange u := by
  cases h with
  | zero sign => exact .zero sign
  | finite sign mantissa exponent positive short bounded =>
      exact .finite sign mantissa exponent positive (Int.le_trans bounded (by decide))

private theorem natAbs_apply_add_le (sign other : Sign) (m n : Nat) :
    (sign.apply m + other.apply n).natAbs ≤ m + n := by
  cases sign <;> cases other <;> simp only [Sign.apply] <;> omega

private theorem shiftLeft_lt_of_short {mantissa : Nat} {exponent lower : Int}
    (short : mantissa < 2 ^ 53) (bounded : exponent ≤ 967) (hlower : lower ≤ exponent) :
    mantissa <<< (exponent - lower).toNat < 2 ^ (1020 - lower).toNat := by
  have hbits : (1020 - lower).toNat =
      53 + (967 - exponent).toNat + (exponent - lower).toNat := by
    omega
  rw [Nat.shiftLeft_eq, hbits, Nat.pow_add]
  refine Nat.mul_lt_mul_of_pos_right ?_ (Nat.two_pow_pos _)
  exact Nat.lt_of_lt_of_le short (Nat.pow_le_pow_right (by decide) (by omega))

private theorem Small.add {u v : UnpackedFloat} (hu : Small u) (hv : Small v) :
    InRange (UnpackedFloat.add .binary64 u v) := by
  cases hu with
  | zero sign =>
      cases hv with
      | zero other =>
          simp only [UnpackedFloat.add]
          split
          · exact .zero sign
          · exact .zero _
      | finite other n second positive short bounded =>
          exact (Small.finite other n second positive short bounded).inRange
  | finite sign m first positive short bounded =>
      cases hv with
      | zero other => exact (Small.finite sign m first positive short bounded).inRange
      | finite other n second positive' short' bounded' =>
          simp only [UnpackedFloat.add, decreaseExponent]
          generalize hlower : min first second = lower
          have hm := shiftLeft_lt_of_short short bounded (show lower ≤ first by omega)
          have hn := shiftLeft_lt_of_short short' bounded' (show lower ≤ second by omega)
          -- the sum has one bit more than its terms
          have hsum : (sign.apply ↑(m <<< (first - lower).toNat) +
              other.apply ↑(n <<< (second - lower).toNat)).natAbs < 2 ^ (1021 - lower).toNat := by
            refine Nat.lt_of_le_of_lt (natAbs_apply_add_le _ _ _ _) ?_
            rw [show (1021 - lower).toNat = (1020 - lower).toNat + 1 by omega, Nat.pow_succ]
            omega
          refine inRange_normalize _ hsum ?_ ?_
          · rw [maxExponent]
            omega
          · rw [maxExponent]
            omega

theorem isFinite_of_between {x : Float} (hlower : -1e307 < x) (hupper : x < 1e307) :
    x.isFinite = true :=
  (small_of_between hlower hupper).isFinite

theorem isFinite_add_of_between {x y : Float} (hx : -1e307 < x ∧ x < 1e307)
    (hy : -1e307 < y ∧ y < 1e307) : (x + y).isFinite = true :=
  isFinite_pack ((small_of_between hx.1 hx.2).add (small_of_between hy.1 hy.2))

end IndexPrice.Decimal
