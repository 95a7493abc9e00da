import IndexPrice.Decimal.Binary
import Mathlib

/-!
# The number a double stands for

The value of a double is a rational number, exact, for every finite double and for no
other.  Reading the fields of the bit pattern gives that number, in a significand of at
most fifty-three bits and an exponent.
-/

namespace IndexPrice.Decimal

open Float.Model Float.Model.UnpackedFloat

def unpackedValue? : UnpackedFloat → Option Rat
  | .zero _ => some 0
  | .finite sign mantissa exponent _ => some (sign.apply mantissa * 2 ^ exponent)
  | _ => none

def exactValue? (x : Float) : Option Rat := unpackedValue? x.toModel.unpack

theorem isFinite_of_exactValue? {x : Float} {q : Rat} (h : exactValue? x = some q) :
    x.isFinite = true := by
  change x.toModel.unpack.isFinite = true
  unfold exactValue? at h
  cases hunpack : x.toModel.unpack with
  | notANumber => simp [hunpack, unpackedValue?] at h
  | infinity sign => simp [hunpack, unpackedValue?] at h
  | zero sign => rfl
  | finite sign mantissa exponent positive => rfl

def magnitude (significand : Nat) (exponent : Int) : Rat := significand * 2 ^ exponent

private theorem unpackedValue?_finite (negative : Bool) {mantissa : Nat} (exponent : Int)
    (positive : 0 < mantissa) :
    unpackedValue?
        (.finite (if negative then .negative else .positive) mantissa exponent positive) =
      some (if negative then -magnitude mantissa exponent else magnitude mantissa exponent) := by
  cases negative <;> simp [unpackedValue?, magnitude, Sign.apply]

/-! ## Fields of the bit pattern -/

section

variable (bits : BitVec 64)

theorem toNat_unpackExponent :
    (@unpackExponent .binary64 bits).toNat = exponentField bits.toNat := by
  simp [unpackExponent, exponentField, BitVec.extractLsb_toNat, Nat.shiftRight_eq_div_pow]

theorem toNat_unpackMantissa :
    (@unpackMantissa .binary64 bits).toNat = fractionField bits.toNat := by
  simp [unpackMantissa, fractionField, BitVec.extractLsb_toNat]

theorem ofBitVec_unpackSign :
    Sign.ofBitVec (@unpackSign .binary64 bits) =
      if signField bits.toNat then .negative else .positive := by
  have hsign : (@unpackSign .binary64 bits).toNat = bits.toNat / 2 ^ 63 % 2 := by
    simp [unpackSign, BitVec.extractLsb_toNat, Nat.shiftRight_eq_div_pow]
  have hbits : bits.toNat < 2 ^ 64 := bits.isLt
  simp only [Sign.ofBitVec, signField, ← BitVec.toNat_inj, hsign, decide_eq_true_eq]
  change (if bits.toNat / 2 ^ 63 % 2 = 0 then _ else _) = if 2 ^ 63 ≤ bits.toNat then _ else _
  split
  · rw [if_neg (by omega)]
  · rw [if_pos (by omega)]

end

private theorem toNat_implicitBit (mantissa : BitVec 52) :
    (1#1 ++ mantissa).toNat = Nat.pow 2 52 + mantissa.toNat := by
  change 2 ^ 52 ||| mantissa.toNat = _
  rw [Nat.or_comm, Nat.or_two_pow_eq_add_of_lt mantissa.isLt, Nat.add_comm]

/-! ## The value of the fields -/

/-- The fields of a bit pattern, against what the pattern stands for. -/
inductive Reading : UnpackedFloat → FloatValue → Prop
  | nan : Reading .notANumber .nan
  | infinity (sign : Sign) (negative : Bool) : Reading (.infinity sign) (.infinity negative)
  | finite {u : UnpackedFloat} (negative : Bool) (significand : Nat) (exponent : Int)
      (short : significand < 2 ^ 53)
      (value : unpackedValue? u = some
        (if negative then -magnitude significand exponent else magnitude significand exponent)) :
      Reading u (.finite negative significand exponent)

private theorem reading_unpack (bits : BitVec 64) :
    Reading (UnpackedFloat.unpack .binary64 bits) (.ofBits bits.toNat) := by
  have hbias : Float.Model.Format.binary64.exponentBias = 1023 := rfl
  have hshort : (@unpackMantissa .binary64 bits).toNat < 2 ^ 52 := BitVec.isLt _
  generalize hunpack : UnpackedFloat.unpack .binary64 bits = u
  simp only [UnpackedFloat.unpack, ofBitVec_unpackSign, hbias] at hunpack
  simp only [FloatValue.ofBits, ← toNat_unpackMantissa, ← toNat_unpackExponent]
  -- one side tells the classes apart by numbers, the other one by words of eleven bits
  split
  · next hfield =>
    have hexponent := BitVec.eq_of_toNat_eq (y := 0#11) hfield
    rw [hexponent, if_neg (by decide), if_pos rfl] at hunpack
    refine .finite _ _ _ (by omega) ?_
    rw [← hunpack]
    split
    · next hzero => simp [unpackedValue?, magnitude, hzero]
    · exact unpackedValue?_finite _ _ _
  · next hfield =>
    rw [if_pos (BitVec.eq_of_toNat_eq (y := -1#11) hfield)] at hunpack
    split
    · next hzero =>
      rw [← hunpack, if_pos (BitVec.eq_of_toNat_eq hzero)]
      exact .infinity _ _
    · next hother =>
      rw [← hunpack, if_neg fun hzero => hother (congrArg BitVec.toNat hzero)]
      exact .nan
  · next hnonzero hordinary =>
    rw [if_neg fun hones => hordinary (congrArg BitVec.toNat hones),
      if_neg fun hzero => hnonzero (congrArg BitVec.toNat hzero)] at hunpack
    refine .finite _ _ _ ?_ ?_
    · change 2 ^ 52 + _ < _
      omega
    · rw [← hunpack, unpackedValue?_finite, toNat_implicitBit]
      rfl

theorem reading_ofFloat (x : Float) : Reading x.toModel.unpack (.ofFloat x) :=
  reading_unpack x.toModel.toBits.toBitVec

end IndexPrice.Decimal
