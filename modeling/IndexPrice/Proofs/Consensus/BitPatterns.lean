import IndexPrice.Proofs.Consensus.Transport
import IndexPrice.Proofs.Decimal.Value
import Mathlib

/-!
# Floats among bit patterns

The floats are the bit patterns of a machine that has one not-a-number and answers with no
other.  They are added, compared and sorted as these patterns are, so the consensus rule on
floats is the rule on bit patterns, for ticks in which no other not-a-number occurs.
-/

namespace IndexPrice

open Float.Model Float.Model.UnpackedFloat

namespace Decimal

/-! ## Absolute values -/

private theorem toNat_and_unsigned (bits : BitVec 64) :
    (bits &&& 0x7fffffffffffffff#64).toNat = bits.toNat % 2 ^ 63 :=
  Nat.and_two_pow_sub_one_eq_mod bits.toNat 63

private theorem unpackExponent_and_unsigned (bits : BitVec 64) :
    @unpackExponent .binary64 (bits &&& 0x7fffffffffffffff#64) =
      @unpackExponent .binary64 bits := by
  apply BitVec.eq_of_toNat_eq
  rw [toNat_unpackExponent, toNat_unpackExponent, toNat_and_unsigned]
  simp only [exponentField, Nat.pow_eq]
  omega

private theorem unpackMantissa_and_unsigned (bits : BitVec 64) :
    @unpackMantissa .binary64 (bits &&& 0x7fffffffffffffff#64) =
      @unpackMantissa .binary64 bits := by
  apply BitVec.eq_of_toNat_eq
  rw [toNat_unpackMantissa, toNat_unpackMantissa, toNat_and_unsigned]
  simp only [fractionField, Nat.pow_eq]
  omega

private theorem sign_and_unsigned (bits : BitVec 64) :
    Sign.ofBitVec (@unpackSign .binary64 (bits &&& 0x7fffffffffffffff#64)) = .positive := by
  have hlow : bits.toNat % 2 ^ 63 < 2 ^ 63 := Nat.mod_lt _ (by decide)
  rw [ofBitVec_unpackSign, toNat_and_unsigned, signField]
  simp only [Nat.pow_eq, decide_eq_true_eq]
  rw [if_neg (by omega)]

private theorem unpack_and_unsigned (bits : BitVec 64) :
    UnpackedFloat.unpack .binary64 (bits &&& 0x7fffffffffffffff#64) =
      (UnpackedFloat.unpack .binary64 bits).abs := by
  simp only [UnpackedFloat.unpack, unpackExponent_and_unsigned, unpackMantissa_and_unsigned,
    sign_and_unsigned]
  split <;> split <;> (try split) <;> rfl

private theorem valid_and_unsigned {bits : BitVec 64} (h : Format.binary64.Valid bits) :
    Format.binary64.Valid (bits &&& 0x7fffffffffffffff#64) := by
  refine ⟨fun hexponent hmantissa => ?_⟩
  rw [unpackExponent_and_unsigned] at hexponent
  rw [unpackMantissa_and_unsigned] at hmantissa
  rw [h.eq_packedNaN hexponent hmantissa]
  rfl

/-! ## Floats -/

/-- The one not-a-number of the floats. -/
def floatRule : NaNRule where
  answer _ _ _ := 0x7ff8000000000000
  notANumber _ _ _ := rfl

namespace BitPattern

theorem ofFloat_abs (x : Float) :
    (ofFloat x.abs : BitPattern floatRule) = (ofFloat x).abs := by
  apply BitPattern.ext
  apply UInt64.toBitVec_inj.mp
  change UnpackedFloat.pack .binary64 (UnpackedFloat.unpack .binary64 _).abs =
    x.toModel.toBits.toBitVec &&& 0x7fffffffffffffff#64
  rw [← unpack_and_unsigned, pack_unpack_of_valid (valid_and_unsigned x.toModel.valid)]

theorem operate_ofFloat (operation : Operation)
    (compute : UnpackedFloat → UnpackedFloat → UnpackedFloat) (x y : Float) :
    (operate operation compute (ofFloat x) (ofFloat y) : BitPattern floatRule) =
      ofFloat (.ofModel (.pack (compute x.toModel.unpack y.toModel.unpack))) := by
  have hunpack (z : Float) : (ofFloat z : BitPattern floatRule).unpack = z.toModel.unpack := rfl
  rw [operate, hunpack, hunpack]
  cases compute x.toModel.unpack y.toModel.unpack <;> rfl

end BitPattern

end Decimal

/-! ## The rule -/

open Decimal (BitPattern floatRule)

private theorem atMost_ofFloat (x y : Float) :
    PriceArithmetic.atMost (.ofFloat x : BitPattern floatRule) (.ofFloat y) =
      PriceArithmetic.atMost x y := by
  rw [Bool.eq_iff_iff]
  change x.toModel ≤ y.toModel ↔ decide (decide (x.toModel ≤ y.toModel) = true) = true
  rw [decide_eq_true_iff, decide_eq_true_iff]

private theorem closeEnough_ofFloat (price target tolerance : Float) :
    closeEnough (.ofFloat price : BitPattern floatRule) (.ofFloat target) (.ofFloat tolerance) =
      closeEnough price target tolerance := by
  have hratio : ((.ofFloat price - .ofFloat target) / .ofFloat target : BitPattern floatRule) =
      .ofFloat ((price - target) / target) := by
    have hdifference : (.ofFloat price - .ofFloat target : BitPattern floatRule) =
        .ofFloat (price - target) := BitPattern.operate_ofFloat _ _ _ _
    rw [hdifference]
    exact BitPattern.operate_ofFloat _ _ _ _
  have habs (x : Float) : PriceArithmetic.abs (.ofFloat x : BitPattern floatRule) =
      .ofFloat x.abs := (BitPattern.ofFloat_abs x).symm
  have hzero (x : Float) : PriceArithmetic.isZero (.ofFloat x : BitPattern floatRule) =
      PriceArithmetic.isZero x := rfl
  unfold closeEnough
  rw [hratio, habs, hzero, hzero, atMost_ofFloat]
  rfl

private theorem median_ofFloat (prices : List Float) :
    median (prices.map .ofFloat : List (BitPattern floatRule)) = .ofFloat (median prices) := by
  refine median_map (f := BitPattern.ofFloat) rfl (fun _ _ => rfl) (fun a b => ?_) prices
  have hsum : (.ofFloat a + .ofFloat b : BitPattern floatRule) = .ofFloat (a + b) :=
    BitPattern.operate_ofFloat _ _ _ _
  rw [hsum]
  exact BitPattern.operate_ofFloat _ _ _ _

private theorem followed_ofFloat : Followed (.ofFloat : Float → BitPattern floatRule) where
  zero := rfl
  median := median_ofFloat
  consistent price target := closeEnough_ofFloat price target consistencyTolerance
  steady price target := closeEnough_ofFloat price target jumpTolerance

/-- The rule judges floats as it judges their bit patterns. -/
theorem Consensus.run_ofFloat (state : Consensus Float) (ticks : List (List Float)) :
    (state.mapPrice .ofFloat : Consensus (BitPattern floatRule)).run (ticks.map (·.map .ofFloat)) =
      (state.run ticks).map fun after => (after.1.mapPrice .ofFloat, after.2.mapPrice .ofFloat) :=
  followed_ofFloat.run state ticks

end IndexPrice
