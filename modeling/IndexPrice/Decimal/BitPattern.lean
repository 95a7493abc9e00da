import IndexPrice.Decimal.Binary

/-!
# Bit patterns of doubles

There is one `Float` that is no number.  Among the patterns of sixty-four bits there are
many, with a sign and a payload, and an order of patterns tells them apart.  Operations
on patterns are those on floats, except that the machine decides by which pattern it
answers where the result is no number.
-/

namespace IndexPrice.Decimal

open Float.Model (UnpackedFloat)

inductive Operation where
  | sum
  | difference
  | quotient
  deriving DecidableEq, Repr

/-- How a machine answers an operation on two patterns whose result is no number. -/
structure NaNRule where
  answer : Operation → UInt64 → UInt64 → UInt64
  notANumber : ∀ operation x y,
    UnpackedFloat.unpack .binary64 (answer operation x y).toBitVec = .notANumber

@[ext]
structure BitPattern (rule : NaNRule) where
  bits : UInt64
  deriving DecidableEq, Repr

namespace BitPattern

variable {rule : NaNRule}

def unpack (x : BitPattern rule) : UnpackedFloat := .unpack .binary64 x.bits.toBitVec

def pack (value : UnpackedFloat) : BitPattern rule :=
  ⟨.ofBitVec (UnpackedFloat.pack .binary64 value)⟩

def ofFloat (x : Float) : BitPattern rule := ⟨x.toBits⟩

def operate (operation : Operation) (compute : UnpackedFloat → UnpackedFloat → UnpackedFloat)
    (x y : BitPattern rule) : BitPattern rule :=
  match compute x.unpack y.unpack with
  | .notANumber => ⟨rule.answer operation x.bits y.bits⟩
  | value => pack value

instance : Add (BitPattern rule) := ⟨operate .sum (.add .binary64)⟩

instance : Sub (BitPattern rule) := ⟨operate .difference (.sub .binary64)⟩

instance : Div (BitPattern rule) := ⟨operate .quotient (.div .binary64)⟩

instance : OfScientific (BitPattern rule) where
  ofScientific digits negative power := ofFloat (.ofScientific digits negative power)

/-- Clears the sign, also of what is no number. -/
def abs (x : BitPattern rule) : BitPattern rule := ⟨x.bits &&& 0x7fffffffffffffff⟩

end BitPattern

end IndexPrice.Decimal
