import IndexPrice.Decimal.Layout
import IndexPrice.Decimal.Reading
import IndexPrice.Json.Tree

/-!
# What a JSON number is worth

A number without fraction and exponent that fits sixty-four bits is an integer.
Every other number is a double made of a significand of sixty-four bits and one
power of ten, which may miss the nearest double by one unit in the last place.
-/

namespace IndexPrice.Json

inductive Number where
  | integer (value : Int)
  | float (value : Float)
  deriving DecidableEq

structure Significand where
  digits : Nat
  power : Int
  deriving DecidableEq, Repr

namespace Significand

def limit : Nat := Nat.pow 2 64

def room? (s : Significand) (c : Char) : Option Nat :=
  let next := 10 * s.digits + Decimal.digitValue c
  if next < limit then some next else none

/-- Gathers whole digits; those without room only raise the power. -/
def gatherWhole (s : Significand) : List Char → Significand
  | [] => s
  | c :: rest =>
    match s.room? c with
    | some digits => gatherWhole { s with digits } rest
    | none => { s with power := s.power + Int.ofNat (rest.length + 1) }

def gatherFraction (s : Significand) : List Char → Significand
  | [] => s
  | c :: rest =>
    match s.room? c with
    | some digits => gatherFraction ⟨digits, s.power - 1⟩ rest
    | none => s

/-- Divides by `1e308` until the power is at most 308 below one. -/
def scaleDown : Nat → Float → Int → Float
  | 0, x, _ => x
  | steps + 1, x, power =>
    if -308 ≤ power then x / Decimal.nearest 1 (-power)
    else if x == 0.0 then x
    else scaleDown steps (x / 1e308) (power + 308)

/-- The double for the significand; none if it is too large. -/
def toFloat? (s : Significand) : Option Float :=
  let x := s.digits.toUInt64.toFloat
  if 0 ≤ s.power then
    if 308 < s.power then if x == 0.0 then some x else none
    else
      let y := x * Decimal.nearest 1 s.power
      if y.isInf then none else some y
  else some (scaleDown 4 x s.power)

end Significand

def maxExponent : Int := Int.ofNat (Nat.pow 2 31) - 1

namespace NumberText

def significand (n : NumberText) : Significand :=
  (Significand.gatherWhole ⟨0, 0⟩ n.whole).gatherFraction n.fraction

def applySign (n : NumberText) (x : Float) : Float := if n.negative then -x else x

def float? (n : NumberText) : Option Float :=
  let s := n.significand
  match n.exponent with
  | none => s.toFloat?.map n.applySign
  | some (negative, digits) =>
    let size := Int.ofNat (Decimal.natOfDigits digits)
    if maxExponent < size then
      if s.digits ≠ 0 ∧ !negative then none else some (n.applySign 0.0)
    else
      let shift := if negative then -size else size
      (Significand.toFloat? ⟨s.digits, s.power + shift⟩).map n.applySign

/-- The integer that the number is worth, if it is written as one and fits. -/
def integer? (n : NumberText) : Option Int :=
  let size := Decimal.natOfDigits n.whole
  if !n.fraction.isEmpty || n.exponent.isSome then none
  else if n.negative then
    if 0 < size ∧ size ≤ Nat.pow 2 63 then some (-Int.ofNat size) else none
  else if size < Nat.pow 2 64 then some (Int.ofNat size) else none

def number? (n : NumberText) : Option Number :=
  match n.integer? with
  | some value => some (.integer value)
  | none => n.float?.map .float

end NumberText

def Number.toFloat : Number → Float
  | .integer (.ofNat n) => n.toUInt64.toFloat
  | .integer (.negSucc n) => -(n + 1).toUInt64.toFloat
  | .float x => x

def Number.text : Number → List Char
  | .integer (.ofNat n) => Nat.toDigits 10 n
  | .integer (.negSucc n) => '-' :: Nat.toDigits 10 (n + 1)
  | .float x => Decimal.numeral x

end IndexPrice.Json
