import IndexPrice.Decimal.Binary

/-!
# The shortest decimal that reads back

The reals that round to a positive double `m * 2 ^ q` form an interval around it,
closed exactly when `m` is even.  `shortest` tries grids of one, two, … seventeen
significant digits, and on each grid only the two neighbours of the value: the
first grid with a neighbour inside the interval wins, and of two such neighbours
the nearer one.  Which neighbour a value in the middle gets is up to the written
form.  All comparisons are between natural numbers.
-/

namespace IndexPrice.Decimal

/-- Where a value in the middle between two neighbours goes. -/
inductive Tie where
  | toEven
  | up
  deriving DecidableEq, Repr

def Tie.takesLower (tie : Tie) (below : Nat) : Bool := tie = .toEven && below % 2 = 0

/-- The decimal `digits * 10 ^ scale`. -/
structure Scaled where
  digits : Nat
  scale : Int
  deriving DecidableEq, Repr

/--
A rounding interval over one common denominator: the numbers `x / unit` with
`low ≤ x ≤ high`, both ends excluded unless `closed`.
-/
structure Interval where
  low : Nat
  value : Nat
  high : Nat
  unit : Nat
  closed : Bool

def roundingInterval (significand : Nat) (exponent : Int) : Interval :=
  let narrowBelow := significand = Nat.pow 2 52 ∧ -1074 < exponent
  let up := Nat.pow 2 exponent.toNat
  { low := (4 * significand - if narrowBelow then 1 else 2) * up
    value := 4 * significand * up
    high := (4 * significand + 2) * up
    unit := 4 * Nat.pow 2 (-exponent).toNat
    closed := significand % 2 = 0 }

/-- The exponent `k` with `10 ^ k ≤ num / den < 10 ^ (k + 1)`. -/
def decimalExponent (num den : Nat) : Int :=
  if den ≤ num then Int.ofNat ((Nat.toDigits 10 (num / den)).length - 1)
  else
    let places := (Nat.toDigits 10 (den / num)).length
    if den ≤ num * Nat.pow 10 (places - 1) then -Int.ofNat (places - 1) else -Int.ofNat places

def Interval.contains (i : Interval) (candidate : Nat) (scale : Int) : Bool :=
  let x := candidate * Nat.pow 10 scale.toNat * i.unit
  let stretch := Nat.pow 10 (-scale).toNat
  if i.closed then i.low * stretch ≤ x && x ≤ i.high * stretch
  else i.low * stretch < x && x < i.high * stretch

def Interval.onGrid? (i : Interval) (tie : Tie) (scale : Int) : Option Nat :=
  let num := i.value * Nat.pow 10 (-scale).toNat
  let den := i.unit * Nat.pow 10 scale.toNat
  let below := num / den
  let rest := num % den
  match i.contains below scale, i.contains (below + 1) scale with
  | true, true =>
    if 2 * rest < den ∨ (2 * rest = den ∧ tie.takesLower below) then some below
    else some (below + 1)
  | true, false => some below
  | false, true => some (below + 1)
  | false, false => none

def Scaled.strip (s : Scaled) : Nat → Scaled
  | 0 => s
  | fuel + 1 =>
    if s.digits ≠ 0 ∧ s.digits % 10 = 0 then strip ⟨s.digits / 10, s.scale + 1⟩ fuel else s

def shortest (tie : Tie) (significand : Nat) (exponent : Int) : Scaled :=
  let i := roundingInterval significand exponent
  let top := decimalExponent i.value i.unit
  let grids := (List.range 17).map fun n => top - Int.ofNat n
  let hit : Option Scaled := grids.findSome? fun scale =>
    (i.onGrid? tie scale).map fun digits => ⟨digits, scale⟩
  (hit.getD ⟨i.value / i.unit, 0⟩).strip 20

end IndexPrice.Decimal
