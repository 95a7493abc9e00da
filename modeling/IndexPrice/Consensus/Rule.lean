import IndexPrice.Consensus.Median
import IndexPrice.Decimal.Layout

/-!
# The consensus rule

One tick is the list of prices that the sources hold for a market.  `combine`
makes one candidate of it: two prices at least must agree, and the previously
accepted price has a vote which is withdrawn when there is no agreement with it.
`Consensus.evaluate` then accepts the candidate unless it jumps by more than ten
percent, and accepts a jump after eleven rejected ones.
-/

namespace IndexPrice

variable {α : Type} [PriceArithmetic α]

inductive Rejection (α : Type) where
  | inconsistent (median : α)
  | noUsableData
  | priceJump (lastAccepted candidate : α) (runLength : Nat)
  deriving DecidableEq, Repr

structure Accepted (α : Type) where
  price : α
  sources : Nat
  forced : Bool
  deriving DecidableEq, Repr

abbrev Verdict (α : Type) := Except (Rejection α) (Accepted α)

structure Consensus (α : Type) where
  lastAccepted : Option α := none
  rejectedRun : Nat := 0
  deriving DecidableEq, Repr

def jumpTolerance : α := 0.10

/-- A jump is accepted when more than this many have been rejected in a row. -/
def maxRejectedRun : Nat := 10

/-! ## One tick -/

/-- The agreement that a tick of several prices reaches, with or without the previous price. -/
def jointAgreement (previous : Option α) (tick : List α) : Agreement α :=
  let joint := agreement (previous.toList ++ tick)
  if joint.reached || previous.isNone then joint else agreement tick

def combine (previous : Option α) (tick : List α) : Except (Rejection α) (α × Nat) :=
  match tick with
  | [] => .error .noUsableData
  | [price] => .ok (price, 1)
  | _ =>
    let joint := jointAgreement previous tick
    if joint.reached then
      match tick.filter (closeEnough · joint.median consistencyTolerance) with
      | [] => .error .noUsableData
      | usable => .ok (median usable, usable.length)
    else .error (.inconsistent joint.median)

namespace Consensus

/-- Whether the candidate stays within ten percent of the price accepted before. -/
def withinJump (state : Consensus α) (candidate : α) : Bool :=
  match state.lastAccepted with
  | none => true
  | some last => closeEnough candidate last jumpTolerance

def judge (state : Consensus α) (candidate : α) (sources : Nat) : Verdict α × Consensus α :=
  let within := state.withinJump candidate
  let forced := !within && decide (maxRejectedRun < state.rejectedRun)
  if within || forced then
    (.ok ⟨candidate, sources, forced⟩, ⟨some candidate, 0⟩)
  else
    let run := state.rejectedRun + 1
    (.error (.priceJump (state.lastAccepted.getD 0.0) candidate run),
      { state with rejectedRun := run })

def evaluate (state : Consensus α) (tick : List α) : Verdict α × Consensus α :=
  match combine state.lastAccepted tick with
  | .error rejection => (.error rejection, state)
  | .ok (candidate, sources) => state.judge candidate sources

def run (state : Consensus α) : List (List α) → List (Verdict α × Consensus α)
  | [] => []
  | tick :: ticks =>
    let after := state.evaluate tick
    after :: run after.2 ticks

end Consensus

/-! ## Words -/

def Rejection.reason : Rejection α → String
  | .inconsistent _ => "inconsistent"
  | .noUsableData => "no_usable_data"
  | .priceJump _ _ _ => "price_jump"

def Rejection.message : Rejection Float → String
  | .inconsistent middle =>
    "inconsistent price data, fewer than 2 values within 5% of median " ++ Decimal.plain middle
  | .noUsableData => "found no usable data"
  | .priceJump last candidate run =>
    "price jump, last accepted " ++ Decimal.plain last ++ ", rejected "
      ++ Decimal.plain candidate ++ ", run length " ++ toString run

end IndexPrice
