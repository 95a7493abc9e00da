import IndexPrice.Pricing.Desk

/-!
# Tasks of pricing

Pricing runs as one sampling task over all markets and one task for each market.  A
`System` is their common state and an `Action` is one step of one of them, so that a
run is a list of actions in whatever order the tasks happen to make them.
-/

namespace IndexPrice.Pricing

inductive Sampler where
  | idle
  /-- It is about to look at the desk of that index. -/
  | passing (now : Instant) (next : Nat)
  /-- It never begins, because no clock tells when its first pass would be. -/
  | unscheduled
  | stopped (fault : Option SamplingFault)
  deriving DecidableEq, Repr

structure System where
  stores : Stores
  desks : List Desk
  sampler : Sampler := .idle
  cancelled : Bool := false
  calls : Nat := 0

inductive Action where
  | offer (source market : String) (sample : Sample)
  | cancel
  /-- The sampling task makes its next step; `now` counts where a pass begins. -/
  | sample (now : Instant)
  /-- A market task makes its next step; `outcome` counts where a call of the sink ends. -/
  | serve (desk : Nat) (outcome : SinkOutcome)

namespace System

def hungUp (system : System) : Bool :=
  match system.sampler with
  | .stopped _ | .unscheduled => true
  | _ => false

/-- Offers a sample to a running source; the answer tells whether it was stored. -/
def offer (system : System) (source market : String) (sample : Sample) : Bool × System :=
  match system.stores.get? source with
  | none => (false, system)
  | some store =>
    let (isNews, store) := store.offer market sample
    (isNews, { system with stores := system.stores.insert source store })

def cancel (system : System) : System := { system with cancelled := true }

def sample (system : System) (now : Instant) : System :=
  match system.sampler with
  | .stopped _ | .unscheduled => system
  | .idle =>
    if system.cancelled then { system with sampler := .stopped none }
    else { system with sampler := .passing now 0 }
  | .passing begun next =>
    match system.desks[next]? with
    | none => { system with sampler := .idle }
    | some desk =>
      match desk.forward system.stores begun with
      | .ok (_, desk) =>
        { system with desks := system.desks.set next desk, sampler := .passing begun (next + 1) }
      | .error fault => { system with sampler := .stopped (some fault), cancelled := true }

def serve (system : System) (index : Nat) (outcome : SinkOutcome) : List Event × System :=
  match system.desks[index]? with
  | none => ([], system)
  | some desk =>
    let (events, after) := desk.step system.cancelled system.hungUp system.calls outcome
    let calls := if after.activity = .calling system.calls then system.calls + 1 else system.calls
    (events, { system with desks := system.desks.set index after, calls })

def step (system : System) : Action → List Event × System
  | .offer source market sample => ([], (system.offer source market sample).2)
  | .cancel => ([], system.cancel)
  | .sample now => ([], system.sample now)
  | .serve index outcome => system.serve index outcome

def run (system : System) : List Action → List Event × System
  | [] => ([], system)
  | action :: actions =>
    let (events, after) := system.step action
    let (later, final) := run after actions
    (events ++ later, final)

/-! ## Outcome -/

def hasEnded (system : System) : Bool :=
  system.hungUp && system.desks.all (·.activity = .ended)

def isUnscheduled (system : System) : Bool := system.sampler = .unscheduled

def fault? (system : System) : Option SamplingFault :=
  match system.sampler with
  | .stopped fault => fault
  | _ => none

end System

end IndexPrice.Pricing
