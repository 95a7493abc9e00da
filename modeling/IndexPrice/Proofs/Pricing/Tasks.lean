import IndexPrice.Pricing.System
import IndexPrice.Proofs.Pricing.Desk
import Mathlib.Data.List.Induction

/-!
# Steps and runs of the tasks

Each step that a task of pricing can make, with the condition under which it
makes it, and what is observed of a run when each of its steps is watched.
-/

namespace IndexPrice.Pricing.System

/-! ## What a step can do -/

inductive Transition (system : System) : Action → List Event → System → Prop
  | offered (source market : String) (sample : Sample) (store : PriceStore)
      (running : system.stores.get? source = some store) :
      Transition system (.offer source market sample) []
        { system with stores := system.stores.insert source (store.offer market sample).2 }
  | ignored (source market : String) (sample : Sample)
      (unknown : system.stores.get? source = none) :
      Transition system (.offer source market sample) [] system
  | cancelling : Transition system .cancel [] { system with cancelled := true }
  | finished (now : Instant) (hungUp : system.hungUp = true) :
      Transition system (.sample now) [] system
  | ending (now : Instant) (idle : system.sampler = .idle) (cancelled : system.cancelled = true) :
      Transition system (.sample now) [] { system with sampler := .stopped none }
  | beginning (now : Instant) (idle : system.sampler = .idle)
      (uncancelled : system.cancelled = false) :
      Transition system (.sample now) [] { system with sampler := .passing now 0 }
  | passed (now begun : Instant) (next : Nat) (turn : system.sampler = .passing begun next)
      (behind : system.desks[next]? = none) :
      Transition system (.sample now) [] { system with sampler := .idle }
  | looked (now begun : Instant) (next : Nat) (desk after : Desk) (forwarded : Bool)
      (turn : system.sampler = .passing begun next) (present : system.desks[next]? = some desk)
      (forward : desk.forward system.stores begun = .ok (forwarded, after)) :
      Transition system (.sample now) []
        { system with desks := system.desks.set next after, sampler := .passing begun (next + 1) }
  | failed (now begun : Instant) (next : Nat) (desk : Desk) (fault : SamplingFault)
      (turn : system.sampler = .passing begun next) (present : system.desks[next]? = some desk)
      (forward : desk.forward system.stores begun = .error fault) :
      Transition system (.sample now) []
        { system with sampler := .stopped (some fault), cancelled := true }
  | absent (index : Nat) (outcome : SinkOutcome) (nobody : system.desks[index]? = none) :
      Transition system (.serve index outcome) [] system
  | served (index : Nat) (outcome : SinkOutcome) (desk after : Desk) (events : List Event)
      (present : system.desks[index]? = some desk)
      (step : desk.step system.cancelled system.hungUp system.calls outcome = (events, after)) :
      Transition system (.serve index outcome) events
        { system with
          desks := system.desks.set index after
          calls := if after.activity = .calling system.calls then system.calls + 1
            else system.calls }

private theorem transition_of_sample (system : System) (now : Instant) :
    Transition system (.sample now) [] (system.sample now) := by
  unfold sample
  cases hsampler : system.sampler with
  | stopped fault => exact .finished now (by simp [hungUp, hsampler])
  | unscheduled => exact .finished now (by simp [hungUp, hsampler])
  | idle =>
      dsimp only
      split
      · next hcancelled => exact .ending now hsampler hcancelled
      · next hcancelled => exact .beginning now hsampler (by simpa using hcancelled)
  | passing begun next =>
      dsimp only
      cases hdesk : system.desks[next]? with
      | none => exact .passed now begun next hsampler hdesk
      | some desk =>
          dsimp only
          cases hforward : desk.forward system.stores begun with
          | error fault => exact .failed now begun next desk fault hsampler hdesk hforward
          | ok outcome =>
              obtain ⟨forwarded, after⟩ := outcome
              exact .looked now begun next desk after forwarded hsampler hdesk hforward

theorem transition_of_step (system : System) (action : Action) :
    Transition system action (system.step action).1 (system.step action).2 := by
  cases action with
  | offer source market sample =>
      simp only [step, offer]
      cases hstore : system.stores.get? source with
      | none => exact .ignored source market sample hstore
      | some store => exact .offered source market sample store hstore
  | cancel => exact .cancelling
  | sample now => exact transition_of_sample system now
  | serve index outcome =>
      simp only [step, serve]
      cases hdesk : system.desks[index]? with
      | none => exact .absent index outcome hdesk
      | some desk =>
          dsimp only
          cases hstep : desk.step system.cancelled system.hungUp system.calls outcome with
          | mk events after => exact .served index outcome desk after events hdesk hstep

theorem forall_desks_set {P : Desk → Prop} {desks : List Desk} (h : ∀ desk ∈ desks, P desk)
    (index : Nat) {next : Desk} (hnext : P next) : ∀ desk ∈ desks.set index next, P desk := by
  intro desk hdesk
  rcases List.mem_or_eq_of_mem_set hdesk with hold | rfl
  · exact h desk hold
  · exact hnext

/-! ## Runs -/

@[simp] theorem run_nil (system : System) : system.run [] = ([], system) := rfl

theorem run_cons (system : System) (action : Action) (actions : List Action) :
    system.run (action :: actions) =
      ((system.step action).1 ++ ((system.step action).2.run actions).1,
        ((system.step action).2.run actions).2) := rfl

theorem run_append (system : System) (earlier later : List Action) :
    system.run (earlier ++ later) =
      ((system.run earlier).1 ++ ((system.run earlier).2.run later).1,
        ((system.run earlier).2.run later).2) := by
  induction earlier generalizing system with
  | nil => simp
  | cons action earlier ih => simp [run_cons, ih]

theorem run_concat (system : System) (actions : List Action) (action : Action) :
    system.run (actions ++ [action]) =
      ((system.run actions).1 ++ ((system.run actions).2.step action).1,
        ((system.run actions).2.step action).2) := by
  simp [run_append, run_cons]

def observe {β : Type} (view : System → Action → Option β) (system : System) :
    List Action → List β
  | [] => []
  | action :: actions => (view system action).toList ++ observe view (system.step action).2 actions

theorem observe_concat {β : Type} (view : System → Action → Option β) (system : System)
    (actions : List Action) (action : Action) :
    system.observe view (actions ++ [action]) =
      system.observe view actions ++ (view (system.run actions).2 action).toList := by
  induction actions generalizing system with
  | nil => simp [observe]
  | cons first actions ih => simp [observe, ih, run_cons]

end IndexPrice.Pricing.System
