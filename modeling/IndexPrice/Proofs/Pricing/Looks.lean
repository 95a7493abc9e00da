import IndexPrice.Proofs.Pricing.Ledger

/-!
# What the passes see of a market

Every pass looks once at each desk, whatever else happens while it is under way.
A `Look` is what it sees there.  As long as the service of a desk has taken its
list out by the time the next pass begins, the lists found by the looks are all
delivered, and nothing else decides what the service publishes.
-/

namespace IndexPrice.Pricing

structure Look where
  begun : Instant
  latest : String → Option Sample

/-- The prices of those exchanges whose sample is young enough, in their order. -/
def Look.tick (look : Look) (exchanges : List String) (maxUseAge : Span) : Tick :=
  exchanges.filterMap fun exchange =>
    ((look.latest exchange).filter fun sample =>
      decide (sample.age look.begun ≤ maxUseAge)).map (·.price)

def foundLists (exchanges : List String) (maxUseAge : Span) (looks : List Look) : List Tick :=
  (looks.map (·.tick exchanges maxUseAge)).filter fun tick => !tick.isEmpty

namespace System

def latest (system : System) (market exchange : String) : Option Sample :=
  (system.stores.get? exchange).bind (·.load market)

def look? (system : System) (market : String) : Action → Option Look
  | .sample _ =>
    match system.sampler with
    | .passing begun next =>
      if (system.desks[next]?).map Desk.market = some market then
        some ⟨begun, system.latest market⟩
      else none
    | _ => none
  | _ => none

def begins? (system : System) : Action → Option Instant
  | .sample now => if system.sampler = .idle ∧ system.cancelled = false then some now else none
  | _ => none

def looks (system : System) (market : String) (actions : List Action) : List Look :=
  system.observe (·.look? market ·) actions

def passes (system : System) (actions : List Action) : List Instant :=
  system.observe begins? actions

/-- An action that begins a pass finds the mailbox of the market empty. -/
def Prompt (system : System) (market : String) (action : Action) : Prop :=
  (system.begins? action).isSome →
    ∀ desk ∈ system.desks, desk.market = market → desk.mailbox.content = none

instance (system : System) (market : String) (action : Action) :
    Decidable (system.Prompt market action) :=
  inferInstanceAs (Decidable (_ → _))

/--
The mailbox of the market is empty whenever a pass begins.  It is if the service
has finished its last call of the sink by then and looked for another list.
-/
def KeepsUp (market : String) : System → List Action → Prop
  | _, [] => True
  | system, action :: actions =>
      system.Prompt market action ∧ KeepsUp market (system.step action).2 actions

instance KeepsUp.decidable (market : String) (system : System) (actions : List Action) :
    Decidable (KeepsUp market system actions) :=
  match actions with
  | [] => isTrue trivial
  | action :: actions =>
      haveI := KeepsUp.decidable market (system.step action).2 actions
      inferInstanceAs (Decidable (_ ∧ _))

theorem keepsUp_append (market : String) (system : System) (earlier later : List Action) :
    KeepsUp market system (earlier ++ later) ↔
      KeepsUp market system earlier ∧ KeepsUp market (system.run earlier).2 later := by
  induction earlier generalizing system with
  | nil => simp [KeepsUp]
  | cons action earlier ih => simp [KeepsUp, ih, run_cons, and_assoc]

theorem keepsUp_concat (market : String) (system : System) (actions : List Action)
    (action : Action) :
    KeepsUp market system (actions ++ [action]) ↔
      KeepsUp market system actions ∧ (system.run actions).2.Prompt market action := by
  rw [keepsUp_append]
  simp [KeepsUp]

end System

/-! ## What stays the same about a desk -/

structure Desk.Alike (desk home : Desk) : Prop where
  market : desk.market = home.market
  sources : desk.sources = home.sources
  maxUseAge : desk.maxUseAge = home.maxUseAge

theorem Desk.Alike.trans {desk middle home : Desk} (h : desk.Alike middle)
    (hmiddle : middle.Alike home) : desk.Alike home :=
  ⟨h.market.trans hmiddle.market, h.sources.trans hmiddle.sources,
    h.maxUseAge.trans hmiddle.maxUseAge⟩

theorem Desk.freshPrices_eq_tick {desk home : Desk} (h : desk.Alike home) (system : System)
    (now : Instant) :
    desk.freshPrices system.stores now =
      Look.tick ⟨now, system.latest home.market⟩ home.sources home.maxUseAge := by
  obtain ⟨hmarket, hsources, hage⟩ := h
  rw [freshPrices, Look.tick, hmarket, hsources, hage]
  generalize home.sources = sources
  induction sources with
  | nil => rfl
  | cons source sources ih =>
      dsimp only at ih ⊢
      rw [List.filterMap_cons, List.filterMap_cons, System.latest]
      cases (system.stores.get? source).bind (·.load home.market) with
      | none => exact ih
      | some sample =>
          by_cases hyoung : sample.age now ≤ home.maxUseAge
          · simp [Option.filter, hyoung, ih]
          · simp [Option.filter, hyoung, ih]

theorem Desk.Forwarding.alike {desk after : Desk} {stores : Stores} {now : Instant}
    {forwarded : Bool} (h : desk.Forwarding stores now (.ok (forwarded, after))) :
    after.Alike desk := by
  cases h with
  | nothing stale => exact ⟨rfl, rfl, rfl⟩
  | posted fresh opened emptied => exact ⟨rfl, rfl, rfl⟩

private theorem Desk.Serving.alike {desk after : Desk} {cancelled hungUp : Bool} {calls : Nat}
    {outcome : SinkOutcome} {events : List Event}
    (h : desk.Serving cancelled hungUp calls outcome events after) : after.Alike desk := by
  cases h <;> exact ⟨rfl, rfl, rfl⟩

namespace System

private theorem look?_eq {system : System} (names : (system.desks.map Desk.market).Nodup)
    {index : Nat} {desk : Desk} (hdesk : system.desks[index]? = some desk) (action : Action) :
    system.look? desk.market action =
      (system.turnAt? index action).map (⟨·, system.latest desk.market⟩) := by
  cases action with
  | offer source market sample => rfl
  | cancel => rfl
  | serve place outcome => rfl
  | sample now =>
      unfold look? turnAt?
      cases hsampler : system.sampler with
      | idle => rfl
      | unscheduled => rfl
      | stopped fault => rfl
      | passing begun next =>
          dsimp only
          rcases eq_or_ne next index with rfl | hne
          · simp [hdesk]
          · rw [if_neg, if_neg hne]
            · rfl
            · intro hmarket
              obtain ⟨neighbour, hneighbour, heq⟩ := Option.map_eq_some_iff.mp hmarket
              exact market_ne_of_nodup names hdesk hneighbour hne heq

theorem markets_of_transition {system after : System} {action : Action} {events : List Event}
    (h : Transition system action events after) :
    after.desks.map Desk.market = system.desks.map Desk.market := by
  have hset : ∀ (index : Nat) (desk next : Desk), system.desks[index]? = some desk →
      next.market = desk.market →
        (system.desks.set index next).map Desk.market = system.desks.map Desk.market := by
    intro index desk next hdesk hmarket
    obtain ⟨hindex, rfl⟩ := List.getElem?_eq_some_iff.mp hdesk
    rw [List.map_set, hmarket, ← List.getElem_map Desk.market (h := by simpa using hindex),
      List.set_getElem_self]
  cases h with
  | looked now begun next desk after forwarded turn present forward =>
      exact hset _ _ _ present (Desk.forwarding_of_forward forward).alike.market
  | served index outcome desk after events present step =>
      exact hset _ _ _ present (Desk.serving_of_step step).alike.market
  | offered source market sample store running => rfl
  | ignored source market sample unknown => rfl
  | cancelling => rfl
  | finished now hungUp => rfl
  | ending now idle cancelled => rfl
  | beginning now idle uncancelled => rfl
  | passed now begun next turn behind => rfl
  | failed now begun next desk fault turn present forward => rfl
  | absent index outcome nobody => rfl

theorem markets_run (system : System) (actions : List Action) :
    (system.run actions).2.desks.map Desk.market = system.desks.map Desk.market := by
  induction actions using List.reverseRecOn with
  | nil => rfl
  | append_singleton actions action ih =>
      rw [run_concat, markets_of_transition (transition_of_step _ action), ih]

/-! ## Passes and looks -/

end System

def Sampler.due (index : Nat) : Sampler → List Instant
  | .passing begun next => if next ≤ index then [begun] else []
  | _ => []

theorem Sampler.due_length_le (sampler : Sampler) (index : Nat) :
    (sampler.due index).length ≤ 1 := by
  cases sampler with
  | passing begun next =>
      by_cases hle : next ≤ index
      · simp [due, hle]
      · simp [due, hle]
  | idle => simp [due]
  | unscheduled => simp [due]
  | stopped fault => simp [due]

namespace System

/-- The passes that have begun but not looked at a desk; none is added once sampling is over. -/
structure Pending (system : System) (index : Nat) (pending : List Instant) : Prop where
  few : pending.length ≤ 1
  due : system.hungUp = false → pending = system.sampler.due index

private theorem due_of_turn {system : System} {begun : Instant} {next : Nat}
    (turn : system.sampler = .passing begun next) (index : Nat) (now : Instant) :
    system.sampler.due index = (system.turnAt? index (.sample now)).toList ++
      (Sampler.passing begun (next + 1)).due index := by
  simp only [turnAt?, turn, Sampler.due]
  rcases Nat.lt_trichotomy next index with hlt | rfl | hgt
  · simp [hlt.le, Nat.succ_le_of_lt hlt, hlt.ne]
  · simp
  · simp [hgt.not_ge, hgt.ne', show ¬ next + 1 ≤ index by omega]

theorem pending_of_transition {system after : System} {action : Action} {events : List Event}
    (h : Transition system action events after) {index : Nat} {desk : Desk}
    (hdesk : system.desks[index]? = some desk) {pending : List Instant}
    (hpending : system.Pending index pending) :
    ∃ left, pending ++ (system.begins? action).toList =
      (system.turnAt? index action).toList ++ left ∧ after.Pending index left := by
  have hindex := (List.getElem?_eq_some_iff.mp hdesk).1
  obtain ⟨hfew, hdue⟩ := hpending
  cases h with
  | offered source market sample store running =>
      exact ⟨pending, by simp [begins?, turnAt?], hfew, hdue⟩
  | ignored source market sample unknown =>
      exact ⟨pending, by simp [begins?, turnAt?], hfew, hdue⟩
  | cancelling => exact ⟨pending, by simp [begins?, turnAt?], hfew, hdue⟩
  | finished now hungUp =>
      refine ⟨pending, ?_, hfew, hdue⟩
      cases hsampler : system.sampler <;> simp_all [begins?, turnAt?, System.hungUp]
  | ending now idle cancelled =>
      exact ⟨pending, by simp [begins?, turnAt?, idle, cancelled], hfew, by simp [System.hungUp]⟩
  | beginning now idle uncancelled =>
      have hnone : pending = [] := by
        simpa [System.hungUp, idle, Sampler.due] using hdue
      refine ⟨[now], ?_, by simp, by simp [Sampler.due]⟩
      simp [hnone, begins?, turnAt?, idle, uncancelled]
  | passed now begun next turn behind =>
      -- a pass that has come behind the last desk has looked at this one
      have hlast : ¬ next ≤ index := by
        have := List.getElem?_eq_none_iff.mp behind
        omega
      have hne : next ≠ index := by omega
      have hnone : pending = [] := by
        simpa [System.hungUp, turn, Sampler.due, hlast] using hdue
      refine ⟨[], ?_, by simp, by simp [Sampler.due]⟩
      simp [hnone, begins?, turnAt?, turn, hne]
  | looked now begun next seen after forwarded turn present forward =>
      refine ⟨(Sampler.passing begun (next + 1)).due index, ?_, ?_, fun _ => rfl⟩
      · rw [hdue (by simp [System.hungUp, turn]), due_of_turn turn index now]
        simp [begins?, turn]
      · exact Sampler.due_length_le _ index
  | failed now begun next seen fault turn present forward =>
      refine ⟨(Sampler.passing begun (next + 1)).due index, ?_, ?_, by simp [System.hungUp]⟩
      · rw [hdue (by simp [System.hungUp, turn]), due_of_turn turn index now]
        simp [begins?, turn]
      · exact Sampler.due_length_le _ index
  | absent place outcome nobody => exact ⟨pending, by simp [begins?, turnAt?], hfew, hdue⟩
  | served place outcome served next events present step =>
      exact ⟨pending, by simp [begins?, turnAt?], hfew, hdue⟩

theorem due_before_of_due {system after : System} {action : Action} {events : List Event}
    (h : Transition system action events after) {index : Nat}
    (hdue : after.sampler.due index ≠ []) :
    system.turnAt? index action = none ∧
      (system.sampler.due index ≠ [] ∨ (system.begins? action).isSome) := by
  cases h with
  | offered source market sample store running => exact ⟨rfl, .inl hdue⟩
  | ignored source market sample unknown => exact ⟨rfl, .inl hdue⟩
  | cancelling => exact ⟨rfl, .inl hdue⟩
  | finished now hungUp =>
      refine ⟨?_, .inl hdue⟩
      cases hsampler : system.sampler <;> simp_all [turnAt?, System.hungUp]
  | ending now idle cancelled => exact absurd rfl hdue
  | beginning now idle uncancelled =>
      exact ⟨by simp [turnAt?, idle], .inr (by simp [begins?, idle, uncancelled])⟩
  | passed now begun next turn behind => exact absurd rfl hdue
  | looked now begun next seen after forwarded turn present forward =>
      have hlater : next + 1 ≤ index := by
        by_contra hle
        exact hdue (if_neg hle)
      have hne : next ≠ index := by omega
      refine ⟨by simp [turnAt?, turn, hne], .inl ?_⟩
      simp [turn, Sampler.due, show next ≤ index by omega]
  | failed now begun next seen fault turn present forward => exact absurd rfl hdue
  | absent place outcome nobody => exact ⟨rfl, .inl hdue⟩
  | served place outcome served next events present step => exact ⟨rfl, .inl hdue⟩

/-! ## Closing -/

def Closing (system : System) : Prop := system.cancelled = true ∨ system.hungUp = true

theorem Closing.of_transition {system after : System} {action : Action} {events : List Event}
    (h : Transition system action events after) (hclosing : system.Closing) : after.Closing := by
  cases h with
  | offered source market sample store running => exact hclosing
  | ignored source market sample unknown => exact hclosing
  | cancelling => exact .inl rfl
  | finished now hungUp => exact hclosing
  | ending now idle cancelled => exact .inl cancelled
  | beginning now idle uncancelled => simp [Closing, hungUp, idle, uncancelled] at hclosing
  | passed now begun next turn behind =>
      exact .inl (by simpa [Closing, hungUp, turn] using hclosing)
  | looked now begun next seen after forwarded turn present forward =>
      exact .inl (by simpa [Closing, hungUp, turn] using hclosing)
  | failed now begun next seen fault turn present forward => exact .inl rfl
  | absent place outcome nobody => exact hclosing
  | served place outcome served next events present step => exact hclosing

private theorem Closing.of_treatment {system : System} {action : Action} {events : List Event}
    {index : Nat} {desk next : Desk} (h : Treatment system index desk action events next)
    (hbefore : desk.mailbox.closed = true → system.Closing)
    (hclosed : next.mailbox.closed = true) : system.Closing := by
  cases h with
  | apart action events unseen foreign => exact hbefore hclosed
  | looked now begun forwarded next turn forwarding =>
      cases forwarding with
      | nothing stale => exact hbefore hclosed
      | posted fresh opened emptied => cases hclosed
  | failed now begun fault turn forwarding => exact hbefore hclosed
  | served outcome events next serving =>
      cases serving with
      | leaving outcome running reason => exact reason.imp id fun h => h.2.1
      | finished outcome ended => exact hbefore hclosed
      | waiting outcome idle uncancelled emptied => exact hbefore hclosed
      | accepting outcome tick accepted next idle uncancelled content verdict =>
          exact hbefore hclosed
      | rejecting outcome tick rejection next idle uncancelled content verdict =>
          exact hbefore hclosed
      | pending call busy uncancelled => exact hbefore hclosed
      | concluding outcome call busy uncancelled answered => exact hbefore hclosed

/-! ## A market through a run -/

theorem foundLists_append (exchanges : List String) (maxUseAge : Span)
    (earlier later : List Look) :
    foundLists exchanges maxUseAge (earlier ++ later) =
      foundLists exchanges maxUseAge earlier ++ foundLists exchanges maxUseAge later := by
  simp [foundLists]

private theorem foundLists_singleton (exchanges : List String) (maxUseAge : Span) (look : Look) :
    foundLists exchanges maxUseAge [look] = Ledger.entry (look.tick exchanges maxUseAge) := by
  cases h : (look.tick exchanges maxUseAge).isEmpty <;> simp [foundLists, Ledger.entry, h]

/-- How a desk stands in a system: with a pass due there, none of its lists is left. -/
structure Standing (system : System) (index : Nat) (home desk : Desk) (taken left : List Tick)
    (published : List Float) : Prop where
  present : system.desks[index]? = some desk
  alike : desk.Alike home
  ledger : Ledger desk taken left published
  cleared : system.sampler.due index ≠ [] → left = []
  closing : desk.mailbox.closed = true → system.Closing

namespace Standing

variable {system after : System} {index : Nat} {home desk next : Desk} {taken left : List Tick}
  {published : List Float} {action : Action} {events : List Event}

private theorem cleared_of_begins (h : system.Standing index home desk taken left published)
    (hbegins : (system.begins? action).isSome) (hcontent : desk.mailbox.content = none) :
    left = [] := by
  have hopened : desk.mailbox.closed = false := by
    cases hclosed : desk.mailbox.closed with
    | false => rfl
    | true =>
        have hclosing := h.closing hclosed
        cases action with
        | sample now =>
            have hbegun : system.sampler = .idle ∧ system.cancelled = false := by
              by_contra hnot
              simp [begins?, hnot] at hbegins
            simp [Closing, hungUp, hbegun.1, hbegun.2] at hclosing
        | offer source market sample => cases hbegins
        | cancel => cases hbegins
        | serve place outcome => cases hbegins
  rw [(h.ledger.opened hopened).1, hcontent, Option.toList_none]

private theorem ledger_of_treatment (h : system.Standing index home desk taken left published)
    (names : (system.desks.map Desk.market).Nodup)
    (htreatment : Treatment system index desk action events next) :
    ∃ taken' left', taken' ++ left' = taken ++ left ++
        foundLists home.sources home.maxUseAge
          ((system.turnAt? index action).map (⟨·, system.latest home.market⟩)).toList ∧
      (system.turnAt? index action = none → left = [] → left' = []) ∧
      next.Alike home ∧
        Ledger next taken' left' (published ++ publishedPrices home.market events) := by
  obtain ⟨present, halike, hledger, hcleared, -⟩ := h
  have hlook : ∀ begun : Instant,
      foundLists home.sources home.maxUseAge [⟨begun, system.latest home.market⟩] =
        Ledger.entry (desk.freshPrices system.stores begun) := by
    intro begun
    rw [foundLists_singleton, Desk.freshPrices_eq_tick halike]
  have hquiet : publishedPrices home.market ([] : List Event) = [] := rfl
  cases htreatment with
  | apart action events unseen foreign =>
      have hnone : publishedPrices home.market events = [] :=
        publishedPrices_eq_nil (halike.market ▸ foreign names)
      refine ⟨taken, left, ?_, fun _ => id, halike, ?_⟩
      · simp [unseen, foundLists]
      · rwa [hnone, List.append_nil]
  | looked now begun forwarded next turn forwarding =>
      have hturn : system.turnAt? index (.sample now) = some begun := by simp [turnAt?, turn]
      rw [hturn, hquiet, List.append_nil, Option.map_some, Option.toList_some, hlook]
      exact ⟨taken, _, (List.append_assoc _ _ _).symm, fun hnone => absurd hnone (by simp),
        forwarding.alike.trans halike, hledger.forwarding forwarding⟩
  | failed now begun fault turn forwarding =>
      have hturn : system.turnAt? index (.sample now) = some begun := by simp [turnAt?, turn]
      rw [hturn, hquiet, List.append_nil, Option.map_some, Option.toList_some, hlook]
      have hdue : system.sampler.due index ≠ [] := by simp [turn, Sampler.due]
      exact ⟨taken, _, (List.append_assoc _ _ _).symm, fun hnone => absurd hnone (by simp),
        halike, hledger.faulting forwarding (hcleared hdue)⟩
  | served outcome events next serving =>
      obtain ⟨taken', left', hall, hleft, hserved⟩ := hledger.serving serving
      rw [halike.market] at hserved
      refine ⟨taken', left', ?_, fun _ => hleft, serving.alike.trans halike, hserved⟩
      simp [hall, turnAt?, foundLists]

private theorem step (h : system.Standing index home desk taken left published)
    (names : (system.desks.map Desk.market).Nodup)
    (htransition : Transition system action events after)
    (keepsUp : (system.begins? action).isSome → desk.mailbox.content = none) :
    ∃ next taken' left', taken' ++ left' = taken ++ left ++
        foundLists home.sources home.maxUseAge (system.look? home.market action).toList ∧
      after.Standing index home next taken' left'
        (published ++ publishedPrices home.market events) := by
  obtain ⟨next, hnext, htreatment⟩ := treatment_of_transition htransition h.present
  obtain ⟨taken', left', hall, hleft, halike, hledger⟩ := h.ledger_of_treatment names htreatment
  have hseen := look?_eq names h.present action
  rw [h.alike.market] at hseen
  refine ⟨next, taken', left', by rw [hseen, hall], hnext, halike, hledger, ?_, ?_⟩
  · intro hdue
    obtain ⟨hturn, hbefore⟩ := due_before_of_due htransition hdue
    refine hleft hturn ?_
    rcases hbefore with hdue | hbegins
    · exact h.cleared hdue
    · exact h.cleared_of_begins hbegins (keepsUp hbegins)
  · intro hclosed
    exact (Closing.of_treatment htreatment h.closing hclosed).of_transition htransition

end Standing

structure Follows (system : System) (home : Desk) (index : Nat) (looks : List Look)
    (passes : List Instant) (published : List Float) : Prop where
  names : (system.desks.map Desk.market).Nodup
  pace : ∃ pending, passes = looks.map (·.begun) ++ pending ∧ system.Pending index pending
  desk : ∃ desk taken left, taken ++ left = foundLists home.sources home.maxUseAge looks ∧
    system.Standing index home desk taken left published

private theorem Follows.step {system after : System} {action : Action} {events : List Event}
    {home : Desk} {index : Nat} {looks : List Look} {passes : List Instant}
    {published : List Float} (h : system.Follows home index looks passes published)
    (htransition : Transition system action events after)
    (prompt : system.Prompt home.market action) :
    after.Follows home index (looks ++ (system.look? home.market action).toList)
      (passes ++ (system.begins? action).toList)
      (published ++ publishedPrices home.market events) := by
  obtain ⟨names, ⟨pending, hpace, hpending⟩, desk, taken, left, hall, hstanding⟩ := h
  have hdesk := hstanding.present
  have hmarket := hstanding.alike.market
  refine ⟨?_, ?_, ?_⟩
  · rw [markets_of_transition htransition]
    exact names
  · obtain ⟨rest, hrest, hlater⟩ := pending_of_transition htransition hdesk hpending
    refine ⟨rest, ?_, hlater⟩
    have hbegun : (system.turnAt? index action).toList =
        (system.look? home.market action).toList.map (·.begun) := by
      rw [← hmarket, look?_eq names hdesk action]
      cases system.turnAt? index action <;> rfl
    rw [hpace, List.append_assoc, hrest, hbegun, List.map_append, List.append_assoc]
  · obtain ⟨next, taken', left', hlists, hnext⟩ := hstanding.step names htransition
      fun hbegins => prompt hbegins desk (List.mem_of_getElem? hdesk) hmarket
    exact ⟨next, taken', left', by rw [hlists, hall, foundLists_append], hnext⟩

theorem follows_run {system : System} {home : Desk} {index : Nat} {actions : List Action}
    (hstart : system.Follows home index [] [] [])
    (keepsUp : KeepsUp home.market system actions) :
    (system.run actions).2.Follows home index (system.looks home.market actions)
      (system.passes actions) (publishedPrices home.market (system.run actions).1) := by
  -- from the end, because looks and prices are appended to what was observed before
  induction actions using List.reverseRecOn with
  | nil => exact hstart
  | append_singleton actions action ih =>
      obtain ⟨hkeeps, hprompt⟩ := (keepsUp_concat _ _ _ _).mp keepsUp
      have hstep := (ih hkeeps).step (transition_of_step _ action) hprompt
      rw [looks, passes, observe_concat, observe_concat, run_concat, publishedPrices_append]
      exact hstep

end System

end IndexPrice.Pricing
