import IndexPrice.Proofs.Consensus.History
import IndexPrice.Proofs.List
import IndexPrice.Proofs.Pricing.Tasks
import Mathlib.Data.List.Nodup

/-!
# The ledger of a market

What has become of the lists that passes found for a market: those that its
service has taken out, in order, decide which prices it has published.  At most the
last one is left, and while the mailbox is open that one is still in it.
-/

namespace IndexPrice.Pricing

/-! ## Prices accepted and published -/

def acceptedPrices (ticks : List Tick) : List Float :=
  (({} : Consensus Float).verdicts ticks).filterMap Verdict.accepted?

theorem acceptedPrices_concat (ticks : List Tick) (tick : Tick) :
    acceptedPrices (ticks ++ [tick]) = acceptedPrices ticks ++
      ((({} : Consensus Float).after ticks).evaluate tick).1.accepted?.toList := by
  rw [acceptedPrices, Consensus.verdicts_append, List.filterMap_append]
  rfl

section

variable {α : Type}

def Event.published? (market : String) : Event α → Option α
  | .published name price => if name = market then some price else none
  | _ => none

def publishedPrices (market : String) (events : List (Event α)) : List α :=
  events.filterMap (Event.published? market)

@[simp] theorem publishedPrices_append (market : String) (earlier later : List (Event α)) :
    publishedPrices market (earlier ++ later) =
      publishedPrices market earlier ++ publishedPrices market later := by
  simp [publishedPrices]

theorem publishedPrices_eq_nil {market : String} {events : List (Event α)}
    (h : ∀ event ∈ events, event.market ≠ market) : publishedPrices market events = [] := by
  rw [publishedPrices, List.filterMap_eq_nil_iff]
  intro event hmem
  have hne := h event hmem
  cases event with
  | published name price => exact if_neg hne
  | accepted name forced => rfl
  | rejected name reason => rfl
  | sinkFailed name => rfl

end

/-! ## What a step does at one desk -/

namespace System

def turnAt? (system : System) (index : Nat) : Action → Option Instant
  | .sample _ =>
    match system.sampler with
    | .passing begun next => if next = index then some begun else none
    | _ => none
  | _ => none

inductive Treatment (system : System) (index : Nat) (desk : Desk) :
    Action → List Event → Desk → Prop
  | apart (action : Action) (events : List Event) (unseen : system.turnAt? index action = none)
      (foreign : (system.desks.map Desk.market).Nodup →
        ∀ event ∈ events, event.market ≠ desk.market) :
      Treatment system index desk action events desk
  | looked (now begun : Instant) (forwarded : Bool) (after : Desk)
      (turn : system.sampler = .passing begun index)
      (forwarding : desk.Forwarding system.stores begun (.ok (forwarded, after))) :
      Treatment system index desk (.sample now) [] after
  | failed (now begun : Instant) (fault : SamplingFault)
      (turn : system.sampler = .passing begun index)
      (forwarding : desk.Forwarding system.stores begun (.error fault)) :
      Treatment system index desk (.sample now) [] desk
  | served (outcome : SinkOutcome) (events : List Event) (after : Desk)
      (serving : desk.Serving system.cancelled system.hungUp system.calls outcome events after) :
      Treatment system index desk (.serve index outcome) events after

end System

private theorem Desk.Serving.market_eq {desk after : Desk} {cancelled hungUp : Bool} {calls : Nat}
    {outcome : SinkOutcome} {events : List Event}
    (h : desk.Serving cancelled hungUp calls outcome events after) :
    ∀ event ∈ events, event.market = desk.market := by
  cases h with
  | finished outcome ended => simp
  | leaving outcome running reason => simp
  | waiting outcome idle uncancelled emptied => simp
  | accepting outcome tick accepted next idle uncancelled content verdict =>
      simp [Event.market]
  | rejecting outcome tick rejection next idle uncancelled content verdict =>
      simp [Event.market]
  | pending call busy uncancelled => simp
  | concluding outcome call busy uncancelled answered =>
      cases outcome <;> simp [MarketService.conclude, Event.market]

namespace System

theorem market_ne_of_nodup {system : System} (names : (system.desks.map Desk.market).Nodup)
    {index other : Nat} {desk neighbour : Desk} (hdesk : system.desks[index]? = some desk)
    (hneighbour : system.desks[other]? = some neighbour) (hne : other ≠ index) :
    neighbour.market ≠ desk.market := by
  intro hmarket
  obtain ⟨hindex, rfl⟩ := List.getElem?_eq_some_iff.mp hdesk
  obtain ⟨hother, rfl⟩ := List.getElem?_eq_some_iff.mp hneighbour
  have hin : index < (system.desks.map Desk.market).length := by simpa using hindex
  have hout : other < (system.desks.map Desk.market).length := by simpa using hother
  have hsame : (system.desks.map Desk.market)[other] = (system.desks.map Desk.market)[index] := by
    simpa using hmarket
  exact hne (names.getElem_inj_iff.mp hsame)

theorem treatment_of_transition {system after : System} {action : Action} {events : List Event}
    (h : Transition system action events after) {index : Nat} {desk : Desk}
    (hdesk : system.desks[index]? = some desk) :
    ∃ next, after.desks[index]? = some next ∧ Treatment system index desk action events next := by
  cases h with
  | offered source market sample store running =>
      exact ⟨desk, hdesk, .apart _ _ rfl (by simp)⟩
  | ignored source market sample unknown => exact ⟨desk, hdesk, .apart _ _ rfl (by simp)⟩
  | cancelling => exact ⟨desk, hdesk, .apart _ _ rfl (by simp)⟩
  | finished now hungUp =>
      refine ⟨desk, hdesk, .apart _ _ ?_ (by simp)⟩
      cases hsampler : system.sampler <;> simp_all [turnAt?, System.hungUp]
  | ending now idle cancelled =>
      exact ⟨desk, hdesk, .apart _ _ (by simp [turnAt?, idle]) (by simp)⟩
  | beginning now idle uncancelled =>
      exact ⟨desk, hdesk, .apart _ _ (by simp [turnAt?, idle]) (by simp)⟩
  | passed now begun next turn behind =>
      refine ⟨desk, hdesk, .apart _ _ ?_ (by simp)⟩
      have hne : next ≠ index := by
        rintro rfl
        simp [hdesk] at behind
      simp [turnAt?, turn, hne]
  | looked now begun next seen after forwarded turn present forward =>
      rcases eq_or_ne next index with rfl | hne
      · rw [hdesk] at present
        cases present
        exact ⟨after, getElem?_set_of_getElem? hdesk after,
          .looked now begun forwarded after turn (Desk.forwarding_of_forward forward)⟩
      · refine ⟨desk, ?_, .apart _ _ (by simp [turnAt?, turn, hne]) (by simp)⟩
        rw [List.getElem?_set_ne hne, hdesk]
  | failed now begun next seen fault turn present forward =>
      rcases eq_or_ne next index with rfl | hne
      · rw [hdesk] at present
        cases present
        exact ⟨desk, hdesk, .failed now begun fault turn (Desk.forwarding_of_forward forward)⟩
      · exact ⟨desk, hdesk, .apart _ _ (by simp [turnAt?, turn, hne]) (by simp)⟩
  | absent place outcome nobody => exact ⟨desk, hdesk, .apart _ _ rfl (by simp)⟩
  | served place outcome served next events present step =>
      have hserving := Desk.serving_of_step step
      rcases eq_or_ne place index with rfl | hne
      · rw [hdesk] at present
        cases present
        exact ⟨next, getElem?_set_of_getElem? hdesk next, .served outcome events next hserving⟩
      · refine ⟨desk, ?_, .apart _ _ rfl ?_⟩
        · rw [List.getElem?_set_ne hne, hdesk]
        · intro names event hmem
          rw [hserving.market_eq event hmem]
          exact market_ne_of_nodup names hdesk present hne

end System

/-! ## The ledger -/

/--
Of the lists found for a desk so far, its service has taken these out, and has
published what a fresh consensus accepts of them; at most one list is left.
-/
structure Ledger (desk : Desk) (taken left : List Tick) (published : List Float) : Prop where
  shut : desk.mailbox.closed = true → desk.activity = .ended
  few : left.length ≤ 1
  paid : published = acceptedPrices taken
  opened : desk.mailbox.closed = false →
    left = desk.mailbox.content.toList ∧
      desk.service.consensus = ({} : Consensus Float).after taken

namespace Ledger

variable {desk after : Desk} {taken left : List Tick} {published : List Float}

def entry (tick : Tick) : List Tick := if tick.isEmpty then [] else [tick]

private theorem entry_length_le (tick : Tick) : (entry tick).length ≤ 1 := by
  unfold entry
  split <;> simp

theorem blank (desk : Desk) (mailbox : desk.mailbox = {})
    (consensus : desk.service.consensus = {}) : Ledger desk [] [] [] := by
  constructor
  · intro hclosed
    simp [mailbox] at hclosed
  · simp
  · rfl
  · intro _
    exact ⟨by simp [mailbox], consensus⟩

theorem forwarding (h : Ledger desk taken left published) {stores : Stores} {now : Instant}
    {forwarded : Bool} (hforwarding : desk.Forwarding stores now (.ok (forwarded, after))) :
    Ledger after taken (left ++ entry (desk.freshPrices stores now)) published := by
  cases hforwarding with
  | nothing stale =>
      simp only [stale, entry, List.isEmpty_nil, if_true, List.append_nil]
      exact h
  | posted fresh opened emptied =>
      obtain ⟨hleft, hconsensus⟩ := h.opened opened
      have hnone : left = [] := by simpa [emptied] using hleft
      have hentry : left ++ entry (desk.freshPrices stores now) =
          [desk.freshPrices stores now] := by
        simp [hnone, entry, fresh]
      rw [hentry]
      refine ⟨fun hclosed => ?_, by simp, h.paid, fun _ => ⟨by simp, hconsensus⟩⟩
      cases hclosed

theorem faulting (h : Ledger desk taken left published) {stores : Stores} {now : Instant}
    {fault : SamplingFault} (hforwarding : desk.Forwarding stores now (.error fault))
    (hnone : left = []) :
    Ledger desk taken (left ++ entry (desk.freshPrices stores now)) published := by
  rw [hnone, List.nil_append]
  cases hforwarding with
  | stalled fresh opened full =>
      have hleft := (h.opened opened).1
      cases hcontent : desk.mailbox.content with
      | none => exact absurd hcontent full
      | some tick => simp [hnone, hcontent] at hleft
  | gone fresh closed =>
      refine ⟨h.shut, entry_length_le _, h.paid, fun hopened => ?_⟩
      simp [closed] at hopened

private theorem left_eq (h : Ledger desk taken left published)
    (hopened : desk.mailbox.closed = false)
    {tick : Tick} (hcontent : desk.mailbox.content = some tick) : left = [tick] := by
  rw [(h.opened hopened).1, hcontent, Option.toList_some]

private theorem taking (h : Ledger desk taken left published)
    (hopened : desk.mailbox.closed = false)
    {tick : Tick} {verdict : Verdict Float} {next : Consensus Float}
    (hverdict : desk.service.consensus.evaluate tick = (verdict, next))
    (hmailbox : after.mailbox = { desk.mailbox with content := none })
    (hconsensus : after.service.consensus = next) :
    Ledger after (taken ++ [tick]) [] (published ++ verdict.accepted?.toList) := by
  rw [(h.opened hopened).2] at hverdict
  have hnext : ({} : Consensus Float).after (taken ++ [tick]) = next := by
    simp [hverdict]
  refine ⟨fun hclosed => ?_, by simp, ?_, fun _ => ⟨?_, ?_⟩⟩
  · simp [hmailbox, hopened] at hclosed
  · rw [acceptedPrices_concat, hverdict, h.paid]
  · simp [hmailbox]
  · rw [hconsensus, hnext]

theorem serving (h : Ledger desk taken left published) {cancelled hungUp : Bool} {calls : Nat}
    {outcome : SinkOutcome} {events : List Event}
    (hserving : desk.Serving cancelled hungUp calls outcome events after) :
    ∃ taken' left', taken' ++ left' = taken ++ left ∧ (left = [] → left' = []) ∧
      Ledger after taken' left' (published ++ publishedPrices desk.market events) := by
  have hquiet : publishedPrices desk.market ([] : List Event) = [] := rfl
  -- a service that takes a list out is not over, so its mailbox is open
  have hrunning : desk.activity = .waiting → desk.mailbox.closed = false := by
    intro hidle
    cases hclosed : desk.mailbox.closed with
    | false => rfl
    | true => simp [h.shut hclosed] at hidle
  cases hserving with
  | finished outcome ended => exact ⟨taken, left, rfl, id, by rwa [hquiet, List.append_nil]⟩
  | leaving outcome running reason =>
      refine ⟨taken, left, rfl, id, ?_⟩
      rw [hquiet, List.append_nil]
      exact ⟨fun _ => rfl, h.few, h.paid, fun hopened => by cases hopened⟩
  | waiting outcome idle uncancelled emptied =>
      exact ⟨taken, left, rfl, id, by rwa [hquiet, List.append_nil]⟩
  | accepting outcome tick accepted next idle uncancelled content verdict =>
      have hprice : publishedPrices desk.market [.accepted desk.market accepted.forced,
          .published desk.market accepted.price] = [accepted.price] := by
        simp [publishedPrices, Event.published?, List.filterMap_cons]
      refine ⟨taken ++ [tick], [], ?_, fun _ => rfl, ?_⟩
      · rw [h.left_eq (hrunning idle) content, List.append_nil]
      · rw [hprice]
        exact h.taking (hrunning idle) verdict rfl rfl
  | rejecting outcome tick rejection next idle uncancelled content verdict =>
      refine ⟨taken ++ [tick], [], ?_, fun _ => rfl, ?_⟩
      · rw [h.left_eq (hrunning idle) content, List.append_nil]
      · exact h.taking (hrunning idle) verdict rfl rfl
  | pending call busy uncancelled =>
      exact ⟨taken, left, rfl, id, by rwa [hquiet, List.append_nil]⟩
  | concluding outcome call busy uncancelled answered =>
      have hnone : publishedPrices desk.market
          (MarketService.conclude desk.market outcome : List Event) = [] := by
        cases outcome <;> rfl
      refine ⟨taken, left, rfl, id, ?_⟩
      rw [hnone, List.append_nil]
      refine ⟨fun hclosed => ?_, h.few, h.paid, h.opened⟩
      have hended := h.shut hclosed
      simp [busy] at hended

end Ledger

end IndexPrice.Pricing
