import IndexPrice.Proofs.Pricing.Desk
import Mathlib.Data.List.Basic

/-!
# Where a pass stops

A pass hands out lists as it goes and stops at the first desk whose mailbox does not
take one.  Desks before it have received their lists, that desk and those behind it
are as they were.
-/

namespace IndexPrice.Pricing.Desk

/-! ## One desk -/

/-- There are fresh prices, and the mailbox does not take them. -/
def Blocked (desk : Desk) (stores : Stores) (now : Instant) : Prop :=
  desk.freshPrices stores now ≠ [] ∧ (desk.mailbox.closed = true ∨ desk.mailbox.content ≠ none)

instance (desk : Desk) (stores : Stores) (now : Instant) : Decidable (desk.Blocked stores now) :=
  inferInstanceAs (Decidable (_ ∧ _))

/-- The fault at a desk that does not take its prices: a reader that left or one that stalls. -/
def fault (desk : Desk) : SamplingFault :=
  if desk.mailbox.closed then .gone desk.market else .stalled desk.market

def received (desk : Desk) (stores : Stores) (now : Instant) : Desk :=
  if desk.freshPrices stores now = [] then desk
  else { desk with mailbox := ⟨some (desk.freshPrices stores now), desk.mailbox.closed⟩ }

variable {stores : Stores} {now : Instant}

private theorem forward_of_blocked {desk : Desk} (h : desk.Blocked stores now) :
    desk.forward stores now = .error desk.fault := by
  obtain ⟨hfresh, hmailbox⟩ := h
  cases hclosed : desk.mailbox.closed with
  | true =>
      rw [fault, if_pos hclosed]
      exact forward_of_forwarding (.gone hfresh hclosed)
  | false =>
      rw [fault, if_neg (by simp [hclosed])]
      have hfull : desk.mailbox.content ≠ none := hmailbox.resolve_left (by simp [hclosed])
      exact forward_of_forwarding (.stalled hfresh hclosed hfull)

private theorem forward_of_not_blocked {desk : Desk} (h : ¬ desk.Blocked stores now) :
    desk.forward stores now =
      .ok (decide (desk.freshPrices stores now ≠ []), desk.received stores now) := by
  by_cases hfresh : desk.freshPrices stores now = []
  · rw [received, if_pos hfresh]
    simpa [hfresh] using forward_of_forwarding (.nothing hfresh)
  · have hopened : desk.mailbox.closed = false ∧ desk.mailbox.content = none := by
      simpa [Blocked, hfresh] using h
    rw [received, if_neg hfresh, hopened.1]
    simpa [hfresh] using forward_of_forwarding (.posted hfresh hopened.1 hopened.2)

/-! ## A pass over desks -/

private theorem sampleOnce_append_of_clear {earlier : List Desk}
    (clear : ∀ desk ∈ earlier, ¬ desk.Blocked stores now) (later : List Desk) :
    sampleOnce stores now (earlier ++ later) =
      ((sampleOnce stores now later).1.map
          (· + earlier.countP fun desk => decide (desk.freshPrices stores now ≠ [])),
        earlier.map (received · stores now) ++ (sampleOnce stores now later).2) := by
  generalize hpass : sampleOnce stores now later = pass
  obtain ⟨outcome, after⟩ := pass
  induction earlier with
  | nil => cases outcome <;> exact hpass
  | cons desk rest ih =>
      obtain ⟨hdesk, hrest⟩ := List.forall_mem_cons.mp clear
      rw [List.cons_append, sampleOnce, forward_of_not_blocked hdesk, ih hrest, List.countP_cons]
      cases outcome with
      | error fault => rfl
      | ok count =>
          by_cases hfresh : desk.freshPrices stores now = []
          · simp [hfresh, Except.map]
          · simp [hfresh, Except.map, Nat.add_assoc]

private theorem sampleOnce_of_clear {desks : List Desk}
    (clear : ∀ desk ∈ desks, ¬ desk.Blocked stores now) :
    sampleOnce stores now desks =
      (.ok (desks.countP fun desk => decide (desk.freshPrices stores now ≠ [])),
        desks.map (received · stores now)) := by
  simpa [sampleOnce, Except.map] using sampleOnce_append_of_clear clear []

private theorem sampleOnce_of_blocked {earlier later : List Desk} {desk : Desk}
    (clear : ∀ other ∈ earlier, ¬ other.Blocked stores now) (blocked : desk.Blocked stores now) :
    sampleOnce stores now (earlier ++ desk :: later) =
      (.error desk.fault, earlier.map (received · stores now) ++ desk :: later) := by
  have hlater : sampleOnce stores now (desk :: later) = (.error desk.fault, desk :: later) := by
    rw [sampleOnce, forward_of_blocked blocked]
  rw [sampleOnce_append_of_clear clear, hlater]
  rfl

private theorem clear_or_first_blocked (stores : Stores) (now : Instant) (desks : List Desk) :
    (∀ desk ∈ desks, ¬ desk.Blocked stores now) ∨
      ∃ earlier desk later, desks = earlier ++ desk :: later ∧
        (∀ other ∈ earlier, ¬ other.Blocked stores now) ∧ desk.Blocked stores now := by
  cases hfind : desks.find? fun desk => decide (desk.Blocked stores now) with
  | none => exact .inl (by simpa using hfind)
  | some desk =>
      obtain ⟨hblocked, earlier, later, hdesks, hclear⟩ := List.find?_eq_some_iff_append.mp hfind
      exact .inr ⟨earlier, desk, later, hdesks, by simpa using hclear, of_decide_eq_true hblocked⟩

/--
A pass over any desks fails exactly if some desk has fresh prices that its mailbox does
not take.  The fault then names the first such desk, as gone if its mailbox is closed and
as stalled if it is full; each desk before it has its fresh prices in its mailbox if it
has any, and nothing else has changed.  Otherwise the pass tells how many desks had fresh
prices, and each of them has them in its mailbox.
-/
theorem sampleOnce_delimited (stores : Stores) (now : Instant) (desks : List Desk) :
    let pass := sampleOnce stores now desks
    ((∃ fault, pass.1 = .error fault) ↔ ∃ desk ∈ desks, desk.Blocked stores now) ∧
    (∀ fault, pass.1 = .error fault →
      ∃ earlier desk later, desks = earlier ++ desk :: later ∧
        (∀ other ∈ earlier, ¬ other.Blocked stores now) ∧ desk.Blocked stores now ∧
        fault = desk.fault ∧ pass.2 = earlier.map (received · stores now) ++ desk :: later) ∧
    (∀ count, pass.1 = .ok count →
      count = (desks.countP fun desk => decide (desk.freshPrices stores now ≠ [])) ∧
        pass.2 = desks.map (received · stores now)) := by
  intro pass
  rcases clear_or_first_blocked stores now desks with
    hclear | ⟨earlier, desk, later, hdesks, hclear, hblocked⟩
  · have hpass : pass = (.ok _, _) := sampleOnce_of_clear hclear
    rw [hpass]
    refine ⟨?_, ?_, ?_⟩
    · constructor
      · rintro ⟨fault, hfault⟩
        cases hfault
      · rintro ⟨desk, hdesk, hblocked⟩
        exact absurd hblocked (hclear desk hdesk)
    · intro fault hfault
      cases hfault
    · intro count hcount
      cases hcount
      exact ⟨rfl, rfl⟩
  · have hpass : pass =
        (.error desk.fault, earlier.map (received · stores now) ++ desk :: later) := by
      rw [← sampleOnce_of_blocked hclear hblocked, ← hdesks]
    rw [hpass]
    refine ⟨?_, ?_, ?_⟩
    · exact iff_of_true ⟨desk.fault, rfl⟩ ⟨desk, by simp [hdesks], hblocked⟩
    · intro fault hfault
      cases hfault
      exact ⟨earlier, desk, later, hdesks, hclear, hblocked, rfl, rfl⟩
    · intro count hcount
      cases hcount

end IndexPrice.Pricing.Desk
