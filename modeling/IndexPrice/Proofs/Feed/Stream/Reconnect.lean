import IndexPrice.Feed.Stream.Connector
import Mathlib.Data.List.Basic
import Mathlib.Data.List.Induction

/-!
# Reconnects exclude one another

However the steps of several reconnects are interleaved, only the last one that
was admitted can be under way, because the session is connecting for as long as it
is.  What the session is otherwise, and whether there is a socket to write to, can
be read off the stage that this call has reached.
-/

namespace IndexPrice.Feed.Stream

/-! ## One call -/

namespace Stage

def phase : Stage → Phase
  | .done true => .connected
  | .done false => .disconnected
  | _ => .connecting

/-- Whether the session then has a socket, where the stage decides it. -/
def writer? : Stage → Option Bool
  | .closing _ => none
  | .checking _ => some false
  | .dialing _ => some false
  | .waiting _ _ => some false
  | .reporting connected => some connected
  | .done connected => some connected

theorem phase_eq_connecting_iff (stage : Stage) :
    stage.phase = .connecting ↔ stage.isDone = false := by
  cases stage with
  | done connected => cases connected <;> simp [phase, isDone]
  | closing schedule => simp [phase, isDone]
  | checking schedule => simp [phase, isDone]
  | dialing schedule => simp [phase, isDone]
  | waiting schedule delay => simp [phase, isDone]
  | reporting connected => simp [phase, isDone]

theorem eq_done_of_isDone {stage : Stage} (h : stage.isDone = true) :
    ∃ connected, stage = .done connected := by
  cases stage with
  | done connected => exact ⟨connected, rfl⟩
  | closing schedule => cases h
  | checking schedule => cases h
  | dialing schedule => cases h
  | waiting schedule delay => cases h
  | reporting connected => cases h

private theorem eq_done_of_phase {stage : Stage} {connected : Bool}
    (h : stage.phase = if connected then .connected else .disconnected) :
    stage = .done connected := by
  cases stage with
  | done other => cases other <;> cases connected <;> simp_all [phase]
  | closing schedule => cases connected <;> cases h
  | checking schedule => cases connected <;> cases h
  | dialing schedule => cases connected <;> cases h
  | waiting schedule delay => cases connected <;> cases h
  | reporting other => cases connected <;> cases h

inductive Advance (world : Surroundings) (session : Session) : Stage → Stage → Session → Prop
  | closed (schedule : Backoff) :
      Advance world session (.closing schedule) (.checking schedule)
        { session with hasWriter := false }
  | abandoned (schedule : Backoff) (cancelled : world.cancelled = true) :
      Advance world session (.checking schedule) (.reporting false) session
  | checked (schedule : Backoff) (uncancelled : world.cancelled = false) :
      Advance world session (.checking schedule) (.dialing schedule) session
  | dialed (schedule : Backoff) (reachable : world.reachable = true) :
      Advance world session (.dialing schedule) (.reporting true)
        { session with hasWriter := true }
  | delayed (schedule next : Backoff) (delay : Span) (unreachable : world.reachable = false)
      (room : schedule.failures + 1 < schedule.maxAttempts)
      (counted : next.failures = schedule.failures + 1)
      (limit : next.maxAttempts = schedule.maxAttempts) :
      Advance world session (.dialing schedule) (.waiting next delay) session
  | exhausted (schedule : Backoff) (unreachable : world.reachable = false) :
      Advance world session (.dialing schedule) (.reporting false) session
  | interrupted (schedule : Backoff) (delay : Span) (cancelled : world.cancelled = true) :
      Advance world session (.waiting schedule delay) (.reporting false) session
  | waited (schedule : Backoff) (delay : Span) (uncancelled : world.cancelled = false) :
      Advance world session (.waiting schedule delay) (.closing schedule) session
  | connected :
      Advance world session (.reporting true) (.done true)
        { session with phase := .connected, connectedAt := world.now }
  | disconnected :
      Advance world session (.reporting false) (.done false) { session with phase := .disconnected }
  | rested (connected : Bool) :
      Advance world session (.done connected) (.done connected) session

private theorem advance (world : Surroundings) (session : Session) (stage : Stage) :
    Advance world session stage (stage.next world) (stage.effect world session) := by
  cases stage with
  | closing schedule => exact .closed schedule
  | checking schedule =>
      cases hcancelled : world.cancelled with
      | true => simpa [next, effect, hcancelled] using .abandoned schedule hcancelled
      | false => simpa [next, effect, hcancelled] using .checked schedule hcancelled
  | dialing schedule =>
      cases hreachable : world.reachable with
      | true => simpa [next, effect, hreachable] using .dialed schedule hreachable
      | false =>
          simp only [next, effect, hreachable, Bool.false_eq_true, if_false]
          by_cases hroom : schedule.maxAttempts ≤ schedule.failures + 1
          · simpa [Backoff.recordFailure, hroom] using .exhausted schedule hreachable
          · simp only [Backoff.recordFailure, hroom, if_false]
            exact .delayed schedule _ _ hreachable (by omega) rfl rfl
  | waiting schedule delay =>
      cases hcancelled : world.cancelled with
      | true => simpa [next, effect, hcancelled] using .interrupted schedule delay hcancelled
      | false => simpa [next, effect, hcancelled] using .waited schedule delay hcancelled
  | reporting connected =>
      cases connected with
      | true => exact .connected
      | false => exact .disconnected
  | done connected => exact .rested connected

structure Matches (stage : Stage) (session : Session) : Prop where
  phase : session.phase = stage.phase
  writer : ∀ present, stage.writer? = some present → session.hasWriter = present

private theorem Matches.advance {world : Surroundings} {session after : Session}
    {stage next : Stage}
    (h : stage.Matches session) (hadvance : Advance world session stage next after) :
    next.Matches after := by
  obtain ⟨hphase, hwriter⟩ := h
  cases hadvance with
  | closed schedule => exact ⟨hphase, by simp [writer?]⟩
  | abandoned schedule cancelled => exact ⟨hphase, hwriter⟩
  | checked schedule uncancelled => exact ⟨hphase, hwriter⟩
  | dialed schedule reachable => exact ⟨hphase, by simp [writer?]⟩
  | delayed schedule next delay unreachable room counted limit => exact ⟨hphase, hwriter⟩
  | exhausted schedule unreachable => exact ⟨hphase, hwriter⟩
  | interrupted schedule delay cancelled => exact ⟨hphase, hwriter⟩
  | waited schedule delay uncancelled => exact ⟨hphase, by simp [writer?]⟩
  | connected => exact ⟨rfl, hwriter⟩
  | disconnected => exact ⟨rfl, hwriter⟩
  | rested connected => exact ⟨hphase, hwriter⟩

private theorem Advance.lastStart_eq {world : Surroundings} {session after : Session}
    {stage next : Stage}
    (h : Advance world session stage next after) : after.lastStart = session.lastStart := by
  cases h <;> rfl

private theorem Advance.stepsLeft_lt {world : Surroundings} {session after : Session}
    {stage next : Stage}
    (h : Advance world session stage next after) (running : stage.isDone = false) :
    next.stepsLeft < stage.stepsLeft := by
  cases h with
  | rested connected => cases running
  | delayed schedule next delay unreachable room counted limit =>
      simp only [stepsLeft, counted, limit]
      omega
  | closed schedule => simp [stepsLeft]
  | abandoned schedule cancelled => simp [stepsLeft]
  | checked schedule uncancelled => simp [stepsLeft]
  | dialed schedule reachable => simp [stepsLeft]
  | exhausted schedule unreachable => simp [stepsLeft]
  | interrupted schedule delay cancelled => simp [stepsLeft]
  | waited schedule delay uncancelled => simp [stepsLeft]
  | connected => simp [stepsLeft]
  | disconnected => simp [stepsLeft]

end Stage

/-! ## All calls -/

namespace Line

/-- The stage of the last admitted call; before the first one there is no connection either. -/
def lastStage (line : Line) : Stage := line.calls.getLast?.getD (.done false)

inductive Change (settings : Settings) (line : Line) : Event → Line → Prop
  | admitted (answer : (line.request settings).1 = true) (idle : line.session.phase ≠ .connecting)
      (paced : ∀ start, line.session.lastStart = some start →
        settings.minReconnectInterval ≤ line.clock - start) :
      Change settings line .request { line with
        session := { line.session with phase := .connecting, lastStart := some line.clock }
        calls := line.calls ++ [Stage.first settings] }
  | rejected (answer : (line.request settings).1 = false) :
      Change settings line .request line
  | idle (call : Nat) (reachable : Bool) (now : Instant)
      (settled : ∀ stage, line.calls[call]? = some stage → stage.isDone = true) :
      Change settings line (.proceed call reachable now) line
  | proceeded (call : Nat) (reachable : Bool) (now : Instant) (stage next : Stage)
      (session : Session) (current : line.calls[call]? = some stage)
      (running : stage.isDone = false)
      (advance : Stage.Advance ⟨line.cancelled, reachable, now⟩ line.session stage next session) :
      Change settings line (.proceed call reachable now)
        { line with session, calls := line.calls.set call next }
  | passed (span : Span) :
      Change settings line (.pass span) { line with clock := line.clock + span }
  | cancelled : Change settings line .cancel { line with cancelled := true }
  | hungUp (after : Line) : Change settings line .hangUp after

theorem request_eq (line : Line) (settings : Settings) :
    line.request settings = (false, line) ∨
      (line.session.phase ≠ .connecting ∧
        (∀ start, line.session.lastStart = some start →
          settings.minReconnectInterval ≤ line.clock - start) ∧
        line.request settings = (true, { line with
          session := { line.session with phase := .connecting, lastStart := some line.clock }
          calls := line.calls ++ [Stage.first settings] })) := by
  unfold request Session.enter?
  cases hadmits : line.session.admits settings line.clock with
  | false => exact .inl rfl
  | true =>
      refine .inr ⟨?_, ?_, rfl⟩
      · intro hphase
        simp [Session.admits, hphase] at hadmits
      · intro start hstart
        simp only [Session.admits, hstart, Bool.and_eq_true, decide_eq_true_eq] at hadmits
        exact hadmits.2

private theorem change_of_request (settings : Settings) (line : Line) :
    Change settings line .request (line.request settings).2 := by
  rcases line.request_eq settings with hrejected | ⟨hidle, hpaced, hadmitted⟩
  · rw [hrejected]
    exact .rejected (by rw [hrejected])
  · rw [hadmitted]
    exact .admitted (by rw [hadmitted]) hidle hpaced

private theorem change_of_proceed (settings : Settings) (line : Line) (call : Nat)
    (reachable : Bool) (now : Instant) :
    Change settings line (.proceed call reachable now) (line.proceed call reachable now) := by
  unfold proceed
  cases hstage : line.calls[call]? with
  | none => exact .idle call reachable now (by simp [hstage])
  | some stage =>
      cases hdone : stage.isDone with
      | false =>
          exact .proceeded call reachable now stage _ _ hstage hdone (Stage.advance _ _ stage)
      | true =>
          -- a call that has ended changes neither itself nor the session
          obtain ⟨connected, rfl⟩ := Stage.eq_done_of_isDone hdone
          obtain ⟨hcall, hget⟩ := List.getElem?_eq_some_iff.mp hstage
          have hsame : line.calls.set call (.done connected) = line.calls := by
            rw [← hget, List.set_getElem_self]
          simp only [Stage.next, Stage.effect, hsame]
          exact .idle call reachable now (by simp [hstage, hdone])

theorem change_of_step (settings : Settings) (line : Line) (event : Event) :
    Change settings line event (line.step settings event) := by
  cases event with
  | request => exact change_of_request settings line
  | proceed call reachable now => exact change_of_proceed settings line call reachable now
  | pass span => exact .passed span
  | cancel => exact .cancelled
  | hangUp => exact .hungUp _

theorem run_concat (settings : Settings) (line : Line) (events : List Event) (event : Event) :
    line.run settings (events ++ [event]) = (line.run settings events).step settings event := by
  simp [run]

/-! ### One call at a time -/

/-- Only the last admitted call may be under way, and the session is as it has left it. -/
structure Serialized (line : Line) : Prop where
  ended : ∀ stage ∈ line.calls.dropLast, stage.isDone = true
  current : line.lastStage.Matches line.session

private theorem serialized_create (created : Instant) :
    (Connector.create created).line.Serialized :=
  ⟨by simp [Connector.create], rfl, by simp [Connector.create, lastStage, Stage.writer?]⟩

private theorem Serialized.last_of_running {line : Line} (h : line.Serialized) {call : Nat}
    {stage : Stage} (hstage : line.calls[call]? = some stage) (running : stage.isDone = false) :
    ∃ earlier, line.calls = earlier ++ [stage] ∧ call = earlier.length := by
  obtain ⟨hcall, hget⟩ := List.getElem?_eq_some_iff.mp hstage
  rcases line.calls.eq_nil_or_concat' with hnil | ⟨earlier, last, hcalls⟩
  · simp [hnil] at hcall
  · have hended := h.ended
    simp only [hcalls, List.dropLast_concat] at hended
    simp only [hcalls, List.length_append, List.length_singleton] at hcall
    rcases Nat.lt_or_ge call earlier.length with hlt | hge
    · -- an earlier call has ended
      have hmem : stage ∈ earlier := by
        simp only [hcalls, List.getElem_append_left hlt] at hget
        exact hget ▸ List.getElem_mem hlt
      rw [hended stage hmem] at running
      cases running
    · have hlength : call = earlier.length := by omega
      simp only [hcalls, hlength, List.getElem_concat_length] at hget
      exact ⟨earlier, by rw [hcalls, hget], hlength⟩

theorem Serialized.of_done {line : Line} (h : line.Serialized) {connected : Bool}
    (hlast : line.lastStage = .done connected) :
    line.session.phase = (if connected then .connected else .disconnected) ∧
      line.session.hasWriter = connected := by
  have hcurrent := h.current
  rw [hlast] at hcurrent
  refine ⟨?_, hcurrent.writer connected rfl⟩
  rw [hcurrent.phase]
  cases connected <;> rfl

private theorem Serialized.hasWriter_of_phase {line : Line} (h : line.Serialized) (connected : Bool)
    (hphase : line.session.phase = if connected then .connected else .disconnected) :
    line.session.hasWriter = connected := by
  rw [h.current.phase] at hphase
  exact (h.of_done (Stage.eq_done_of_phase hphase)).2

private theorem Serialized.step {settings : Settings} {line after : Line} {event : Event}
    (h : line.Serialized) (hchange : Change settings line event after) (up : event ≠ .hangUp) :
    after.Serialized := by
  obtain ⟨hended, hcurrent⟩ := h
  cases hchange with
  | admitted answer idle paced =>
      refine ⟨?_, by simp [lastStage, Stage.first, Stage.phase],
        by simp [lastStage, Stage.first, Stage.writer?]⟩
      -- no call is under way, because the session is not connecting
      have hlast : line.lastStage.isDone = true := by
        rw [hcurrent.phase, Ne, Stage.phase_eq_connecting_iff] at idle
        simpa using idle
      intro stage hmem
      simp only [List.dropLast_concat] at hmem
      rcases line.calls.eq_nil_or_concat' with hnil | ⟨earlier, last, hcalls⟩
      · simp [hnil] at hmem
      · simp only [hcalls, List.mem_append, List.mem_singleton] at hmem
        rcases hmem with hmem | rfl
        · exact hended stage (by simpa [hcalls] using hmem)
        · simpa [lastStage, hcalls] using hlast
  | rejected answer => exact ⟨hended, hcurrent⟩
  | idle call reachable now settled => exact ⟨hended, hcurrent⟩
  | proceeded call reachable now stage next session current running advance =>
      obtain ⟨earlier, hcalls, rfl⟩ := Serialized.last_of_running ⟨hended, hcurrent⟩ current running
      have hset : line.calls.set earlier.length next = earlier ++ [next] := by simp [hcalls]
      have hstage : line.lastStage = stage := by simp [lastStage, hcalls]
      rw [hstage] at hcurrent
      refine ⟨?_, ?_⟩
      · simpa [hset, hcalls] using hended
      · simpa [lastStage, hset] using hcurrent.advance advance
  | passed span => exact ⟨hended, hcurrent⟩
  | cancelled => exact ⟨hended, hcurrent⟩
  | hungUp after => exact absurd rfl up

theorem serialized_run {line : Line} (h : line.Serialized) (settings : Settings)
    {events : List Event} (up : ∀ event ∈ events, event ≠ .hangUp) :
    (line.run settings events).Serialized := by
  induction events using List.reverseRecOn with
  | nil => exact h
  | append_singleton events event ih =>
      rw [run_concat]
      exact (ih fun other hother => up other (by simp [hother])).step
        (change_of_step settings _ event) (up event (by simp))

private theorem Serialized.underWay_eq {line : Line} (h : line.Serialized) :
    line.underWay = if line.session.phase = .connecting then [line.lastStage] else [] := by
  obtain ⟨hended, hcurrent⟩ := h
  have hphase : line.session.phase = .connecting ↔ line.lastStage.isDone = false := by
    rw [hcurrent.phase, Stage.phase_eq_connecting_iff]
  rw [underWay, if_congr hphase rfl rfl]
  rcases line.calls.eq_nil_or_concat' with hnil | ⟨earlier, last, hcalls⟩
  · simp [lastStage, hnil, Stage.isDone]
  · have hearlier : earlier.filter (!·.isDone) = [] := by
      simpa [hcalls] using hended
    have hlast : line.lastStage = last := by simp [lastStage, hcalls]
    rw [hcalls, List.filter_append, hearlier, hlast]
    cases hdone : last.isDone <;> simp [hdone]

/-! ### The pace of reconnects -/

def start? (settings : Settings) (line : Line) : Event → Option Moment
  | .request => if (line.request settings).1 then some line.clock else none
  | _ => none

def starts (settings : Settings) : Line → List Event → List Moment
  | _, [] => []
  | line, event :: events =>
      (line.start? settings event).toList ++ starts settings (line.step settings event) events

theorem starts_concat (settings : Settings) (line : Line) (events : List Event) (event : Event) :
    starts settings line (events ++ [event]) =
      starts settings line events ++ ((line.run settings events).start? settings event).toList := by
  induction events generalizing line with
  | nil => simp [starts, run]
  | cons first events ih => simp [starts, ih, run]

structure Paced (settings : Settings) (line : Line) (starts : List Moment) : Prop where
  last : line.session.lastStart = starts.getLast?
  reached : ∀ start ∈ starts, start ≤ line.clock
  apart : starts.Pairwise fun earlier later => earlier + settings.minReconnectInterval ≤ later
  counted : starts.length = line.calls.length

private theorem paced_create (settings : Settings) (created : Instant) :
    Paced settings (Connector.create created).line [] :=
  ⟨rfl, by simp, .nil, rfl⟩

private theorem Paced.keep {settings : Settings} {line after : Line} {starts : List Moment}
    (h : Paced settings line starts) (hlast : after.session.lastStart = line.session.lastStart)
    (hclock : line.clock ≤ after.clock) (hcalls : after.calls.length = line.calls.length) :
    Paced settings after (starts ++ []) := by
  rw [List.append_nil]
  exact ⟨hlast.trans h.last, fun start hstart => Nat.le_trans (h.reached start hstart) hclock,
    h.apart, h.counted.trans hcalls.symm⟩

private theorem Paced.step {settings : Settings} {line after : Line} {event : Event}
    {starts : List Moment}
    (h : Paced settings line starts) (hchange : Change settings line event after)
    (up : event ≠ .hangUp) :
    Paced settings after (starts ++ (line.start? settings event).toList) := by
  cases hchange with
  | admitted answer idle paced =>
      obtain ⟨hlast, hreached, hapart, hcounted⟩ := h
      simp only [start?, answer, if_true, Option.toList_some]
      refine ⟨by simp, ?_, ?_, by simp [hcounted]⟩
      · intro start hmem
        rcases List.mem_append.mp hmem with hmem | hmem
        · exact hreached start hmem
        · exact Nat.le_of_eq (List.mem_singleton.mp hmem)
      · refine List.pairwise_append.mpr ⟨hapart, List.pairwise_singleton _ _, ?_⟩
        intro start hmem clock hclock
        obtain rfl := List.mem_singleton.mp hclock
        -- the session remembers the last start, and every other one is earlier
        rcases starts.eq_nil_or_concat' with rfl | ⟨earlier, last, rfl⟩
        · cases hmem
        · have hreached : last ≤ line.clock := hreached last (by simp)
          rcases List.mem_append.mp hmem with hmem | hmem
          · have hearlier := (List.pairwise_append.mp hapart).2.2 start hmem last (by simp)
            exact Nat.le_trans hearlier hreached
          · obtain rfl := List.mem_singleton.mp hmem
            exact Nat.add_le_of_le_sub' hreached (paced start (by simpa using hlast))
  | rejected answer =>
      simp only [start?, answer, Bool.false_eq_true, if_false]
      exact h.keep rfl (Nat.le_refl _) rfl
  | idle call reachable now settled => exact h.keep rfl (Nat.le_refl _) rfl
  | proceeded call reachable now stage next session current running advance =>
      exact h.keep advance.lastStart_eq (Nat.le_refl _) (by simp)
  | passed span => exact h.keep rfl (Nat.le_add_right _ _) rfl
  | cancelled => exact h.keep rfl (Nat.le_refl _) rfl
  | hungUp after => exact absurd rfl up

theorem paced_run (settings : Settings) (created : Instant) {events : List Event}
    (up : ∀ event ∈ events, event ≠ .hangUp) :
    Paced settings ((Connector.create created).line.run settings events)
      (starts settings (Connector.create created).line events) := by
  induction events using List.reverseRecOn with
  | nil => exact paced_create settings created
  | append_singleton events event ih =>
      rw [run_concat, starts_concat]
      exact (ih fun other hother => up other (by simp [hother])).step
        (change_of_step settings _ event) (up event (by simp))

/-! ### Every call ends -/

def isStepOf (call : Nat) : Event → Bool
  | .proceed other _ _ => other = call
  | _ => false

private theorem stage_of_change {settings : Settings} {line after : Line} {event : Event}
    (hchange : Change settings line event after) (up : event ≠ .hangUp) {call : Nat}
    {stage : Stage} (hstage : line.calls[call]? = some stage) :
    ∃ next, after.calls[call]? = some next ∧
      next.stepsLeft ≤ stage.stepsLeft - (isStepOf call event).toNat := by
  cases hchange with
  | admitted answer idle paced =>
      refine ⟨stage, ?_, Nat.le_refl _⟩
      rw [List.getElem?_append_left (List.getElem?_eq_some_iff.mp hstage).1, hstage]
  | rejected answer => exact ⟨stage, hstage, Nat.le_refl _⟩
  | idle other reachable now settled =>
      refine ⟨stage, hstage, ?_⟩
      by_cases heq : other = call
      · subst heq
        obtain ⟨connected, rfl⟩ := Stage.eq_done_of_isDone (settled stage hstage)
        simp [Stage.stepsLeft]
      · simp [isStepOf, heq]
  | proceeded other reachable now moving next session current running advance =>
      by_cases heq : other = call
      · subst heq
        rw [hstage] at current
        cases current
        obtain ⟨hcall, -⟩ := List.getElem?_eq_some_iff.mp hstage
        refine ⟨next, by simp [hcall], ?_⟩
        have := advance.stepsLeft_lt running
        simp only [isStepOf, decide_true, Bool.toNat_true]
        omega
      · exact ⟨stage, by simp [heq, hstage], by simp [isStepOf, heq]⟩
  | passed span => exact ⟨stage, hstage, Nat.le_refl _⟩
  | cancelled => exact ⟨stage, hstage, Nat.le_refl _⟩
  | hungUp after => exact absurd rfl up

theorem stage_of_run (settings : Settings) {line : Line} {events : List Event}
    (up : ∀ event ∈ events, event ≠ .hangUp) {call : Nat} {stage : Stage}
    (hstage : line.calls[call]? = some stage) :
    ∃ next, (line.run settings events).calls[call]? = some next ∧
      next.stepsLeft ≤ stage.stepsLeft - events.countP (isStepOf call) := by
  induction events using List.reverseRecOn with
  | nil => exact ⟨stage, hstage, Nat.le_refl _⟩
  | append_singleton events event ih =>
      obtain ⟨middle, hmiddle, hleft⟩ := ih fun other hother => up other (by simp [hother])
      obtain ⟨next, hnext, hless⟩ :=
        stage_of_change (change_of_step settings _ event) (up event (by simp)) hmiddle
      rw [run_concat]
      refine ⟨next, hnext, ?_⟩
      rw [List.countP_append, List.countP_singleton]
      cases hstep : isStepOf call event <;> simp_all <;> omega

private theorem done_of_steps (settings : Settings) {line : Line} {events : List Event}
    (up : ∀ event ∈ events, event ≠ .hangUp) {call : Nat} {stage : Stage}
    (hstage : line.calls[call]? = some stage)
    (enough : stage.stepsLeft ≤ events.countP (isStepOf call)) :
    ∃ connected, (line.run settings events).calls[call]? = some (.done connected) := by
  obtain ⟨next, hnext, hleft⟩ := stage_of_run settings up hstage
  have hnone : next.stepsLeft = 0 := by omega
  cases next with
  | done connected => exact ⟨connected, hnext⟩
  | closing schedule => simp [Stage.stepsLeft] at hnone
  | checking schedule => simp [Stage.stepsLeft] at hnone
  | dialing schedule => simp [Stage.stepsLeft] at hnone
  | waiting schedule delay => simp [Stage.stepsLeft] at hnone
  | reporting connected => simp [Stage.stepsLeft] at hnone

private theorem Serialized.outcome {line : Line} (h : line.Serialized) {call : Nat} {stage : Stage}
    {reachable : Bool} {now : Instant} {connected : Bool} (hstage : line.calls[call]? = some stage)
    (running : stage.isDone = false)
    (hend : (line.proceed call reachable now).calls[call]? = some (.done connected)) :
    (line.proceed call reachable now).session.phase =
        (if connected then .connected else .disconnected) ∧
      (line.proceed call reachable now).session.hasWriter = connected := by
  obtain ⟨earlier, hcalls, rfl⟩ := h.last_of_running hstage running
  have hafter := h.step (change_of_proceed {} line earlier.length reachable now) (by simp)
  apply hafter.of_done
  have hset : (line.proceed earlier.length reachable now).calls =
      earlier ++ [stage.next ⟨line.cancelled, reachable, now⟩] := by
    simp [proceed, hcalls]
  rw [hset] at hend
  simp only [lastStage, hset, List.getLast?_concat, Option.getD_some]
  simpa using hend

/-! ### Reconnects that nothing interrupts -/

theorem length_calls_proceed (line : Line) (call : Nat) (reachable : Bool) (now : Instant) :
    (line.proceed call reachable now).calls.length = line.calls.length := by
  unfold proceed
  split
  · rfl
  · simp

private theorem length_calls_proceedLast (line : Line) (reachable : Bool) (now : Instant)
    (steps : Nat) :
    (proceedLast reachable now steps line).calls.length = line.calls.length := by
  induction steps generalizing line with
  | zero => rfl
  | succ steps ih => rw [proceedLast, ih, length_calls_proceed]

theorem proceedLast_eq_run (settings : Settings) (line : Line) (reachable : Bool) (now : Instant)
    (steps : Nat) :
    proceedLast reachable now steps line =
      line.run settings
        (List.replicate steps (.proceed (line.calls.length - 1) reachable now)) := by
  induction steps generalizing line with
  | zero => rfl
  | succ steps ih =>
      rw [proceedLast, ih, length_calls_proceed, List.replicate_succ]
      rfl

/-- A reconnect is asked for and makes all its steps at once. -/
def undisturbed (settings : Settings) (line : Line) (reachable : Bool) (now : Instant) :
    List Event :=
  .request :: List.replicate (Stage.first settings).stepsLeft
    (.proceed line.calls.length reachable now)

private theorem ne_hangUp_of_mem_undisturbed {settings : Settings} {line : Line} {reachable : Bool}
    {now : Instant} {event : Event} (h : event ∈ undisturbed settings line reachable now) :
    event ≠ .hangUp := by
  rcases List.mem_cons.mp h with rfl | hmem
  · simp
  · rw [(List.mem_replicate.mp hmem).2]
    simp

private theorem finish_request {settings : Settings} {line : Line}
    (hadmitted : (line.request settings).1 = true) (reachable : Bool) (now : Instant) :
    (line.request settings).2.finish reachable now =
        line.run settings (undisturbed settings line reachable now) ∧
      ((line.request settings).2.finish reachable now).lastStage.isDone = true := by
  have hcalls : (line.request settings).2.calls = line.calls ++ [Stage.first settings] := by
    rcases line.request_eq settings with hrejected | ⟨-, -, heq⟩
    · rw [hrejected] at hadmitted
      cases hadmitted
    · rw [heq]
  have hlength := length_calls_proceedLast (line.request settings).2 reachable now
    (Stage.first settings).stepsLeft
  have hfinish : (line.request settings).2.finish reachable now =
      proceedLast reachable now (Stage.first settings).stepsLeft (line.request settings).2 := by
    simp [finish, hcalls]
  have hrun := proceedLast_eq_run settings (line.request settings).2 reachable now
    (Stage.first settings).stepsLeft
  simp only [hcalls, List.length_append, List.length_singleton, Nat.add_sub_cancel] at hrun hlength
  rw [hfinish]
  refine ⟨hrun, ?_⟩
  have hfirst : (line.request settings).2.calls[line.calls.length]? =
      some (Stage.first settings) := by
    simp [hcalls]
  have hstep : isStepOf line.calls.length (.proceed line.calls.length reachable now) = true := by
    simp [isStepOf]
  have hup : ∀ event ∈ List.replicate (Stage.first settings).stepsLeft
      (Event.proceed line.calls.length reachable now), event ≠ Event.hangUp := by
    intro event hmem
    simp [(List.mem_replicate.mp hmem).2]
  obtain ⟨connected, hdone⟩ := done_of_steps settings hup hfirst
    (by simp [List.countP_replicate, hstep])
  rw [← hrun] at hdone
  rw [lastStage, List.getLast?_eq_getElem?, hlength, Nat.add_sub_cancel, hdone]
  rfl

private theorem lastConnected_eq {line : Line} {connected : Bool}
    (h : line.lastStage = .done connected) :
    line.lastConnected = connected := by
  unfold lastStage at h
  unfold lastConnected
  cases hlast : line.calls.getLast? with
  | none => simpa [hlast] using h
  | some stage =>
      rw [hlast, Option.getD_some] at h
      simp [h]

end Line

/-! ## Reconnects of a connector -/

namespace Connector

variable {Quote : Type}

private theorem reconnect_eq (connector : Connector Quote) (connection : Connection)
    (reason : Reason) (reachable : Bool) (now : Instant) :
    let result := connector.reconnect connection reason reachable now
    result = (false, connection) ∨
      (result.2.line = connection.line.run connector.settings
          (Line.undisturbed connector.settings connection.line reachable now) ∧
        result.2.line.lastStage = .done result.1) := by
  intro result
  have hresult : result = connector.reconnect connection reason reachable now := rfl
  unfold reconnect at hresult
  rcases connection.line.request_eq connector.settings with hrejected | ⟨-, -, hadmitted⟩
  · simp only [hrejected] at hresult
    exact .inl hresult
  · obtain ⟨hrun, hdone⟩ := Line.finish_request (by rw [hadmitted]) reachable now
    obtain ⟨connected, hlast⟩ := Stage.eq_done_of_isDone hdone
    rw [hadmitted] at hrun hlast
    simp only [hadmitted, Line.lastConnected_eq hlast] at hresult
    rw [hresult]
    exact .inr ⟨hrun, hlast⟩

/--
Until the socket is closed for good, the reconnects of a connector exclude one
another, whoever asks for them, however their steps are interleaved and whatever
dials, cancellation and the clock do.  At most one call is under way, and the
session is connecting exactly while one is.  Admitted reconnects start at least the
least interval apart, and a rejected one changes nothing.  A call under way ends
after so many steps of its own, either connected with a socket to write to or
disconnected without one, and so the phase always tells whether there is a socket.
A reconnect that nothing interrupts is such a run, and its answer is how its call
has ended.
-/
theorem reconnects_exclusive (settings : Settings) (created : Instant) (events : List Event)
    (up : ∀ event ∈ events, event ≠ .hangUp) :
    let line := (create created).line.run settings events
    let starts := Line.starts settings (create created).line events
    (line.underWay.length ≤ 1 ∧ (line.session.phase = .connecting ↔ line.underWay ≠ [])) ∧
    (starts.length = line.calls.length ∧
      starts.Pairwise fun earlier later => earlier + settings.minReconnectInterval ≤ later) ∧
    ((line.request settings).1 = false → (line.request settings).2 = line) ∧
    (∀ call stage, line.calls[call]? = some stage → stage.isDone = false →
      (∀ reachable now connected,
        (line.proceed call reachable now).calls[call]? = some (.done connected) →
          (line.proceed call reachable now).session.phase =
              (if connected then .connected else .disconnected) ∧
            (line.proceed call reachable now).session.hasWriter = connected) ∧
      (∀ later, (∀ event ∈ later, event ≠ .hangUp) →
        stage.stepsLeft ≤ later.countP (Line.isStepOf call) →
          ∃ connected, (line.run settings later).calls[call]? = some (.done connected))) ∧
    ((line.session.phase = .connected → line.session.hasWriter = true) ∧
      (line.session.phase = .disconnected → line.session.hasWriter = false)) ∧
    (∀ {Quote : Type} (connector : Connector Quote) connection reason reachable now,
      connector.settings = settings → connection.line = line →
        let result := connector.reconnect connection reason reachable now
        result = (false, connection) ∨
          (result.2.line = line.run settings (Line.undisturbed settings line reachable now) ∧
            result.2.line.session.phase = (if result.1 then .connected else .disconnected) ∧
            result.2.line.session.hasWriter = result.1)) := by
  intro line starts
  have hserialized : line.Serialized :=
    Line.serialized_run (Line.serialized_create created) settings up
  have hpaced : Line.Paced settings line starts := Line.paced_run settings created up
  refine ⟨⟨?_, ?_⟩, ⟨hpaced.counted, hpaced.apart⟩, ?_, ?_, ⟨?_, ?_⟩, ?_⟩
  · rw [hserialized.underWay_eq]
    split <;> simp
  · rw [hserialized.underWay_eq]
    simp
  · intro hrejected
    rcases line.request_eq settings with heq | ⟨-, -, heq⟩
    · rw [heq]
    · rw [heq] at hrejected
      cases hrejected
  · intro call stage hstage hrunning
    exact ⟨fun reachable now connected => hserialized.outcome hstage hrunning,
      fun later hup => Line.done_of_steps settings hup hstage⟩
  · exact fun hphase => hserialized.hasWriter_of_phase true hphase
  · exact fun hphase => hserialized.hasWriter_of_phase false hphase
  · rintro Quote connector connection reason reachable now rfl hline result
    rcases connector.reconnect_eq connection reason reachable now with hrejected | ⟨hrun, hlast⟩
    · exact .inl hrejected
    · rw [hline] at hrun
      have hafter : result.2.line.Serialized := by
        rw [hrun]
        exact Line.serialized_run hserialized _ fun event => Line.ne_hangUp_of_mem_undisturbed
      exact .inr ⟨hrun, hafter.of_done hlast⟩

def contested : List Event :=
  [.request, .request] ++ List.replicate 3 (.proceed 0 false .epoch) ++
    [.pass (Span.ofSeconds 1), .request] ++ List.replicate 5 (.proceed 0 true .epoch) ++
    [.pass (Span.ofSeconds 5), .request, .pass (Span.ofSeconds 20), .request]

theorem reconnects_of_contested :
    (∀ event ∈ contested, event ≠ .hangUp) ∧
      Line.starts {} (create .epoch).line contested = [0, Span.ofSeconds 26] ∧
      [0, Span.ofSeconds 26].Pairwise (fun earlier later => earlier + Span.ofSeconds 20 ≤ later) ∧
      ((create .epoch).line.run {} contested).underWay.length ≤ 1 := by
  have hup : ∀ event ∈ contested, event ≠ .hangUp := by decide
  have hstarts : Line.starts {} (create .epoch).line contested = [0, Span.ofSeconds 26] := by
    decide +kernel
  obtain ⟨⟨hfew, -⟩, ⟨-, hapart⟩, -⟩ := reconnects_exclusive {} .epoch contested hup
  rw [hstarts] at hapart
  exact ⟨hup, hstarts, hapart, hfew⟩

end Connector

end IndexPrice.Feed.Stream
