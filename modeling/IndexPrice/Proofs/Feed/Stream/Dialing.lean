import IndexPrice.Proofs.Feed.Backoff
import IndexPrice.Proofs.Feed.Stream.Reconnect
import IndexPrice.Proofs.List

/-!
# Dials of a reconnect

A call dials until it succeeds, has used up its attempts or finds the stream
cancelled.  So the outcomes of its dials so far tell nearly all about it: they are all
failures as long as it may dial again, their number says how long the next delay is,
and a success is the last of them.
-/

namespace IndexPrice.Feed.Stream

namespace Stage

/-! ## One call -/

def dial? (world : Surroundings) : Stage → Option Bool
  | .dialing _ => some world.reachable
  | _ => none

def isDialing : Stage → Bool
  | .dialing _ => true
  | _ => false

def schedule? : Stage → Option Backoff
  | .closing schedule | .checking schedule | .dialing schedule => some schedule
  | .waiting schedule _ => some schedule
  | .reporting _ | .done _ => none

def answer? : Stage → Option Bool
  | .reporting connected | .done connected => some connected
  | _ => none

inductive Reached (settings : Settings) (dials : List Bool) (stage : Stage) : Prop
  | trying (schedule : Backoff) (current : stage.schedule? = some schedule)
      (course : schedule.OnCourse settings.initialBackoff)
      (limit : schedule.maxAttempts = settings.maxDialAttempts)
      (room : schedule.failures < max 1 settings.maxDialAttempts)
      (failed : dials = List.replicate schedule.failures false)
  | settled (connected : Bool) (answered : stage.answer? = some connected) (failures : Nat)
      (room : failures + connected.toNat ≤ max 1 settings.maxDialAttempts)
      (outcomes : dials = List.replicate failures false ++ List.replicate connected.toNat true)

private theorem reached_first {settings : Settings}
    (bounded : settings.initialBackoff ≤ Span.longest) :
    Reached settings [] (first settings) :=
  .trying _ rfl (Backoff.onCourse_first bounded _) rfl (Nat.le_max_left 1 _) rfl

private theorem next_dialing_of_room {initial : Span} {schedule : Backoff} {world : Surroundings}
    (course : schedule.OnCourse initial) (unreachable : world.reachable = false)
    (room : schedule.failures + 1 < schedule.maxAttempts) :
    (dialing schedule).next world =
      .waiting schedule.recordFailure.2 (Backoff.delay initial (schedule.failures + 1)) := by
  obtain ⟨hanswer, -⟩ := Backoff.recordFailure_eq course
  rw [if_pos room] at hanswer
  have hrecord : schedule.recordFailure =
      (some (Backoff.delay initial (schedule.failures + 1)), schedule.recordFailure.2) := by
    rw [← hanswer]
  rw [next, hrecord]
  simp [unreachable]

private theorem next_dialing_of_spent {initial : Span} {schedule : Backoff} {world : Surroundings}
    (course : schedule.OnCourse initial) (unreachable : world.reachable = false)
    (spent : schedule.maxAttempts ≤ schedule.failures + 1) :
    (dialing schedule).next world = .reporting false := by
  obtain ⟨hanswer, -⟩ := Backoff.recordFailure_eq course
  rw [if_neg (by omega)] at hanswer
  have hrecord : schedule.recordFailure = (none, schedule.recordFailure.2) := by
    rw [← hanswer]
  rw [next, hrecord]
  simp [unreachable]

theorem next_dialing_of_reachable {schedule : Backoff} {world : Surroundings}
    (reachable : world.reachable = true) : (dialing schedule).next world = .reporting true := by
  simp [next, reachable]

private theorem answer?_next {stage : Stage} {connected : Bool} (h : stage.answer? = some connected)
    (world : Surroundings) :
    (stage.next world).answer? = some connected ∧ stage.dial? world = none := by
  cases stage with
  | reporting answer => exact ⟨h, rfl⟩
  | done answer => exact ⟨h, rfl⟩
  | closing schedule => cases h
  | checking schedule => cases h
  | dialing schedule => cases h
  | waiting schedule delay => cases h

private theorem dial?_of_cancelled (world : Surroundings) (cancelled : world.cancelled = true)
    (stage : Stage) :
    (stage.dial? world).toList.length + (stage.next world).isDialing.toNat ≤
      stage.isDialing.toNat := by
  cases stage with
  | dialing schedule =>
      cases hreachable : world.reachable with
      | true => simp [dial?, next_dialing_of_reachable hreachable, isDialing]
      | false =>
          simp only [dial?, next, hreachable, Bool.false_eq_true, if_false]
          cases schedule.recordFailure with
          | mk answer schedule => cases answer <;> simp [isDialing]
  | closing schedule => simp [dial?, next, isDialing]
  | checking schedule => simp [dial?, next, isDialing, cancelled]
  | waiting schedule delay => simp [dial?, next, isDialing, cancelled]
  | reporting connected => simp [dial?, next, isDialing]
  | done connected => simp [dial?, next, isDialing]

private theorem Reached.gaveUp {settings : Settings} {schedule : Backoff}
    (room : schedule.failures < max 1 settings.maxDialAttempts) :
    Reached settings (List.replicate schedule.failures false) (.reporting false) :=
  .settled false rfl schedule.failures (Nat.le_of_lt room) (by simp)

private theorem Reached.next {settings : Settings} {dials : List Bool} {stage : Stage}
    (h : Reached settings dials stage) (world : Surroundings) :
    Reached settings (dials ++ (stage.dial? world).toList) (stage.next world) := by
  cases h with
  | settled connected answered failures room outcomes =>
      obtain ⟨hanswer, hdial⟩ := answer?_next answered world
      rw [hdial, Option.toList_none, List.append_nil]
      exact .settled connected hanswer failures room outcomes
  | trying schedule current course limit room failed =>
      subst failed
      cases stage with
      | reporting connected => cases current
      | done connected => cases current
      | closing other =>
          cases current
          simpa [dial?] using .trying schedule rfl course limit room rfl
      | checking other =>
          cases current
          cases hcancelled : world.cancelled with
          | true => simpa [Stage.next, dial?, hcancelled] using gaveUp room
          | false =>
              simpa [Stage.next, dial?, hcancelled] using .trying schedule rfl course limit room rfl
      | waiting other delay =>
          cases current
          cases hcancelled : world.cancelled with
          | true => simpa [Stage.next, dial?, hcancelled] using gaveUp room
          | false =>
              simpa [Stage.next, dial?, hcancelled] using .trying schedule rfl course limit room rfl
      | dialing other =>
          cases current
          cases hreachable : world.reachable with
          | true =>
              rw [next_dialing_of_reachable hreachable, dial?, hreachable]
              exact .settled true rfl schedule.failures room rfl
          | false =>
              have hdials : List.replicate schedule.failures false ++
                  (dial? world (.dialing schedule)).toList =
                    List.replicate (schedule.failures + 1) false := by
                rw [dial?, hreachable, List.replicate_succ']
                rfl
              rw [hdials]
              by_cases hroom : schedule.failures + 1 < schedule.maxAttempts
              · obtain ⟨-, hfailures, hattempts, hcourse⟩ := Backoff.recordFailure_eq course
                rw [next_dialing_of_room course hreachable hroom]
                refine .trying schedule.recordFailure.2 rfl hcourse (hattempts.trans limit) ?_ ?_
                · omega
                · rw [hfailures]
              · rw [next_dialing_of_spent course hreachable (by omega)]
                exact .settled false rfl (schedule.failures + 1) room (by simp)

end Stage

/-! ## Calls among each other -/

namespace Line

def dial? (line : Line) (call : Nat) : Event → Option Bool
  | .proceed other reachable now =>
      if other = call then line.calls[call]?.bind (Stage.dial? ⟨line.cancelled, reachable, now⟩)
      else none
  | _ => none

def dials (settings : Settings) (call : Nat) : Line → List Event → List Bool
  | _, [] => []
  | line, event :: events =>
      (line.dial? call event).toList ++ dials settings call (line.step settings event) events

theorem dials_concat (settings : Settings) (call : Nat) (line : Line) (events : List Event)
    (event : Event) :
    dials settings call line (events ++ [event]) =
      dials settings call line events ++ ((line.run settings events).dial? call event).toList := by
  induction events generalizing line with
  | nil => simp [dials, run]
  | cons first events ih => simp [dials, ih, run]

private theorem stage_of_proceed {line : Line} {call : Nat} {stage : Stage}
    (hstage : line.calls[call]? = some stage) (reachable : Bool) (now : Instant) :
    (line.proceed call reachable now).calls[call]? =
      some (stage.next ⟨line.cancelled, reachable, now⟩) := by
  simp only [proceed, hstage]
  exact getElem?_set_of_getElem? hstage _

theorem stage_of_step (settings : Settings) {line : Line} {call : Nat} {stage : Stage}
    (hstage : line.calls[call]? = some stage) (event : Event) :
    (line.dial? call event = none ∧ (line.step settings event).calls[call]? = some stage) ∨
      ∃ reachable now, line.dial? call event = stage.dial? ⟨line.cancelled, reachable, now⟩ ∧
        (line.step settings event).calls[call]? =
          some (stage.next ⟨line.cancelled, reachable, now⟩) := by
  obtain ⟨hcall, -⟩ := List.getElem?_eq_some_iff.mp hstage
  cases event with
  | request =>
      refine .inl ⟨rfl, ?_⟩
      rcases line.request_eq settings with hrejected | ⟨-, -, hadmitted⟩
      · rw [step, hrejected, hstage]
      · rw [step, hadmitted, List.getElem?_append_left hcall, hstage]
  | proceed other reachable now =>
      by_cases heq : other = call
      · subst heq
        exact .inr ⟨reachable, now, by simp [dial?, hstage], stage_of_proceed hstage reachable now⟩
      · refine .inl ⟨by simp [dial?, heq], ?_⟩
        rw [step, proceed]
        split
        · exact hstage
        · rw [List.getElem?_set_ne heq, hstage]
  | pass span => exact .inl ⟨rfl, hstage⟩
  | cancel => exact .inl ⟨rfl, hstage⟩
  | hangUp =>
      refine .inl ⟨rfl, ?_⟩
      rw [step]
      split <;> exact hstage

private theorem admission_of_step (settings : Settings) {line : Line} {call : Nat}
    (hnone : line.calls[call]? = none) (event : Event) :
    line.dial? call event = none ∧
      ∀ stage, (line.step settings event).calls[call]? = some stage →
        stage = Stage.first settings := by
  have hlength := List.getElem?_eq_none_iff.mp hnone
  cases event with
  | request =>
      refine ⟨rfl, fun stage hstage => ?_⟩
      rcases line.request_eq settings with hrejected | ⟨-, -, hadmitted⟩
      · rw [step, hrejected, hnone] at hstage
        cases hstage
      · rw [step, hadmitted, List.getElem?_append_right hlength] at hstage
        have hmem := List.mem_of_getElem? hstage
        exact List.mem_singleton.mp hmem
  | proceed other reachable now =>
      refine ⟨by simp [dial?, hnone], fun stage hstage => ?_⟩
      have hless := (List.getElem?_eq_some_iff.mp hstage).1
      rw [step, length_calls_proceed] at hless
      omega
  | pass span => exact ⟨rfl, fun stage hstage => by simp [step, hnone] at hstage⟩
  | cancel => exact ⟨rfl, fun stage hstage => by simp [step, hnone] at hstage⟩
  | hangUp =>
      refine ⟨rfl, fun stage hstage => ?_⟩
      rw [step] at hstage
      split at hstage <;> simp [hnone] at hstage

structure Pursued (settings : Settings) (line : Line) (call : Nat) (dials : List Bool) : Prop where
  absent : line.calls[call]? = none → dials = []
  present : ∀ stage, line.calls[call]? = some stage → stage.Reached settings dials

private theorem Pursued.step {settings : Settings}
    (bounded : settings.initialBackoff ≤ Span.longest)
    {line : Line} {call : Nat} {dials : List Bool} (h : Pursued settings line call dials)
    (event : Event) :
    Pursued settings (line.step settings event) call
      (dials ++ (line.dial? call event).toList) := by
  cases hstage : line.calls[call]? with
  | none =>
      -- Only the admission of this very call can bring it about, and it has not dialed then.
      obtain ⟨hdial, hadmitted⟩ := admission_of_step settings hstage event
      rw [hdial, Option.toList_none, List.append_nil, h.absent hstage]
      refine ⟨fun _ => rfl, fun stage hafter => ?_⟩
      rw [hadmitted stage hafter]
      exact Stage.reached_first bounded
  | some stage =>
      have hreached := h.present stage hstage
      rcases stage_of_step settings hstage event with
        ⟨hdial, hafter⟩ | ⟨reachable, now, hdial, hafter⟩
      · rw [hdial, Option.toList_none, List.append_nil]
        exact ⟨by simp [hafter], by simpa [hafter] using hreached⟩
      · rw [hdial]
        exact ⟨by simp [hafter], by simpa [hafter] using hreached.next _⟩

theorem pursued_run {settings : Settings} (bounded : settings.initialBackoff ≤ Span.longest)
    (created : Instant) (call : Nat) (events : List Event) :
    Pursued settings ((Connector.create created).line.run settings events) call
      (dials settings call (Connector.create created).line events) := by
  induction events using List.reverseRecOn with
  | nil => exact ⟨fun _ => rfl, by simp [Connector.create, run]⟩
  | append_singleton events event ih =>
      rw [run_concat, dials_concat]
      exact ih.step bounded event

private theorem Pursued.outcomes {settings : Settings} {line : Line} {call : Nat}
    {dials : List Bool} (h : Pursued settings line call dials) :
    dials.length ≤ max 1 settings.maxDialAttempts ∧
      ∀ outcome ∈ dials.dropLast, outcome = false := by
  cases hstage : line.calls[call]? with
  | none => simp [h.absent hstage]
  | some stage =>
      cases h.present stage hstage with
      | trying schedule current course limit room failed =>
          subst failed
          refine ⟨by simpa using Nat.le_of_lt room, fun outcome hmem => ?_⟩
          exact List.eq_of_mem_replicate ((List.dropLast_sublist _).subset hmem)
      | settled connected answered failures room outcomes =>
          subst outcomes
          refine ⟨by simpa using room, fun outcome hmem => ?_⟩
          cases connected with
          | false =>
              simp only [Bool.toNat_false, List.replicate_zero, List.append_nil] at hmem
              exact List.eq_of_mem_replicate ((List.dropLast_sublist _).subset hmem)
          | true =>
              simp only [Bool.toNat_true, List.replicate_one, List.dropLast_concat] at hmem
              exact List.eq_of_mem_replicate hmem

private theorem Pursued.of_schedule {settings : Settings} {line : Line} {call : Nat}
    {dials : List Bool}
    (h : Pursued settings line call dials) {stage : Stage} (hstage : line.calls[call]? = some stage)
    {schedule : Backoff} (current : stage.schedule? = some schedule) :
    dials = List.replicate schedule.failures false ∧
      schedule.OnCourse settings.initialBackoff ∧
      schedule.maxAttempts = settings.maxDialAttempts := by
  cases h.present stage hstage with
  | trying other found course limit room failed =>
      rw [found] at current
      cases current
      exact ⟨failed, course, limit⟩
  | settled connected answered failures room outcomes =>
      cases stage <;> simp [Stage.answer?, Stage.schedule?] at answered current

private theorem Pursued.of_answer {settings : Settings} {line : Line} {call : Nat}
    {dials : List Bool}
    (h : Pursued settings line call dials) {stage : Stage} (hstage : line.calls[call]? = some stage)
    {connected : Bool} (answered : stage.answer? = some connected) :
    connected = true ↔ true ∈ dials := by
  cases h.present stage hstage with
  | trying schedule current course limit room failed =>
      cases stage <;> simp [Stage.answer?, Stage.schedule?] at answered current
  | settled other found failures room outcomes =>
      rw [found] at answered
      cases answered
      cases connected <;> simp [outcomes]

private theorem dials_of_answered (settings : Settings) {line : Line} {call : Nat} {stage : Stage}
    {connected : Bool} (hstage : line.calls[call]? = some stage)
    (answered : stage.answer? = some connected) (later : List Event) :
    dials settings call line later = [] := by
  induction later generalizing line stage with
  | nil => rfl
  | cons event later ih =>
      rcases stage_of_step settings hstage event with
        ⟨hdial, hafter⟩ | ⟨reachable, now, hdial, hafter⟩
      · rw [dials, hdial, ih hafter answered]
        rfl
      · obtain ⟨hanswer, hnone⟩ := Stage.answer?_next answered ⟨line.cancelled, reachable, now⟩
        rw [dials, hdial, hnone, ih hafter hanswer]
        rfl

private theorem cancelled_step (settings : Settings) {line : Line} (h : line.cancelled = true)
    (event : Event) : (line.step settings event).cancelled = true := by
  cases event with
  | request =>
      rcases line.request_eq settings with hrejected | ⟨-, -, hadmitted⟩
      · rw [step, hrejected, h]
      · rw [step, hadmitted, h]
  | proceed other reachable now =>
      rw [step, proceed]
      split <;> exact h
  | pass span => exact h
  | cancel => rfl
  | hangUp =>
      rw [step]
      split <;> exact h

private theorem dials_of_cancelled (settings : Settings) {line : Line} (h : line.cancelled = true)
    (call : Nat) (later : List Event) :
    (dials settings call line later).length ≤ (line.calls[call]?.any (·.isDialing)).toNat := by
  induction later generalizing line with
  | nil => simp [dials]
  | cons event later ih =>
      have hlater := ih (cancelled_step settings h event)
      rw [dials, List.length_append]
      cases hstage : line.calls[call]? with
      | none =>
          obtain ⟨hdial, hadmitted⟩ := admission_of_step settings hstage event
          have hquiet : (line.step settings event).calls[call]?.any (·.isDialing) = false := by
            cases hafter : (line.step settings event).calls[call]? with
            | none => rfl
            | some stage =>
                rw [hadmitted stage hafter]
                rfl
          rw [hquiet] at hlater
          simpa [hdial] using hlater
      | some stage =>
          rcases stage_of_step settings hstage event with
            ⟨hdial, hafter⟩ | ⟨reachable, now, hdial, hafter⟩
          · rw [hafter] at hlater
            simpa [hdial] using hlater
          · have hstep := Stage.dial?_of_cancelled ⟨line.cancelled, reachable, now⟩ h stage
            rw [hafter, Option.any_some] at hlater
            rw [hdial, Option.any_some]
            omega

end Line

/-! ## Calls of a connector -/

namespace Connector

/--
Dialing is bounded and backs off exactly, in each reconnect of a connector and however
its steps are interleaved with anything else.  No call dials more often than it has
attempts, or once if it has none, and only its last dial can succeed.  A dial that
succeeds is followed by the answer `true` at once.  One that fails is followed by the
delay of its number if there are attempts left, and else the call gives up: it ends
disconnected.  A call that has its answer never dials again, and from a cancellation on
no dial is started.  The delays are those of doubling seconds and nanoseconds with
saturation, and a schedule that has answered with no delay never answers with one again.
-/
theorem dials_bounded_and_backed_off (settings : Settings)
    (bounded : settings.initialBackoff ≤ Span.longest) (created : Instant) (events : List Event)
    (call : Nat) :
    let line := (create created).line.run settings events
    let dials := Line.dials settings call (create created).line events
    let delay := Backoff.delay settings.initialBackoff
    (dials.length ≤ max 1 settings.maxDialAttempts ∧
      ∀ outcome ∈ dials.dropLast, outcome = false) ∧
    (∀ schedule reachable now, line.calls[call]? = some (.dialing schedule) →
      let stage? := (line.proceed call reachable now).calls[call]?
      (∀ outcome ∈ dials, outcome = false) ∧
      (reachable = true → stage? = some (.reporting true)) ∧
      (reachable = false → dials.length + 1 < settings.maxDialAttempts →
        ∃ next, stage? = some (.waiting next (delay (dials.length + 1)))) ∧
      (reachable = false → settings.maxDialAttempts ≤ dials.length + 1 →
        stage? = some (.reporting false))) ∧
    (∀ connected, line.calls[call]? = some (.reporting connected) → ∀ reachable now,
      let after := line.proceed call reachable now
      after.calls[call]? = some (.done connected) ∧
        after.session.phase = if connected then .connected else .disconnected) ∧
    (∀ connected, line.calls[call]?.bind Stage.answer? = some connected →
      (connected = true ↔ true ∈ dials) ∧
        ∀ later, Line.dials settings call line later = []) ∧
    (line.cancelled = true → ∀ later,
      (Line.dials settings call line later).length ≤
        (line.calls[call]?.any (·.isDialing)).toNat) ∧
    (∀ failures,
      (delay (failures + 1)).parts = Span.doubleParts^[failures] settings.initialBackoff.parts) ∧
    (∀ failures,
      (Backoff.run ⟨settings.initialBackoff, settings.maxDialAttempts, 0⟩ failures).map Prod.fst =
        (List.range' 1 failures).map fun failure =>
          if failure < settings.maxDialAttempts then some (delay failure) else none) := by
  intro line dials delay
  have hpursued : Line.Pursued settings line call dials :=
    Line.pursued_run bounded created call events
  refine ⟨hpursued.outcomes, ?_, ?_, ?_, ?_, Backoff.parts_delay bounded, ?_⟩
  · intro schedule reachable now hstage stage?
    have hnext : stage? = some ((Stage.dialing schedule).next ⟨line.cancelled, reachable, now⟩) :=
      Line.stage_of_proceed hstage reachable now
    obtain ⟨hdials, hcourse, hlimit⟩ := hpursued.of_schedule hstage rfl
    have hlength : dials.length = schedule.failures := by rw [hdials, List.length_replicate]
    rw [hnext, hlength, ← hlimit]
    refine ⟨by simp [hdials], ?_, ?_, ?_⟩
    · exact fun hreachable => by rw [Stage.next_dialing_of_reachable hreachable]
    · exact fun hreachable hroom =>
        ⟨_, by rw [Stage.next_dialing_of_room hcourse hreachable hroom]⟩
    · exact fun hreachable hspent => by
        rw [Stage.next_dialing_of_spent hcourse hreachable hspent]
  · intro connected hstage reachable now after
    refine ⟨Line.stage_of_proceed hstage reachable now, ?_⟩
    simp only [after, Line.proceed, hstage]
    cases connected <;> rfl
  · intro connected hanswer
    obtain ⟨stage, hstage, hanswer⟩ := Option.bind_eq_some_iff.mp hanswer
    refine ⟨hpursued.of_answer hstage hanswer, Line.dials_of_answered settings hstage hanswer⟩
  · exact fun hcancelled => Line.dials_of_cancelled settings hcancelled call
  · exact Backoff.answers_run (Backoff.onCourse_first bounded settings.maxDialAttempts)

def patience : Settings := { maxDialAttempts := 3 }

def unanswered : List Event := .request :: List.replicate 6 (.proceed 0 false .epoch)

theorem second_delay_of_unanswered :
    patience.initialBackoff ≤ Span.longest ∧
      Line.dials patience 0 (create .epoch).line unanswered = [false] ∧
      ∃ next, (((create .epoch).line.run patience unanswered).proceed 0 false .epoch).calls[0]? =
        some (.waiting next (Span.ofSeconds 2)) := by
  have hbounded : patience.initialBackoff ≤ Span.longest := by decide +kernel
  have hdials : Line.dials patience 0 (create .epoch).line unanswered = [false] := by
    decide +kernel
  have hstage : ((create .epoch).line.run patience unanswered).calls[0]? =
      some (.dialing ⟨Span.ofSeconds 2, 3, 1⟩) := by
    decide +kernel
  obtain ⟨-, hdialing, -⟩ :=
    dials_bounded_and_backed_off patience hbounded .epoch unanswered 0
  obtain ⟨-, -, hdelayed, -⟩ := hdialing _ false .epoch hstage
  rw [hdials] at hdelayed
  exact ⟨hbounded, hdials, hdelayed rfl (by decide)⟩

end Connector

end IndexPrice.Feed.Stream
