import IndexPrice.Pricing.System
import IndexPrice.Proofs.List
import IndexPrice.Proofs.Pricing.Desk

/-!
# Conservation of price lists

A `Floor` is the stores and the desks together with the pass that is under way.
Sources offer samples, passes begin and look at one desk after another, services
take out what is in their mailboxes, and services leave, all in any order and
also between two looks of a pass.  However these moves are interleaved, the lists
taken out of a mailbox and the one still in it are the lists put in.
-/

namespace IndexPrice.Pricing

structure Floor where
  stores : Stores
  desks : List Desk
  /-- When the pass under way began, and the desk it looks at next. -/
  pass : Option (Instant × Nat) := none

inductive Move where
  | offer (source market : String) (sample : Sample)
  | begin (now : Instant)
  | look
  | drain (desk : Nat)
  | leave (desk : Nat)

inductive Delivery where
  | forwarded (desk : Nat) (tick : Tick)
  | drained (desk : Nat) (tick : Tick)

namespace Delivery

def forwardedTo (index : Nat) : Delivery → Option Tick
  | .forwarded desk tick => if desk = index then some tick else none
  | .drained _ _ => none

def drainedFrom (index : Nat) : Delivery → Option Tick
  | .forwarded _ _ => none
  | .drained desk tick => if desk = index then some tick else none

@[simp] theorem forwardedTo_drained (index desk : Nat) (tick : Tick) :
    forwardedTo index (.drained desk tick) = none := rfl

@[simp] theorem drainedFrom_forwarded (index desk : Nat) (tick : Tick) :
    drainedFrom index (.forwarded desk tick) = none := rfl

@[simp] theorem forwardedTo_self (index : Nat) (tick : Tick) :
    forwardedTo index (.forwarded index tick) = some tick := by
  simp [forwardedTo]

@[simp] theorem drainedFrom_self (index : Nat) (tick : Tick) :
    drainedFrom index (.drained index tick) = some tick := by
  simp [drainedFrom]

private theorem forwardedTo_ne {index desk : Nat} (h : desk ≠ index) (tick : Tick) :
    forwardedTo index (.forwarded desk tick) = none := by
  simp [forwardedTo, h]

private theorem drainedFrom_ne {index desk : Nat} (h : desk ≠ index) (tick : Tick) :
    drainedFrom index (.drained desk tick) = none := by
  simp [drainedFrom, h]

end Delivery

namespace Floor

/-- Floors open with new mailboxes. -/
def opening (stores : Stores) (desks : List Desk) : Floor where
  stores := stores
  desks := desks.map fun desk => { desk with mailbox := {} }

def offer (floor : Floor) (source market : String) (sample : Sample) : Floor :=
  match floor.stores.get? source with
  | none => floor
  | some store =>
    { floor with stores := floor.stores.insert source (store.offer market sample).2 }

def begin (floor : Floor) (now : Instant) : Floor :=
  match floor.pass with
  | none => { floor with pass := some (now, 0) }
  | some _ => floor

def look (floor : Floor) : List Delivery × Floor :=
  match floor.pass with
  | none => ([], floor)
  | some (begun, next) =>
    match floor.desks[next]? with
    | none => ([], { floor with pass := none })
    | some desk =>
      match desk.forward floor.stores begun with
      | .error _ => ([], { floor with pass := none })
      | .ok (forwarded, after) =>
        (if forwarded then [.forwarded next (desk.freshPrices floor.stores begun)] else [],
          { floor with desks := floor.desks.set next after, pass := some (begun, next + 1) })

def drain (floor : Floor) (index : Nat) : List Delivery × Floor :=
  match floor.desks[index]? with
  | none => ([], floor)
  | some desk =>
    let (tick, after) := desk.drain
    (tick.toList.map (.drained index), { floor with desks := floor.desks.set index after })

def leave (floor : Floor) (index : Nat) : Floor :=
  match floor.desks[index]? with
  | none => floor
  | some desk => { floor with desks := floor.desks.set index desk.stop }

def step (floor : Floor) : Move → List Delivery × Floor
  | .offer source market sample => ([], floor.offer source market sample)
  | .begin now => ([], floor.begin now)
  | .look => floor.look
  | .drain index => floor.drain index
  | .leave index => ([], floor.leave index)

def run (floor : Floor) : List Move → List Delivery × Floor
  | [] => ([], floor)
  | move :: moves =>
    let (deliveries, after) := floor.step move
    let (later, final) := after.run moves
    (deliveries ++ later, final)

@[simp] theorem run_nil (floor : Floor) : floor.run [] = ([], floor) := rfl

theorem run_cons (floor : Floor) (move : Move) (moves : List Move) :
    floor.run (move :: moves) =
      ((floor.step move).1 ++ ((floor.step move).2.run moves).1,
        ((floor.step move).2.run moves).2) := rfl

theorem run_append (floor : Floor) (earlier later : List Move) :
    floor.run (earlier ++ later) =
      ((floor.run earlier).1 ++ ((floor.run earlier).2.run later).1,
        ((floor.run earlier).2.run later).2) := by
  induction earlier generalizing floor with
  | nil => simp
  | cons move earlier ih => simp [run_cons, ih]

theorem run_concat (floor : Floor) (moves : List Move) (move : Move) :
    floor.run (moves ++ [move]) =
      ((floor.run moves).1 ++ ((floor.run moves).2.step move).1,
        ((floor.run moves).2.step move).2) := by
  simp [run_append, run_cons]

/-! ## What a move can do -/

inductive Effect (floor : Floor) : Move → List Delivery → Floor → Prop
  | aside (move : Move) (after : Floor) (desks : after.desks = floor.desks) :
      Effect floor move [] after
  | posted (begun : Instant) (index : Nat) (desk : Desk) (after : Floor)
      (turn : floor.pass = some (begun, index)) (present : floor.desks[index]? = some desk)
      (fresh : desk.freshPrices floor.stores begun ≠ [])
      (opened : desk.mailbox.closed = false) (emptied : desk.mailbox.content = none)
      (desks : after.desks = floor.desks.set index
        { desk with mailbox := ⟨some (desk.freshPrices floor.stores begun), false⟩ }) :
      Effect floor .look [.forwarded index (desk.freshPrices floor.stores begun)] after
  | taken (index : Nat) (desk : Desk) (tick : Tick) (after : Floor)
      (present : floor.desks[index]? = some desk) (full : desk.mailbox.content = some tick)
      (desks : after.desks = floor.desks.set index
        { desk with mailbox := ⟨none, desk.mailbox.closed⟩ }) :
      Effect floor (.drain index) [.drained index tick] after
  | left (index : Nat) (desk : Desk) (after : Floor)
      (present : floor.desks[index]? = some desk)
      (desks : after.desks = floor.desks.set index desk.stop) :
      Effect floor (.leave index) [] after

private theorem effect_of_look (floor : Floor) : Effect floor .look floor.look.1 floor.look.2 := by
  unfold look
  cases hpass : floor.pass with
  | none => exact .aside _ _ rfl
  | some turn =>
      obtain ⟨begun, next⟩ := turn
      dsimp only
      cases hdesk : floor.desks[next]? with
      | none => exact .aside _ _ rfl
      | some desk =>
          dsimp only
          cases hforward : desk.forward floor.stores begun with
          | error fault => exact .aside _ _ rfl
          | ok outcome =>
              obtain ⟨forwarded, after⟩ := outcome
              cases Desk.forwarding_of_forward hforward with
              | nothing stale => exact .aside _ _ (set_of_getElem? hdesk)
              | posted fresh opened emptied =>
                  exact .posted begun next desk _ hpass hdesk fresh opened emptied rfl

private theorem effect_of_drain (floor : Floor) (index : Nat) :
    Effect floor (.drain index) (floor.drain index).1 (floor.drain index).2 := by
  unfold drain
  cases hdesk : floor.desks[index]? with
  | none => exact .aside _ _ rfl
  | some desk =>
      cases hcontent : desk.mailbox.content with
      | none =>
          simp only [Desk.drain_of_empty hcontent]
          exact .aside _ _ (set_of_getElem? hdesk)
      | some tick =>
          simp only [Desk.drain, Mailbox.take, hcontent]
          exact .taken index desk tick _ hdesk hcontent rfl

theorem effect_of_step (floor : Floor) (move : Move) :
    Effect floor move (floor.step move).1 (floor.step move).2 := by
  cases move with
  | offer source market sample =>
      apply Effect.aside
      unfold step offer
      dsimp only
      split <;> rfl
  | begin now =>
      apply Effect.aside
      unfold step begin
      dsimp only
      split <;> rfl
  | look => exact effect_of_look floor
  | drain index => exact effect_of_drain floor index
  | leave index =>
      simp only [step, leave]
      cases hdesk : floor.desks[index]? with
      | none => exact .aside _ _ rfl
      | some desk => exact .left index desk _ hdesk rfl

theorem forwarded_mem_step_iff (floor : Floor) (move : Move) (index : Nat) (tick : Tick) :
    .forwarded index tick ∈ (floor.step move).1 ↔
      move = .look ∧ ∃ begun desk, floor.pass = some (begun, index) ∧
        floor.desks[index]? = some desk ∧ desk.freshPrices floor.stores begun = tick ∧
        tick ≠ [] ∧ desk.mailbox.closed = false ∧ desk.mailbox.content = none := by
  constructor
  · intro hmem
    have heffect := effect_of_step floor move
    generalize (floor.step move).1 = deliveries at heffect hmem
    generalize (floor.step move).2 = after at heffect
    cases heffect with
    | aside move after desks => simp at hmem
    | posted begun _ desk after turn present fresh opened emptied desks =>
        simp only [List.mem_singleton, Delivery.forwarded.injEq] at hmem
        obtain ⟨rfl, rfl⟩ := hmem
        exact ⟨rfl, begun, desk, turn, present, rfl, fresh, opened, emptied⟩
    | taken _ desk _ after present full desks => simp at hmem
    | left _ desk after present desks => simp at hmem
  · rintro ⟨rfl, begun, desk, hpass, hdesk, rfl, hfresh, hopened, hemptied⟩
    have hforward : desk.forward floor.stores begun = .ok (true,
        { desk with mailbox := ⟨some (desk.freshPrices floor.stores begun), false⟩ }) := by
      simp [Desk.forward, Desk.post, Mailbox.post, Except.map, hfresh, hopened, hemptied]
    simp [step, look, hpass, hdesk, hforward]

/-! ## Conservation -/

/--
What the deliveries so far say of the open mailboxes: nothing is lost, doubled or
reordered, and an empty mailbox has been emptied since something was put into it.
-/
structure Balanced (floor : Floor) (log : List Delivery) : Prop where
  kept : ∀ index desk, floor.desks[index]? = some desk → desk.mailbox.closed = false →
    log.filterMap (Delivery.drainedFrom index) ++ desk.mailbox.content.toList =
      log.filterMap (Delivery.forwardedTo index)
  emptied : ∀ index desk, floor.desks[index]? = some desk → desk.mailbox.closed = false →
    desk.mailbox.content = none → ∀ earlier tick later,
      log = earlier ++ .forwarded index tick :: later → ∃ taken, .drained index taken ∈ later

private theorem Balanced.step {floor after : Floor} {log deliveries : List Delivery} {move : Move}
    (h : floor.Balanced log) (heffect : Effect floor move deliveries after) :
    after.Balanced (log ++ deliveries) := by
  cases heffect with
  | aside move after desks =>
      rw [List.append_nil]
      exact ⟨fun index desk => desks ▸ h.kept index desk,
        fun index desk => desks ▸ h.emptied index desk⟩
  | posted begun posting desk after turn present fresh opened emptied desks =>
      constructor
      · intro index other hother hopened
        rw [desks] at hother
        rcases eq_or_getElem?_of_set hother with ⟨rfl, rfl⟩ | ⟨hne, hother⟩
        · have hkept := h.kept _ _ present opened
          simp only [emptied, Option.toList_none, List.append_nil] at hkept
          simp [hkept]
        · have hkept := h.kept _ _ hother hopened
          simpa [List.filterMap_cons, Delivery.forwardedTo_ne hne] using hkept
      · intro index other hother hopened hemptied earlier tick later hlog
        rw [desks] at hother
        rcases eq_or_getElem?_of_set hother with ⟨rfl, rfl⟩ | ⟨hne, hother⟩
        · cases hemptied
        · rcases eq_concat_of_concat_eq hlog with ⟨-, hitem, -⟩ | ⟨shorter, rfl, hshorter⟩
          · cases hitem
            exact absurd rfl hne
          · obtain ⟨taken, hmem⟩ := h.emptied _ _ hother hopened hemptied _ _ _ hshorter
            exact ⟨taken, List.mem_append_left _ hmem⟩
  | taken taking desk tick after present full desks =>
      constructor
      · intro index other hother hopened
        rw [desks] at hother
        rcases eq_or_getElem?_of_set hother with ⟨rfl, rfl⟩ | ⟨hne, hother⟩
        · have hkept := h.kept _ _ present hopened
          simpa [List.filterMap_cons, full] using hkept
        · have hkept := h.kept _ _ hother hopened
          simpa [List.filterMap_cons, Delivery.drainedFrom_ne hne] using hkept
      · intro index other hother hopened hemptied earlier put later hlog
        rw [desks] at hother
        rcases eq_concat_of_concat_eq hlog with ⟨-, hitem, -⟩ | ⟨shorter, rfl, hshorter⟩
        · cases hitem
        · rcases eq_or_getElem?_of_set hother with ⟨rfl, rfl⟩ | ⟨hne, hother⟩
          · exact ⟨tick, by simp⟩
          · obtain ⟨taken, hmem⟩ := h.emptied _ _ hother hopened hemptied _ _ _ hshorter
            exact ⟨taken, List.mem_append_left _ hmem⟩
  | left leaving desk after present desks =>
      rw [List.append_nil]
      -- the mailbox of a desk that is left is closed, and no other changes
      have hother : ∀ (index : Nat) (other : Desk), after.desks[index]? = some other →
          other.mailbox.closed = false → floor.desks[index]? = some other := by
        intro index other hother hopened
        rw [desks] at hother
        rcases eq_or_getElem?_of_set hother with ⟨-, rfl⟩ | ⟨-, hother⟩
        · cases hopened
        · exact hother
      exact ⟨fun index other hget hopened => h.kept _ _ (hother _ _ hget hopened) hopened,
        fun index other hget hopened => h.emptied _ _ (hother _ _ hget hopened) hopened⟩

private theorem balanced_opening (stores : Stores) (desks : List Desk) :
    (opening stores desks).Balanced [] := by
  constructor
  · intro index desk hdesk hopened
    obtain ⟨original, -, rfl⟩ := by simpa [opening] using hdesk
    rfl
  · intro index desk hdesk hopened hemptied earlier tick later hlog
    simp at hlog

theorem balanced_run (stores : Stores) (desks : List Desk) (moves : List Move) :
    ((opening stores desks).run moves).2.Balanced ((opening stores desks).run moves).1 := by
  induction moves using List.reverseRecOn with
  | nil => exact balanced_opening stores desks
  | append_singleton moves move ih =>
      rw [run_concat]
      exact ih.step (effect_of_step _ move)

private theorem drained_between (stores : Stores) (desks : List Desk) (moves : List Move)
    {index : Nat} {first second : Tick} {earlier between later : List Delivery}
    (hlog : ((opening stores desks).run moves).1 =
      earlier ++ .forwarded index first :: (between ++ .forwarded index second :: later)) :
    ∃ taken, .drained index taken ∈ between := by
  induction moves using List.reverseRecOn generalizing later with
  | nil => simp at hlog
  | append_singleton moves move ih =>
      have hbalanced := balanced_run stores desks moves
      rw [run_concat] at hlog
      generalize ((opening stores desks).run moves).2 = floor at hbalanced hlog
      generalize ((opening stores desks).run moves).1 = log at hbalanced hlog ih
      have heffect := effect_of_step floor move
      generalize (floor.step move).1 = deliveries at heffect hlog
      generalize (floor.step move).2 = after at heffect
      have hgrouped : log ++ deliveries =
          (earlier ++ .forwarded index first :: between) ++ .forwarded index second :: later := by
        simpa using hlog
      cases heffect with
      | aside move after desks => exact ih (by simpa using hlog)
      | left leaving desk after present desks => exact ih (by simpa using hlog)
      | taken taking desk tick after present full desks =>
          rcases eq_concat_of_concat_eq hgrouped with ⟨-, hitem, -⟩ | ⟨shorter, rfl, hshorter⟩
          · cases hitem
          · exact ih (by simpa using hshorter)
      | posted begun posting desk after turn present fresh opened emptied desks =>
          rcases eq_concat_of_concat_eq hgrouped with ⟨-, hitem, hbefore⟩ | ⟨shorter, rfl, hshorter⟩
          · cases hitem
            exact hbalanced.emptied _ _ present opened emptied _ _ _ hbefore
          · exact ih (by simpa using hshorter)

/-! ## Passes of the sampling task -/

def ofSystem (system : System) : Floor where
  stores := system.stores
  desks := system.desks
  pass :=
    match system.sampler with
    | .passing begun next => some (begun, next)
    | _ => none

/-- A step of the sampling task is a move of a pass, if it does anything at the desks. -/
theorem ofSystem_sample (system : System) (now : Instant) :
    ∃ moves, moves.Sublist [.begin now, .look] ∧
      ((ofSystem system).run moves).2 = ofSystem (system.sample now) := by
  unfold System.sample
  cases hsampler : system.sampler with
  | stopped fault => exact ⟨[], by simp, rfl⟩
  | unscheduled => exact ⟨[], by simp, rfl⟩
  | idle =>
      dsimp only
      split
      · exact ⟨[], by simp, by simp [ofSystem, hsampler]⟩
      · exact ⟨[.begin now], by simp, by simp [run_cons, step, begin, ofSystem, hsampler]⟩
  | passing begun next =>
      refine ⟨[.look], by simp, ?_⟩
      cases hdesk : system.desks[next]? with
      | none => simp [run_cons, step, look, ofSystem, hsampler, hdesk]
      | some desk =>
          cases hforward : desk.forward system.stores begun with
          | error fault => simp [run_cons, step, look, ofSystem, hsampler, hdesk, hforward]
          | ok outcome => simp [run_cons, step, look, ofSystem, hsampler, hdesk, hforward]

/-! ## Uninterrupted passes -/

private theorem run_ended (stores : Stores) (desks : List Desk) (times : Nat) :
    run ⟨stores, desks, none⟩ (List.replicate times .look) = ([], ⟨stores, desks, none⟩) := by
  induction times with
  | zero => rfl
  | succ times ih =>
      rw [List.replicate_succ, run_cons]
      simp [step, look, ih]

/-- Looking at the desks from some place on, with nothing in between, is a pass over the rest. -/
private theorem looks_eq_sampleOnce (stores : Stores) (begun : Instant) (done rest : List Desk) :
    ∃ deliveries, run ⟨stores, done ++ rest, some (begun, done.length)⟩
        (List.replicate (rest.length + 1) .look) =
          (deliveries, ⟨stores, done ++ (Desk.sampleOnce stores begun rest).2, none⟩) ∧
      ∀ count, (Desk.sampleOnce stores begun rest).1 = .ok count → deliveries.length = count := by
  induction rest generalizing done with
  | nil =>
      refine ⟨[], ?_, ?_⟩
      · simp [run_cons, step, look, Desk.sampleOnce]
      · intro count hcount
        simpa [Desk.sampleOnce] using hcount
  | cons desk rest ih =>
      have hdesk : (done ++ desk :: rest)[done.length]? = some desk := by simp
      rw [List.length_cons, List.replicate_succ, run_cons]
      simp only [step, look, hdesk, Desk.sampleOnce]
      cases hforward : desk.forward stores begun with
      | error fault =>
          refine ⟨[], ?_, by simp⟩
          dsimp only
          rw [run_ended]
          simp
      | ok outcome =>
          obtain ⟨forwarded, after⟩ := outcome
          obtain ⟨deliveries, hrun, hcount⟩ := ih (done ++ [after])
          dsimp only
          have hset : (done ++ desk :: rest).set done.length after = (done ++ [after]) ++ rest := by
            simp
          have hlength : done.length + 1 = (done ++ [after]).length := by simp
          rw [hset, hlength, hrun]
          refine ⟨_ ++ deliveries, by rw [List.append_assoc, List.singleton_append], ?_⟩
          intro count hok
          cases hrest : (Desk.sampleOnce stores begun rest).1 with
          | error fault =>
              rw [hrest] at hok
              cases hok
          | ok reached =>
              rw [hrest] at hok
              cases hok
              rw [List.length_append, hcount reached hrest]
              cases forwarded
              · simp
              · simp [Nat.add_comm]

/--
Between the passes and the services no list is lost, doubled or reordered.  After
any moves, the lists drained from an open mailbox and the one still in it are the
lists forwarded to it.  A pass forwards to a desk exactly if it looks at it, finds
fresh prices for it and its mailbox open and empty; so between two lists forwarded
to one desk, one is drained.  A pass that nothing interrupts does what
`Desk.sampleOnce` says.
-/
theorem deliveries_conserved (stores : Stores) (desks : List Desk) (moves : List Move) :
    let log := ((opening stores desks).run moves).1
    let floor := ((opening stores desks).run moves).2
    (∀ index desk, floor.desks[index]? = some desk → desk.mailbox.closed = false →
      log.filterMap (Delivery.drainedFrom index) ++ desk.mailbox.content.toList =
        log.filterMap (Delivery.forwardedTo index)) ∧
    (∀ move index tick, .forwarded index tick ∈ (floor.step move).1 ↔
      move = .look ∧ ∃ begun desk, floor.pass = some (begun, index) ∧
        floor.desks[index]? = some desk ∧ desk.freshPrices floor.stores begun = tick ∧
        tick ≠ [] ∧ desk.mailbox.closed = false ∧ desk.mailbox.content = none) ∧
    (∀ index first second earlier between later,
      log = earlier ++ .forwarded index first :: (between ++ .forwarded index second :: later) →
        ∃ taken, .drained index taken ∈ between) ∧
    (∀ now, floor.pass = none →
      ∃ deliveries, floor.run (.begin now :: List.replicate (floor.desks.length + 1) .look) =
          (deliveries,
            { floor with desks := (Desk.sampleOnce floor.stores now floor.desks).2 }) ∧
        ∀ count, (Desk.sampleOnce floor.stores now floor.desks).1 = .ok count →
          deliveries.length = count) := by
  intro log floor
  refine ⟨(balanced_run stores desks moves).kept, forwarded_mem_step_iff floor,
    fun index first second earlier between later => drained_between stores desks moves, ?_⟩
  intro now hpass
  obtain ⟨deliveries, hrun, hcount⟩ := looks_eq_sampleOnce floor.stores now [] floor.desks
  refine ⟨deliveries, ?_, hcount⟩
  have hbegin : floor.step (.begin now) = ([], ⟨floor.stores, floor.desks, some (now, 0)⟩) := by
    simp only [step, begin, hpass]
  rw [run_cons, hbegin]
  simp only [List.nil_append, List.length_nil] at hrun ⊢
  rw [hrun, hpass]

end Floor

end IndexPrice.Pricing
