import IndexPrice.Proofs.Consensus.Combination
import Mathlib.Data.List.DropRight

/-!
# Histories of verdicts

What the consensus rule remembers of a market is determined by the verdicts so
far: the price accepted last and the number of jumps rejected since then.  The
length of such a run is bounded, so a market that keeps getting composite prices
is never silent for more than eleven of them.
-/

namespace IndexPrice

variable {α : Type}

/-! ## Reading verdicts -/

namespace Verdict

def accepted? : Verdict α → Option α
  | .ok accepted => some accepted.price
  | .error _ => none

/-- The composite price of the tick, be it accepted or rejected as a jump. -/
def composite? : Verdict α → Option α
  | .ok accepted => some accepted.price
  | .error (.priceJump _ candidate _) => some candidate
  | .error _ => none

def isForced : Verdict α → Bool
  | .ok accepted => accepted.forced
  | .error _ => false

def isJump : Verdict α → Bool
  | .error (.priceJump _ _ _) => true
  | _ => false

private theorem composite?_isSome (verdict : Verdict α) :
    verdict.composite?.isSome = (verdict.accepted?.isSome || verdict.isJump) := by
  match verdict with
  | .ok _ => rfl
  | .error (.inconsistent _) => rfl
  | .error .noUsableData => rfl
  | .error (.priceJump _ _ _) => rfl

private theorem accepted?_eq_none_of_composite? {verdict : Verdict α}
    (h : verdict.composite? = none) : verdict.accepted? = none := by
  have hsome := verdict.composite?_isSome
  simp only [h, Option.isSome_none] at hsome
  cases haccepted : verdict.accepted? with
  | none => rfl
  | some price => simp [haccepted] at hsome

def lastAccepted? (verdicts : List (Verdict α)) : Option α :=
  (verdicts.filterMap accepted?).getLast?

/-- The jumps rejected since the last acceptance. -/
def jumpsSinceAccepted (verdicts : List (Verdict α)) : Nat :=
  (verdicts.rtakeWhile fun verdict => verdict.accepted?.isNone).countP isJump

@[simp] theorem lastAccepted?_nil : lastAccepted? ([] : List (Verdict α)) = none := rfl

@[simp] theorem jumpsSinceAccepted_nil : jumpsSinceAccepted ([] : List (Verdict α)) = 0 := rfl

@[simp] theorem lastAccepted?_concat_ok (verdicts : List (Verdict α)) (accepted : Accepted α) :
    lastAccepted? (verdicts ++ [.ok accepted]) = some accepted.price := by
  simp [lastAccepted?, accepted?]

@[simp] theorem lastAccepted?_concat_error (verdicts : List (Verdict α))
    (rejection : Rejection α) :
    lastAccepted? (verdicts ++ [.error rejection]) = lastAccepted? verdicts := by
  simp [lastAccepted?, accepted?]

@[simp] theorem jumpsSinceAccepted_concat_ok (verdicts : List (Verdict α))
    (accepted : Accepted α) : jumpsSinceAccepted (verdicts ++ [.ok accepted]) = 0 := by
  rw [jumpsSinceAccepted, List.rtakeWhile_concat_neg _ _ _ (by simp [accepted?])]
  rfl

@[simp] theorem jumpsSinceAccepted_concat_error (verdicts : List (Verdict α))
    (rejection : Rejection α) :
    jumpsSinceAccepted (verdicts ++ [.error rejection]) =
      jumpsSinceAccepted verdicts + (isJump (.error rejection)).toNat := by
  rw [jumpsSinceAccepted, List.rtakeWhile_concat_pos _ _ _ (by simp [accepted?])]
  cases h : isJump (.error rejection) <;> simp [jumpsSinceAccepted, h]

theorem lastAccepted?_eq_none_iff (verdicts : List (Verdict α)) :
    lastAccepted? verdicts = none ↔ ∀ verdict ∈ verdicts, verdict.accepted? = none := by
  simp [lastAccepted?]

end Verdict

/-! ## What a tick can do -/

namespace Consensus

variable [PriceArithmetic α]

inductive Ruling (state : Consensus α) (tick : List α) : Verdict α → Consensus α → Prop
  | withheld (rejection : Rejection α)
      (nothing : combine state.lastAccepted tick = .error rejection)
      (notJump : Verdict.isJump (.error rejection) = false) :
      Ruling state tick (.error rejection) state
  | agreed (price : α) (sources : Nat)
      (composite : combine state.lastAccepted tick = .ok (price, sources))
      (within : state.withinJump price = true) :
      Ruling state tick (.ok ⟨price, sources, false⟩) ⟨some price, 0⟩
  | forced (price : α) (sources : Nat)
      (composite : combine state.lastAccepted tick = .ok (price, sources))
      (beyond : state.withinJump price = false)
      (exhausted : maxRejectedRun < state.rejectedRun) :
      Ruling state tick (.ok ⟨price, sources, true⟩) ⟨some price, 0⟩
  | jumped (last price : α) (sources : Nat)
      (composite : combine state.lastAccepted tick = .ok (price, sources))
      (beyond : state.withinJump price = false)
      (bounded : state.rejectedRun ≤ maxRejectedRun) :
      Ruling state tick (.error (.priceJump last price (state.rejectedRun + 1)))
        { state with rejectedRun := state.rejectedRun + 1 }

private theorem not_jump_of_combine {previous : Option α} {tick : List α} {rejection : Rejection α}
    (h : combine previous tick = .error rejection) :
    Verdict.isJump (.error rejection) = false := by
  cases combination_of_combine h with
  | empty none => rfl
  | apart several disagreed => rfl
  | outside several agreed unusable => rfl

theorem ruling_of_evaluate {state next : Consensus α} {tick : List α} {verdict : Verdict α}
    (h : state.evaluate tick = (verdict, next)) : Ruling state tick verdict next := by
  cases hcombine : combine state.lastAccepted tick with
  | error rejection =>
      simp only [evaluate, hcombine, Prod.mk.injEq] at h
      obtain ⟨rfl, rfl⟩ := h
      exact .withheld rejection hcombine (not_jump_of_combine hcombine)
  | ok composite =>
      obtain ⟨price, sources⟩ := composite
      simp only [evaluate, hcombine, judge] at h
      cases hwithin : state.withinJump price with
      | true =>
          simp only [hwithin, Bool.true_or, if_true, Prod.mk.injEq] at h
          obtain ⟨rfl, rfl⟩ := h
          exact .agreed price sources hcombine hwithin
      | false =>
          by_cases hrun : maxRejectedRun < state.rejectedRun
          · simp only [hwithin, hrun] at h
            obtain ⟨rfl, rfl⟩ := h
            exact .forced price sources hcombine hwithin hrun
          · simp only [hwithin, hrun] at h
            obtain ⟨rfl, rfl⟩ := h
            exact .jumped _ price sources hcombine hwithin (Nat.not_lt.mp hrun)

theorem evaluate_ruling (state : Consensus α) (tick : List α) :
    Ruling state tick (state.evaluate tick).1 (state.evaluate tick).2 :=
  ruling_of_evaluate rfl

private theorem Ruling.unchanged {state next : Consensus α} {tick : List α} {verdict : Verdict α}
    (h : Ruling state tick verdict next) {rejection : Rejection α}
    (hverdict : verdict = .error rejection)
    (hnotJump : Verdict.isJump (.error rejection) = false) : next = state := by
  subst hverdict
  cases h with
  | withheld rejection nothing notJump => rfl
  | jumped last price sources composite beyond bounded => cases hnotJump

/-- The composite price that a verdict tells is the one that the tick combines to. -/
theorem composite?_of_ruling {state next : Consensus α} {tick : List α} {verdict : Verdict α}
    (h : Ruling state tick verdict next) :
    verdict.composite? = (combine state.lastAccepted tick).toOption.map Prod.fst := by
  cases h with
  | withheld rejection nothing notJump =>
      rw [nothing]
      cases rejection with
      | priceJump last candidate run => cases notJump
      | inconsistent middle => rfl
      | noUsableData => rfl
  | agreed price sources composite within => rw [composite]; rfl
  | forced price sources composite beyond exhausted => rw [composite]; rfl
  | jumped last price sources composite beyond bounded => rw [composite]; rfl

theorem combine_of_composite? {state next : Consensus α} {tick : List α} {verdict : Verdict α}
    (h : Ruling state tick verdict next) {price : α} (hprice : verdict.composite? = some price) :
    ∃ sources, combine state.lastAccepted tick = .ok (price, sources) := by
  rw [composite?_of_ruling h] at hprice
  cases hcombine : combine state.lastAccepted tick with
  | error rejection => simp [hcombine, Except.toOption] at hprice
  | ok composite =>
      obtain ⟨combined, sources⟩ := composite
      simp only [hcombine, Except.toOption, Option.map_some, Option.some.injEq] at hprice
      exact ⟨sources, by rw [hprice]⟩

theorem combine_of_accepted {state next : Consensus α} {tick : List α} {verdict : Verdict α}
    (h : Ruling state tick verdict next) {accepted : Accepted α} (hok : verdict = .ok accepted) :
    combine state.lastAccepted tick = .ok (accepted.price, accepted.sources) := by
  cases h with
  | withheld rejection nothing notJump => cases hok
  | agreed price sources composite within =>
      cases hok
      exact composite
  | forced price sources composite beyond exhausted =>
      cases hok
      exact composite
  | jumped last price sources composite beyond bounded => cases hok

/-! ## Runs -/

def after (state : Consensus α) (ticks : List (List α)) : Consensus α :=
  ticks.foldl (fun state tick => (state.evaluate tick).2) state

def verdicts (state : Consensus α) (ticks : List (List α)) : List (Verdict α) :=
  (state.run ticks).map Prod.fst

@[simp] theorem after_nil (state : Consensus α) : state.after [] = state := rfl

@[simp] theorem after_cons (state : Consensus α) (tick : List α) (ticks : List (List α)) :
    state.after (tick :: ticks) = (state.evaluate tick).2.after ticks := rfl

@[simp] theorem verdicts_nil (state : Consensus α) : state.verdicts [] = [] := rfl

@[simp] theorem verdicts_cons (state : Consensus α) (tick : List α) (ticks : List (List α)) :
    state.verdicts (tick :: ticks) =
      (state.evaluate tick).1 :: (state.evaluate tick).2.verdicts ticks := rfl

@[simp] theorem after_append (state : Consensus α) (past later : List (List α)) :
    state.after (past ++ later) = (state.after past).after later := by
  simp [after]

@[simp] theorem verdicts_append (state : Consensus α) (past later : List (List α)) :
    state.verdicts (past ++ later) = state.verdicts past ++ (state.after past).verdicts later := by
  induction past generalizing state with
  | nil => rfl
  | cons tick past ih => simp [ih]

/-- The state says what the verdicts of its market say, and no run is longer than eleven. -/
structure Reflects (state : Consensus α) (verdicts : List (Verdict α)) : Prop where
  last : state.lastAccepted = Verdict.lastAccepted? verdicts
  run : state.rejectedRun = Verdict.jumpsSinceAccepted verdicts
  bounded : state.rejectedRun ≤ maxRejectedRun + 1

private theorem Reflects.concat {state next : Consensus α} {verdicts : List (Verdict α)}
    {tick : List α} {verdict : Verdict α} (hstate : state.Reflects verdicts)
    (hruling : Ruling state tick verdict next) : next.Reflects (verdicts ++ [verdict]) := by
  obtain ⟨hlast, hrun, hbounded⟩ := hstate
  cases hruling with
  | withheld rejection nothing notJump =>
      exact ⟨by simpa using hlast, by simpa [notJump] using hrun, hbounded⟩
  | agreed price sources composite within => exact ⟨by simp, by simp, Nat.zero_le _⟩
  | forced price sources composite beyond exhausted => exact ⟨by simp, by simp, Nat.zero_le _⟩
  | jumped last price sources composite beyond bounded =>
      refine ⟨by simpa using hlast, ?_, Nat.succ_le_succ bounded⟩
      simp [Verdict.isJump, hrun]

private theorem after_reflects (ticks : List (List α)) :
    (({} : Consensus α).after ticks).Reflects (({} : Consensus α).verdicts ticks) := by
  induction ticks using List.reverseRecOn with
  | nil => exact ⟨rfl, rfl, Nat.zero_le _⟩
  | append_singleton ticks tick ih =>
      rw [after_append, verdicts_append]
      exact ih.concat (evaluate_ruling _ tick)

private theorem rejectedRun_after_of_none_accepted {state : Consensus α} {ticks : List (List α)}
    (h : ∀ verdict ∈ state.verdicts ticks, verdict.accepted? = none) :
    (state.after ticks).rejectedRun =
      state.rejectedRun + (state.verdicts ticks).countP Verdict.isJump := by
  induction ticks generalizing state with
  | nil => simp
  | cons tick ticks ih =>
      cases hstep : state.evaluate tick with
      | mk verdict next =>
          simp only [verdicts_cons, hstep, List.forall_mem_cons] at h
          rw [after_cons, verdicts_cons, hstep, ih h.2, List.countP_cons]
          cases ruling_of_evaluate hstep with
          | withheld rejection nothing notJump => simp [notJump]
          | agreed price sources composite within => cases h.1
          | forced price sources composite beyond exhausted => cases h.1
          | jumped last price sources composite beyond bounded =>
              simp only [Verdict.isJump, if_true]
              omega

private theorem accepted_of_composites {state : Consensus α} {window : List (List α)}
    (many : maxRejectedRun + 1 <
      (state.verdicts window).countP fun verdict => verdict.composite?.isSome)
    (bounded : (state.after window).rejectedRun ≤ maxRejectedRun + 1) :
    ∃ verdict ∈ state.verdicts window, verdict.accepted?.isSome := by
  -- otherwise every composite price has been rejected as a jump, and made the run longer
  by_contra hnone
  have hrejected : ∀ verdict ∈ state.verdicts window, verdict.accepted? = none := by
    simpa using hnone
  have hcount : ((state.verdicts window).countP fun verdict => verdict.composite?.isSome) =
      (state.verdicts window).countP Verdict.isJump := by
    refine List.countP_congr fun verdict hmem => ?_
    simp [Verdict.composite?_isSome, hrejected verdict hmem]
  have hgrowth := rejectedRun_after_of_none_accepted hrejected
  omega

/-! ## What the history decides -/

private theorem accepted_of_first {state next : Consensus α} {tick : List α} {verdict : Verdict α}
    (hruling : Ruling state tick verdict next) (hfirst : state.lastAccepted = none)
    {price : α} (hcomposite : verdict.composite? = some price) :
    verdict.accepted? = some price ∧ verdict.isForced = false := by
  have hwithin : ∀ candidate, state.withinJump candidate = true := by
    simp [withinJump, hfirst]
  cases hruling with
  | withheld rejection nothing notJump =>
      cases rejection with
      | priceJump last candidate run => cases notJump
      | inconsistent middle => cases hcomposite
      | noUsableData => cases hcomposite
  | agreed price sources composite within => exact ⟨hcomposite, rfl⟩
  | forced price sources composite beyond exhausted => simp [hwithin] at beyond
  | jumped last price sources composite beyond bounded => simp [hwithin] at beyond

private theorem closeEnough_of_unforced {state next : Consensus α} {tick : List α}
    {verdict : Verdict α} (hruling : Ruling state tick verdict next) {price last : α}
    (haccepted : verdict.accepted? = some price) (hunforced : verdict.isForced = false)
    (hlast : state.lastAccepted = some last) :
    closeEnough price last jumpTolerance = true := by
  cases hruling with
  | withheld rejection nothing notJump => cases haccepted
  | agreed price sources composite within =>
      cases haccepted
      simpa [withinJump, hlast] using within
  | forced price sources composite beyond exhausted => cases hunforced
  | jumped last price sources composite beyond bounded => cases haccepted

theorem isForced_iff {state next : Consensus α} {tick : List α} {verdict : Verdict α}
    (hruling : Ruling state tick verdict next)
    (bounded : state.rejectedRun ≤ maxRejectedRun + 1) :
    verdict.isForced = true ↔
      ∃ price last, verdict.composite? = some price ∧ state.lastAccepted = some last ∧
        closeEnough price last jumpTolerance = false ∧
        state.rejectedRun = maxRejectedRun + 1 := by
  cases hruling with
  | withheld rejection nothing notJump =>
      constructor
      · intro hforced
        cases hforced
      · rintro ⟨price, last, hcomposite, -⟩
        cases rejection with
        | priceJump last candidate run => cases notJump
        | inconsistent middle => cases hcomposite
        | noUsableData => cases hcomposite
  | agreed price sources composite within =>
      constructor
      · intro hforced
        cases hforced
      · rintro ⟨_, last, hcomposite, hlast, hbeyond, -⟩
        cases hcomposite
        simp [withinJump, hlast, hbeyond] at within
  | forced price sources composite beyond exhausted =>
      refine iff_of_true rfl ?_
      cases hlast : state.lastAccepted with
      | none => simp [withinJump, hlast] at beyond
      | some last =>
          refine ⟨price, last, rfl, rfl, ?_, by omega⟩
          simpa [withinJump, hlast] using beyond
  | jumped last price sources composite beyond room =>
      constructor
      · intro hforced
        cases hforced
      · rintro ⟨_, _, -, -, -, hrun⟩
        omega

/--
The state of a market that started fresh tells the price of its latest accepted
tick and the number of jumps rejected since, which is at most eleven; ticks
without a composite price change neither.  The composite price of a tick is what
its prices combine to: the first one is accepted, a later one is accepted unforced
only within ten percent of the one accepted before, force is used exactly on a
jump after eleven rejected ones, and twelve ticks with a composite price never go
by without an acceptance.
-/
theorem evaluate_after_history (past : List (List α)) (tick : List α) :
    let verdicts := ({} : Consensus α).verdicts past
    let state := ({} : Consensus α).after past
    let verdict := (state.evaluate tick).1
    (state.lastAccepted = Verdict.lastAccepted? verdicts ∧
      (state.lastAccepted = none ↔ ∀ earlier ∈ verdicts, earlier.accepted? = none) ∧
      state.rejectedRun = Verdict.jumpsSinceAccepted verdicts ∧
      state.rejectedRun ≤ 11 ∧
      (∀ rejection, verdict = .error rejection → Verdict.isJump (.error rejection) = false →
        (state.evaluate tick).2 = state)) ∧
    verdict.composite? = (combine state.lastAccepted tick).toOption.map Prod.fst ∧
    ((∀ earlier ∈ verdicts, earlier.composite? = none) →
      ∀ price, verdict.composite? = some price →
        verdict.accepted? = some price ∧ verdict.isForced = false) ∧
    (∀ price last, verdict.accepted? = some price → verdict.isForced = false →
      Verdict.lastAccepted? verdicts = some last →
        closeEnough price last jumpTolerance = true) ∧
    (verdict.isForced = true ↔
      ∃ price last, verdict.composite? = some price ∧
        Verdict.lastAccepted? verdicts = some last ∧
        closeEnough price last jumpTolerance = false ∧
        Verdict.jumpsSinceAccepted verdicts = 11) ∧
    (∀ window, 12 ≤ (state.verdicts window).countP (fun later => later.composite?.isSome) →
      ∃ later ∈ state.verdicts window, later.accepted?.isSome) := by
  intro verdicts state verdict
  have hstate : state.Reflects verdicts := after_reflects past
  have hruling : Ruling state tick verdict (state.evaluate tick).2 := evaluate_ruling state tick
  refine ⟨⟨hstate.last, ?_, hstate.run, hstate.bounded, ?_⟩, composite?_of_ruling hruling,
    ?_, ?_, ?_, ?_⟩
  · rw [hstate.last, Verdict.lastAccepted?_eq_none_iff]
  · intro rejection hverdict hnotJump
    exact hruling.unchanged hverdict hnotJump
  · intro hnone price
    have hfirst : state.lastAccepted = none := by
      rw [hstate.last, Verdict.lastAccepted?_eq_none_iff]
      exact fun earlier hmem => Verdict.accepted?_eq_none_of_composite? (hnone earlier hmem)
    exact accepted_of_first hruling hfirst
  · intro price last haccepted hunforced hlast
    exact closeEnough_of_unforced hruling haccepted hunforced (hstate.last.trans hlast)
  · rw [← hstate.last, ← hstate.run]
    exact isForced_iff hruling hstate.bounded
  · intro window hmany
    have hafter := (after_reflects (past ++ window)).bounded
    rw [after_append] at hafter
    exact accepted_of_composites hmany hafter

example : (({} : Consensus Rat).verdicts ([100] :: List.replicate 12 [200])).map Verdict.isForced =
    List.replicate 12 false ++ [true] := by
  decide +kernel

end Consensus

end IndexPrice
