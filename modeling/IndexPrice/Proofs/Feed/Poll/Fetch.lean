import IndexPrice.Exchange.CoinGecko
import IndexPrice.Feed.Poll.Reading

/-!
# Which attempt decides a request

A request is attempted until a response of status 200 comes, and that response decides it
whether or not its body is complete.  So a request is given up without a response of status
200, after all its attempts, or because a body broke off, although attempts may be left.  The
first complete body is what is fetched exactly if no body before it broke off.
-/

namespace IndexPrice.Feed.Poll

variable {σ : Type}

/-! ## Outcomes of attempts -/

def attemptEach (server : Server σ) (request : Request) : Nat → σ → List (Option Response) × σ
  | 0, s => ([], s)
  | attempts + 1, s =>
    let (outcome, s) := attempt server request s
    let (later, s) := attemptEach server request attempts s
    (outcome :: later, s)

/-- No answer, or one of another status than 200. -/
def Missed (outcome : Option Response) : Prop :=
  ∀ response, outcome = some response → response.status ≠ 200

/-- A response of status 200 with all of its body. -/
def Complete (outcome : Option Response) : Prop :=
  ∃ body received, outcome = some ⟨200, some body, received⟩

/-- A response of status 200 whose body broke off. -/
def Broken (outcome : Option Response) : Prop :=
  ∃ received, outcome = some ⟨200, none, received⟩

/-- What an outcome makes of the request, if it decides it. -/
def verdict? : Option Response → Option (Except FetchFault (Body × Instant))
  | some ⟨200, some body, received⟩ => some (.ok (body, received))
  | some ⟨200, none, _⟩ => some (.error .brokenBody)
  | _ => none

/-- The fault of an attempt that leaves the request undecided. -/
def missFault : Option Response → FetchFault
  | some response => .status response.status
  | none => .noAnswer

theorem verdict?_eq_none {outcome : Option Response} :
    verdict? outcome = none ↔ Missed outcome := by
  unfold verdict? Missed
  split
  · simp
  · simp
  · next hcomplete hbroken =>
      refine iff_of_true rfl ?_
      rintro ⟨status, body, received⟩ rfl rfl
      cases body with
      | none => exact hbroken received rfl
      | some body => exact hcomplete body received rfl

theorem verdict?_eq_ok {outcome : Option Response} {fetched : Body × Instant} :
    verdict? outcome = some (.ok fetched) ↔ outcome = some ⟨200, some fetched.1, fetched.2⟩ := by
  unfold verdict?
  split <;> simp_all [Prod.ext_iff]

theorem verdict?_eq_error {outcome : Option Response} {fault : FetchFault} :
    verdict? outcome = some (.error fault) ↔ fault = .brokenBody ∧ Broken outcome := by
  unfold verdict? Broken
  split <;> simp_all [eq_comm]

/-! ## Attempts one after another -/

private theorem fetchAfter_succ (server : Server σ) (request : Request) (fault : FetchFault)
    (attempts : Nat) (s : σ) :
    fetchAfter server request fault (attempts + 1) s =
      match verdict? (attempt server request s).1 with
      | some answer => (answer, (attempt server request s).2)
      | none =>
        fetchAfter server request (missFault (attempt server request s).1) attempts
          (attempt server request s).2 := by
  rw [fetchAfter]
  generalize attempt server request s = met
  obtain ⟨_ | ⟨status, body, received⟩, s⟩ := met
  · rfl
  · by_cases hstatus : status = 200
    · subst hstatus
      cases body <;> rfl
    · have hnone : verdict? (some ⟨status, body, received⟩) = none :=
        verdict?_eq_none.mpr fun _ heq => by
          cases heq
          exact hstatus
      simp [hnone, hstatus, missFault]

private theorem answer_fetchAfter (server : Server σ) (request : Request) (fault : FetchFault)
    (attempts : Nat) (s : σ) :
    (fetchAfter server request fault attempts s).1 =
      ((attemptEach server request attempts s).1.findSome? verdict?).getD
        (.error
          (((attemptEach server request attempts s).1.getLast?.map missFault).getD fault)) := by
  induction attempts generalizing fault s with
  | zero => rfl
  | succ attempts ih =>
      rw [fetchAfter_succ, attemptEach]
      cases hverdict : verdict? (attempt server request s).1 with
      | some answer => simp [hverdict]
      | none =>
          rw [List.findSome?_cons, hverdict, List.getLast?_cons, ih]
          dsimp only
          generalize (attemptEach server request attempts
            (attempt server request s).2).1.getLast? = last
          cases last <;> rfl

private theorem state_fetchAfter (server : Server σ) (request : Request) (fault : FetchFault)
    (attempts : Nat) (s : σ) :
    ∃ made ≤ attempts,
      (fetchAfter server request fault attempts s).2 = (attemptEach server request made s).2 ∧
      ∀ earlier outcome later,
        (attemptEach server request attempts s).1 = earlier ++ outcome :: later →
          ¬ Missed outcome → made ≤ earlier.length + 1 := by
  induction attempts generalizing fault s with
  | zero => exact ⟨0, Nat.le_refl 0, rfl, fun earlier _ _ _ _ => Nat.zero_le _⟩
  | succ attempts ih =>
      rw [fetchAfter_succ]
      cases hverdict : verdict? (attempt server request s).1 with
      | some answer =>
          refine ⟨1, Nat.le_add_left 1 attempts, rfl, fun earlier _ _ _ _ => ?_⟩
          exact Nat.le_add_left 1 earlier.length
      | none =>
          obtain ⟨made, hmade, hstate, hlast⟩ :=
            ih (missFault (attempt server request s).1) (attempt server request s).2
          refine ⟨made + 1, Nat.succ_le_succ hmade, hstate, ?_⟩
          intro earlier outcome later hsplit hdecides
          cases earlier with
          | nil =>
              -- the first attempt decides nothing, so the outcome that decides is a later one
              cases hsplit
              exact absurd (verdict?_eq_none.mp hverdict) hdecides
          | cons first earlier =>
              have hrest := hlast earlier outcome later (List.cons.inj hsplit).2 hdecides
              rw [List.length_cons]
              omega

private theorem length_attemptEach (server : Server σ) (request : Request) (attempts : Nat)
    (s : σ) :
    (attemptEach server request attempts s).1.length = attempts := by
  induction attempts generalizing s with
  | zero => rfl
  | succ attempts ih =>
      rw [attemptEach]
      exact congrArg (· + 1) (ih _)

/-! ## The answer to a request -/

private theorem Missed.not_complete {outcome : Option Response} (h : Missed outcome) :
    ¬ Complete outcome := by
  rintro ⟨body, received, heq⟩
  exact h _ heq rfl

private theorem Missed.not_broken {outcome : Option Response} (h : Missed outcome) :
    ¬ Broken outcome := by
  rintro ⟨received, heq⟩
  exact h _ heq rfl

private theorem eq_or_mem_of_missed {earlier before later after : List (Option Response)}
    {first outcome : Option Response}
    (split : earlier ++ first :: later = before ++ outcome :: after)
    (missed : ∀ other ∈ earlier, Missed other) (decides : ¬ Missed outcome) :
    first = outcome ∨ first ∈ before := by
  rcases List.append_eq_append_iff.mp split with ⟨between, rfl, hrest⟩ | ⟨between, rfl, hrest⟩
  · cases between with
    | nil => exact .inl (List.cons.inj hrest).1
    | cons other between =>
        rw [(List.cons.inj hrest).1]
        exact .inr (by simp)
  · cases between with
    | nil => exact .inl (List.cons.inj hrest).1.symm
    | cons other between =>
        refine absurd (missed outcome ?_) decides
        rw [(List.cons.inj hrest).1]
        simp

section Answer

variable (server : Server σ) (attempts : Nat) (request : Request) (s : σ)

theorem fetch_eq_ok (fetched : Body × Instant) :
    (fetch server attempts request s).1 = .ok fetched ↔
      ∃ earlier later, (attemptEach server request attempts s).1 =
          earlier ++ some ⟨200, some fetched.1, fetched.2⟩ :: later ∧
        ∀ outcome ∈ earlier, Missed outcome := by
  rw [fetch, answer_fetchAfter]
  constructor
  · intro hanswer
    cases hverdict : (attemptEach server request attempts s).1.findSome? verdict? with
    | none => simp [hverdict] at hanswer
    | some answer =>
        obtain rfl : answer = .ok fetched := by simpa [hverdict] using hanswer
        obtain ⟨earlier, outcome, later, hsplit, hok, hmissed⟩ :=
          List.findSome?_eq_some_iff.mp hverdict
        rw [verdict?_eq_ok.mp hok] at hsplit
        refine ⟨earlier, later, hsplit, fun other hother => ?_⟩
        exact verdict?_eq_none.mp (hmissed other hother)
  · rintro ⟨earlier, later, hsplit, hmissed⟩
    have hverdict : (attemptEach server request attempts s).1.findSome? verdict? =
        some (.ok fetched) :=
      List.findSome?_eq_some_iff.mpr ⟨earlier, _, later, hsplit, verdict?_eq_ok.mpr rfl,
        fun other hother => verdict?_eq_none.mpr (hmissed other hother)⟩
    rw [hverdict]
    rfl

theorem fetch_eq_error (fault : FetchFault) :
    (fetch server attempts request s).1 = .error fault ↔
      (fault = .brokenBody ∧ ∃ earlier outcome later,
        (attemptEach server request attempts s).1 = earlier ++ outcome :: later ∧
          Broken outcome ∧ ∀ other ∈ earlier, Missed other) ∨
      (∀ outcome ∈ (attemptEach server request attempts s).1, Missed outcome) ∧
        fault = ((attemptEach server request attempts s).1.getLast?.map missFault).getD
          .noAttempts := by
  rw [fetch, answer_fetchAfter]
  generalize (attemptEach server request attempts s).1 = script
  constructor
  · intro hanswer
    cases hverdict : script.findSome? verdict? with
    | none =>
        refine .inr ⟨fun outcome houtcome => ?_, ?_⟩
        · exact verdict?_eq_none.mp (List.findSome?_eq_none_iff.mp hverdict outcome houtcome)
        · rw [hverdict] at hanswer
          exact (Except.error.inj hanswer).symm
    | some answer =>
        obtain rfl : answer = .error fault := by simpa [hverdict] using hanswer
        obtain ⟨earlier, outcome, later, hsplit, herror, hmissed⟩ :=
          List.findSome?_eq_some_iff.mp hverdict
        obtain ⟨hfault, hbroken⟩ := verdict?_eq_error.mp herror
        exact .inl ⟨hfault, earlier, outcome, later, hsplit, hbroken,
          fun other hother => verdict?_eq_none.mp (hmissed other hother)⟩
  · rintro (⟨rfl, earlier, outcome, later, hsplit, hbroken, hmissed⟩ | ⟨hmissed, rfl⟩)
    · have hverdict : script.findSome? verdict? = some (.error .brokenBody) :=
        List.findSome?_eq_some_iff.mpr ⟨earlier, outcome, later, hsplit,
          verdict?_eq_error.mpr ⟨rfl, hbroken⟩,
          fun other hother => verdict?_eq_none.mpr (hmissed other hother)⟩
      rw [hverdict]
      rfl
    · have hverdict : script.findSome? verdict? = none :=
        List.findSome?_eq_none_iff.mpr fun outcome houtcome =>
          verdict?_eq_none.mpr (hmissed outcome houtcome)
      rw [hverdict]
      rfl

theorem fetch_fails_iff :
    (∃ fault, (fetch server attempts request s).1 = .error fault) ↔
      ∀ earlier body received later, (attemptEach server request attempts s).1 =
        earlier ++ some ⟨200, some body, received⟩ :: later →
          ∃ outcome ∈ earlier, Broken outcome := by
  constructor
  · rintro ⟨fault, hfault⟩ earlier body received later hsplit
    have hcomplete : Complete (some ⟨200, some body, received⟩) := ⟨body, received, rfl⟩
    rcases (fetch_eq_error server attempts request s fault).mp hfault with
      ⟨-, before, outcome, after, hfirst, hbroken, hmissed⟩ | ⟨hmissed, -⟩
    · rcases eq_or_mem_of_missed (hfirst.symm.trans hsplit) hmissed
        (fun hmiss => hmiss.not_complete hcomplete) with rfl | hmem
      · obtain ⟨_, hnone⟩ := hbroken
        cases hnone
      · exact ⟨outcome, hmem, hbroken⟩
    · refine absurd hcomplete (hmissed _ ?_).not_complete
      rw [hsplit]
      simp
  · intro hbefore
    cases hanswer : (fetch server attempts request s).1 with
    | error fault => exact ⟨fault, rfl⟩
    | ok fetched =>
        obtain ⟨earlier, later, hsplit, hmissed⟩ :=
          (fetch_eq_ok server attempts request s fetched).mp hanswer
        obtain ⟨outcome, hmem, hbroken⟩ := hbefore earlier _ _ later hsplit
        exact absurd hbroken (hmissed outcome hmem).not_broken

end Answer

/--
At most the given attempts are made, and none after the first response of status 200.  If
that one is complete, its body is what is fetched; if its body broke off, the request is given
up; and without one it is given up for what the last attempt met, or because there was none to
make.  So a request is given up exactly if each complete body among the outcomes of all
attempts has one that broke off before it.
-/
theorem fetch_by_first_success (server : Server σ) (attempts : Nat) (request : Request) (s : σ) :
    let script := (attemptEach server request attempts s).1
    let answer := fetch server attempts request s
    script.length = attempts ∧
    (∃ made ≤ attempts, answer.2 = (attemptEach server request made s).2 ∧
      ∀ earlier outcome later, script = earlier ++ outcome :: later →
        ¬ Missed outcome → made ≤ earlier.length + 1) ∧
    (∀ fetched, answer.1 = .ok fetched ↔
      ∃ earlier later, script = earlier ++ some ⟨200, some fetched.1, fetched.2⟩ :: later ∧
        ∀ outcome ∈ earlier, Missed outcome) ∧
    (∀ fault, answer.1 = .error fault ↔
      (fault = .brokenBody ∧ ∃ earlier outcome later, script = earlier ++ outcome :: later ∧
        Broken outcome ∧ ∀ other ∈ earlier, Missed other) ∨
      (∀ outcome ∈ script, Missed outcome) ∧
        fault = (script.getLast?.map missFault).getD .noAttempts) ∧
    ((∃ fault, answer.1 = .error fault) ↔
      ∀ earlier body received later,
        script = earlier ++ some ⟨200, some body, received⟩ :: later →
          ∃ outcome ∈ earlier, Broken outcome) := by
  intro script answer
  exact ⟨length_attemptEach server request attempts s,
    state_fetchAfter server request .noAttempts attempts s, fetch_eq_ok server attempts request s,
    fetch_eq_error server attempts request s, fetch_fails_iff server attempts request s⟩

/-! ### Outcomes that are played back -/

def playback : Server (List (Option Response))
  | _, [] => (none, [])
  | _, outcome :: rest => (outcome, rest)

def coinRequest : Request := { url := "https://prices", query := [("ids", "t,a")], headers := [] }

def coinQuery : Poller where
  format := Exchange.CoinGecko.format "k"
  requests := [coinRequest]
  markets := NameMap.ofList [("M", {
    ticker := { exchange := "coingecko", instrument := "a" }
    multiplier := 1
    maxUseAge := Span.ofSeconds 60 })]
  reference := [{ exchange := "coingecko", instrument := "t" }]
  maxAttempts := 2

def coinBody : Body :=
  ("\x7b\"a\":\x7b\"usd\":2,\"last_updated_at\":1700000000\x7d," ++
    "\"t\":\x7b\"usd\":0.5,\"last_updated_at\":1700000000\x7d\x7d").toUTF8.toList

def answered (status : Nat) (body : Option Body) : Option Response :=
  some ⟨status, body, ⟨1700000001, 0⟩⟩

theorem fetched_at_third_attempt :
    let script := [none, answered 503 (some []), answered 200 (some coinBody)]
    (attemptEach playback coinRequest 4 script).1 = script ++ [none] ∧
      (fetch playback 4 coinRequest script).1 = .ok (coinBody, ⟨1700000001, 0⟩) := by
  intro script
  obtain ⟨-, -, hok, -⟩ := fetch_by_first_success playback 4 coinRequest script
  refine ⟨by decide +kernel, (hok _).mpr ⟨[none, answered 503 (some [])], [none],
    by decide +kernel, fun outcome houtcome => ?_⟩⟩
  simp only [List.mem_cons, List.not_mem_nil, or_false] at houtcome
  rcases houtcome with rfl | rfl
  · exact nofun
  · rintro response heq
    cases heq
    decide

theorem given_up_on_broken_body :
    let script := [answered 200 none, answered 200 (some coinBody)]
    (attemptEach playback coinRequest 2 script).1 = script ∧
      fetch playback 2 coinRequest script = (.error .brokenBody, [answered 200 (some coinBody)]) ∧
      (coinQuery.read playback ({}, script)).1.store.entries = [] ∧
      (coinQuery.read playback ({}, script.drop 1)).1.store.entries =
        [("M", ⟨4, ⟨1700000000, 0⟩⟩)] := by
  intro script
  exact ⟨by decide +kernel, rfl, by decide +kernel, by decide +kernel⟩

end IndexPrice.Feed.Poll
