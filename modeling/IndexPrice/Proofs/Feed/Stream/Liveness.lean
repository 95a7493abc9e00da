import IndexPrice.Exchange.Okx
import IndexPrice.Feed.Stream.Connector
import IndexPrice.Proofs.List
import IndexPrice.Proofs.NameMap

/-!
# What a check of a stream decides

A check calls for a reconnect over data if some market has had none for more than three times
its age.  Otherwise pings count: all signs of life more than three ping intervals back call for
a reconnect, and more than one for a ping.  No sign counts as older than the session, so what
came before the session decides nothing, and a young session is left alone.
-/

namespace IndexPrice

/-! ## Times outside of leap seconds -/

namespace Instant

def stamp (t : Instant) : Int := t.seconds * Span.nanosPerSecond + t.nanos

variable {now first last : Instant}

private theorem nanos_lt (h : now.inLeapSecond = false) : now.nanos < 1000000000 :=
  Nat.not_le.mp (of_decide_eq_false h)

private theorem before_iff_stamp (hfirst : first.inLeapSecond = false)
    (hlast : last.inLeapSecond = false) :
    first.before last = true ↔ first.stamp < last.stamp := by
  have hnanos := nanos_lt hfirst
  have hother := nanos_lt hlast
  simp only [before, stamp, Span.nanosPerSecond, decide_eq_true_eq]
  omega

private theorem since_eq_stamp (hnow : now.inLeapSecond = false)
    (hlast : last.inLeapSecond = false) :
    now.since last = now.stamp - last.stamp := by
  simp only [since, hnow, hlast, Bool.and_false, Bool.false_eq_true, if_false, stamp,
    Span.nanosPerSecond]
  omega

private theorem elapsed_latest (hnow : now.inLeapSecond = false)
    (hfirst : first.inLeapSecond = false) (hlast : last.inLeapSecond = false) :
    now.elapsed (first.latest last) = min (now.elapsed first) (now.elapsed last) := by
  simp only [latest, elapsed, before_iff_stamp hfirst hlast]
  split
  · next hlt =>
      rw [since_eq_stamp hnow hfirst, since_eq_stamp hnow hlast]
      exact (Nat.min_eq_right (Int.toNat_le_toNat (by omega))).symm
  · next hge =>
      rw [since_eq_stamp hnow hfirst, since_eq_stamp hnow hlast]
      exact (Nat.min_eq_left (Int.toNat_le_toNat (by omega))).symm

end Instant

namespace Feed.Stream

namespace Observed

variable {seen other : Observed} {markets : Markets} {limit : Span}

def dataTime (seen : Observed) (market : String) : Option Instant :=
  (seen.store.load market).map (·.time)

def lastSign (seen : Observed) (time : Option Instant) : Instant :=
  (time.map (·.latest seen.connectedAt)).getD seen.connectedAt

/-- Some market has had no data for more than three times its age. -/
def Silent (seen : Observed) (markets : Markets) : Prop :=
  ∃ id market, markets.get? id = some market ∧
    3 * market.maxUseAge < seen.now.elapsed (seen.lastSign (seen.dataTime id))

/-- Neither data nor an answer to a ping has come for more than a limit. -/
structure QuietFor (seen : Observed) (markets : Markets) (limit : Span) : Prop where
  pong : limit < seen.now.elapsed (seen.lastSign seen.lastPong)
  data : ∀ id ∈ markets.names, limit < seen.now.elapsed (seen.lastSign (seen.dataTime id))

/-- The start of the session, the last answer and the data all lie more than a limit back. -/
structure Lapsed (seen : Observed) (markets : Markets) (limit : Span) : Prop where
  start : limit < seen.now.elapsed seen.connectedAt
  pong : ∀ time, seen.lastPong = some time → limit < seen.now.elapsed time
  data : ∀ id ∈ markets.names, ∀ time, seen.dataTime id = some time →
    limit < seen.now.elapsed time

/-- No time is in a leap second; clocks do not show any, so that is known of their readings. -/
structure Ordinary (seen : Observed) (markets : Markets) : Prop where
  now : seen.now.inLeapSecond = false
  start : seen.connectedAt.inLeapSecond = false
  pong : ∀ time, seen.lastPong = some time → time.inLeapSecond = false
  data : ∀ id ∈ markets.names, ∀ time, seen.dataTime id = some time → time.inLeapSecond = false

/-! ## Quiet times -/

theorem quiet_eq (seen : Observed) (time : Option Instant) :
    seen.quiet time = seen.now.elapsed (seen.lastSign time) := by
  cases time <;> rfl

theorem lt_leastQuiet_iff (seen : Observed) (markets : Markets) (hlimit : limit < longestQuiet) :
    limit < seen.leastQuiet markets ↔ seen.QuietFor markets limit := by
  simp only [leastQuiet, Nat.lt_min, lt_foldl_min, pongQuiet, dataQuiet, quiet_eq]
  constructor
  -- the minimum starts from an hour, which is above the limit and so decides nothing
  · rintro ⟨hpong, -, hdata⟩
    exact ⟨hpong, hdata⟩
  · rintro ⟨hpong, hdata⟩
    exact ⟨hpong, hlimit, hdata⟩

theorem lt_elapsed_lastSign_iff (limit : Span) {time : Option Instant}
    (hnow : seen.now.inLeapSecond = false)
    (hstart : seen.connectedAt.inLeapSecond = false)
    (htime : ∀ t, time = some t → t.inLeapSecond = false) :
    limit < seen.now.elapsed (seen.lastSign time) ↔
      limit < seen.now.elapsed seen.connectedAt ∧
        ∀ t, time = some t → limit < seen.now.elapsed t := by
  cases time with
  | none => simp [lastSign]
  | some t =>
      rw [lastSign, Option.map_some, Option.getD_some,
        Instant.elapsed_latest hnow (htime t rfl) hstart, Nat.lt_min, and_comm]
      simp

theorem quietFor_iff (h : seen.Ordinary markets) :
    seen.QuietFor markets limit ↔ seen.Lapsed markets limit := by
  have hpong := lt_elapsed_lastSign_iff limit h.now h.start h.pong
  have hdata := fun id hid => lt_elapsed_lastSign_iff limit h.now h.start (h.data id hid)
  constructor
  · intro hquiet
    have hanswer := hpong.mp hquiet.pong
    exact ⟨hanswer.1, hanswer.2, fun id hid => ((hdata id hid).mp (hquiet.data id hid)).2⟩
  · intro hlapsed
    exact ⟨hpong.mpr ⟨hlapsed.start, hlapsed.pong⟩,
      fun id hid => (hdata id hid).mpr ⟨hlapsed.start, hlapsed.data id hid⟩⟩

/-! ## The check of the data -/

private theorem anySilent?_eq {entries : List (String × Market)}
    (bounded : ∀ entry ∈ entries, 3 * entry.2.maxUseAge ≤ Span.longest) :
    seen.anySilent? entries = some (entries.any fun entry =>
      decide (3 * entry.2.maxUseAge < seen.dataQuiet entry.1)) := by
  induction entries with
  | nil => rfl
  | cons entry rest ih =>
      obtain ⟨hfirst, hrest⟩ := List.forall_mem_cons.mp bounded
      have htriple : entry.2.maxUseAge.triple? = some (3 * entry.2.maxUseAge) := if_pos hfirst
      rw [anySilent?, htriple, List.any_cons, ih hrest]
      by_cases hsilent : 3 * entry.2.maxUseAge < seen.dataQuiet entry.1
      · simp [hsilent]
      · simp [hsilent]

theorem silent_iff : seen.Silent markets ↔
    (markets.entries.any fun entry =>
      decide (3 * entry.2.maxUseAge < seen.dataQuiet entry.1)) = true := by
  simp only [List.any_eq_true, decide_eq_true_eq, dataQuiet, quiet_eq]
  constructor
  · rintro ⟨id, market, hmarket, hlate⟩
    exact ⟨(id, market), (NameMap.mem_entries_iff _ _ _).mpr hmarket, hlate⟩
  · rintro ⟨⟨id, market⟩, hentry, hlate⟩
    exact ⟨id, market, (NameMap.mem_entries_iff _ _ _).mp hentry, hlate⟩

/-! ## What came before the session -/

/-- A time, unless it lies before the session. -/
def inSession? (seen : Observed) (time : Option Instant) : Option Instant :=
  time.filter fun t => !t.before seen.connectedAt

/-- Two checks see the same of the session, and may differ in what came before it. -/
structure SameSession (seen other : Observed) : Prop where
  now : other.now = seen.now
  start : other.connectedAt = seen.connectedAt
  pong : seen.inSession? other.lastPong = seen.inSession? seen.lastPong
  data : ∀ id, seen.inSession? (other.dataTime id) = seen.inSession? (seen.dataTime id)

private theorem lastSign_eq_inSession (seen : Observed) (time : Option Instant) :
    seen.lastSign time = (seen.inSession? time).getD seen.connectedAt := by
  cases time with
  | none => rfl
  | some t =>
      cases hbefore : t.before seen.connectedAt <;>
        simp [lastSign, inSession?, Instant.latest, Option.filter, hbefore]

private theorem SameSession.quiet_eq (h : seen.SameSession other) {time before : Option Instant}
    (same : seen.inSession? time = seen.inSession? before) :
    other.quiet time = seen.quiet before := by
  have hsign : other.lastSign time = seen.lastSign time := by simp [lastSign, h.start]
  rw [Observed.quiet_eq, Observed.quiet_eq, hsign, h.now, lastSign_eq_inSession,
    lastSign_eq_inSession, same]

private theorem SameSession.dataQuiet_eq (h : seen.SameSession other) (id : String) :
    other.dataQuiet id = seen.dataQuiet id :=
  h.quiet_eq (h.data id)

private theorem SameSession.anySilent?_eq (h : seen.SameSession other)
    (entries : List (String × Market)) :
    other.anySilent? entries = seen.anySilent? entries := by
  induction entries with
  | nil => rfl
  | cons entry rest ih => simp only [anySilent?, h.dataQuiet_eq, ih]

private theorem SameSession.leastQuiet_eq (h : seen.SameSession other) (markets : Markets) :
    other.leastQuiet markets = seen.leastQuiet markets := by
  simp only [leastQuiet, pongQuiet, h.quiet_eq h.pong, h.dataQuiet_eq]

end Observed

open Observed

variable {Quote : Type} {format : Format Quote} {markets : Markets} {settings : Settings}
  {seen other : Observed} {remedy : Remedy}

private theorem remedy?_of_sameSession (h : seen.SameSession other) :
    remedy? format markets settings other = remedy? format markets settings seen := by
  simp only [remedy?, pingRemedy?, h.anySilent?_eq, h.leastQuiet_eq]

/-! ## Decisions -/

/-- All that a check can decide, each with the reason for it. -/
inductive Decides (format : Format Quote) (markets : Markets) (settings : Settings)
    (seen : Observed) : Remedy → Prop
  | silent (silent : seen.Silent markets) :
      Decides format markets settings seen (.reconnect .dataTimeout)
  | unpinged (heard : ¬ seen.Silent markets) (unpinged : format.ping = none) :
      Decides format markets settings seen .none
  | lapsed (payload : Payload) (heard : ¬ seen.Silent markets)
      (pinged : format.ping = some payload)
      (lapsed : seen.QuietFor markets (3 * settings.pingInterval)) :
      Decides format markets settings seen (.reconnect .pingTimeout)
  | pinging (payload : Payload) (heard : ¬ seen.Silent markets)
      (pinged : format.ping = some payload)
      (alive : ¬ seen.QuietFor markets (3 * settings.pingInterval))
      (due : format.pingAlways = true ∨ seen.QuietFor markets settings.pingInterval) :
      Decides format markets settings seen (.ping payload)
  | resting (payload : Payload) (heard : ¬ seen.Silent markets)
      (pinged : format.ping = some payload)
      (alive : ¬ seen.QuietFor markets (3 * settings.pingInterval))
      (calm : ¬ (format.pingAlways = true ∨ seen.QuietFor markets settings.pingInterval)) :
      Decides format markets settings seen .none

private theorem exists_decides (format : Format Quote) (seen : Observed)
    (hinterval : 3 * settings.pingInterval < longestQuiet)
    (hages : ∀ id market, markets.get? id = some market → 3 * market.maxUseAge ≤ Span.longest) :
    ∃ remedy, remedy? format markets settings seen = some remedy ∧
      Decides format markets settings seen remedy := by
  have hentries := markets.forall_entries_iff.mpr hages
  have htriple : settings.pingInterval.triple? = some (3 * settings.pingInterval) :=
    if_pos (Nat.le_trans (Nat.le_of_lt hinterval) (by decide))
  have hlapsed := seen.lt_leastQuiet_iff markets hinterval
  have hdue := seen.lt_leastQuiet_iff markets
    (Nat.lt_of_le_of_lt (Nat.le_mul_of_pos_left settings.pingInterval (by decide)) hinterval)
  unfold remedy?
  rw [anySilent?_eq hentries]
  by_cases hsilent : seen.Silent markets
  · rw [silent_iff.mp hsilent]
    exact ⟨_, rfl, .silent hsilent⟩
  · rw [Bool.eq_false_iff.mpr (mt silent_iff.mpr hsilent)]
    cases hping : format.ping with
    | none => exact ⟨_, rfl, .unpinged hsilent hping⟩
    | some payload =>
        simp only [pingRemedy?, htriple, Bool.or_eq_true, decide_eq_true_eq]
        by_cases hquiet : 3 * settings.pingInterval < seen.leastQuiet markets
        · exact ⟨_, if_pos hquiet, .lapsed payload hsilent hping (hlapsed.mp hquiet)⟩
        · rw [if_neg hquiet]
          have halive := mt hlapsed.mpr hquiet
          split
          · next hsend =>
              exact ⟨_, rfl, .pinging payload hsilent hping halive (hsend.imp_right hdue.mp)⟩
          · next hcalm =>
              exact ⟨_, rfl, .resting payload hsilent hping halive
                (mt (Or.imp_right hdue.mpr) hcalm)⟩

namespace Decides

theorem dataTimeout_iff (h : Decides format markets settings seen remedy) :
    remedy = .reconnect .dataTimeout ↔ seen.Silent markets := by
  cases h <;> simp_all

theorem pingTimeout_iff (h : Decides format markets settings seen remedy) :
    remedy = .reconnect .pingTimeout ↔
      ¬ seen.Silent markets ∧ format.ping.isSome ∧
        seen.QuietFor markets (3 * settings.pingInterval) := by
  cases h <;> simp_all

theorem ping_iff (h : Decides format markets settings seen remedy) (payload : Payload) :
    remedy = .ping payload ↔
      ¬ seen.Silent markets ∧ format.ping = some payload ∧
        ¬ seen.QuietFor markets (3 * settings.pingInterval) ∧
        (format.pingAlways = true ∨ seen.QuietFor markets settings.pingInterval) := by
  cases h <;> simp_all

theorem none_iff (h : Decides format markets settings seen remedy) :
    remedy = .none ↔
      ¬ seen.Silent markets ∧ ∀ payload, format.ping = some payload →
        ¬ seen.QuietFor markets (3 * settings.pingInterval) ∧
        ¬ (format.pingAlways = true ∨ seen.QuietFor markets settings.pingInterval) := by
  cases h <;> simp_all

private theorem reason_eq (h : Decides format markets settings seen remedy) {reason : Reason}
    (reconnects : remedy = .reconnect reason) :
    reason = .dataTimeout ∨ reason = .pingTimeout := by
  cases h <;> simp_all

private theorem ne_reconnect_of_young (h : Decides format markets settings seen remedy)
    (ordinary : seen.Ordinary markets)
    (pings : seen.now.elapsed seen.connectedAt ≤ 3 * settings.pingInterval)
    (data : ∀ id market, markets.get? id = some market →
      seen.now.elapsed seen.connectedAt ≤ 3 * market.maxUseAge) (reason : Reason) :
    remedy ≠ .reconnect reason := by
  rintro rfl
  cases h with
  -- whatever lies too far back, the start of the session does as well
  | silent silent =>
      obtain ⟨id, market, hmarket, hlate⟩ := silent
      have hid : id ∈ markets.names :=
        List.mem_map_of_mem ((NameMap.mem_entries_iff _ _ _).mpr hmarket)
      have hstart := ((lt_elapsed_lastSign_iff _ ordinary.now ordinary.start
        (ordinary.data id hid)).mp hlate).1
      exact Nat.not_lt.mpr (data id market hmarket) hstart
  | lapsed payload heard pinged lapsed =>
      exact Nat.not_lt.mpr pings ((quietFor_iff ordinary).mp lapsed).start

end Decides

namespace Connector

def observed (connection : Connection) (now : Instant) : Observed where
  connectedAt := connection.line.session.connectedAt
  store := connection.received.store
  lastPong := connection.received.lastPong
  now := now

def carryOut (connector : Connector Quote) (connection : Connection) (reachable : Bool)
    (now : Instant) : Remedy → Connection
  | .none => connection
  | .reconnect reason => (connector.reconnect connection reason reachable now).2
  | .ping payload => write connection (.ping payload)

theorem checkLiveness?_eq (connector : Connector Quote) (connection : Connection)
    (reachable : Bool) (now : Instant) :
    connector.checkLiveness? connection reachable now =
      (remedy? connector.format connector.markets connector.settings
        (observed connection now)).map (connector.carryOut connection reachable now) := rfl

/--
A check calls for a reconnect over data exactly if some market is silent; else over pings
exactly if the exchange is pinged and was quiet for three intervals; else for a ping exactly if
the exchange is pinged at every check or was quiet for one; and else for nothing.  Nothing from
before the session has a part in it.  Outside of leap seconds, quiet means that the start of
the session, the last answer and all data lie that far back, so a session that is younger than
every limit is left alone.
-/
theorem liveness_decision (connector : Connector Quote) (connection : Connection)
    (reachable : Bool) (now : Instant)
    (hinterval : 3 * connector.settings.pingInterval < Span.ofSeconds 3600)
    (hages : ∀ id market, connector.markets.get? id = some market →
      3 * market.maxUseAge ≤ Span.longest) :
    let format := connector.format
    let markets := connector.markets
    let interval := connector.settings.pingInterval
    let seen := observed connection now
    ∃ remedy, remedy? format markets connector.settings seen = some remedy ∧
      connector.checkLiveness? connection reachable now =
        some (connector.carryOut connection reachable now remedy) ∧
      (remedy = .reconnect .dataTimeout ↔ seen.Silent markets) ∧
      (remedy = .reconnect .pingTimeout ↔
        ¬ seen.Silent markets ∧ format.ping.isSome ∧ seen.QuietFor markets (3 * interval)) ∧
      (∀ payload, remedy = .ping payload ↔
        ¬ seen.Silent markets ∧ format.ping = some payload ∧
          ¬ seen.QuietFor markets (3 * interval) ∧
          (format.pingAlways = true ∨ seen.QuietFor markets interval)) ∧
      (remedy = .none ↔
        ¬ seen.Silent markets ∧ ∀ payload, format.ping = some payload →
          ¬ seen.QuietFor markets (3 * interval) ∧
          ¬ (format.pingAlways = true ∨ seen.QuietFor markets interval)) ∧
      (∀ reason, remedy = .reconnect reason → reason = .dataTimeout ∨ reason = .pingTimeout) ∧
      (∀ other, seen.SameSession other →
        remedy? format markets connector.settings other = some remedy) ∧
      (seen.Ordinary markets →
        (∀ limit, seen.QuietFor markets limit ↔ seen.Lapsed markets limit) ∧
        (now.elapsed seen.connectedAt ≤ 3 * interval →
          (∀ id market, markets.get? id = some market →
            now.elapsed seen.connectedAt ≤ 3 * market.maxUseAge) →
          ∀ reason, remedy ≠ .reconnect reason)) := by
  intro format markets interval seen
  obtain ⟨remedy, hremedy, hdecides⟩ :=
    exists_decides format seen hinterval hages
  refine ⟨remedy, hremedy, ?_, hdecides.dataTimeout_iff, hdecides.pingTimeout_iff,
    hdecides.ping_iff, hdecides.none_iff, fun _ => hdecides.reason_eq, fun _ hsame => ?_,
    fun hordinary => ⟨fun _ => quietFor_iff hordinary, hdecides.ne_reconnect_of_young hordinary⟩⟩
  · rw [checkLiveness?_eq]
    exact congrArg (Option.map _) hremedy
  · rw [remedy?_of_sameSession hsame, hremedy]

/-! ### An answer to a ping from before the session -/

def swapConnector : Connector Exchange.Okx.Rows where
  format := Exchange.Okx.format
  markets := NameMap.ofList [("BTC", {
    ticker := { exchange := "okx", instrument := "BTC-USDT" }
    multiplier := 1
    maxUseAge := Span.ofSeconds 60 })]

def swapConnection : Connection where
  line := { session := { phase := .connected, connectedAt := ⟨1000, 0⟩, hasWriter := true } }
  received := {
    store := NameMap.ofList [("BTC", ⟨7, ⟨1010, 0⟩⟩)]
    lastPong := some ⟨900, 0⟩ }
  sent := [[]]

theorem pinged_after_quiet_interval :
    let seen := observed swapConnection ⟨1080, 0⟩
    3 * swapConnector.settings.pingInterval < Span.ofSeconds 3600 ∧
      (∀ id market, swapConnector.markets.get? id = some market →
        3 * market.maxUseAge ≤ Span.longest) ∧
      remedy? swapConnector.format swapConnector.markets swapConnector.settings seen =
        some (.ping pingWord) ∧
      ¬ seen.Silent swapConnector.markets ∧
      ¬ seen.QuietFor swapConnector.markets (Span.ofSeconds 75) ∧
      seen.Lapsed swapConnector.markets (Span.ofSeconds 25) := by
  intro seen
  have hages : ∀ id market, swapConnector.markets.get? id = some market →
      3 * market.maxUseAge ≤ Span.longest :=
    swapConnector.markets.forall_entries_iff.mp (by decide +kernel)
  have hordinary : seen.Ordinary swapConnector.markets := by
    refine ⟨by decide, by decide, ?_, ?_⟩
    · rintro time ⟨⟩
      decide
    · have hall : ∀ id ∈ swapConnector.markets.names,
          (seen.dataTime id).all (!·.inLeapSecond) := by decide +kernel
      intro id hid time htime
      simpa [htime] using hall id hid
  obtain ⟨remedy, hremedy, -, -, -, hping, -, -, -, hlapsed⟩ :=
    liveness_decision swapConnector swapConnection true ⟨1080, 0⟩ (by decide) hages
  have hping' : remedy? swapConnector.format swapConnector.markets swapConnector.settings seen =
      some (.ping pingWord) := by decide +kernel
  obtain rfl : remedy = .ping pingWord := Option.some.inj (hremedy.symm.trans hping')
  obtain ⟨hheard, -, halive, halways | hquiet⟩ := (hping pingWord).mp rfl
  · cases halways
  · exact ⟨by decide, hages, hping', hheard, halive, ((hlapsed hordinary).1 _).mp hquiet⟩

end Connector

end Feed.Stream

end IndexPrice
