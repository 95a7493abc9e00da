import IndexPrice.Delivery.Statistics
import IndexPrice.Proofs.NameMap
import Mathlib.Algebra.GroupWithZero.Nat
import Mathlib.Data.List.DropRight
import Mathlib.Data.List.Induction

/-!
# Delivery statistics are those of the log

The log of a ledger holds every recorded price with the answer it was given.  The last
answer with a summary cuts the log in two: counts and pauses are those of the batch
after the cut, but a pause may reach back across it.
-/

namespace IndexPrice.Delivery

structure Receipt where
  market : String
  price : Float
  time : Instant

structure Entry where
  receipt : Receipt
  answer : Option Summary

namespace Log

variable (start : Instant) (log : List Entry) (market : String)

/-! ## What a log says -/

/-- The entries of the batches that have been summed up. -/
def closed : List Entry := log.rdropWhile (·.answer.isNone)

/-- The entries since the last summary. -/
def batch : List Entry := log.rtakeWhile (·.answer.isNone)

/-- The time of the last summary, or of the start if there was none. -/
def lastSummary : Instant := ((closed log).getLast?.map (·.receipt.time)).getD start

def entriesOf : List Entry := log.filter (·.receipt.market = market)

def timesOf : List Instant := (entriesOf log market).map (·.receipt.time)

def pauses : Instant → List Instant → List Span
  | _, [] => []
  | last, time :: times => time.elapsed last :: pauses time times

/--
The longest pause of a market that ended since the last summary.  Its first price ever
ends a pause that began with the last summary before it, or with the start.
-/
def longestPause : Span :=
  (pauses ((timesOf (closed log) market).getLast?.getD (lastSummary start log))
    (timesOf (batch log) market)).foldl max 0

def statistics? : Option Statistics :=
  (entriesOf log market).getLast?.map fun last => {
    count := (entriesOf (batch log) market).length
    batchStart := lastSummary start log
    lastReceived := last.receipt.time
    lastPrice := last.receipt.price
    longestInterval := longestPause start log market }

def summaries : List Summary := log.filterMap (·.answer)

end Log

def Summary.countOf (summary : Summary) (market : String) : Nat :=
  (summary.filterMap fun entry => if entry.1 = market then some entry.2.count else none).sum

namespace Ledger

def countOf (ledger : Ledger) (market : String) : Nat :=
  ((ledger.markets.get? market).map (·.count)).getD 0

def after (ledger : Ledger) (receipts : List Receipt) : Ledger :=
  receipts.foldl (fun ledger receipt => (ledger.record receipt.market receipt.price receipt.time).2)
    ledger

def log : Ledger → List Receipt → List Entry
  | _, [] => []
  | ledger, receipt :: receipts =>
      let (answer, recorded) := ledger.record receipt.market receipt.price receipt.time
      ⟨receipt, answer⟩ :: log recorded receipts

theorem after_concat (ledger : Ledger) (receipts : List Receipt) (receipt : Receipt) :
    ledger.after (receipts ++ [receipt]) =
      ((ledger.after receipts).record receipt.market receipt.price receipt.time).2 := by
  simp [after]

theorem log_concat (ledger : Ledger) (receipts : List Receipt) (receipt : Receipt) :
    ledger.log (receipts ++ [receipt]) =
      ledger.log receipts ++
        [⟨receipt,
          ((ledger.after receipts).record receipt.market receipt.price receipt.time).1⟩] := by
  induction receipts generalizing ledger with
  | nil => rfl
  | cons first receipts ih => simp [log, ih, after]

private theorem receipts_log (ledger : Ledger) (receipts : List Receipt) :
    (ledger.log receipts).map (·.receipt) = receipts := by
  induction receipts generalizing ledger with
  | nil => rfl
  | cons first receipts ih => rw [log, List.map_cons, ih]

end Ledger

/-! ## One more entry -/

namespace Log

variable {start : Instant} {log : List Entry} {market : String}

private theorem closed_append_batch (log : List Entry) : closed log ++ batch log = log :=
  List.rdropWhile_append_rtakeWhile

@[simp] theorem closed_concat_open (log : List Entry) (receipt : Receipt) :
    closed (log ++ [⟨receipt, none⟩]) = closed log :=
  List.rdropWhile_concat_pos _ _ _ rfl

@[simp] theorem batch_concat_open (log : List Entry) (receipt : Receipt) :
    batch (log ++ [⟨receipt, none⟩]) = batch log ++ [⟨receipt, none⟩] :=
  List.rtakeWhile_concat_pos _ _ _ rfl

@[simp] theorem closed_concat_closing (log : List Entry) (receipt : Receipt) (summary : Summary) :
    closed (log ++ [⟨receipt, some summary⟩]) = log ++ [⟨receipt, some summary⟩] :=
  List.rdropWhile_concat_neg _ _ _ (by simp)

@[simp] theorem batch_concat_closing (log : List Entry) (receipt : Receipt) (summary : Summary) :
    batch (log ++ [⟨receipt, some summary⟩]) = [] :=
  List.rtakeWhile_concat_neg _ _ _ (by simp)

@[simp] theorem lastSummary_concat_open (start : Instant) (log : List Entry) (receipt : Receipt) :
    lastSummary start (log ++ [⟨receipt, none⟩]) = lastSummary start log := by
  rw [lastSummary, closed_concat_open, lastSummary]

@[simp] theorem lastSummary_concat_closing (start : Instant) (log : List Entry) (receipt : Receipt)
    (summary : Summary) :
    lastSummary start (log ++ [⟨receipt, some summary⟩]) = receipt.time := by
  simp [lastSummary]

theorem entriesOf_concat_self (log : List Entry) (entry : Entry) :
    entriesOf (log ++ [entry]) entry.receipt.market =
      entriesOf log entry.receipt.market ++ [entry] := by
  simp [entriesOf]

theorem entriesOf_concat_ne (log : List Entry) {entry : Entry}
    (ne : entry.receipt.market ≠ market) :
    entriesOf (log ++ [entry]) market = entriesOf log market := by
  simp [entriesOf, ne]

theorem entriesOf_split (log : List Entry) (market : String) :
    entriesOf log market = entriesOf (closed log) market ++ entriesOf (batch log) market := by
  rw [entriesOf, entriesOf, entriesOf, ← List.filter_append, closed_append_batch]

theorem pauses_concat (last : Instant) (times : List Instant) (time : Instant) :
    pauses last (times ++ [time]) =
      pauses last times ++ [time.elapsed (times.getLast?.getD last)] := by
  induction times generalizing last with
  | nil => rfl
  | cons first times ih =>
      rw [List.cons_append, pauses, ih, pauses, List.getLast?_cons]
      rfl

private theorem isSome_statistics? (start : Instant) (log : List Entry) (market : String) :
    (statistics? start log market).isSome = true ↔
      ∃ receipt ∈ log.map (·.receipt), receipt.market = market := by
  simp [statistics?, entriesOf]

private theorem timesOf_split (log : List Entry) (market : String) :
    timesOf log market = timesOf (closed log) market ++ timesOf (batch log) market := by
  rw [timesOf, entriesOf_split, List.map_append]
  rfl

private theorem longestPause_concat_self (start : Instant) (log : List Entry) (receipt : Receipt) :
    longestPause start (log ++ [⟨receipt, none⟩]) receipt.market =
      max (longestPause start log receipt.market)
        (receipt.time.elapsed
          ((timesOf log receipt.market).getLast?.getD (lastSummary start log))) := by
  have htimes : timesOf (batch log ++ [⟨receipt, none⟩]) receipt.market =
      timesOf (batch log) receipt.market ++ [receipt.time] := by
    rw [timesOf, entriesOf_concat_self _ ⟨receipt, none⟩, List.map_append]
    rfl
  rw [longestPause, closed_concat_open, batch_concat_open, lastSummary_concat_open, htimes,
    pauses_concat, List.foldl_append, timesOf_split log, List.getLast?_append, Option.getD_or]
  rfl

private theorem statistics?_concat_self (start : Instant) (log : List Entry) (receipt : Receipt) :
    statistics? start (log ++ [⟨receipt, none⟩]) receipt.market =
      some (((statistics? start log receipt.market).getD
        (.fresh (lastSummary start log) receipt.price)).receive receipt.price receipt.time) := by
  have hpause := longestPause_concat_self start log receipt
  rw [statistics?, entriesOf_concat_self _ ⟨receipt, none⟩, List.getLast?_concat, Option.map_some,
    batch_concat_open, entriesOf_concat_self _ ⟨receipt, none⟩, hpause, lastSummary_concat_open,
    statistics?]
  cases hlast : (entriesOf log receipt.market).getLast? with
  | none =>
      -- The first price of the market: its pause begins with the last summary.
      have hnone := List.getLast?_eq_none_iff.mp hlast
      have hsplit := entriesOf_split log receipt.market
      rw [hnone] at hsplit
      obtain ⟨hclosed, hbatch⟩ := List.append_eq_nil_iff.mp hsplit.symm
      simp [longestPause, timesOf, hnone, hclosed, hbatch, pauses, Statistics.fresh,
        Statistics.receive]
  | some last =>
      have htime : (timesOf log receipt.market).getLast? = some last.receipt.time := by
        rw [timesOf, List.getLast?_map, hlast, Option.map_some]
      simp [htime, Statistics.receive]

private theorem statistics?_concat_ne (start : Instant) (log : List Entry) {receipt : Receipt}
    (ne : receipt.market ≠ market) :
    statistics? start (log ++ [⟨receipt, none⟩]) market = statistics? start log market := by
  have hentries : ∀ entries : List Entry,
      entriesOf (entries ++ [⟨receipt, none⟩]) market = entriesOf entries market :=
    fun entries => entriesOf_concat_ne entries ne
  simp only [statistics?, longestPause, timesOf, hentries, closed_concat_open, batch_concat_open,
    lastSummary_concat_open]

private theorem statistics?_concat_closing (start : Instant) (log : List Entry) (receipt : Receipt)
    (summary : Summary) (market : String) :
    statistics? start (log ++ [⟨receipt, some summary⟩]) market =
      (statistics? start (log ++ [⟨receipt, none⟩]) market).map (·.restart receipt.time) := by
  simp only [statistics?, longestPause, timesOf, closed_concat_closing, batch_concat_closing,
    lastSummary_concat_closing, Option.map_map]
  by_cases heq : receipt.market = market
  · subst heq
    rw [entriesOf_concat_self _ ⟨receipt, none⟩, entriesOf_concat_self _ ⟨receipt, some summary⟩,
      List.getLast?_concat, List.getLast?_concat]
    rfl
  · rw [entriesOf_concat_ne _ heq, entriesOf_concat_ne _ heq]
    rfl

end Log

/-! ## The ledger of a log -/

namespace Ledger

/-- The ledger says of its markets what the log says. -/
structure Records (period : Span) (start : Instant) (ledger : Ledger) (log : List Entry) :
    Prop where
  period : ledger.period = period
  lastSummary : ledger.lastSummary = Log.lastSummary start log
  markets : ∀ market, ledger.markets.get? market = Log.statistics? start log market

variable {period : Span} {start : Instant} {ledger : Ledger} {log : List Entry}

private theorem records_create (period : Span) (start : Instant) :
    Records period start (create period start) [] :=
  ⟨rfl, rfl, fun _ => rfl⟩

theorem Records.receive (h : Records period start ledger log) (receipt : Receipt) :
    Records period start (ledger.receive receipt.market receipt.price receipt.time)
      (log ++ [⟨receipt, none⟩]) := by
  refine ⟨h.period, h.lastSummary.trans (by simp), fun market => ?_⟩
  rw [Ledger.receive, NameMap.get?_update]
  by_cases heq : receipt.market = market
  · subst heq
    rw [if_pos rfl, h.markets, h.lastSummary, Log.statistics?_concat_self]
  · rw [if_neg heq, h.markets, Log.statistics?_concat_ne start log heq]

private theorem Records.close {receipt : Receipt}
    (h : Records period start ledger (log ++ [⟨receipt, none⟩])) (summary : Summary) :
    Records period start (ledger.close receipt.time).2 (log ++ [⟨receipt, some summary⟩]) := by
  refine ⟨h.period, by simp [Ledger.close], fun market => ?_⟩
  rw [Ledger.close, NameMap.get?_map, h.markets, Log.statistics?_concat_closing]

theorem record_eq (ledger : Ledger) (receipt : Receipt) :
    let received := ledger.receive receipt.market receipt.price receipt.time
    ledger.record receipt.market receipt.price receipt.time =
      if ledger.isDue receipt.time then
        (some received.markets.entries, (received.close receipt.time).2)
      else (none, received) := by
  rfl

private theorem Records.record (h : Records period start ledger log) (receipt : Receipt) :
    let (answer, recorded) := ledger.record receipt.market receipt.price receipt.time
    Records period start recorded (log ++ [⟨receipt, answer⟩]) := by
  rw [record_eq]
  cases ledger.isDue receipt.time with
  | true => exact (h.receive receipt).close _
  | false => exact h.receive receipt

theorem records_after (period : Span) (start : Instant) (receipts : List Receipt) :
    Records period start ((create period start).after receipts)
      ((create period start).log receipts) := by
  induction receipts using List.reverseRecOn with
  | nil => exact records_create period start
  | append_singleton receipts receipt ih =>
      rw [after_concat, log_concat]
      exact ih.record receipt

theorem Records.isDue_iff (h : Records period start ledger log) (now : Instant) :
    ledger.isDue now = true ↔ (period : Int) < now.since (Log.lastSummary start log) := by
  rw [isDue, decide_eq_true_iff, h.period, h.lastSummary, Instant.elapsed, Int.lt_toNat]

private theorem Records.countOf_eq (h : Records period start ledger log) (market : String) :
    ledger.countOf market = (Log.entriesOf (Log.batch log) market).length := by
  rw [countOf, h.markets, Log.statistics?]
  cases hlast : (Log.entriesOf log market).getLast? with
  | some last => rfl
  | none =>
      have hsplit := Log.entriesOf_split log market
      rw [List.getLast?_eq_none_iff.mp hlast] at hsplit
      rw [(List.append_eq_nil_iff.mp hsplit.symm).2]
      rfl

private theorem countOf_entries (ledger : Ledger) (market : String) :
    Summary.countOf ledger.markets.entries market = ledger.countOf market := by
  rw [Summary.countOf, NameMap.filterMap_entries ledger.markets market fun s => some s.count,
    countOf]
  cases ledger.markets.get? market <;> rfl

end Ledger

/-! ## All prices are accounted for -/

namespace Log

/-- What the summaries of a log and the batch after them count. -/
def counted (log : List Entry) (market : String) : Nat :=
  ((summaries log).map (·.countOf market)).sum + (entriesOf (batch log) market).length

theorem summaries_concat (log : List Entry) (entry : Entry) :
    summaries (log ++ [entry]) = summaries log ++ entry.answer.toList := by
  rw [summaries, List.filterMap_append]
  cases hanswer : entry.answer <;> simp [summaries, hanswer]

private theorem counted_concat_open (log : List Entry) (receipt : Receipt) (market : String) :
    counted (log ++ [⟨receipt, none⟩]) market =
      counted log market + if receipt.market = market then 1 else 0 := by
  rw [counted, summaries_concat, batch_concat_open, counted]
  split
  · next heq =>
      subst heq
      rw [entriesOf_concat_self _ ⟨receipt, none⟩]
      simp [Nat.add_assoc]
  · next hne =>
      rw [entriesOf_concat_ne _ hne]
      simp

private theorem counted_concat_closing (log : List Entry) (receipt : Receipt) {summary : Summary}
    {market : String}
    (h : summary.countOf market = (entriesOf (batch (log ++ [⟨receipt, none⟩])) market).length) :
    counted (log ++ [⟨receipt, some summary⟩]) market =
      counted (log ++ [⟨receipt, none⟩]) market := by
  rw [counted, counted, summaries_concat, summaries_concat, batch_concat_closing, ← h]
  simp [entriesOf]

end Log

namespace Ledger

private theorem counted_log (period : Span) (start : Instant) (receipts : List Receipt)
    (market : String) :
    Log.counted ((create period start).log receipts) market =
      receipts.countP (·.market = market) := by
  induction receipts using List.reverseRecOn with
  | nil => rfl
  | append_singleton receipts receipt ih =>
      have hrecords := records_after period start receipts
      rw [log_concat, List.countP_append, List.countP_singleton, ← ih, record_eq]
      have hopen := Log.counted_concat_open ((create period start).log receipts) receipt market
      cases ((create period start).after receipts).isDue receipt.time with
      | false => simpa using hopen
      | true =>
          -- The closing summary takes over the count of the batch, this price included.
          have hcount := (hrecords.receive receipt).countOf_eq market
          rw [← countOf_entries] at hcount
          rw [if_pos rfl, Log.counted_concat_closing _ _ hcount]
          simpa using hopen

/--
The statistics of a ledger are conserved across its summaries, for any prices of any
markets at any times, in order or not.  What the summaries so far and the ledger count
of a market is the number of its prices.  A price closes a summary exactly if it comes
more than the period after the summary before it, or after the start.  The summary
lists the markets that had a price so far, that one included, each once and in
ascending order.  And what it and the ledger say of a market is what the log says: so
its longest interval is the longest pause of the market that ended since the summary
before.
-/
theorem deliveries_accounted (period : Span) (start : Instant) (receipts : List Receipt) :
    let ledger := (create period start).after receipts
    let log := (create period start).log receipts
    (∀ market,
      ((Log.summaries log).map (·.countOf market)).sum + ledger.countOf market =
        receipts.countP (·.market = market)) ∧
    (∀ market, ledger.markets.get? market = Log.statistics? start log market) ∧
    ∀ receipt,
      let answer := (ledger.record receipt.market receipt.price receipt.time).1
      (answer.isSome = true ↔
        (period : Int) < receipt.time.since (Log.lastSummary start log)) ∧
      ∀ summary, answer = some summary →
        (summary.map (·.1)).Pairwise (· < ·) ∧
        (∀ market, market ∈ summary.map (·.1) ↔
          ∃ given ∈ receipts ++ [receipt], given.market = market) ∧
        ∀ entry ∈ summary,
          some entry.2 = Log.statistics? start (log ++ [⟨receipt, none⟩]) entry.1 := by
  intro ledger log
  have hrecords : Records period start ledger log := records_after period start receipts
  refine ⟨fun market => ?_, hrecords.markets, fun receipt => ?_⟩
  · rw [hrecords.countOf_eq]
    exact counted_log period start receipts market
  · have hreceived := hrecords.receive receipt
    intro answer
    have hanswer : answer =
        if ledger.isDue receipt.time then
          some (ledger.receive receipt.market receipt.price receipt.time).markets.entries
        else none := by
      simp only [answer, record_eq]
      split <;> rfl
    refine ⟨?_, fun summary hsummary => ?_⟩
    · rw [← hrecords.isDue_iff, hanswer]
      cases ledger.isDue receipt.time <;> simp
    · rw [hanswer, Option.ite_none_right_eq_some, Option.some.injEq] at hsummary
      obtain ⟨-, rfl⟩ := hsummary
      refine ⟨NameMap.names_pairwise _, fun market => ?_, fun entry hentry => ?_⟩
      · have hlisted := NameMap.mem_names_iff
          (ledger.receive receipt.market receipt.price receipt.time).markets market
        rw [hreceived.markets, Log.isSome_statistics?, List.map_append, receipts_log] at hlisted
        exact hlisted
      · rw [← hreceived.markets]
        exact ((NameMap.mem_entries_iff _ _ _).mp hentry).symm

end Ledger

end IndexPrice.Delivery
