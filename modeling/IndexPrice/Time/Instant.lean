/-!
# Instants and spans

An `Instant` is a point of UTC time: whole seconds since the epoch and
nanoseconds within the second.  Nanoseconds of a thousand million or more denote
the leap second that follows a second of `:59`.  A `Span` is a length of time in
nanoseconds, at most `Span.longest`.
-/

namespace IndexPrice

/-! ## Spans -/

/-- A length of time in nanoseconds. -/
abbrev Span := Nat

namespace Span

def nanosPerSecond : Nat := 1000000000

def ofSeconds (seconds : Nat) : Span := seconds * nanosPerSecond

def ofMillis (millis : Nat) : Span := millis * 1000000

/-- The longest span: seconds fit in sixty-four bits. -/
def longest : Span := Nat.pow 2 64 * nanosPerSecond - 1

def seconds (span : Span) : Nat := span / nanosPerSecond

def subsecond (span : Span) : Nat := span % nanosPerSecond

/-- Three times a span, unless that is longer than the longest span. -/
def triple? (span : Span) : Option Span :=
  if 3 * span ≤ longest then some (3 * span) else none

def double (span : Span) : Span := min (2 * span) longest

end Span

/-! ## Instants -/

structure Instant where
  seconds : Int
  nanos : Nat
  deriving DecidableEq, Repr

namespace Instant

def epoch : Instant := ⟨0, 0⟩

/-- The first and the last second of the calendar. -/
def firstSecond : Int := -8334601228800

def lastSecond : Int := 8210266876799

/-- The instant at that many seconds and nanoseconds, if the calendar holds it. -/
def ofSeconds? (seconds : Int) (nanos : Nat) : Option Instant :=
  if firstSecond ≤ seconds ∧ seconds ≤ lastSecond then some ⟨seconds, nanos⟩ else none

def ofMillis? (millis : Int) : Option Instant :=
  ofSeconds? (millis.fdiv 1000) ((millis.fmod 1000).toNat * 1000000)

/-- Instants follow one another by seconds, then by nanoseconds. -/
def before (a b : Instant) : Bool :=
  decide (a.seconds < b.seconds ∨ (a.seconds = b.seconds ∧ a.nanos < b.nanos))

def earliest (a b : Instant) : Instant := if b.before a then b else a

def latest (a b : Instant) : Instant := if a.before b then b else a

def secondOfDay (t : Instant) : Nat := (t.seconds.fmod 86400).toNat

def inLeapSecond (t : Instant) : Bool := decide (Span.nanosPerSecond ≤ t.nanos)

/--
The signed nanoseconds from `b` to `a`.  A leap second on one side counts when the
other side is at a later second of its day.
-/
def since (a b : Instant) : Int :=
  let leap :=
    if b.secondOfDay < a.secondOfDay && b.inLeapSecond then 1
    else if a.secondOfDay < b.secondOfDay && a.inLeapSecond then -1
    else 0
  (a.seconds - b.seconds + leap) * Span.nanosPerSecond + (a.nanos - b.nanos : Int)

/-- The time passed from `start` to `now`, zero if `start` lies ahead. -/
def elapsed (now start : Instant) : Span := (now.since start).toNat

end Instant

end IndexPrice
