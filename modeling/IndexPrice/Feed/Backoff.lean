import IndexPrice.Time.Instant

/-!
# Dial backoff

The schedule of one reconnect: a failed dial is followed by a delay, each delay
is twice the one before, and after `maxAttempts` failures there are no more.
-/

namespace IndexPrice.Feed

structure Backoff where
  nextDelay : Span
  maxAttempts : Nat
  failures : Nat := 0
  deriving DecidableEq, Repr

def Backoff.recordFailure (b : Backoff) : Option Span × Backoff :=
  let counted := { b with failures := b.failures + 1 }
  if b.maxAttempts ≤ counted.failures then (none, counted)
  else (some b.nextDelay, { counted with nextDelay := b.nextDelay.double })

def Backoff.run (b : Backoff) : Nat → List (Option Span × Backoff)
  | 0 => []
  | calls + 1 => b.recordFailure :: run b.recordFailure.2 calls

end IndexPrice.Feed
