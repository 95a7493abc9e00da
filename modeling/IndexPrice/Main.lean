import IndexPrice.CommandLine.Launch
import IndexPrice.Json.Printer
import Std.Async.Signal

/-!
# The command line

The outer layer: reading files, the environment and the clock, printing, and waiting
for the interrupt.
-/

namespace IndexPrice.CommandLine

open Json

def readText? (path : String) : IO (Option String) := do
  try return some (← IO.FS.readFile path) catch _ => return none

def printRecord (record : Log.Record) : IO Unit := do
  let value := Value.object [
    ("level", .string record.level.name),
    ("fields", .object [("message", .string record.message)]),
    ("target", .string logTarget)]
  IO.println value.print

/-- Offers every published price to nobody: there is no consumer beside the log. -/
def logOnly : Pricing.Sink := fun _ => .delivered

partial def serve (schedule : Pricing.Schedule) (interrupt : BaseIO Bool) : IO Unit := do
  if ← interrupt then return
  IO.sleep 100
  let time ← Std.Time.Timestamp.now
  let now : Instant := ⟨time.toSecondsSinceUnixEpoch.val, 0⟩
  serve (schedule.advance logOnly (Span.ofMillis 100) now).2 interrupt

end IndexPrice.CommandLine

open IndexPrice.CommandLine in
def main (arguments : List String) : IO UInt32 := do
  let path := configPath arguments
  let text ← readText? path
  let coinGecko ← IO.getEnv "COINGECKO_API_KEY"
  let coinMarketCap ← IO.getEnv "COINMARKETCAP_API_KEY"
  let environment := fun name =>
    match name with
    | "COINGECKO_API_KEY" => coinGecko
    | "COINMARKETCAP_API_KEY" => coinMarketCap
    | _ => none
  let clock ← IO.monoNanosNow
  let launch := launch arguments (fun _ => text) environment clock
  launch.openingLog.forM printRecord
  launch.errorLines.forM IO.eprintln
  match launch.outcome with
  | .error _ => pure ()
  | .ok schedule =>
    let waiter ← Std.Async.Signal.Waiter.mk .sigint false
    let signal ← waiter.wait
    serve schedule (IO.hasFinished signal)
    launch.closingLog.forM printRecord
  return UInt32.ofNat launch.exitCode
