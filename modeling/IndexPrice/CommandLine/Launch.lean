import IndexPrice.Config.Validation
import IndexPrice.Exchange.Sources
import IndexPrice.Log.Filter
import IndexPrice.Monitoring.Address

/-!
# Launching the program

The program reads the configuration named by its first argument, starts pricing and
runs until it is interrupted.  Here is all that does not depend on how long it runs:
what stops it from starting, and what it logs.
-/

namespace IndexPrice.CommandLine

open Log

def programName : String := "market-price-oracle"

def logTarget : String := "market_price_oracle"

def defaultPath : String := "config.toml"

def configPath (arguments : List String) : String := arguments.headD defaultPath

inductive LaunchFault where
  | config (fault : ConfigFault)
  /-- The filter of the log cannot be read to its end. -/
  | logFilter
  | start (fault : Pricing.StartFault Feed.Poll.BuildFault)

def LaunchFault.message : LaunchFault → String
  | .config fault => "Failed to load configuration: " ++ fault.message
  | .logFilter => "Failed to read the log filter: " ++ DirectiveFault.partedCharacter.message
  | .start fault =>
    "Failed to start pricing: " ++ fault.message Feed.Poll.BuildFault.message

def report (message : String) : String := programName ++ ": " ++ message

def LaunchFault.report (fault : LaunchFault) : List String :=
  match fault with
  | .logFilter => ["", CommandLine.report fault.message]
  | _ => [CommandLine.report fault.message]

/-! ## Log -/

def starting : Record :=
  ⟨.info, "Starting market price oracle", ["name", "version", "markets", "config"]⟩

def running : Record := ⟨.info, "All tasks spawned, oracle is running", ["markets"]⟩

def interrupted : Record := ⟨.info, "SIGINT received, initiating graceful shutdown", []⟩

def finished : Record := ⟨.info, "Shutdown complete", []⟩

def failed : Record := ⟨.error, "Oracle stopped with error", ["error"]⟩

def monitoringFailed : Record := ⟨.error, "Health server failed", ["error"]⟩

/-! ## Launch -/

/-- A launch: the configuration if there is one, and the pricing that runs or the fault. -/
structure Launch where
  config : Option Config
  outcome : Except LaunchFault Pricing.Schedule

def launch (arguments : List String) (read : String → Option String)
    (environment : Config.Environment) (clock : Span) : Launch :=
  let path := configPath arguments
  match Config.load path (read path) environment with
  | .error fault => ⟨none, .error (.config fault)⟩
  | .ok config =>
    if Filter.partsCharacter config.service.logLevel then ⟨some config, .error .logFilter⟩
    else ⟨some config, (Pricing.start config Exchange.source clock).mapError .start⟩

namespace Launch

/-- The filter of the log; nothing is logged before there is a configuration. -/
def filter (launch : Launch) : Filter :=
  match launch.config with
  | some config => Filter.read config.service.logLevel
  | none => []

def monitoringFails (launch : Launch) : Bool :=
  match launch.config with
  | some config =>
    config.monitoring.enabled && !Monitoring.canListen config.monitoring.bindAddress
  | none => false

def openingLog (launch : Launch) : List Record :=
  let records :=
    match launch.outcome with
    | .error .logFilter => []
    | .error _ => [starting, failed]
    | .ok _ => [starting, running] ++ if launch.monitoringFails then [monitoringFailed] else []
  records.filter (launch.filter.passes logTarget)

def runs (launch : Launch) : Bool :=
  match launch.outcome with
  | .error _ => false
  | .ok _ => true

def isUnscheduled (launch : Launch) : Bool :=
  match launch.outcome with
  | .error _ => false
  | .ok schedule => schedule.system.isUnscheduled

def closingLog (launch : Launch) : List Record :=
  let last := if launch.isUnscheduled then failed else finished
  [interrupted, last].filter (launch.filter.passes logTarget)

def errorLines (launch : Launch) : List String :=
  let warnings :=
    match launch.config with
    | some config => Filter.warnings config.service.logLevel
    | none => []
  match launch.outcome with
  | .error fault => warnings ++ fault.report
  | .ok _ =>
    if launch.isUnscheduled then warnings ++ ["", report "Aggregator task panicked"]
    else warnings

def exitCode (launch : Launch) : Nat :=
  match launch.outcome with
  | .error .logFilter => 101
  | .error _ => 1
  | .ok _ => if launch.isUnscheduled then 1 else 0

end Launch

end IndexPrice.CommandLine
