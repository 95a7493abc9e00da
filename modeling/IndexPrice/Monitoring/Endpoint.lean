import IndexPrice.Metrics.Exposition
import IndexPrice.Monitoring.Target

/-!
# The monitoring endpoint

Three pages answer to probes: `/live` always, `/ready` while markets are being
priced, and `/metrics` with the text of the metrics.  Pages answer to `GET` and, with
an empty body, to `HEAD`.
-/

namespace IndexPrice.Monitoring

structure Reply where
  status : Nat
  body : String
  deriving DecidableEq, Repr

def page? (ready : Bool) (metrics : Metrics) (path : String) : Option Reply :=
  match path with
  | "/live" => some ⟨200, "OK"⟩
  | "/ready" => some (if ready then ⟨200, "READY"⟩ else ⟨503, "NOT READY"⟩)
  | "/metrics" => some ⟨200, metrics.text⟩
  | _ => none

def reply (ready : Bool) (metrics : Metrics) (method target : String) : Reply :=
  match (path? target).bind (page? ready metrics) with
  | none => ⟨404, ""⟩
  | some reply =>
    match method with
    | "GET" => reply
    | "HEAD" => { reply with body := "" }
    | _ => ⟨405, ""⟩

end IndexPrice.Monitoring
