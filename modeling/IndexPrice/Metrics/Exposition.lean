import IndexPrice.Decimal.Layout
import IndexPrice.Metrics.Basic

/-!
# The text of the metrics

Metrics are exposed as text.  A family of series starts with two comment lines, for
its meaning and its kind; then there is one line for each series, with its labels
and its value.  Families are in order of their names, series in order of their label
values.  A family without series is left out.
-/

namespace IndexPrice.Metrics

/-- Label values are quoted; a line break inside one is written as `\n`. -/
def escaped : List Char → List Char
  | [] => []
  | '\\' :: rest => '\\' :: '\\' :: escaped rest
  | '"' :: rest => '\\' :: '"' :: escaped rest
  | '\n' :: rest => '\\' :: 'n' :: escaped rest
  | c :: rest => c :: escaped rest

abbrev Labels := List (String × String)

def labelText (label : String × String) : String :=
  label.1 ++ "=\"" ++ String.ofList (escaped label.2.toList) ++ "\""

structure Family where
  name : String
  help : String
  kind : String
  series : List (Labels × String)

namespace Family

def gauge (name help label : String) (values : NameMap Float) : Family where
  name := name
  help := help
  kind := "gauge"
  series := values.entries.map fun (value, x) => ([(label, value)], Decimal.plain x)

def counter (name help label : String) (counts : Counts) : Family where
  name := name
  help := help
  kind := "counter"
  series := counts.entries.map fun (value, n) => ([(label, value)], toString n)

def counterByReason (name help label : String) (counts : NameMap Counts) : Family where
  name := name
  help := help
  kind := "counter"
  series := counts.entries.flatMap fun (value, reasons) =>
    reasons.entries.map fun (reason, n) => ([(label, value), ("reason", reason)], toString n)

def lines (family : Family) : List String :=
  family.series.map fun (labels, value) =>
    family.name ++ "\x7b" ++ String.intercalate "," (labels.map labelText) ++ "\x7d " ++ value

def header (family : Family) : List String :=
  ["# HELP " ++ family.name ++ " " ++ family.help, "# TYPE " ++ family.name ++ " " ++ family.kind]

def text (family : Family) : String :=
  if family.series.isEmpty then ""
  else String.join ((family.header ++ family.lines).map (· ++ "\n"))

end Family

def families (m : Metrics) : List Family := [
  .gauge "oracle_feed_connected" "Feed connection status (1=connected, 0=disconnected)"
    "exchange" m.connected,
  .counter "oracle_forced_acceptances_total"
    "Prices accepted after too many consecutive rejections" "market_id" m.forcedAcceptances,
  .gauge "oracle_index_price" "Last published index price" "market_id" m.indexPrices,
  .counterByReason "oracle_reconnects_total" "Streaming reconnects started"
    "exchange" m.reconnects,
  .counter "oracle_rest_read_failures_total" "Abandoned REST price reads"
    "exchange" m.readFailures,
  .counter "oracle_samples_stored_total" "Price samples stored per exchange"
    "exchange" m.storedSamples,
  .counter "oracle_sink_failures_total" "Failed price sink calls" "market_id" m.sinkFailures,
  .counter "oracle_ticks_accepted_total" "Ticks with an accepted price"
    "market_id" m.acceptedTicks,
  .counterByReason "oracle_ticks_rejected_total" "Ticks rejected by consensus"
    "market_id" m.rejectedTicks]

def seriesLines (m : Metrics) : List String := m.families.flatMap Family.lines

def text (m : Metrics) : String := String.join (m.families.map Family.text)

end IndexPrice.Metrics
