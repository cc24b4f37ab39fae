import CandleFeed.Decimal.Binary64
import CandleFeed.Storage.Table

/-!
# Metrics

What a run counts.  A **`Counter`** is one thing that is counted, with the labels that tell its
samples apart; **`Metrics`** holds the counts and two gauges, the state of the connection and the
number of subscriptions.

**`Metrics.samples`** lists what has moved, under the names of the text format that monitoring
systems read.  There, **`Metrics.header`** gives the lines that describe families of samples, and
**`Metrics.text`** is all there is to read.
-/

namespace CandleFeed

/-- One thing that is counted. -/
inductive Counter where
  /-- Ticks of an exchange. -/
  | ticks (exchange : String)
  /-- Payloads dropped for a reason. -/
  | dropped (reason : String)
  /-- Heartbeats sent back. -/
  | heartbeats
  /-- Attempts made after a failure. -/
  | reconnects
  /-- Bars of a granularity closed for a reason. -/
  | bars (granularity reason : String)
  /-- Bars that were not written. -/
  | sinkFailures
  /-- Writes to the cache that failed, by what was written. -/
  | cacheFailures (kind : String)
deriving DecidableEq, Repr

/-- A family of samples. -/
inductive Family where
  | ticks | dropped | heartbeats | reconnects | bars | sinkFailures | cacheFailures
  | connectionState | subscribed
deriving DecidableEq, Repr

namespace Family

/-- All families, by name. -/
def all : List Family :=
  [bars, cacheFailures, connectionState, heartbeats, dropped, reconnects, sinkFailures,
    subscribed, ticks]

/-- The name of a family. -/
def name : Family → String
  | ticks => "quotebar_ticks_total"
  | dropped => "quotebar_payloads_dropped_total"
  | heartbeats => "quotebar_heartbeats_echoed_total"
  | reconnects => "quotebar_reconnect_attempts_total"
  | bars => "quotebar_bars_emitted_total"
  | sinkFailures => "quotebar_sink_failures_total"
  | cacheFailures => "quotebar_cache_failures_total"
  | connectionState => "quotebar_connection_state"
  | subscribed => "quotebar_subscribed_instruments"

/-- What a family counts. -/
def help : Family → String
  | ticks => "Ticks dispatched to the cache and the bar engine"
  | dropped => "Decoded payloads dropped without producing a tick"
  | heartbeats => "Provider heartbeats echoed back"
  | reconnects => "Connection attempts made after a failure"
  | bars => "Completed bars handed to the sink"
  | sinkFailures => "Bar upserts that returned an error"
  | cacheFailures => "Cache writes that returned an error"
  | connectionState =>
    "Protocol client state (0=disconnected 1=connecting 2=connected 3=resubscribing 4=running " ++
      "5=backing_off 6=closed)"
  | subscribed => "Instruments in the subscription registry"

/-- The family's samples go up and down. -/
def isGauge : Family → Bool
  | connectionState => true
  | subscribed => true
  | _ => false

/-- The two lines that describe a family. -/
def header (f : Family) : List String :=
  ["# HELP " ++ f.name ++ " " ++ f.help,
    "# TYPE " ++ f.name ++ (if f.isGauge then " gauge" else " counter")]

end Family

namespace Counter

/-- The family of a counter. -/
def family : Counter → Family
  | ticks _ => .ticks
  | dropped _ => .dropped
  | heartbeats => .heartbeats
  | reconnects => .reconnects
  | bars _ _ => .bars
  | sinkFailures => .sinkFailures
  | cacheFailures _ => .cacheFailures

/-- The labels of a counter, by name. -/
def labels : Counter → List (String × String)
  | ticks exchange => [("exchange", exchange)]
  | dropped reason => [("reason", reason)]
  | bars granularity reason => [("granularity", granularity), ("reason", reason)]
  | cacheFailures kind => [("kind", kind)]
  | _ => []

/-- A label's value as it stands between quotes. -/
def labelText (value : String) : String :=
  String.ofList (value.toList.flatMap fun c =>
    match c with
    | '\\' => ['\\', '\\']
    | '"' => ['\\', '"']
    | '\n' => ['\\', 'n']
    | c => [c])

/-- The name of a counter's sample. -/
def name (c : Counter) : String :=
  if c.labels.isEmpty then c.family.name
  else
    let pairs := c.labels.map fun (k, v) => k ++ "=\"" ++ labelText v ++ "\""
    c.family.name ++ "\x7b" ++ ",".intercalate pairs ++ "\x7d"

end Counter

/-- The counts of a run. -/
structure Metrics where
  /-- The counters that have moved. -/
  counters : Table Counter Nat
  /-- The state of the connection. -/
  connectionState : Int
  /-- The number of subscriptions. -/
  subscribed : Int

namespace Metrics

/-- Before a run. -/
def zero : Metrics := ⟨.empty, 0, 0⟩

/-- The count of a counter. -/
def get (m : Metrics) (c : Counter) : Nat := (m.counters.get? c).getD 0

/-- Counts one more. -/
def count (m : Metrics) (c : Counter) : Metrics :=
  { m with counters := m.counters.insert c (m.get c + 1) }

/-- Counts one more on each counter. -/
def countAll (m : Metrics) (cs : List Counter) : Metrics := cs.foldl count m

/-- The connection is in a state. -/
def setConnectionState (m : Metrics) (code : Int) : Metrics := { m with connectionState := code }

/-- There are so many subscriptions; the gauge holds 64 bits with a sign. -/
def setSubscribed (m : Metrics) (count : Nat) : Metrics :=
  { m with subscribed := Int.bmod count (Nat.pow 2 64) }

/-- A gauge as it is shown: samples are floating-point values, so a whole number of more than 53
bits is rounded. -/
def shown (n : Int) : Int := (Binary64.ofFloat (Float.ofInt n)).truncate

/-- What has moved, by the names of the samples, as far as 64 bits with a sign can hold it. -/
def samples (m : Metrics) : List (String × Int) :=
  let gauges := [(Family.connectionState.name, m.connectionState),
    (Family.subscribed.name, m.subscribed)]
  (m.counters.entries.map fun (c, n) => (c.name, (n : Int))) ++
    (gauges.filter (·.2 != 0)).map fun (name, n) => (name, min (shown n) (Nat.pow 2 63 - 1 : Nat))

/-- The samples of a family. -/
def samplesOf (m : Metrics) (f : Family) : List (String × Int) :=
  match f with
  | .connectionState => [(f.name, shown m.connectionState)]
  | .subscribed => [(f.name, shown m.subscribed)]
  | f =>
    let mine := m.counters.entries.filter fun e => e.1.family == f
    (mine.map fun (c, n) => (c.name, (n : Int))).mergeSort fun a b => a.1 ≤ b.1

/-- The lines of a family, if it has samples. -/
def linesOf (m : Metrics) (f : Family) : List String :=
  match m.samplesOf f with
  | [] => []
  | samples => f.header ++ samples.map fun (name, n) => name ++ " " ++ toString n

/-- All samples in the text format, each line ended. -/
def text (m : Metrics) : String :=
  String.join ((Family.all.flatMap m.linesOf).map (· ++ "\n"))

/-- The lines that describe families, each once, by name. -/
def header (families : List Family) : List String :=
  (Family.all.filter families.contains).flatMap Family.header

end Metrics

end CandleFeed
