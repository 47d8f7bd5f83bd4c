import ProxyLink.Property
import ProxyLink.Text.Shortest

/-!
# Metrics

Counters of the traffic of a peer, and a histogram of how long its requests waited.
-/

namespace ProxyLink

/-- A span as a number of seconds. -/
def Duration.toFloat (d : Duration) : Float :=
  d.seconds.toUInt64.toFloat + d.subsecond.toUInt64.toFloat / 1e9

/-- How often values fell within each of some bounds. The numbers of values are unbounded here: 2⁶⁴
of them are taken never to be observed. -/
structure Histogram where
  count : Nat
  sum : Float
  /-- Each upper bound, in ascending order, with the number of values that are at most as great and
  greater than the bound before. -/
  buckets : List (Float × Nat)

namespace Histogram

def empty : Histogram where
  count := 0
  sum := 0
  buckets := [0.005, 0.01, 0.025, 0.05, 0.1, 0.25, 0.5, 1, 2.5, 5, 10].map fun bound => (bound, 0)

/-- Counts a value in the first bucket whose bound it does not exceed. -/
def countIn (value : Float) : List (Float × Nat) → List (Float × Nat)
  | [] => []
  | (bound, n) :: rest =>
    if value ≤ bound then (bound, n + 1) :: rest else (bound, n) :: countIn value rest

def observe (h : Histogram) (value : Float) : Histogram :=
  ⟨h.count + 1, h.sum + value, countIn value h.buckets⟩

/-- Each bound with the number of values that do not exceed it, given those counted before. -/
def accumulate (before : Nat) : List (Float × Nat) → List (Float × Nat)
  | [] => []
  | (bound, n) :: rest => (bound, before + n) :: accumulate (before + n) rest

/-- Each bound with the number of values that do not exceed it. -/
def cumulative (h : Histogram) : List (Float × Nat) := accumulate 0 h.buckets

/-- A number in a report: below a ten-thousandth and from ten to the sixteenth on it is shown with a
power of ten. -/
def number (x : Float) : String := Shortest.text (-4) 16 x

end Histogram

/-- What is measured. The numbers of frames are unbounded here. They are taken to stay below 2⁵³, up
to which an exporter that keeps them as floats has them exactly. -/
structure Metrics where
  sent : Nat
  received : Nat
  orphaned : Nat
  rejected : Nat
  latency : Histogram

/-- What one metric has come to. -/
inductive Reading where
  | counter (n : Nat)
  | histogram (h : Histogram)

/-- One metric in a report. -/
structure MetricReport where
  name : String
  help : String
  reading : Reading

namespace Metrics

def empty : Metrics := ⟨0, 0, 0, 0, .empty⟩

def countSent (m : Metrics) : Metrics := { m with sent := m.sent + 1 }

def countReceived (m : Metrics) : Metrics := { m with received := m.received + 1 }

/-- One more reply that nobody waited for. -/
def countOrphaned (m : Metrics) : Metrics := { m with orphaned := m.orphaned + 1 }

/-- One more frame that could not be decoded. -/
def countRejected (m : Metrics) : Metrics := { m with rejected := m.rejected + 1 }

/-- One more request that was answered after some time. -/
def observeLatency (m : Metrics) (elapsed : Duration) : Metrics :=
  { m with latency := m.latency.observe elapsed.toFloat }

/-- Every metric with its name and what it means. -/
def report (m : Metrics) : List MetricReport :=
  [⟨"proxy_messages_sent_total", "Frames handed to the transport", .counter m.sent⟩,
    ⟨"proxy_messages_received_total", "Frames decoded from the transport", .counter m.received⟩,
    ⟨"proxy_orphan_replies_total", "Replies whose request id had no pending entry",
      .counter m.orphaned⟩,
    ⟨"proxy_frames_rejected_total", "Frames that failed to decode", .counter m.rejected⟩,
    ⟨"proxy_request_latency_seconds", "Time between sending a request and receiving its reply",
      .histogram m.latency⟩]

end Metrics

/-- The metrics under these names are reported already. -/
structure NamesTaken where

def NamesTaken.message (_ : NamesTaken) : String :=
  "Duplicate metrics collector registration attempted"

/-- Metrics to report, beside those reported so far; a report has them once. -/
def Metrics.register : Option Metrics → Except NamesTaken Metrics
  | none => .ok .empty
  | some _ => .error {}

end ProxyLink
