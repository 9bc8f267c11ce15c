import LoadBench.Json.Decode

/-! What a trial measured, and its JSON form. -/
namespace LoadBench

/-- The counters of one port: rates sent and received, and the latency of what was received. -/
structure PortStatistics where
  portId : UInt32
  txL1Bps : Binary64
  txL2Bps : Binary64
  txPps : Binary64
  rxL1Bps : Binary64
  rxL2Bps : Binary64
  rxPps : Binary64
  latencyMin : Binary64
  latencyMax : Binary64
  latencyAvg : Binary64
  deriving DecidableEq, Repr

/-- A trial passed or not, with the counters of its ports. The empty result that did not pass
stands for no result. -/
structure TrialResult where
  pass : Bool := false
  stats : List PortStatistics := []
  deriving DecidableEq, Repr

namespace PortStatistics

/-- The counters from nine numbers in order. -/
def ofCounters? (portId : UInt32) : List Binary64 → Option PortStatistics
  | [a, b, c, d, e, f, g, h, i] => some ⟨portId, a, b, c, d, e, f, g, h, i⟩
  | _ => none

def counters (s : PortStatistics) : List Binary64 :=
  [s.txL1Bps, s.txL2Bps, s.txPps, s.rxL1Bps, s.rxL2Bps, s.rxPps, s.latencyMin, s.latencyMax,
    s.latencyAvg]

def counterNames : List String :=
  ["tx_l1_bps", "tx_l2_bps", "tx_pps", "rx_l1_bps", "rx_l2_bps", "rx_pps", "rx_latency_min",
    "rx_latency_max", "rx_latency_avg"]

def json (s : PortStatistics) : Json.Tree :=
  .record (("port_id", .ofNat s.portId.toNat) :: counterNames.zip (s.counters.map .ofFloat))

def ofJson? (t : Json.Tree) : Option PortStatistics := do
  let field ← t.record? ("port_id" :: counterNames)
  let portId ← (← field "port_id").uint32?
  ofCounters? portId (← counterNames.mapM fun name => (field name).bind Json.Tree.float?)

end PortStatistics

namespace TrialResult

def isEmpty (r : TrialResult) : Bool := r.stats.isEmpty

/-- The counters of a port. -/
def port? (r : TrialResult) (portId : UInt32) : Option PortStatistics :=
  r.stats.find? fun s => s.portId == portId

def json (r : TrialResult) : Json.Tree :=
  .record [("pass", .bool r.pass), ("stats", .array (r.stats.map PortStatistics.json))]

def ofJson? (t : Json.Tree) : Option TrialResult := do
  let field ← t.record? ["pass", "stats"]
  return {
    pass := ← (← field "pass").bool?
    stats := ← (← field "stats").list? PortStatistics.ofJson? }

end TrialResult
end LoadBench
