import LoadBench.File
import LoadBench.Trial.Result
import LoadBench.Text.Natural

/-! The artifact that the generator writes, and the result of its latest trial. -/
namespace LoadBench

inductive StatisticsFault
  | portOutOfRange
  | malformed
  deriving DecidableEq, Repr

/-- Why an artifact gives no result. -/
inductive ArtifactError
  | missing (path : String)
  | unreadable (path : String)
  | malformed
  | noTrials
  | missingField (name : String)
  | badStatistics (port : String) (fault : StatisticsFault)
  deriving DecidableEq, Repr

def StatisticsFault.message : StatisticsFault → String
  | .portOutOfRange => "port id out of range"
  | .malformed => Fault.json.text

def ArtifactError.message : ArtifactError → String
  | .missing path => s!"result artifact {path} does not exist"
  | .unreadable path => s!"result artifact {path} unreadable: {Fault.io.text}"
  | .malformed => s!"result artifact is malformed: {Fault.json.text}"
  | .noTrials => "result artifact contains no trials"
  | .missingField name => s!"latest trial has no `{name}` field"
  | .badStatistics port fault => s!"invalid statistics for port `{port}`: {fault.message}"

/-- A trial as it was written, with values of any kind. -/
structure Trial where
  result : Option Json.Value
  stats : Option (List (String × Json.Value))

namespace Trial

/-- An optional value inside `enclosing` arrays and objects; `null` stands for none. -/
def optionalValue? (enclosing : Nat) : Option Json.Tree → Option (Option Json.Value)
  | none => some none
  | some t =>
    if t.isNull then some none else (t.value? (Json.maxLevels - enclosing)).map some

def ofJson? (t : Json.Tree) : Option Trial := do
  let field ← t.record? ["result", "stats"]
  let result ← optionalValue? 3 (field "result")
  match ← optionalValue? 3 (field "stats") with
  | none => return ⟨result, none⟩
  | some (.map ms) => return ⟨result, some ms⟩
  | some _ => none

/-- The trial's result is the word `pass`, and nothing like it. -/
def passed (t : Trial) : Bool := t.result.bind Json.Value.text? == some "pass"

/-- The result as it was given, or as compact JSON if it is no string. -/
def resultText (t : Trial) : Option String :=
  t.result.map fun v => v.text?.getD v.tree.text

def counterNames : List String :=
  ["tx_l1_bps", "tx_l2_bps", "tx_pps", "rx_l1_bps", "rx_l2_bps", "rx_pps", "rx_latency_minimum",
    "rx_latency_maximum", "rx_latency_average"]

def counters? (v : Json.Value) : Option (List Binary64) := do
  let field ← v.record? counterNames
  counterNames.mapM fun name => (field name).bind Json.Value.float?

/-- The counters of the port that a key of digits names. -/
def portStatistics (key : String) (v : Json.Value) : Except ArtifactError PortStatistics :=
  match Text.readUInt32? key.toList with
  | none => .error (.badStatistics key .portOutOfRange)
  | some portId =>
    match (counters? v).bind (PortStatistics.ofCounters? portId) with
    | none => .error (.badStatistics key .malformed)
    | some s => .ok s

/-- The counters of all ports, by ascending port. Keys that are not all digits name no port. -/
def toResult (t : Trial) : Except ArtifactError TrialResult := do
  let some stats := t.stats | throw (.missingField "stats")
  let ports ← (stats.filter fun m => Text.isDigits m.1.toList).mapM fun (key, v) =>
    portStatistics key v
  return ⟨t.passed, ports.mergeSort fun a b => a.portId ≤ b.portId⟩

end Trial

/-- An artifact is a list of trials, the latest one last. -/
structure Artifact where
  trials : List Trial

namespace Artifact

def ofJson? (t : Json.Tree) : Option Artifact := do
  let field ← t.record? ["trials"]
  (← field "trials").list? Trial.ofJson? |>.map Artifact.mk

def parse? (text : List UInt8) : Option Artifact := (Json.Tree.parse? text).bind ofJson?

/-- Read the artifact at `path`. -/
def load (path : String) (file : File) : Except ArtifactError Artifact :=
  match file.text with
  | .error .absent => .error (.missing path)
  | .error .unreadable => .error (.unreadable path)
  | .ok s => (parse? (Utf8.encode s)).elim (.error .malformed) .ok

def latest (a : Artifact) : Except ArtifactError Trial :=
  a.trials.getLast?.elim (.error .noTrials) .ok

end Artifact
end LoadBench
