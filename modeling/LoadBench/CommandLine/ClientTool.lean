import LoadBench.Binary64.Reading
import LoadBench.CommandLine.FlowTool
import LoadBench.Control.Client

/-! The tool that sends one request to a control server and prints the answer. -/
namespace LoadBench.CommandLine.ClientTool

def actions : List String := ["start", "stop", "status", "get-result", "get-mac-list"]

def isSeconds (s : String) : Bool := (Text.readUnsigned? UInt64.size s.toList).isSome

def isFloat (s : String) : Bool := (Binary64.read? s).isSome

def grammar : Grammar where
  options := [.checked "frame-size" isUInt32, .checked "num-flows" isUInt32,
    .checked "search-runtime" isUInt32, .checked "validation-runtime" isUInt32,
    .checked "sniff-runtime" isUInt32, .checked "max-loss-pct" isFloat,
    .checked "search-granularity" isFloat, .any "device-pairs",
    .any "dst-macs", .any "server-addr",
    .checked "server-port" isUInt16,
    .checked "timeout-secs" isSeconds]
  positional := some actions.contains

/-- Explicit destinations are separated by commas. -/
def destination (a : Arguments) : Destination :=
  match a.value? "dst-macs" with
  | none => .ranged
  | some list =>
    .explicit ((list.toList.splitOn ',').map fun cs => String.ofList (Text.trim cs))

def parameters (a : Arguments) : Parameters :=
  let d : Parameters := {}
  let count (name : String) (dflt : UInt32) := ((a.value? name).map uint32Value).getD dflt
  let percent (name : String) (dflt : Binary64) :=
    ((a.value? name).bind Binary64.read?).getD dflt
  { devicePairs := (a.value? "device-pairs").getD d.devicePairs
    searchRuntime := count "search-runtime" d.searchRuntime
    validationRuntime := count "validation-runtime" d.validationRuntime
    numFlows := count "num-flows" d.numFlows
    frameSize := count "frame-size" d.frameSize
    maxLoss := percent "max-loss-pct" d.maxLoss
    sniffRuntime := count "sniff-runtime" d.sniffRuntime
    granularity := percent "search-granularity" d.granularity
    destination := destination a }

/-- The request of an action. -/
def request (a : Arguments) : Request :=
  match a.positionals with
  | ["start"] => .start (parameters a)
  | ["stop"] => .stop
  | ["get-result"] => .getResult
  | ["get-mac-list"] => .getMacList
  | _ => .status

def success (ok : Bool) : String := if ok then "success" else "fail"

def portLine (s : PortStatistics) : String :=
  s!"port {s.portId.toNat} rx_pps: {s.rxPps.fixedText 2}\n"

def statusLines (running available : Bool) : String :=
  "trafficgen is currently " ++ (if running then "" else "not ") ++ "running\n" ++
    "test result is available: " ++ (if available then "yes" else "no") ++ "\n"

/-- What is printed for a request over a transport. -/
def report (transport : List UInt8 → Option (List UInt8)) (request : Request) :
    Except ClientError String :=
  match request with
  | .start _ => do
    let ok ← Client.call transport request Client.success
    return "start trafficgen: " ++ success ok ++ "\n"
  | .stop => do
    let ok ← Client.call transport request Client.success
    return "stop trafficgen: " ++ success ok ++ "\n"
  | .getResult => do
    match ← Client.call transport request Client.trialResult with
    | none => return "test result not available.\n"
    | some r => return String.join (r.stats.map portLine)
  | .getMacList => do
    let macs ← Client.call transport request Client.macList
    return "mac list: " ++ String.intercalate "," macs ++ "\n"
  | _ => do
    let (running, available) ← Client.call transport .status Client.status
    return statusLines running available

/-- The seconds that the server has for a response. -/
def timeLimit (a : Arguments) : Nat :=
  ((a.value? "timeout-secs").bind fun s => Text.readUnsigned? UInt64.size s.toList).getD 30

/-- Carry out the action over a transport. A limit of no time at all cannot be set, so that nothing
is sent then. -/
def run (transport : List UInt8 → Option (List UInt8)) (a : Arguments) : Outcome :=
  let transport := if timeLimit a = 0 then fun _ => none else transport
  match report transport (request a) with
  | .ok out => ⟨0, out, ""⟩
  | .error e => ⟨1, "", e.message ++ "\n"⟩

end LoadBench.CommandLine.ClientTool
