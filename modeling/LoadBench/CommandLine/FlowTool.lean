import LoadBench.CommandLine.Options
import LoadBench.Flow.Options

/-! The tool that prints the description of a flow. -/
namespace LoadBench.CommandLine

/-- Whether a text is an integer from 0 to `bound - 1`. -/
def isBelow (bound : Nat) (s : String) : Bool :=
  match Text.readInt64? s.toList with
  | some i => decide (0 ≤ i ∧ i < bound)
  | none => false

/-- The integer in a text that `isBelow` accepted. -/
def natValue (s : String) : Nat := ((Text.readInt64? s.toList).getD 0).toNat

def isUInt16 : String → Bool := isBelow UInt16.size

def isUInt32 : String → Bool := isBelow UInt32.size

def uint16Value (s : String) : UInt16 := UInt16.ofNat (natValue s)

def uint32Value (s : String) : UInt32 := UInt32.ofNat (natValue s)

namespace FlowTool

def grammar : Grammar where
  options := [.any "src-ip", .any "dst-ip",
    .any "src-mac", .any "dst-mac",
    .any "src-port", .any "dst-port",
    .any "dot1q", .any "qinq",
    .checked "size" isUInt32, .any "interface",
    .flag "pretty"]
  required := ["interface"]

def options (a : Arguments) : FlowOptions :=
  let d : FlowOptions := { interface := (a.value? "interface").getD "" }
  { d with
    srcIp := (a.value? "src-ip").getD d.srcIp
    dstIp := (a.value? "dst-ip").getD d.dstIp
    srcMac := (a.value? "src-mac").getD d.srcMac
    dstMac := (a.value? "dst-mac").getD d.dstMac
    srcPort := (a.value? "src-port").getD d.srcPort
    dstPort := (a.value? "dst-port").getD d.dstPort
    dot1q := a.value? "dot1q"
    qinq := a.value? "qinq"
    size := ((a.value? "size").map uint32Value).getD d.size }

/-- Print the flow on one line, or indented; a fault in the options is reported. -/
def run (a : Arguments) : Outcome :=
  match (options a).build with
  | .error e => ⟨2, "", e.message ++ "\n"⟩
  | .ok flow =>
    ⟨0, (if a.isGiven "pretty" then flow.json.indentedText else flow.json.text) ++ "\n", ""⟩

end FlowTool
end LoadBench.CommandLine
