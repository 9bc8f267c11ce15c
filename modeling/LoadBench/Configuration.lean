import LoadBench.File
import LoadBench.Json.Decode
import LoadBench.Text.Words

/-! The configuration of the control server, and its JSON form. -/
namespace LoadBench

/-- Where the addresses of the generator's ports are read. -/
inductive MacSource | trex | sysfs
  deriving DecidableEq, Repr

namespace MacSource

def name : MacSource → String
  | .trex => "trex"
  | .sysfs => "sysfs"

def ofName? (s : String) : Option MacSource := [trex, sysfs].find? fun m => m.name == s

end MacSource

structure Configuration where
  bind : String := "[::]"
  port : UInt16 := 50051
  generatorDir : String := "."
  generatorProgram : String := "./binary-search.py"
  trafficGenerator : String := "trex-txrx"
  processName : String := "binary-search"
  resultFile : String := "binary-search.json"
  extraArgs : List String := []
  macSource : MacSource := .trex
  trexAddr : String := "localhost:4501"
  trexPorts : List UInt32 := [0, 1]
  portInterfaces : List String := []
  sysfsRoot : String := "/sys/class/net"
  deriving DecidableEq, Repr

inductive ConfigurationError
  | unreadable (path : String)
  | malformed (path : String)
  deriving DecidableEq, Repr

def ConfigurationError.message : ConfigurationError → String
  | .unreadable path => s!"failed to read config {path}: {Fault.io.text}"
  | .malformed path => s!"failed to parse config {path}: {Fault.json.text}"

namespace Configuration

def fieldNames : List String :=
  ["bind", "port", "generator_dir", "generator_program", "traffic_generator", "process_name",
    "result_file", "extra_args", "mac_source", "trex_addr", "trex_ports", "port_interfaces",
    "sysfs_net_root"]

def json (c : Configuration) : Json.Tree :=
  .record [
    ("bind", .ofText c.bind), ("port", .ofNat c.port.toNat),
    ("generator_dir", .ofText c.generatorDir), ("generator_program", .ofText c.generatorProgram),
    ("traffic_generator", .ofText c.trafficGenerator), ("process_name", .ofText c.processName),
    ("result_file", .ofText c.resultFile), ("extra_args", .array (c.extraArgs.map .ofText)),
    ("mac_source", .ofText c.macSource.name), ("trex_addr", .ofText c.trexAddr),
    ("trex_ports", .array (c.trexPorts.map (.ofNat ·.toNat))),
    ("port_interfaces", .array (c.portInterfaces.map .ofText)),
    ("sysfs_net_root", .ofText c.sysfsRoot)]

/-- Every field may be left out and then has its default. -/
def ofJson? (t : Json.Tree) : Option Configuration := do
  let field ← t.record? fieldNames
  let text (name : String) (dflt : String) := ((field name).elim (some dflt) Json.Tree.text?)
  let texts (name : String) := (field name).elim (some []) (Json.Tree.list? Json.Tree.text?)
  let d : Configuration := {}
  return {
    bind := ← text "bind" d.bind
    port := ← (field "port").elim (some d.port) Json.Tree.uint16?
    generatorDir := ← text "generator_dir" d.generatorDir
    generatorProgram := ← text "generator_program" d.generatorProgram
    trafficGenerator := ← text "traffic_generator" d.trafficGenerator
    processName := ← text "process_name" d.processName
    resultFile := ← text "result_file" d.resultFile
    extraArgs := ← texts "extra_args"
    macSource := ← (field "mac_source").elim (some d.macSource) fun t =>
      t.variant?.bind MacSource.ofName?
    trexAddr := ← text "trex_addr" d.trexAddr
    trexPorts := ← (field "trex_ports").elim (some d.trexPorts)
      (Json.Tree.list? Json.Tree.uint32?)
    portInterfaces := ← texts "port_interfaces"
    sysfsRoot := ← text "sysfs_net_root" d.sysfsRoot }

def parse? (text : List UInt8) : Option Configuration := (Json.Tree.parse? text).bind ofJson?

/-- Read the configuration file at `path`. -/
def load (path : String) (file : File) : Except ConfigurationError Configuration :=
  match file.text with
  | .error _ => .error (.unreadable path)
  | .ok s => ((parse? (Utf8.encode s)).elim (.error (.malformed path)) .ok)

def listenAddr (c : Configuration) : String := s!"{c.bind}:{c.port.toNat}"

def resultPath (c : Configuration) : String := joinPath c.generatorDir c.resultFile

end Configuration
end LoadBench
