import LoadBench.CommandLine.FlowTool
import LoadBench.Configuration

/-! The control server's command line: a configuration file, and options that override it. -/
namespace LoadBench.CommandLine.ServerTool

def isPath (s : String) : Bool := !s.isEmpty

def isMacSource (s : String) : Bool := (MacSource.ofName? s).isSome

def grammar : Grammar where
  options := [.checked "config" isPath, .any "bind",
    .checked "port" isUInt16, .any "extra-opts",
    .checked "generator-dir" isPath,
    .checked "mac-source" isMacSource,
    .any "trex-addr", { name := "port-iface", kind := .repeated }]

/-- The configuration with the given options in place of its fields. -/
def override (c : Configuration) (a : Arguments) : Configuration :=
  let interfaces := a.values "port-iface"
  { c with
    bind := (a.value? "bind").getD c.bind
    port := ((a.value? "port").map uint16Value).getD c.port
    extraArgs := ((a.value? "extra-opts").map Text.optionWords).getD c.extraArgs
    generatorDir := (a.value? "generator-dir").getD c.generatorDir
    macSource := ((a.value? "mac-source").bind MacSource.ofName?).getD c.macSource
    trexAddr := (a.value? "trex-addr").getD c.trexAddr
    portInterfaces := if interfaces.isEmpty then c.portInterfaces else interfaces }

/-- The configuration that the server runs with. -/
def configuration (fileAt : String → File) (a : Arguments) :
    Except ConfigurationError Configuration := do
  let c ← match a.value? "config" with
    | none => .ok {}
    | some path => Configuration.load path (fileAt path)
  return override c a

/-- How the server ends when its configuration cannot be read. -/
def refused (e : ConfigurationError) : Outcome := ⟨2, "", e.message ++ "\n"⟩

/-- How the server ends when it cannot listen. -/
def cannotListen (c : Configuration) : Outcome :=
  ⟨1, "", s!"failed to listen on {c.listenAddr}: {Fault.io.text}\n"⟩

end LoadBench.CommandLine.ServerTool
