import LoadBench.Control.Message
import LoadBench.Generator.Command
import LoadBench.Ports.Sysfs
import LoadBench.Ports.Trex
import LoadBench.Process.Supervisor
import LoadBench.Trial.Store

/-! The control service: the generator's process, its results, and the addresses of its ports. -/
namespace LoadBench

/-- Where port addresses are asked for. -/
inductive PortSource
  | trex (indices : List UInt32)
  | sysfs (root : String) (interfaces : List String)
  deriving DecidableEq, Repr

/-- What the service acts on and reads. -/
structure Site where
  processes : ProcessTable := {}
  artifact : File := .absent
  /-- What stands at the path of an address file. -/
  addressFile : String → File := fun _ => .absent
  /-- What the TRex server will send on each further connection; the last one for good. Without
  any, no connection is made. -/
  trexPeers : List (List UInt8) := []

structure Service where
  supervisor : Supervisor
  command : GeneratorCommand
  resultPath : String
  ports : PortSource
  deriving DecidableEq, Repr

namespace PortSource

def ofConfiguration (c : Configuration) : PortSource :=
  match c.macSource with
  | .trex => .trex c.trexPorts
  | .sysfs => .sysfs c.sysfsRoot c.portInterfaces

def query (source : PortSource) (site : Site) :
    Except PortQueryError (List Mac) × Site :=
  match source with
  | .sysfs root interfaces => (Sysfs.portMacs site.addressFile root interfaces, site)
  | .trex indices =>
    let (macs, written) := Trex.portMacs indices site.trexPeers.head?
    let peers := match site.trexPeers with
      | _ :: next :: rest => if written.isSome then next :: rest else site.trexPeers
      | peers => peers
    (macs, { site with trexPeers := peers })

end PortSource

namespace Service

def ofConfiguration (c : Configuration) : Service where
  supervisor := ⟨c.processName⟩
  command := .ofConfiguration c
  resultPath := c.resultPath
  ports := .ofConfiguration c

def results (s : Service) (site : Site) : ResultStore := ⟨s.resultPath, site.artifact⟩

/-- Start the generator. Parameters are checked before any process is touched. -/
def start (s : Service) (params : Parameters) (site : Site) :
    Except ParameterError LaunchOutcome × Site :=
  match s.command.argv params with
  | .error e => (.error e, site)
  | .ok argv =>
    let (outcome, processes) := s.supervisor.start site.processes argv
    (.ok outcome, { site with processes })

def stop (s : Service) (site : Site) : Bool × Site :=
  let (ok, processes) := s.supervisor.stop site.processes
  (ok, { site with processes })

def isRunning (s : Service) (site : Site) : Bool × Site :=
  let (running, processes) := s.supervisor.isRunning site.processes
  (running, { site with processes })

def isResultAvailable (s : Service) (site : Site) : Bool := (s.results site).isAvailable

/-- Whether the generator is running, and whether there is a result. -/
def status (s : Service) (site : Site) : (Bool × Bool) × Site :=
  let (running, site) := s.isRunning site
  ((running, s.isResultAvailable site), site)

/-- The result of the latest trial if it passed; `none` if there is no such result. -/
def getResult (s : Service) (site : Site) : Option TrialResult :=
  if s.isResultAvailable site then some (s.results site).resultOrEmpty else none

/-- The addresses of all ports in order; none at all if one cannot be told. -/
def getMacList (s : Service) (site : Site) : List String × Site :=
  let (macs, site) := s.ports.query site
  ((macs.toOption.getD []).map Address.text, site)

/-- Answer one request. -/
def handle (s : Service) (request : Request) (site : Site) : Response × Site :=
  match request with
  | .start params =>
    match s.start params site with
    | (.ok outcome, site) => (.success outcome.isSuccess, site)
    | (.error e, site) => (.error e.message, site)
  | .stop =>
    let (ok, site) := s.stop site
    (.success ok, site)
  | .isRunning =>
    let (running, site) := s.isRunning site
    (.runningStatus running, site)
  | .isResultAvailable => (.availabilityStatus (s.isResultAvailable site), site)
  | .status =>
    let ((running, available), site) := s.status site
    (.status running available, site)
  | .getResult => ((s.getResult site).elim .resultUnavailable .trialResult, site)
  | .getMacList =>
    let (macs, site) := s.getMacList site
    (.macList macs, site)

end Service
end LoadBench
