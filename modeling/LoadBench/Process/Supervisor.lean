import LoadBench.Process.Table
import LoadBench.Text.LowerCase

/-! Supervision of an external process by its name. The table is read again for every question. -/
namespace LoadBench

/-- How an attempt to start a process ended. -/
inductive LaunchOutcome
  | started (pid : Nat)
  | staleNotStopped
  | spawnFailed
  | exitedEarly (pid : Nat)
  deriving DecidableEq, Repr

namespace LaunchOutcome

def isSuccess : LaunchOutcome → Bool
  | .started _ => true
  | _ => false

def name : LaunchOutcome → String
  | .started _ => "started"
  | .staleNotStopped => "stale_not_stopped"
  | .spawnFailed => "spawn_failed"
  | .exitedEarly _ => "exited_early"

def pid? : LaunchOutcome → Option Nat
  | .started pid | .exitedEarly pid => some pid
  | _ => none

end LaunchOutcome

/-- How far a supervised process has come. Nothing is ever seen while it is being started. -/
inductive LifecycleState | notRunning | starting | running
  deriving DecidableEq, Repr

def LifecycleState.name : LifecycleState → String
  | .notRunning => "not_running"
  | .starting => "starting"
  | .running => "running"

/-- Supervision of all processes whose names contain a name, in any case. -/
structure Supervisor where
  name : String
  deriving DecidableEq, Repr

namespace Supervisor

def Matches (s : Supervisor) (p : ProcessRow) : Bool :=
  Text.occursIn (Text.lowerCase s.name) (Text.lowerCase p.name)

/-- The matching processes of a table, in its order. -/
def matching (s : Supervisor) (t : ProcessTable) : List ProcessRow := t.processes.filter s.Matches

/-- Whether a matching process is alive. Matching zombies are reaped. -/
def isRunning (s : Supervisor) (t : ProcessTable) : Bool × ProcessTable :=
  let found := s.matching t
  (found.any (·.state == .alive),
    (found.filter (·.state == .zombie)).foldl (fun t p => t.reap p.pid) t)

def state (s : Supervisor) (t : ProcessTable) : LifecycleState × ProcessTable :=
  let (running, t) := s.isRunning t
  (if running then .running else .notRunning, t)

/-- Signal every matching process, zombies included, and go on after failures. The answer is
whether all signals were sent. -/
def stop (s : Supervisor) (t : ProcessTable) : Bool × ProcessTable :=
  (s.matching t).foldl
    (fun (ok, t) p =>
      let (sent, t) := t.terminate p.pid
      (ok && sent, t))
    (true, t)

/-- Start a process and look whether it is there. -/
def launch (s : Supervisor) (t : ProcessTable) (argv : List String) :
    LaunchOutcome × ProcessTable :=
  match t.spawn argv with
  | (.error _, t) => (.spawnFailed, t)
  | (.ok pid, t) =>
    let (running, t) := s.isRunning t
    (if running then .started pid else .exitedEarly pid, t)

/-- Stop what is running, and start a process if all of that could be signalled. -/
def start (s : Supervisor) (t : ProcessTable) (argv : List String) :
    LaunchOutcome × ProcessTable :=
  let (running, t) := s.isRunning t
  if running then
    let (stopped, t) := s.stop t
    if stopped then s.launch t argv else (.staleNotStopped, t)
  else s.launch t argv

end Supervisor
end LoadBench
