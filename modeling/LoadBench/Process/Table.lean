import LoadBench.Fault

/-! The processes of a machine, and what happens when they are reaped, signalled and started. -/
namespace LoadBench

/-- A zombie has exited and waits for its parent. -/
inductive ProcessState | alive | zombie
  deriving DecidableEq, Repr

structure ProcessRow where
  pid : Nat
  name : String
  state : ProcessState
  deriving DecidableEq, Repr

/-- What becomes of a process that is started. -/
inductive SpawnBehaviour | stays | zombie | crashes | fails
  deriving DecidableEq, Repr

inductive ProcessError
  | noArguments
  | notSpawned (program : String)
  | notSignalled (pid : Nat) (reason : String)
  deriving DecidableEq, Repr

def ProcessError.message : ProcessError → String
  | .noArguments => "empty argument vector"
  | .notSpawned program => s!"failed to spawn `{program}`: {Fault.io.text}"
  | .notSignalled pid reason => s!"failed to signal pid {pid}: {reason}"

/-- The process table, how the machine behaves, and what was done to it so far. -/
structure ProcessTable where
  processes : List ProcessRow := []
  spawnName : String := ""
  spawnBehaviour : SpawnBehaviour := .stays
  /-- Processes that cannot be signalled. -/
  refuse : List Nat := []
  /-- Processes that ignore the signal. -/
  stubborn : List Nat := []
  lastPid : Nat := 1000
  reaped : List Nat := []
  terminated : List Nat := []
  spawned : List (List String) := []
  deriving DecidableEq, Repr

namespace ProcessTable

/-- Remove the zombies with a pid. -/
def reap (t : ProcessTable) (pid : Nat) : ProcessTable :=
  { t with
    reaped := t.reaped ++ [pid]
    processes := t.processes.filter fun p => !(p.pid == pid && p.state == .zombie) }

/-- Remove all processes with a pid. -/
def remove (t : ProcessTable) (pid : Nat) : ProcessTable :=
  { t with processes := t.processes.filter fun p => p.pid != pid }

/-- Send the termination signal; it fails for processes that refuse it. -/
def terminate (t : ProcessTable) (pid : Nat) : Bool × ProcessTable :=
  if t.refuse.contains pid then (false, t)
  else
    let t := { t with terminated := t.terminated ++ [pid] }
    (true, if t.stubborn.contains pid then t else t.remove pid)

/-- Start a process with the next pid. A command line needs a program, and an attempt that fails is
on record too. -/
def spawn (t : ProcessTable) (argv : List String) : Except ProcessError Nat × ProcessTable :=
  match argv with
  | [] => (.error .noArguments, t)
  | program :: _ =>
    let t := { t with spawned := t.spawned ++ [argv] }
    let pid := t.lastPid + 1
    let add (state : ProcessState) : ProcessTable :=
      { t with lastPid := pid, processes := t.processes ++ [⟨pid, t.spawnName, state⟩] }
    match t.spawnBehaviour with
    | .fails => (.error (.notSpawned program), t)
    | .stays => (.ok pid, add .alive)
    | .zombie => (.ok pid, add .zombie)
    | .crashes => (.ok pid, { t with lastPid := pid })

end ProcessTable
end LoadBench
