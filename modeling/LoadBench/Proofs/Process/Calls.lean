import LoadBench.Proofs.Process.Launch

/-! The calls that a supervisor makes to its machine, in their order. A supervisor runs on any
machine. On one that records its calls it does the same, and the record tells what it tried. -/
namespace LoadBench

/-- What a supervisor uses of a machine whose states are of type `σ`. -/
structure Machine (σ : Type) where
  processes : σ → List ProcessRow
  reap : σ → Nat → σ
  terminate : σ → Nat → Bool × σ
  spawn : σ → List String → Except ProcessError Nat × σ

/-- A call that acts on the processes of a machine. -/
inductive Call
  | reap (pid : Nat)
  | signal (pid : Nat)
  | spawn (argv : List String)
  deriving DecidableEq, Repr

namespace Call

def reapedPid? : Call → Option Nat
  | .reap pid => some pid
  | _ => none

def signalledPid? : Call → Option Nat
  | .signal pid => some pid
  | _ => none

def argv? : Call → Option (List String)
  | .spawn argv => some argv
  | _ => none

end Call

namespace Machine

/-- The machine with a process table. -/
def table : Machine ProcessTable where
  processes t := t.processes
  reap := ProcessTable.reap
  terminate := ProcessTable.terminate
  spawn := ProcessTable.spawn

/-- The same machine with a record of the calls made to it, whether they succeed or not. -/
def recorded {σ : Type} (m : Machine σ) : Machine (σ × List Call) where
  processes x := m.processes x.1
  reap x pid := (m.reap x.1 pid, x.2 ++ [.reap pid])
  terminate x pid := ((m.terminate x.1 pid).1, (m.terminate x.1 pid).2, x.2 ++ [.signal pid])
  spawn x argv := ((m.spawn x.1 argv).1, (m.spawn x.1 argv).2, x.2 ++ [.spawn argv])

end Machine

namespace ProcessTable

/-- What a call leaves of a table. -/
def call (t : ProcessTable) : Call → ProcessTable
  | .reap pid => t.reap pid
  | .signal pid => (t.terminate pid).2
  | .spawn argv => (t.spawn argv).2

/-- The table after some calls. -/
def after (t : ProcessTable) (calls : List Call) : ProcessTable := calls.foldl call t

theorem after_append (t : ProcessTable) (cs ds : List Call) :
    t.after (cs ++ ds) = (t.after cs).after ds :=
  List.foldl_append

/-- The logs of the second table go on from those of the first one with some calls. Signals that
are refused and empty command lines leave no trace there. -/
structure LogsAfter (t u : ProcessTable) (calls : List Call) : Prop where
  refuse : u.refuse = t.refuse
  reaped : u.reaped = t.reaped ++ calls.filterMap Call.reapedPid?
  terminated : u.terminated = t.terminated ++
    (calls.filterMap Call.signalledPid?).filter fun pid => !t.refuse.contains pid
  spawned : u.spawned = t.spawned ++
    (calls.filterMap Call.argv?).filter fun argv => !argv.isEmpty

theorem LogsAfter.append {t u v : ProcessTable} {cs ds : List Call} (h : LogsAfter t u cs)
    (k : LogsAfter u v ds) : LogsAfter t v (cs ++ ds) where
  refuse := k.refuse.trans h.refuse
  reaped := by rw [k.reaped, h.reaped, List.filterMap_append, List.append_assoc]
  terminated := by
    rw [k.terminated, h.terminated, h.refuse, List.filterMap_append, List.filter_append,
      List.append_assoc]
  spawned := by
    rw [k.spawned, h.spawned, List.filterMap_append, List.filter_append, List.append_assoc]

theorem logsAfter_reap (t : ProcessTable) (pid : Nat) :
    LogsAfter t (t.reap pid) [.reap pid] :=
  ⟨rfl, rfl, (List.append_nil _).symm, (List.append_nil _).symm⟩

theorem logsAfter_terminate (t : ProcessTable) (pid : Nat) :
    LogsAfter t (t.terminate pid).2 [.signal pid] := by
  have hlog : ([Call.signal pid].filterMap Call.signalledPid?).filter
      (fun pid => !t.refuse.contains pid) = if t.refuse.contains pid then [] else [pid] := by
    show [pid].filter _ = _
    rw [List.filter_cons]
    cases t.refuse.contains pid <;> rfl
  unfold terminate remove
  cases hrefused : t.refuse.contains pid with
  | true =>
    rw [hrefused] at hlog
    exact ⟨rfl, (List.append_nil _).symm, by rw [hlog]; exact (List.append_nil _).symm,
      (List.append_nil _).symm⟩
  | false =>
    rw [hrefused] at hlog
    have hlog : t.terminated ++ [pid] = t.terminated ++ _ := congrArg _ hlog.symm
    dsimp only
    cases t.stubborn.contains pid with
    | true => exact ⟨rfl, (List.append_nil _).symm, hlog, (List.append_nil _).symm⟩
    | false => exact ⟨rfl, (List.append_nil _).symm, hlog, (List.append_nil _).symm⟩

theorem logsAfter_spawn (t : ProcessTable) (argv : List String) :
    LogsAfter t (t.spawn argv).2 [.spawn argv] := by
  cases argv with
  | nil =>
    exact ⟨rfl, (List.append_nil _).symm, (List.append_nil _).symm, (List.append_nil _).symm⟩
  | cons program rest =>
    unfold spawn
    cases t.spawnBehaviour <;>
      exact ⟨rfl, (List.append_nil _).symm, (List.append_nil _).symm, rfl⟩

theorem logsAfter_after (t : ProcessTable) (calls : List Call) :
    LogsAfter t (t.after calls) calls := by
  induction calls generalizing t with
  | nil =>
    exact ⟨rfl, (List.append_nil _).symm, (List.append_nil _).symm, (List.append_nil _).symm⟩
  | cons c calls ih =>
    have hcall : LogsAfter t (t.call c) [c] := by
      cases c with
      | reap pid => exact t.logsAfter_reap pid
      | signal pid => exact t.logsAfter_terminate pid
      | spawn argv => exact t.logsAfter_spawn argv
    exact hcall.append (ih (t.call c))

end ProcessTable

namespace Supervisor

section Machine

variable {σ : Type} (s : Supervisor) (m : Machine σ)

def isRunningOn (x : σ) : Bool × σ :=
  let found := (m.processes x).filter s.Matches
  (found.any (·.state == .alive),
    (found.filter (·.state == .zombie)).foldl (fun x p => m.reap x p.pid) x)

def stopOn (x : σ) : Bool × σ :=
  ((m.processes x).filter s.Matches).foldl
    (fun (ok, x) p =>
      let (sent, x) := m.terminate x p.pid
      (ok && sent, x))
    (true, x)

def launchOn (x : σ) (argv : List String) : LaunchOutcome × σ :=
  match m.spawn x argv with
  | (.error _, x) => (.spawnFailed, x)
  | (.ok pid, x) =>
    let (running, x) := s.isRunningOn m x
    (if running then .started pid else .exitedEarly pid, x)

def startOn (x : σ) (argv : List String) : LaunchOutcome × σ :=
  let (running, x) := s.isRunningOn m x
  if running then
    let (stopped, x) := s.stopOn m x
    if stopped then s.launchOn m x argv else (.staleNotStopped, x)
  else s.launchOn m x argv

end Machine

variable (s : Supervisor)

/-! ### On a process table -/

theorem isRunningOn_table : s.isRunningOn .table = s.isRunning := rfl

theorem stopOn_table : s.stopOn .table = s.stop := rfl

theorem launchOn_table : s.launchOn .table = s.launch := by
  funext t argv
  have hspawn : Machine.table.spawn t argv = t.spawn argv := rfl
  unfold launchOn launch
  rw [hspawn]
  obtain ⟨result, u⟩ := t.spawn argv
  cases result <;> rfl

theorem startOn_table : s.startOn .table = s.start := by
  funext t argv
  unfold startOn start
  rw [s.isRunningOn_table, s.stopOn_table, s.launchOn_table]

/-! ### With a record -/

/-- The matching zombies. -/
def leftovers (t : ProcessTable) : List ProcessRow :=
  (s.matching t).filter fun p => p.state == .zombie

def reapCalls (t : ProcessTable) : List Call := (s.leftovers t).map fun p => .reap p.pid

def signalCalls (t : ProcessTable) : List Call := (s.matching t).map fun p => .signal p.pid

/-- The calls of a launch: when the process could be spawned, the machine is looked at again. -/
def launchCalls (t : ProcessTable) (argv : List String) : List Call :=
  .spawn argv ::
    match t.spawn argv with
    | (.error _, _) => []
    | (.ok _, u) => s.reapCalls u

theorem isRunningOn_recorded (t : ProcessTable) (before : List Call) :
    s.isRunningOn Machine.table.recorded (t, before) =
      ((s.isRunning t).1, (s.isRunning t).2, before ++ s.reapCalls t) := by
  have hfold : ∀ (found : List ProcessRow) (t : ProcessTable) (before : List Call),
      found.foldl (fun x p => Machine.table.recorded.reap x p.pid) (t, before) =
        (found.foldl (fun t p => t.reap p.pid) t,
          before ++ found.map fun p => .reap p.pid) := by
    intro found
    induction found with
    | nil =>
      intro t before
      rw [List.map_nil, List.append_nil]
      rfl
    | cons p found ih =>
      intro t before
      rw [List.foldl_cons, List.foldl_cons, List.map_cons, List.append_cons]
      exact ih (t.reap p.pid) (before ++ [.reap p.pid])
  exact congrArg (Prod.mk (s.isRunning t).1) (hfold (s.leftovers t) t before)

theorem foldl_terminate_recorded (found : List ProcessRow) (ok : Bool) (t : ProcessTable)
    (before : List Call) :
    found.foldl
        (fun (ok, x) p =>
          let (sent, x) := Machine.table.recorded.terminate x p.pid
          (ok && sent, x))
        (ok, t, before) =
      let stopped := found.foldl
        (fun (ok, t) p =>
          let (sent, t) := t.terminate p.pid
          (ok && sent, t))
        (ok, t)
      (stopped.1, stopped.2, before ++ found.map fun p => .signal p.pid) := by
  induction found generalizing ok t before with
  | nil =>
    rw [List.map_nil, List.append_nil]
    rfl
  | cons p found ih =>
    rw [List.foldl_cons, List.foldl_cons, List.map_cons, List.append_cons]
    exact ih (ok && (t.terminate p.pid).1) (t.terminate p.pid).2 (before ++ [.signal p.pid])

theorem stopOn_recorded (t : ProcessTable) (before : List Call) :
    s.stopOn Machine.table.recorded (t, before) =
      ((s.stop t).1, (s.stop t).2, before ++ s.signalCalls t) :=
  foldl_terminate_recorded (s.matching t) true t before

theorem launchOn_recorded (t : ProcessTable) (before : List Call) (argv : List String) :
    s.launchOn Machine.table.recorded (t, before) argv =
      ((s.launch t argv).1, (s.launch t argv).2, before ++ s.launchCalls t argv) := by
  have hspawn : Machine.table.recorded.spawn (t, before) argv =
      ((t.spawn argv).1, (t.spawn argv).2, before ++ [.spawn argv]) := rfl
  unfold launchOn launch launchCalls
  rw [hspawn]
  obtain ⟨result, u⟩ := t.spawn argv
  cases result with
  | error e => rfl
  | ok pid =>
    dsimp only
    rw [isRunningOn_recorded, List.append_assoc]
    rfl

end Supervisor
end LoadBench
