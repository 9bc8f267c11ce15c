import LoadBench.Proofs.Process.SingleInstance
import Mathlib.Data.List.Nodup

/-! The rows of a process table in which every process has a pid of its own: which of them an
operation of a supervisor keeps, and that its logs have no say in that. -/
namespace LoadBench

namespace ProcessTable

def HasUniquePids (t : ProcessTable) : Prop := (t.processes.map (·.pid)).Nodup

instance (t : ProcessTable) : Decidable t.HasUniquePids :=
  inferInstanceAs (Decidable (List.Nodup _))

/-- The rows of the processes that are alive, whatever their names. -/
def liveRows (t : ProcessTable) : List ProcessRow := t.processes.filter fun p => p.state == .alive

theorem HasUniquePids.of_sublist {t u : ProcessTable} (h : t.HasUniquePids)
    (hu : u.processes.Sublist t.processes) : u.HasUniquePids :=
  List.Nodup.sublist (hu.map _) h

/-- A pid picks out the same rows as the condition that it was found by. -/
theorem HasUniquePids.any_pid {t : ProcessTable} (h : t.HasUniquePids) (f : ProcessRow → Bool)
    {q : ProcessRow} (hq : q ∈ t.processes) :
    ((t.processes.filter f).any fun p => p.pid == q.pid) = f q := by
  cases hf : f q with
  | true =>
    apply List.any_eq_true.2
    exact ⟨q, List.mem_filter.2 ⟨hq, hf⟩, beq_self_eq_true _⟩
  | false =>
    apply List.any_eq_false.2
    intro p hp hpid
    obtain ⟨hp, hfp⟩ := List.mem_filter.1 hp
    have hpq : p = q := List.inj_on_of_nodup_map h hp hq (eq_of_beq hpid)
    rw [hpq, hf] at hfp
    cases hfp

/-- The same table but for the logs of what was reaped and signalled. -/
structure SameRows (t u : ProcessTable) : Prop where
  machine : SameMachine t u
  processes : u.processes = t.processes

theorem SameRows.spawn {t u : ProcessTable} (h : SameRows t u) (argv : List String) :
    (u.spawn argv).1 = (t.spawn argv).1 ∧ SameRows (t.spawn argv).2 (u.spawn argv).2 := by
  have hlogs : u = { t with reaped := u.reaped, terminated := u.terminated } := by
    obtain ⟨⟨hname, hbehaviour, hrefuse, hstubborn, hpid, hspawned⟩, hprocesses⟩ := h
    rw [← hname, ← hbehaviour, ← hrefuse, ← hstubborn, ← hpid, ← hspawned, ← hprocesses]
  rw [hlogs]
  cases argv with
  | nil => exact ⟨rfl, ⟨rfl, rfl, rfl, rfl, rfl, rfl⟩, rfl⟩
  | cons program rest =>
    unfold ProcessTable.spawn
    cases t.spawnBehaviour <;> exact ⟨rfl, ⟨rfl, rfl, rfl, rfl, rfl, rfl⟩, rfl⟩

end ProcessTable

namespace Supervisor

open ProcessTable (HasUniquePids SameMachine SameRows)

variable (s : Supervisor)

/-- A zombie that is reaped when somebody looks. -/
def isLeftover (p : ProcessRow) : Bool := s.Matches p && p.state == .zombie

/-- The rows that are there once somebody has looked. -/
def settled (t : ProcessTable) : List ProcessRow := t.processes.filter fun p => !s.isLeftover p

theorem processes_isRunning {t : ProcessTable} (h : t.HasUniquePids) :
    (s.isRunning t).2.processes = s.settled t := by
  have hfound : (s.matching t).filter (fun p => p.state == .zombie) =
      t.processes.filter s.isLeftover := by
    unfold matching
    rw [List.filter_filter]
    apply List.filter_congr
    intro p _
    exact Bool.and_comm _ _
  unfold isRunning
  dsimp only
  rw [processes_foldl_reap, hfound]
  apply List.filter_congr
  intro q hq
  rw [h.any_pid s.isLeftover hq]
  unfold isLeftover
  cases s.Matches q <;> simp

theorem processes_stop {t : ProcessTable} (h : t.HasUniquePids) :
    (s.stop t).2.processes = t.processes.filter fun q =>
      !(s.Matches q && !t.withstands q.pid) := by
  obtain ⟨-, -, hrows⟩ := foldl_terminate (s.matching t) true t
  apply hrows.trans
  apply List.filter_congr
  intro q hq
  unfold matching
  rw [h.any_pid s.Matches hq]

theorem sublist_isRunning (t : ProcessTable) :
    (s.isRunning t).2.processes.Sublist t.processes := by
  unfold isRunning
  dsimp only
  rw [processes_foldl_reap]
  exact List.filter_sublist

theorem sublist_stop (t : ProcessTable) : (s.stop t).2.processes.Sublist t.processes := by
  obtain ⟨-, -, hrows⟩ := foldl_terminate (s.matching t) true t
  have hstop : (s.stop t).2.processes = _ := hrows
  rw [hstop]
  exact List.filter_sublist

theorem live_eq_settled (t : ProcessTable) :
    s.live t = (s.settled t).filter fun p => s.Matches p && p.state == .alive := by
  unfold live matching settled
  rw [List.filter_filter, List.filter_filter]
  apply List.filter_congr
  intro p _
  unfold isLeftover
  cases s.Matches p <;> cases p.state <;> rfl

theorem liveRows_eq_settled (t : ProcessTable) :
    t.liveRows = (s.settled t).filter fun p => p.state == .alive := by
  unfold ProcessTable.liveRows settled
  rw [List.filter_filter]
  apply List.filter_congr
  intro p _
  unfold isLeftover
  cases s.Matches p <;> cases p.state <;> rfl

/-! ### The logs have no say -/

theorem matching_of_sameRows {t u : ProcessTable} (h : SameRows t u) :
    s.matching u = s.matching t := by
  unfold matching
  rw [h.processes]

theorem isRunning_of_sameRows {t u : ProcessTable} (h : SameRows t u) :
    (s.isRunning u).1 = (s.isRunning t).1 ∧ SameRows (s.isRunning t).2 (s.isRunning u).2 := by
  refine ⟨?_, ?_, ?_⟩
  · unfold isRunning
    rw [s.matching_of_sameRows h]
  · have ht := (s.sameMachine_isRunning t).symm
    exact ht.trans (h.machine.trans (s.sameMachine_isRunning u))
  · unfold isRunning
    dsimp only
    rw [processes_foldl_reap, processes_foldl_reap, s.matching_of_sameRows h, h.processes]

theorem stop_of_sameRows {t u : ProcessTable} (h : SameRows t u) :
    (s.stop u).1 = (s.stop t).1 ∧ SameRows (s.stop t).2 (s.stop u).2 := by
  obtain ⟨-, -, ht⟩ := foldl_terminate (s.matching t) true t
  obtain ⟨-, -, hu⟩ := foldl_terminate (s.matching u) true u
  have hwithstands : u.withstands = t.withstands := by
    unfold ProcessTable.withstands
    rw [h.machine.refuse, h.machine.stubborn]
  refine ⟨?_, ?_, ?_⟩
  · rw [stop_fst, stop_fst, s.matching_of_sameRows h, h.machine.refuse]
  · have hback := (s.sameMachine_stop t).symm
    exact hback.trans (h.machine.trans (s.sameMachine_stop u))
  · apply hu.trans
    rw [s.matching_of_sameRows h, h.processes, hwithstands]
    exact ht.symm

theorem launch_of_sameRows {t u : ProcessTable} (h : SameRows t u) (argv : List String) :
    (s.launch u argv).1 = (s.launch t argv).1 ∧
      SameRows (s.launch t argv).2 (s.launch u argv).2 := by
  obtain ⟨hfst, hsnd⟩ := h.spawn argv
  unfold launch
  generalize t.spawn argv = tspawned at hfst hsnd
  generalize u.spawn argv = uspawned at hfst hsnd
  obtain ⟨_, v⟩ := tspawned
  obtain ⟨result, w⟩ := uspawned
  dsimp only at hfst hsnd
  subst hfst
  cases result with
  | error e => exact ⟨rfl, hsnd⟩
  | ok pid =>
    obtain ⟨hrunning, hrows⟩ := s.isRunning_of_sameRows hsnd
    refine ⟨?_, hrows⟩
    dsimp only
    rw [hrunning]

end Supervisor
end LoadBench
