import LoadBench.Proofs.Process.Calls
import LoadBench.Proofs.Process.Rows

/-!
What a supervisor does to a machine, call by call.

Main statements: looking is exact and changes nothing the second time; a stop signals every matching
process, whatever becomes of the signals; a start clears the table, spawns once and looks again.
-/
namespace LoadBench

open ProcessTable (logsAfter_after)

namespace Supervisor

variable (s : Supervisor)

theorem snd_isRunning (t : ProcessTable) : (s.isRunning t).2 = t.after (s.reapCalls t) := by
  unfold ProcessTable.after reapCalls
  rw [List.foldl_map]
  rfl

theorem snd_foldl_terminate (found : List ProcessRow) (ok : Bool) (t : ProcessTable) :
    (found.foldl
      (fun (ok, t) p =>
        let (sent, t) := t.terminate p.pid
        (ok && sent, t))
      (ok, t)).2 = t.after (found.map fun p => .signal p.pid) := by
  induction found generalizing ok t with
  | nil => rfl
  | cons p found ih => exact ih (ok && (t.terminate p.pid).1) (t.terminate p.pid).2

theorem snd_stop (t : ProcessTable) : (s.stop t).2 = t.after (s.signalCalls t) :=
  snd_foldl_terminate (s.matching t) true t

theorem snd_launch (t : ProcessTable) (argv : List String) :
    (s.launch t argv).2 = t.after (s.launchCalls t argv) := by
  have hspawn : t.call (.spawn argv) = (t.spawn argv).2 := rfl
  unfold launch launchCalls ProcessTable.after
  rw [List.foldl_cons, hspawn]
  obtain ⟨result, u⟩ := t.spawn argv
  cases result with
  | error e => rfl
  | ok pid => exact s.snd_isRunning u

theorem reapedPids (found : List ProcessRow) :
    (found.map fun p => Call.reap p.pid).filterMap Call.reapedPid? = found.map (·.pid) := by
  rw [List.filterMap_map]
  exact congrFun List.filterMap_eq_map found

theorem signalledPids (found : List ProcessRow) :
    (found.map fun p => Call.signal p.pid).filterMap Call.signalledPid? = found.map (·.pid) := by
  rw [List.filterMap_map]
  exact congrFun List.filterMap_eq_map found

theorem signalledPids_reap (found : List ProcessRow) :
    (found.map fun p => Call.reap p.pid).filterMap Call.signalledPid? = [] := by
  rw [List.filterMap_map, List.filterMap_eq_nil_iff]
  exact fun p _ => rfl

/-! ### Looking -/

theorem isRunning_fst_iff (t : ProcessTable) :
    (s.isRunning t).1 = true ↔ ∃ p ∈ t.processes, p.state = .alive ∧ s.Matches p = true := by
  rw [isRunning_fst, Bool.not_eq_true', List.isEmpty_eq_false_iff_exists_mem]
  unfold live matching
  simp only [List.mem_filter, beq_iff_eq, and_assoc]
  exact exists_congr fun p => and_congr_right fun _ => and_comm

theorem leftovers_isRunning (t : ProcessTable) : s.leftovers (s.isRunning t).2 = [] := by
  unfold leftovers
  rw [matching_isRunning, live, List.filter_filter, List.filter_eq_nil_iff]
  intro p _
  cases p.state <;> decide

theorem liveRows_isRunning (t : ProcessTable) : (s.isRunning t).2.liveRows = t.liveRows := by
  unfold isRunning ProcessTable.liveRows
  rw [processes_foldl_reap, List.filter_filter]
  apply List.filter_congr
  intro q _
  cases q.state <;> simp

/-- Looking again gives the same answer, and there is nothing left to reap. -/
theorem isRunning_isRunning (t : ProcessTable) :
    s.isRunning (s.isRunning t).2 = s.isRunning t := by
  have hanswer : (s.isRunning (s.isRunning t).2).1 = (s.isRunning t).1 := by
    rw [isRunning_fst, live_isRunning, isRunning_fst]
  have htable : (s.isRunning (s.isRunning t).2).2 = (s.isRunning t).2 := by
    rw [snd_isRunning, reapCalls, leftovers_isRunning]
    rfl
  exact Prod.ext hanswer htable

/-- Somebody who looks learns whether a matching process is alive. The matching zombies are reaped
in the order of the table, nothing else is done, and to look again changes nothing. -/
theorem isRunning_effects (t : ProcessTable) :
    ((s.isRunning t).1 = true ↔ ∃ p ∈ t.processes, p.state = .alive ∧ s.Matches p = true) ∧
    (s.isRunning t).2.reaped = t.reaped ++ (s.leftovers t).map (·.pid) ∧
    s.leftovers (s.isRunning t).2 = [] ∧
    (s.isRunning t).2.liveRows = t.liveRows ∧
    (s.isRunning t).2.terminated = t.terminated ∧
    (s.isRunning t).2.spawned = t.spawned ∧
    s.isRunning (s.isRunning t).2 = s.isRunning t := by
  have hlogs := logsAfter_after t (s.reapCalls t)
  rw [← snd_isRunning] at hlogs
  have hreaped := hlogs.reaped
  have hterminated := hlogs.terminated
  unfold reapCalls at hreaped hterminated
  rw [reapedPids] at hreaped
  rw [signalledPids_reap, List.filter_nil, List.append_nil] at hterminated
  exact ⟨s.isRunning_fst_iff t, hreaped, s.leftovers_isRunning t, s.liveRows_isRunning t,
    hterminated, (s.sameMachine_isRunning t).spawned, s.isRunning_isRunning t⟩

/-! ### Stopping -/

/-- Somebody with a pid that no matching process has. -/
def isBystander (t : ProcessTable) (q : ProcessRow) : Bool :=
  (s.matching t).all fun p => p.pid != q.pid

theorem processes_stop_eq (t : ProcessTable) :
    (s.stop t).2.processes = t.processes.filter fun q =>
      s.isBystander t q || t.withstands q.pid := by
  obtain ⟨-, -, hrows⟩ := foldl_terminate (s.matching t) true t
  apply hrows.trans
  apply List.filter_congr
  intro q _
  unfold isBystander
  rw [Bool.not_and, Bool.not_not, List.not_any_eq_all_not]
  rfl

theorem matching_stop_eq_nil {t : ProcessTable} (h : (s.stop t).1 = true)
    (hyields : ∀ p ∈ s.matching t, p.pid ∉ t.stubborn) : s.matching (s.stop t).2 = [] := by
  rw [stop_fst, List.all_eq_true] at h
  rw [matching_stop, List.filter_eq_nil_iff]
  intro p hp hwithstands
  unfold ProcessTable.withstands at hwithstands
  rcases Bool.or_eq_true_iff.1 hwithstands with hrefuses | hignores
  · have hsent := h p hp
    rw [hrefuses] at hsent
    cases hsent
  · exact hyields p hp (List.contains_iff_mem.1 hignores)

/-- A stop tries to signal every matching process of the table, zombies included, in the order of
the table, whatever becomes of the signals before. It tells whether all of them were sent, and who
is signalled and yields is gone. -/
theorem stop_effects (t : ProcessTable) :
    s.stopOn Machine.table = s.stop ∧
    s.stopOn Machine.table.recorded (t, []) =
      ((s.stop t).1, (s.stop t).2, (s.matching t).map fun p => .signal p.pid) ∧
    ((s.stop t).1 = true ↔ ∀ p ∈ s.matching t, p.pid ∉ t.refuse) ∧
    (s.stop t).2.terminated = t.terminated ++
      ((s.matching t).map (·.pid)).filter (fun pid => !t.refuse.contains pid) ∧
    (s.stop t).2.processes.filter (s.isBystander t) = t.processes.filter (s.isBystander t) ∧
    (s.stop t).2.processes = t.processes.filter
      (fun q => s.isBystander t q || t.withstands q.pid) ∧
    ((s.stop t).1 = true → (∀ p ∈ s.matching t, p.pid ∉ t.stubborn) →
      s.matching (s.stop t).2 = [] ∧ (s.isRunning (s.stop t).2).1 = false) := by
  have hcalls := s.stopOn_recorded t []
  rw [List.nil_append] at hcalls
  have hanswer : (s.stop t).1 = true ↔ ∀ p ∈ s.matching t, p.pid ∉ t.refuse := by
    rw [stop_fst, List.all_eq_true]
    simp
  have hterminated := (logsAfter_after t (s.signalCalls t)).terminated
  rw [← snd_stop, signalCalls, signalledPids] at hterminated
  have hrows := s.processes_stop_eq t
  refine ⟨s.stopOn_table, hcalls, hanswer, hterminated, ?_, hrows, fun hsent hyields => ?_⟩
  · rw [hrows, List.filter_filter]
    apply List.filter_congr
    intro q _
    cases s.isBystander t q <;> rfl
  · have hnone := s.matching_stop_eq_nil hsent hyields
    refine ⟨hnone, ?_⟩
    rw [isRunning_fst, live, hnone]
    rfl

/-- Of three matching processes with two pids the first one refuses, and then none does. -/
theorem stop_effects_refused_and_gone :
    let s : Supervisor := ⟨"search"⟩
    let t : ProcessTable :=
      { processes := [⟨7, "search", .alive⟩, ⟨8, "editor", .alive⟩, ⟨9, "Search.py", .zombie⟩,
          ⟨9, "research", .alive⟩]
        refuse := [7] }
    let u : ProcessTable := { t with refuse := [] }
    (s.stop t).1 = false ∧ (s.stop t).2.terminated = [9, 9] ∧
      s.stopOn Machine.table.recorded (t, []) =
        ((s.stop t).1, (s.stop t).2, [.signal 7, .signal 9, .signal 9]) ∧
      (s.stop u).1 = true ∧ (∀ p ∈ s.matching u, p.pid ∉ u.stubborn) ∧
      s.matching (s.stop u).2 = [] ∧ (s.isRunning (s.stop u).2).1 = false := by
  intro s t u
  have hmatching : s.matching t =
      [⟨7, "search", .alive⟩, ⟨9, "Search.py", .zombie⟩, ⟨9, "research", .alive⟩] := by
    decide +kernel
  obtain ⟨-, hcalls, -, hterminated, -⟩ := stop_effects s t
  rw [hmatching] at hcalls hterminated
  have hsent : (s.stop u).1 = true := by decide +kernel
  have hyields : ∀ p ∈ s.matching u, p.pid ∉ u.stubborn := fun p _ => List.not_mem_nil
  obtain ⟨-, -, -, -, -, -, hgone⟩ := stop_effects s u
  exact ⟨by decide +kernel, hterminated, hcalls, hsent, hyields, hgone hsent hyields⟩

/-! ### Starting -/

/-- The calls that make room for a new process: the matching zombies are reaped, and the live
matching processes are signalled. -/
def clearingCalls (t : ProcessTable) : List Call :=
  s.reapCalls t ++ (s.live t).map fun p => .signal p.pid

/-- The ways that a start goes, each with the calls it takes, in order. Without a live matching
process nothing is signalled, and so nothing is refused. -/
inductive Procedure (t : ProcessTable) (argv : List String) : LaunchOutcome → List Call → Prop
  | gaveUp (refused : ∃ p ∈ s.live t, p.pid ∈ t.refuse) :
      Procedure t argv .staleNotStopped (s.clearingCalls t)
  | failed (sent : ∀ p ∈ s.live t, p.pid ∉ t.refuse) {e : ProcessError} {u : ProcessTable}
      (spawn : (t.after (s.clearingCalls t)).spawn argv = (.error e, u)) :
      Procedure t argv .spawnFailed (s.clearingCalls t ++ [.spawn argv])
  | up (sent : ∀ p ∈ s.live t, p.pid ∉ t.refuse) {pid : Nat} {u : ProcessTable}
      (spawn : (t.after (s.clearingCalls t)).spawn argv = (.ok pid, u)) (alive : s.live u ≠ []) :
      Procedure t argv (.started pid) (s.clearingCalls t ++ .spawn argv :: s.reapCalls u)
  | down (sent : ∀ p ∈ s.live t, p.pid ∉ t.refuse) {pid : Nat} {u : ProcessTable}
      (spawn : (t.after (s.clearingCalls t)).spawn argv = (.ok pid, u)) (gone : s.live u = []) :
      Procedure t argv (.exitedEarly pid) (s.clearingCalls t ++ .spawn argv :: s.reapCalls u)

theorem stop_of_matching_nil {t : ProcessTable} (h : s.matching t = []) :
    s.stop t = (true, t) := by
  unfold stop
  rw [h]
  rfl

/-- To stop is no different from doing nothing when nothing is running. -/
theorem start_eq (t : ProcessTable) (argv : List String) :
    s.start t argv =
      if (s.stop (s.isRunning t).2).1 then s.launch (s.stop (s.isRunning t).2).2 argv
      else (.staleNotStopped, (s.stop (s.isRunning t).2).2) := by
  have hmatching := s.matching_isRunning t
  have hrunning := s.isRunning_fst t
  unfold start
  generalize s.isRunning t = looked at hmatching hrunning
  obtain ⟨running, u⟩ := looked
  dsimp only at hmatching hrunning ⊢
  cases running with
  | true => rfl
  | false =>
    have hlive : s.live t = [] := by
      rw [eq_comm, Bool.not_eq_false', List.isEmpty_iff] at hrunning
      exact hrunning
    rw [s.stop_of_matching_nil (hmatching.trans hlive)]
    rfl

theorem signalCalls_isRunning (t : ProcessTable) :
    s.signalCalls (s.isRunning t).2 = (s.live t).map fun p => .signal p.pid := by
  rw [signalCalls, matching_isRunning]

/-- The table on which a process is spawned. -/
theorem after_clearingCalls (t : ProcessTable) :
    t.after (s.clearingCalls t) = (s.stop (s.isRunning t).2).2 := by
  rw [clearingCalls, ProcessTable.after_append, ← snd_isRunning, ← signalCalls_isRunning,
    ← snd_stop]

/-- The calls that a start makes, as the machine records them. -/
def startCalls (t : ProcessTable) (argv : List String) : List Call :=
  (s.startOn Machine.table.recorded (t, []) argv).2.2

theorem startOn_recorded (t : ProcessTable) (argv : List String) :
    s.startOn Machine.table.recorded (t, []) argv =
      ((s.start t argv).1, (s.start t argv).2, s.clearingCalls t ++
        if (s.stop (s.isRunning t).2).1 then s.launchCalls (s.stop (s.isRunning t).2).2 argv
        else []) := by
  have hsignals := s.signalCalls_isRunning t
  have hrunning := s.isRunning_fst t
  rw [s.start_eq]
  unfold startOn clearingCalls
  rw [isRunningOn_recorded, ← hsignals]
  generalize s.isRunning t = looked at hsignals hrunning
  obtain ⟨running, u⟩ := looked
  dsimp only at hsignals hrunning ⊢
  cases running with
  | true =>
    rw [if_pos rfl, stopOn_recorded]
    dsimp only
    cases (s.stop u).1 with
    | true => rw [if_pos rfl, if_pos rfl, if_pos rfl, launchOn_recorded, List.nil_append]
    | false => rw [if_neg Bool.false_ne_true, if_neg Bool.false_ne_true,
        if_neg Bool.false_ne_true, List.append_nil, List.nil_append]
  | false =>
    have hnone : s.matching u = [] := by
      rw [eq_comm, Bool.not_eq_false', List.isEmpty_iff] at hrunning
      rw [hrunning] at hsignals
      exact List.map_eq_nil_iff.1 hsignals
    rw [if_neg Bool.false_ne_true, launchOn_recorded, signalCalls, hnone,
      s.stop_of_matching_nil hnone, List.map_nil, List.append_nil, List.nil_append]
    rfl

theorem procedure_start (t : ProcessTable) (argv : List String) :
    s.Procedure t argv (s.start t argv).1 (s.startCalls t argv) := by
  have hstopped : (s.stop (s.isRunning t).2).1 = true ↔ ∀ p ∈ s.live t, p.pid ∉ t.refuse := by
    rw [stop_fst, matching_isRunning, (s.sameMachine_isRunning t).refuse, List.all_eq_true]
    simp
  unfold startCalls
  rw [startOn_recorded, start_eq]
  dsimp only
  by_cases hsent : (s.stop (s.isRunning t).2).1 = true
  · have hall := hstopped.1 hsent
    have htable := s.after_clearingCalls t
    rw [if_pos hsent, if_pos hsent, ← htable]
    unfold launch launchCalls
    cases hspawn : (t.after (s.clearingCalls t)).spawn argv with
    | mk result u =>
      cases result with
      | error e => exact .failed hall hspawn
      | ok pid =>
        dsimp only
        rw [isRunning_fst]
        by_cases hgone : s.live u = []
        · rw [hgone]
          exact .down hall hspawn hgone
        · rw [List.isEmpty_eq_false_iff.2 hgone]
          exact .up hall hspawn hgone
  · rw [if_neg hsent, if_neg hsent, List.append_nil]
    rw [hstopped] at hsent
    push Not at hsent
    exact .gaveUp hsent

theorem snd_start (t : ProcessTable) (argv : List String) :
    (s.start t argv).2 = t.after (s.startCalls t argv) := by
  unfold startCalls
  rw [startOn_recorded, start_eq]
  dsimp only
  rw [ProcessTable.after_append, after_clearingCalls]
  cases (s.stop (s.isRunning t).2).1 with
  | true =>
    rw [if_pos rfl, if_pos rfl]
    exact s.snd_launch _ argv
  | false => rfl

theorem newcomers_of_sameMachine {t u : ProcessTable} (h : ProcessTable.SameMachine t u) :
    u.newcomers = t.newcomers := by
  unfold ProcessTable.newcomers
  rw [h.spawnBehaviour, h.lastPid, h.spawnName]

theorem processes_of_spawn_ok {t u : ProcessTable} {argv : List String} {pid : Nat}
    (h : t.spawn argv = (.ok pid, u)) : u.processes = t.processes ++ t.newcomers := by
  by_cases hfails : argv = [] ∨ t.spawnBehaviour = .fails
  · obtain ⟨e, v, hspawn, -⟩ := ProcessTable.spawn_of_fails hfails
    rw [hspawn] at h
    cases h
  · rw [not_or] at hfails
    rw [ProcessTable.spawn_of_succeeds hfails.1 hfails.2] at h
    cases h
    rfl

/-- A signal or a reaping is meant for a matching process of the table, a reaping perhaps for the
new one. -/
def IsAimed (t : ProcessTable) : Call → Prop
  | .signal pid => ∃ p ∈ t.processes, s.Matches p = true ∧ p.pid = pid
  | .reap pid => ∃ p ∈ t.processes ++ t.newcomers, s.Matches p = true ∧ p.pid = pid
  | .spawn _ => True

theorem isAimed_clearingCalls (t : ProcessTable) : ∀ c ∈ s.clearingCalls t, s.IsAimed t c := by
  unfold clearingCalls reapCalls
  rw [List.forall_mem_append, List.forall_mem_map, List.forall_mem_map]
  constructor
  · intro p hp
    obtain ⟨hrow, hmatches⟩ := List.mem_filter.1 (List.mem_filter.1 hp).1
    exact ⟨p, List.mem_append_left _ hrow, hmatches, rfl⟩
  · intro p hp
    obtain ⟨hrow, hmatches⟩ := List.mem_filter.1 (List.mem_filter.1 hp).1
    exact ⟨p, hrow, hmatches, rfl⟩

/-- The rows of the table on which a process was spawned are old ones and its own. -/
theorem mem_of_spawn_ok {t u : ProcessTable} {argv : List String} {pid : Nat}
    (h : (t.after (s.clearingCalls t)).spawn argv = (.ok pid, u)) {p : ProcessRow}
    (hp : p ∈ u.processes) : p ∈ t.processes ++ t.newcomers := by
  have hsame := (s.sameMachine_isRunning t).trans (s.sameMachine_stop (s.isRunning t).2)
  have hrows := (s.sublist_stop (s.isRunning t).2).trans (s.sublist_isRunning t)
  rw [after_clearingCalls] at h
  rw [processes_of_spawn_ok h, newcomers_of_sameMachine hsame] at hp
  exact (hrows.append_right _).subset hp

theorem Procedure.isAimed {t : ProcessTable} {argv : List String} {outcome : LaunchOutcome}
    {calls : List Call} (h : s.Procedure t argv outcome calls) : ∀ c ∈ calls, s.IsAimed t c := by
  have hclearing := s.isAimed_clearingCalls t
  have hlooking : ∀ {pid : Nat} {u : ProcessTable},
      (t.after (s.clearingCalls t)).spawn argv = (.ok pid, u) →
      ∀ c ∈ s.clearingCalls t ++ .spawn argv :: s.reapCalls u, s.IsAimed t c := by
    intro pid u hspawn
    unfold reapCalls
    rw [List.forall_mem_append, List.forall_mem_cons, List.forall_mem_map]
    refine ⟨hclearing, trivial, fun p hp => ?_⟩
    obtain ⟨hrow, hmatches⟩ := List.mem_filter.1 (List.mem_filter.1 hp).1
    exact ⟨p, s.mem_of_spawn_ok hspawn hrow, hmatches, rfl⟩
  cases h with
  | gaveUp refused => exact hclearing
  | failed sent hspawn =>
    rw [List.forall_mem_append, List.forall_mem_singleton]
    exact ⟨hclearing, trivial⟩
  | up sent hspawn alive => exact hlooking hspawn
  | down sent hspawn gone => exact hlooking hspawn

theorem launch_ne_staleNotStopped (t : ProcessTable) (argv : List String) :
    (s.launch t argv).1 ≠ .staleNotStopped := by
  unfold launch
  obtain ⟨result, u⟩ := t.spawn argv
  cases result with
  | error e => exact fun he => nomatch he
  | ok pid =>
    dsimp only
    cases (s.isRunning u).1 <;> exact fun he => nomatch he

/-- Giving up leaves no trace but the signals that were sent. -/
theorem spawned_of_staleNotStopped {t : ProcessTable} {argv : List String}
    (h : (s.start t argv).1 = .staleNotStopped) :
    (s.start t argv).2.spawned = t.spawned ∧ (s.start t argv).2.lastPid = t.lastPid := by
  rcases s.start_cases t argv with ⟨u, -, hsame, -, hstart⟩ | ⟨u, -, -, -, hstart⟩
  · rw [hstart]
    exact ⟨hsame.spawned, hsame.lastPid⟩
  · rw [hstart] at h
    exact absurd h (s.launch_ne_staleNotStopped u argv)

/-- A start goes by one of its procedures, and the table is what those calls leave of it. When it
gives up it has spawned nothing, and nobody but matching processes is signalled or reaped. -/
theorem start_effects (t : ProcessTable) (argv : List String) :
    s.startOn Machine.table = s.start ∧
    s.startOn Machine.table.recorded (t, []) argv =
      ((s.start t argv).1, (s.start t argv).2, s.startCalls t argv) ∧
    s.Procedure t argv (s.start t argv).1 (s.startCalls t argv) ∧
    (s.start t argv).2 = t.after (s.startCalls t argv) ∧
    t.LogsAfter (s.start t argv).2 (s.startCalls t argv) ∧
    ((s.start t argv).1 = .staleNotStopped →
      (s.start t argv).2.spawned = t.spawned ∧ (s.start t argv).2.lastPid = t.lastPid) ∧
    ∀ c ∈ s.startCalls t argv, s.IsAimed t c := by
  have hprocedure := s.procedure_start t argv
  have htable := s.snd_start t argv
  have hlogs := logsAfter_after t (s.startCalls t argv)
  refine ⟨s.startOn_table, ?_, hprocedure, htable, htable ▸ hlogs, s.spawned_of_staleNotStopped,
    hprocedure.isAimed⟩
  unfold startCalls
  rw [startOn_recorded]

/-- One of two live matching processes refuses the signal, and when it does not any more, the new
process is a zombie at once. -/
theorem start_effects_refused_and_exited :
    let s : Supervisor := ⟨"search"⟩
    let t : ProcessTable :=
      { processes := [⟨7, "search", .alive⟩, ⟨8, "search", .zombie⟩, ⟨9, "research", .alive⟩]
        spawnName := "search", spawnBehaviour := .zombie, refuse := [7] }
    let u : ProcessTable := { t with refuse := [] }
    (s.start t ["x"]).1 = .staleNotStopped ∧
      s.startCalls t ["x"] = [.reap 8, .signal 7, .signal 9] ∧
      (s.start t ["x"]).2.spawned = [] ∧ (s.start t ["x"]).2.lastPid = 1000 ∧
      s.IsAimed t (.signal 9) ∧
      (s.start u ["x"]).1 = .exitedEarly 1001 ∧
      s.startCalls u ["x"] =
        [.reap 8, .signal 7, .signal 9, .spawn ["x"], .reap 1001] ∧
      s.IsAimed u (.reap 1001) := by
  intro s t u
  have hstale : (s.start t ["x"]).1 = .staleNotStopped := by decide +kernel
  have hcalls : s.startCalls t ["x"] = [.reap 8, .signal 7, .signal 9] := by decide +kernel
  have hexited : s.startCalls u ["x"] =
      [.reap 8, .signal 7, .signal 9, .spawn ["x"], .reap 1001] := by decide +kernel
  obtain ⟨-, -, -, -, -, hnothing, haimed⟩ := start_effects s t ["x"]
  obtain ⟨-, -, -, -, -, -, haimed'⟩ := start_effects s u ["x"]
  obtain ⟨hspawned, hpid⟩ := hnothing hstale
  rw [hcalls] at haimed
  rw [hexited] at haimed'
  exact ⟨hstale, hcalls, hspawned, hpid, haimed _ (by decide), by decide +kernel, hexited,
    haimed' _ (by decide)⟩

end Supervisor
end LoadBench
