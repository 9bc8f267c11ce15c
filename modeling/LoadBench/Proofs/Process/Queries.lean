import LoadBench.Control.Service
import LoadBench.Proofs.Process.Rows

/-! Whoever asks how the supervised process is doing leaves no trace that a start, an answer or a
live process would show. A question may reap zombies, so the table with more questions has fewer
rows than the one without. -/
namespace LoadBench

namespace ProcessTable

/-- What happens on a machine by itself. -/
inductive Incident
  | appears (p : ProcessRow)
  | vanishes (pid : Nat)
  /-- The process has exited and is a zombie. -/
  | exits (pid : Nat)
  | changes (c : Conditions)
  deriving DecidableEq, Repr

def incident (t : ProcessTable) : Incident → ProcessTable
  | .appears p => { t with processes := t.processes ++ [p] }
  | .vanishes pid => t.remove pid
  | .exits pid =>
    { t with
      processes := t.processes.map fun p => if p.pid = pid then { p with state := .zombie } else p }
  | .changes c => t.under c

end ProcessTable

namespace Supervisor

open ProcessTable (HasUniquePids Incident SameMachine SameRows)

variable (s : Supervisor)

/-- A second table with the same processes, of which some matching zombies are missing. -/
structure Thinned (t u : ProcessTable) : Prop where
  machine : SameMachine t u
  settled : s.settled u = s.settled t
  sublist : u.processes.Sublist t.processes

theorem Thinned.refl (t : ProcessTable) : s.Thinned t t := ⟨.refl t, rfl, .refl _⟩

variable {s}

theorem Thinned.of_sameRows {t u : ProcessTable} (h : SameRows t u) : s.Thinned t u where
  machine := h.machine
  settled := by
    unfold Supervisor.settled
    rw [h.processes]
  sublist := by rw [h.processes]

theorem Thinned.live {t u : ProcessTable} (h : s.Thinned t u) : s.live u = s.live t := by
  rw [live_eq_settled, live_eq_settled, h.settled]

theorem Thinned.liveRows {t u : ProcessTable} (h : s.Thinned t u) : u.liveRows = t.liveRows := by
  rw [s.liveRows_eq_settled, s.liveRows_eq_settled, h.settled]

/-! ### One operation on both tables -/

/-- Looking makes up for all differences. -/
theorem Thinned.isRunning {t u : ProcessTable} (h : s.Thinned t u) (ht : t.HasUniquePids) :
    (s.isRunning u).1 = (s.isRunning t).1 ∧ SameRows (s.isRunning t).2 (s.isRunning u).2 := by
  have hu := ht.of_sublist h.sublist
  refine ⟨?_, ?_, ?_⟩
  · rw [isRunning_fst, isRunning_fst, h.live]
  · have hback := (s.sameMachine_isRunning t).symm
    exact hback.trans (h.machine.trans (s.sameMachine_isRunning u))
  · rw [s.processes_isRunning ht, s.processes_isRunning hu, h.settled]

/-- One more look at the second table. -/
theorem Thinned.look {t u : ProcessTable} (h : s.Thinned t u) (ht : t.HasUniquePids) :
    s.Thinned t (s.isRunning u).2 := by
  refine ⟨h.machine.trans (s.sameMachine_isRunning u), ?_,
    (s.sublist_isRunning u).trans h.sublist⟩
  have hidem : s.settled (s.isRunning u).2 = s.settled u := by
    have hrows := s.processes_isRunning (ht.of_sublist h.sublist)
    unfold Supervisor.settled at hrows ⊢
    rw [hrows, List.filter_filter]
    simp
  exact hidem.trans h.settled

theorem Thinned.stop {t u : ProcessTable} (h : s.Thinned t u) (ht : t.HasUniquePids) :
    s.Thinned (s.stop t).2 (s.stop u).2 := by
  have hwithstands : u.withstands = t.withstands := by
    unfold ProcessTable.withstands
    rw [h.machine.refuse, h.machine.stubborn]
  have hrows := s.processes_stop ht
  have hrows' := s.processes_stop (ht.of_sublist h.sublist)
  rw [hwithstands] at hrows'
  refine ⟨?_, ?_, ?_⟩
  · have hback := (s.sameMachine_stop t).symm
    exact hback.trans (h.machine.trans (s.sameMachine_stop u))
  · have hsettled := h.settled
    unfold Supervisor.settled at hsettled ⊢
    rw [hrows, hrows', List.filter_comm, hsettled, List.filter_comm]
  · rw [hrows, hrows']
    exact h.sublist.filter _

theorem Thinned.start {t u : ProcessTable} (h : s.Thinned t u) (ht : t.HasUniquePids)
    (argv : List String) :
    (s.start u argv).1 = (s.start t argv).1 ∧
      SameRows (s.start t argv).2 (s.start u argv).2 := by
  obtain ⟨hrunning, hrows⟩ := h.isRunning ht
  obtain ⟨hstopped, hleft⟩ := s.stop_of_sameRows hrows
  unfold Supervisor.start
  dsimp only
  rw [hrunning]
  split
  · rw [hstopped]
    split
    · exact s.launch_of_sameRows hleft argv
    · exact ⟨rfl, hleft⟩
  · exact s.launch_of_sameRows hrows argv

theorem Thinned.incident {t u : ProcessTable} (h : s.Thinned t u) (i : Incident) :
    s.Thinned (t.incident i) (u.incident i) := by
  obtain ⟨hmachine, hsettled, hsublist⟩ := h
  obtain ⟨hname, hbehaviour, hrefuse, hstubborn, hpid, hspawned⟩ := hmachine
  unfold Supervisor.settled at hsettled
  cases i with
  | appears p =>
    refine ⟨⟨hname, hbehaviour, hrefuse, hstubborn, hpid, hspawned⟩, ?_, hsublist.append_right [p]⟩
    show (u.processes ++ [p]).filter _ = (t.processes ++ [p]).filter _
    rw [List.filter_append, List.filter_append, hsettled]
  | vanishes pid =>
    refine ⟨⟨hname, hbehaviour, hrefuse, hstubborn, hpid, hspawned⟩, ?_, hsublist.filter _⟩
    show (u.processes.filter _).filter _ = (t.processes.filter _).filter _
    rw [List.filter_comm, hsettled, List.filter_comm]
  | exits pid =>
    refine ⟨⟨hname, hbehaviour, hrefuse, hstubborn, hpid, hspawned⟩, ?_, hsublist.map _⟩
    let exit (p : ProcessRow) : ProcessRow :=
      if p.pid = pid then { p with state := .zombie } else p
    -- what is left over stays so when it exits
    have hstays : ∀ ps : List ProcessRow, (ps.map exit).filter (fun p => !s.isLeftover p) =
        ((ps.filter fun p => !s.isLeftover p).map exit).filter fun p => !s.isLeftover p := by
      intro ps
      rw [List.filter_map, List.filter_map, List.filter_filter]
      congr 1
      apply List.filter_congr
      intro p _
      have hexit : s.isLeftover p = true → s.isLeftover (exit p) = true := by
        intro hleft
        unfold exit
        split
        · exact Bool.and_eq_true_iff.2 ⟨(Bool.and_eq_true_iff.1 hleft).1, rfl⟩
        · exact hleft
      simp only [Function.comp_apply]
      cases hp : s.isLeftover p with
      | false => simp
      | true => simp [hexit hp]
    show (u.processes.map exit).filter _ = (t.processes.map exit).filter _
    rw [hstays, hsettled, ← hstays]
  | changes c => exact ⟨⟨rfl, rfl, rfl, hstubborn, hpid, hspawned⟩, hsettled, hsublist⟩

/-! ### Pids stay unique -/

theorem processes_launch (t : ProcessTable) (argv : List String) :
    ∃ new : List ProcessRow, (s.launch t argv).2.processes.Sublist (t.processes ++ new) ∧
      new.length ≤ 1 ∧ ∀ p ∈ new, (s.launch t argv).1.pid? = some p.pid := by
  by_cases hfails : argv = [] ∨ t.spawnBehaviour = .fails
  · obtain ⟨e, u, hspawn, hu⟩ := ProcessTable.spawn_of_fails hfails
    refine ⟨[], ?_, Nat.zero_le 1, fun p hp => nomatch hp⟩
    unfold launch
    rw [hspawn]
    simp [hu]
  · rw [not_or] at hfails
    rw [s.launch_of_succeeds hfails.1 hfails.2]
    refine ⟨t.newcomers, s.sublist_isRunning _, t.length_newcomers, fun p hp => ?_⟩
    rw [t.pid_of_mem_newcomers hp]
    dsimp only
    split <;> rfl

/-- A start takes rows away, and adds at most the one of the process that it reports. -/
theorem processes_start (t : ProcessTable) (argv : List String) :
    ∃ new : List ProcessRow, (s.start t argv).2.processes.Sublist (t.processes ++ new) ∧
      new.length ≤ 1 ∧ ∀ p ∈ new, (s.start t argv).1.pid? = some p.pid := by
  have hlook := s.sublist_isRunning t
  have hstop := (s.sublist_stop (s.isRunning t).2).trans hlook
  unfold start
  dsimp only
  split
  · split
    · obtain ⟨new, hrows, hnew⟩ := processes_launch (s := s) (s.stop (s.isRunning t).2).2 argv
      exact ⟨new, hrows.trans (hstop.append_right new), hnew⟩
    · refine ⟨[], ?_, Nat.zero_le 1, fun p hp => nomatch hp⟩
      rwa [List.append_nil]
  · obtain ⟨new, hrows, hnew⟩ := processes_launch (s := s) (s.isRunning t).2 argv
    exact ⟨new, hrows.trans (hlook.append_right new), hnew⟩

theorem nodup_append {t : ProcessTable} (ht : t.HasUniquePids) {new : List ProcessRow}
    (hnew : new.length ≤ 1) (hfresh : ∀ p ∈ new, ∀ q ∈ t.processes, q.pid ≠ p.pid) :
    ((t.processes ++ new).map (·.pid)).Nodup := by
  rw [List.map_append]
  apply List.Nodup.append ht
  · match new, hnew with
    | [], _ => exact List.nodup_nil
    | [p], _ => exact List.nodup_singleton _
  · intro pid hold hadded
    obtain ⟨q, hq, rfl⟩ := List.mem_map.1 hold
    obtain ⟨p, hp, hpid⟩ := List.mem_map.1 hadded
    exact hfresh p hp q hq hpid.symm

theorem uniquePids_start {t : ProcessTable} (ht : t.HasUniquePids) {argv : List String}
    (hfresh : ∀ pid, (s.start t argv).1.pid? = some pid → ∀ q ∈ t.processes, q.pid ≠ pid) :
    (s.start t argv).2.HasUniquePids := by
  obtain ⟨new, hrows, hone, hnew⟩ := processes_start (s := s) t argv
  have happend := nodup_append ht hone fun p hp => hfresh p.pid (hnew p hp)
  exact List.Nodup.sublist (hrows.map _) happend

theorem uniquePids_incident {t : ProcessTable} (ht : t.HasUniquePids) {i : Incident}
    (hfresh : ∀ p, i = .appears p → ∀ q ∈ t.processes, q.pid ≠ p.pid) :
    (t.incident i).HasUniquePids := by
  cases i with
  | appears p =>
    refine nodup_append ht (Nat.le_refl [p].length) fun q hq => ?_
    rw [List.mem_singleton.1 hq]
    exact hfresh p rfl
  | vanishes pid => exact ht.of_sublist List.filter_sublist
  | exits pid =>
    have hpids : (t.incident (.exits pid)).processes.map (·.pid) = t.processes.map (·.pid) := by
      unfold ProcessTable.incident
      dsimp only
      rw [List.map_map]
      apply List.map_congr_left
      intro p _
      simp only [Function.comp_apply]
      split <;> rfl
    unfold ProcessTable.HasUniquePids
    rwa [hpids]
  | changes c => exact ht

/-! ### Answers -/

/-- What an answer tells of processes that are alive. Whether all signals could be sent depends on
the zombies too. -/
def Answer.ofLive? : Answer → Option Answer
  | .stopped _ => none
  | a => some a

/-- Two events that nothing but zombies tells apart. -/
structure Alike (e f : Event) : Prop where
  answer : e.answer.ofLive? = f.answer.ofLive?
  spawned : e.after.spawned = f.after.spawned
  liveRows : e.after.liveRows = f.after.liveRows

theorem Thinned.perform {t u : ProcessTable} (h : s.Thinned t u) (ht : t.HasUniquePids)
    (o : Operation) :
    (s.perform t o).1.ofLive? = (s.perform u o).1.ofLive? ∧
      s.Thinned (s.perform t o).2 (s.perform u o).2 := by
  obtain ⟨hrunning, hrows⟩ := h.isRunning ht
  have hlooked := Thinned.of_sameRows (s := s) hrows
  cases o with
  | start argv =>
    obtain ⟨houtcome, hstarted⟩ := h.start ht argv
    have hanswer := congrArg (fun o => some (Answer.launched o)) houtcome
    exact ⟨hanswer.symm, Thinned.of_sameRows hstarted⟩
  | stop => exact ⟨rfl, h.stop ht⟩
  | isRunning =>
    have hanswer := congrArg (fun b => some (Answer.running b)) hrunning
    exact ⟨hanswer.symm, hlooked⟩
  | state =>
    have hanswer := congrArg
      (fun b => some (Answer.state (if b then LifecycleState.running else .notRunning))) hrunning
    exact ⟨hanswer.symm, hlooked⟩

theorem Thinned.alike {t u : ProcessTable} (h : s.Thinned t u) (ht : t.HasUniquePids)
    (o : Operation) : Alike (s.event t o) (s.event u o) := by
  obtain ⟨hanswer, hafter⟩ := h.perform ht o
  exact ⟨hanswer, hafter.machine.spawned.symm, hafter.liveRows.symm⟩

end Supervisor

namespace Service

open ProcessTable (Incident)
open Supervisor (Alike Event Operation Thinned)

/-- A question about how the supervised process is doing. -/
inductive Query | isRunning | state | status
  deriving DecidableEq, Repr

inductive Action
  | operate (o : Operation)
  | incident (i : Incident)
  | query (q : Query)
  deriving DecidableEq, Repr

def Action.isQuery : Action → Bool
  | .query _ => true
  | _ => false

/-- A run without its questions. -/
def withoutQueries (acts : List Action) : List Action := acts.filter fun a => !a.isQuery

variable (v : Service)

def ask (site : Site) : Query → Site
  | .isRunning => (v.isRunning site).2
  | .state => { site with processes := (v.supervisor.state site.processes).2 }
  | .status => (v.status site).2

def act (site : Site) : Action → Site
  | .operate o => { site with processes := (v.supervisor.perform site.processes o).2 }
  | .incident i => { site with processes := site.processes.incident i }
  | .query q => v.ask site q

/-- The operations of a run, each with its answer. -/
def events (site : Site) : List Action → List Event
  | [] => []
  | .operate o :: rest =>
    v.supervisor.event site.processes o :: events (v.act site (.operate o)) rest
  | .incident i :: rest => events (v.act site (.incident i)) rest
  | .query q :: rest => events (v.act site (.query q)) rest

/-- The pid that comes up with an action. -/
def newPid? (site : Site) : Action → Option Nat
  | .operate (.start argv) => (v.supervisor.start site.processes argv).1.pid?
  | .incident (.appears p) => some p.pid
  | _ => none

/-- Every pid that comes up in a run is one that no process of the table has. -/
def HasFreshPids (site : Site) : List Action → Prop
  | [] => True
  | a :: rest =>
    (∀ pid ∈ v.newPid? site a, ∀ p ∈ site.processes.processes, p.pid ≠ pid) ∧
      HasFreshPids (v.act site a) rest

theorem processes_ask (site : Site) (q : Query) :
    (v.ask site q).processes = (v.supervisor.isRunning site.processes).2 := by
  cases q <;> rfl

variable {v}

/-- The second run ends on a table with fewer zombies, and was the same all the way. -/
theorem run_thinned {site other : Site} {acts : List Action}
    (h : v.supervisor.Thinned site.processes other.processes)
    (hu : site.processes.HasUniquePids)
    (hf : v.HasFreshPids site (withoutQueries acts)) :
    List.Forall₂ Alike (v.events site (withoutQueries acts)) (v.events other acts) ∧
      v.supervisor.Thinned ((withoutQueries acts).foldl v.act site).processes
        (acts.foldl v.act other).processes := by
  induction acts generalizing site other with
  | nil => exact ⟨.nil, h⟩
  | cons a rest ih =>
    cases a with
    | operate o =>
      obtain ⟨hnew, hrest⟩ := hf
      obtain ⟨-, hthinned⟩ := h.perform hu o
      have hafter : v.supervisor.Thinned (v.act site (.operate o)).processes
          (v.act other (.operate o)).processes := hthinned
      have hunique : (v.supervisor.perform site.processes o).2.HasUniquePids := by
        cases o with
        | start argv => exact Supervisor.uniquePids_start hu hnew
        | stop => exact hu.of_sublist (v.supervisor.sublist_stop _)
        | isRunning => exact hu.of_sublist (v.supervisor.sublist_isRunning _)
        | state => exact hu.of_sublist (v.supervisor.sublist_isRunning _)
      obtain ⟨hevents, hend⟩ := ih hafter hunique hrest
      exact ⟨.cons (h.alike hu o) hevents, hend⟩
    | incident i =>
      obtain ⟨hnew, hrest⟩ := hf
      have hunique : (site.processes.incident i).HasUniquePids := by
        apply Supervisor.uniquePids_incident hu
        rintro p rfl
        exact hnew p.pid rfl
      exact ih (h.incident i) hunique hrest
    | query q =>
      have hlook : v.supervisor.Thinned site.processes (v.ask other q).processes := by
        rw [v.processes_ask]
        exact h.look hu
      exact ih hlook hu hf

/-- Questions in a run change no start, no answer about live processes, no command line that is
spawned and no live process. -/
theorem queries_invisible (v : Service) (site : Site) (acts : List Action)
    (hu : site.processes.HasUniquePids)
    (hf : v.HasFreshPids site (withoutQueries acts)) :
    List.Forall₂ Alike (v.events site (withoutQueries acts)) (v.events site acts) ∧
      (acts.foldl v.act site).processes.liveRows =
        ((withoutQueries acts).foldl v.act site).processes.liveRows := by
  obtain ⟨hevents, hend⟩ := run_thinned (Thinned.refl v.supervisor site.processes) hu hf
  exact ⟨hevents, hend.liveRows⟩

/-- A zombie that a question reaps, and a process that exits between two questions. -/
theorem queries_invisible_zombies :
    let v : Service := ⟨⟨"search"⟩, ⟨"gen", "trex", []⟩, "", .sysfs "" []⟩
    let site : Site := { processes := {
      processes := [⟨7, "search", .zombie⟩, ⟨8, "search", .alive⟩, ⟨9, "editor", .zombie⟩]
      spawnName := "search" } }
    let acts : List Action :=
      [.query .status, .operate .stop, .query .state, .operate (.start ["x"]),
        .incident (.exits 1001), .query .isRunning, .operate .isRunning]
    site.processes.HasUniquePids ∧ v.HasFreshPids site (withoutQueries acts) ∧
      (v.events site acts).map (·.answer) =
        [.stopped true, .launched (.started 1001), .running false] ∧
      List.Forall₂ Alike (v.events site (withoutQueries acts)) (v.events site acts) := by
  intro v site acts
  have hu : site.processes.HasUniquePids := by decide
  have hf : v.HasFreshPids site (withoutQueries acts) := by
    refine ⟨?_, ?_, ?_, ?_, trivial⟩ <;> decide +kernel
  obtain ⟨hevents, -⟩ := queries_invisible v site acts hu hf
  exact ⟨hu, hf, by decide +kernel, hevents⟩

end Service
end LoadBench
