import LoadBench.Proofs.Process.Launch

/-! One instance at a time. On a machine where a signal that can be sent ends the process, a
supervisor never makes a second live instance, and its answers tell how many there are. -/
namespace LoadBench

namespace ProcessTable

/-- What may change on a machine between two operations. -/
structure Conditions where
  spawnName : String
  spawnBehaviour : SpawnBehaviour
  refuse : List Nat
  deriving DecidableEq, Repr

def under (t : ProcessTable) (c : Conditions) : ProcessTable :=
  { t with spawnName := c.spawnName, spawnBehaviour := c.spawnBehaviour, refuse := c.refuse }

theorem stubborn_spawn (t : ProcessTable) (argv : List String) :
    (t.spawn argv).2.stubborn = t.stubborn := by
  cases argv with
  | nil => rfl
  | cons program rest =>
    unfold spawn
    cases t.spawnBehaviour <;> rfl

theorem length_newcomers (t : ProcessTable) : t.newcomers.length ≤ 1 := by
  unfold newcomers
  cases t.spawnBehaviour <;> simp

theorem pid_of_mem_newcomers (t : ProcessTable) {p : ProcessRow} (h : p ∈ t.newcomers) :
    p.pid = t.lastPid + 1 := by
  unfold newcomers at h
  cases hb : t.spawnBehaviour with
  | stays =>
    rw [hb] at h
    rw [List.mem_singleton.1 h]
  | zombie =>
    rw [hb] at h
    rw [List.mem_singleton.1 h]
  | crashes =>
    rw [hb] at h
    cases h
  | fails =>
    rw [hb] at h
    cases h

theorem withstands_of_yielding {t : ProcessTable} (h : t.stubborn = []) (pid : Nat) :
    t.withstands pid = t.refuse.contains pid := by
  unfold withstands
  rw [h, List.contains_nil, Bool.or_false]

end ProcessTable

namespace Supervisor

open ProcessTable (Conditions SameMachine withstands_of_yielding)

inductive Operation
  | start (argv : List String)
  | stop
  | isRunning
  | state
  deriving DecidableEq, Repr

inductive Answer
  | launched (outcome : LaunchOutcome)
  | stopped (ok : Bool)
  | running (alive : Bool)
  | state (state : LifecycleState)
  deriving DecidableEq, Repr

/-- An answer between the tables before and after the operation. -/
structure Event where
  before : ProcessTable
  answer : Answer
  after : ProcessTable
  deriving DecidableEq, Repr

variable (s : Supervisor)

def perform (t : ProcessTable) : Operation → Answer × ProcessTable
  | .start argv => (s.start t argv).map .launched id
  | .stop => (s.stop t).map .stopped id
  | .isRunning => (s.isRunning t).map .running id
  | .state => (s.state t).map .state id

def event (t : ProcessTable) (o : Operation) : Event :=
  ⟨t, (s.perform t o).1, (s.perform t o).2⟩

/-- The events of a run of operations, each under its own conditions. -/
def events (t : ProcessTable) : List (Conditions × Operation) → List Event
  | [] => []
  | (c, o) :: rest => s.event (t.under c) o :: events (s.event (t.under c) o).after rest

/-- An answer tells how many matching processes are alive after the operation. -/
def Truthful (e : Event) : Prop :=
  match e.answer with
  | .launched (.started pid) => ∃ p, s.live e.after = [p] ∧ p.pid = pid
  | .launched (.exitedEarly _) => s.live e.after = []
  | .launched .spawnFailed => s.live e.after = []
  | .launched .staleNotStopped =>
    s.live e.after ≠ [] ∧ e.after.spawned = e.before.spawned ∧ e.after.lastPid = e.before.lastPid
  | .stopped true => s.live e.after = []
  | .stopped false => s.matching e.after ≠ []
  | .running alive => alive = true ↔ s.live e.after ≠ []
  | .state state => state = if s.live e.after = [] then .notRunning else .running

/-! ### One operation -/

theorem stubborn_launch (t : ProcessTable) (argv : List String) :
    (s.launch t argv).2.stubborn = t.stubborn := by
  have hspawn := t.stubborn_spawn argv
  unfold launch
  generalize t.spawn argv = spawned at hspawn
  obtain ⟨result, u⟩ := spawned
  cases result with
  | error e => exact hspawn
  | ok pid => exact (s.sameMachine_isRunning u).stubborn.trans hspawn

theorem stubborn_start (t : ProcessTable) (argv : List String) :
    (s.start t argv).2.stubborn = t.stubborn := by
  rcases s.start_cases t argv with ⟨u, -, hsame, -, hstart⟩ | ⟨u, -, hsame, -, hstart⟩
  · rw [hstart]
    exact hsame.stubborn
  · rw [hstart, s.stubborn_launch]
    exact hsame.stubborn

theorem stubborn_perform (t : ProcessTable) (o : Operation) :
    (s.perform t o).2.stubborn = t.stubborn := by
  cases o with
  | start argv => exact s.stubborn_start t argv
  | stop => exact (s.sameMachine_stop t).stubborn
  | isRunning => exact (s.sameMachine_isRunning t).stubborn
  | state => exact (s.sameMachine_isRunning t).stubborn

/-- With no matching process alive, a launch leaves at most its own process and tells so. -/
theorem launch_of_none (t : ProcessTable) {u : ProcessTable} (h : s.live u = [])
    (argv : List String) :
    (s.live (s.launch u argv).2).length ≤ 1 ∧
      s.Truthful ⟨t, .launched (s.launch u argv).1, (s.launch u argv).2⟩ := by
  by_cases hfails : argv = [] ∨ u.spawnBehaviour = .fails
  · obtain ⟨v, hlaunch, hv⟩ := s.launch_of_fails hfails
    have hnone : s.live v = [] := hv.trans h
    rw [hlaunch]
    refine ⟨?_, hnone⟩
    rw [hnone]
    exact Nat.zero_le 1
  · rw [not_or] at hfails
    have hgrown := s.live_grown u argv
    rw [h, List.nil_append] at hgrown
    have hone : (s.live (u.grown argv)).length ≤ 1 := by
      rw [hgrown]
      exact Nat.le_trans (List.length_filter_le _ _) u.length_newcomers
    have hafter := s.live_isRunning (u.grown argv)
    rw [s.launch_of_succeeds hfails.1 hfails.2]
    refine ⟨by rwa [hafter], ?_⟩
    cases hlive : s.live (u.grown argv) with
    | nil => exact hafter.trans hlive
    | cons p ps =>
      have hps : ps = [] := by
        rw [hlive, List.length_cons] at hone
        exact List.eq_nil_of_length_eq_zero (by omega)
      have hp : p ∈ u.newcomers.filter fun p => p.state == .alive && s.Matches p := by
        rw [← hgrown, hlive]
        exact List.mem_cons_self
      show ∃ q, s.live (s.isRunning (u.grown argv)).2 = [q] ∧ q.pid = u.lastPid + 1
      refine ⟨p, ?_, u.pid_of_mem_newcomers (List.mem_filter.1 hp).1⟩
      rw [hafter, hlive, hps]

theorem single_start {t : ProcessTable} (h : t.stubborn = []) (argv : List String) :
    (s.live (s.start t argv).2).length ≤ max 1 (s.live t).length ∧
      s.Truthful (s.event t (.start argv)) := by
  show _ ∧ s.Truthful ⟨t, .launched (s.start t argv).1, (s.start t argv).2⟩
  rcases s.start_cases t argv with
    ⟨u, ⟨p, hp, hrefused⟩, hsame, hlive, hstart⟩ | ⟨u, -, -, hlive, hstart⟩
  · have hleft : p ∈ s.live u := by
      rw [hlive, List.mem_filter, withstands_of_yielding h]
      exact ⟨hp, List.contains_iff_mem.2 hrefused⟩
    have htruthful : s.Truthful ⟨t, .launched .staleNotStopped, u⟩ :=
      And.intro (List.ne_nil_of_mem hleft) ⟨hsame.spawned, hsame.lastPid⟩
    rw [hstart]
    refine ⟨?_, htruthful⟩
    rw [hlive]
    exact Nat.le_trans (List.length_filter_le _ _) (Nat.le_max_right 1 _)
  · have hnone : s.live u = [] := by
      rw [hlive, h]
      exact List.filter_eq_nil_iff.2 fun p _ => Bool.false_ne_true
    obtain ⟨hone, htruthful⟩ := s.launch_of_none t hnone argv
    rw [hstart]
    exact ⟨Nat.le_trans hone (Nat.le_max_left 1 _), htruthful⟩

theorem single_stop {t : ProcessTable} (h : t.stubborn = []) :
    (s.live (s.stop t).2).length ≤ max 1 (s.live t).length ∧ s.Truthful (s.event t .stop) := by
  have hfst := s.stop_fst t
  have hlive := s.live_stop t
  have hmatching := s.matching_stop t
  simp only [withstands_of_yielding h] at hlive hmatching
  constructor
  · rw [hlive]
    exact Nat.le_trans (List.length_filter_le _ _) (Nat.le_max_right 1 _)
  · show s.Truthful ⟨t, .stopped (s.stop t).1, (s.stop t).2⟩
    generalize s.stop t = stopped at hfst hlive hmatching
    obtain ⟨ok, u⟩ := stopped
    cases ok with
    | true =>
      have hsent := List.all_eq_true.1 hfst.symm
      refine hlive.trans (List.filter_eq_nil_iff.2 fun p hp => ?_)
      have hp := hsent p (List.mem_filter.1 hp).1
      rw [Bool.not_eq_true'] at hp
      rw [hp]
      exact Bool.false_ne_true
    | false =>
      obtain ⟨p, hp, hrefused⟩ := List.all_eq_false.1 hfst.symm
      rw [Bool.not_eq_true', Bool.not_eq_false] at hrefused
      refine List.ne_nil_of_mem (hmatching ▸ List.mem_filter.2 ⟨hp, hrefused⟩)

theorem single_isRunning (t : ProcessTable) :
    (s.live (s.isRunning t).2).length ≤ max 1 (s.live t).length ∧
      s.Truthful (s.event t .isRunning) ∧ s.Truthful (s.event t .state) := by
  have hfst := s.isRunning_fst t
  have hlive := s.live_isRunning t
  refine ⟨?_, ?_, ?_⟩
  · rw [hlive]
    exact Nat.le_max_right 1 _
  · show (s.isRunning t).1 = true ↔ s.live (s.isRunning t).2 ≠ []
    rw [hfst, hlive, Bool.not_eq_true', List.isEmpty_eq_false_iff]
  · show (if (s.isRunning t).1 then LifecycleState.running else .notRunning) =
      if s.live (s.isRunning t).2 = [] then .notRunning else .running
    rw [hfst, hlive]
    cases s.live t <;> rfl

/-- One operation leaves at most one matching process alive, or no more than there were. -/
theorem single_event {t : ProcessTable} (h : t.stubborn = []) (o : Operation) :
    (s.live (s.event t o).after).length ≤ max 1 (s.live t).length ∧
      s.Truthful (s.event t o) := by
  cases o with
  | start argv => exact s.single_start h argv
  | stop => exact s.single_stop h
  | isRunning =>
    obtain ⟨hcount, htruthful, -⟩ := s.single_isRunning t
    exact ⟨hcount, htruthful⟩
  | state =>
    obtain ⟨hcount, -, htruthful⟩ := s.single_isRunning t
    exact ⟨hcount, htruthful⟩

/-! ### Any number of operations -/

/-- The number of matching processes alive never exceeds one or what it was at first, and every
answer tells it. -/
theorem single_instance (t : ProcessTable) (steps : List (Conditions × Operation))
    (h : t.stubborn = []) :
    ∀ e ∈ s.events t steps,
      (s.live e.after).length ≤ max 1 (s.live t).length ∧ s.Truthful e := by
  induction steps generalizing t with
  | nil => exact fun e he => nomatch he
  | cons step rest ih =>
    obtain ⟨c, o⟩ := step
    have hunder : (t.under c).stubborn = [] := h
    obtain ⟨hcount, htruthful⟩ := s.single_event hunder o
    have hafter : (s.event (t.under c) o).after.stubborn = [] :=
      (s.stubborn_perform (t.under c) o).trans hunder
    have hlive : s.live (t.under c) = s.live t := rfl
    rw [hlive] at hcount
    intro e he
    rcases List.mem_cons.1 he with rfl | he
    · exact ⟨hcount, htruthful⟩
    · obtain ⟨hrest, htruthful⟩ := ih _ hafter e he
      exact ⟨by omega, htruthful⟩

/-- Two processes at first, of which one refuses the signal until the second attempt. -/
theorem single_instance_two_starts :
    let s : Supervisor := ⟨"search"⟩
    let t : ProcessTable := { processes := [⟨7, "search", .alive⟩, ⟨8, "search", .alive⟩] }
    let steps : List (Conditions × Operation) :=
      [(⟨"search", .stays, [8]⟩, .start ["x"]), (⟨"search", .stays, []⟩, .start ["x"])]
    t.stubborn = [] ∧
      (s.events t steps).map (·.answer) =
        [.launched .staleNotStopped, .launched (.started 1001)] ∧
      ∃ e ∈ s.events t steps, e.answer = .launched (.started 1001) ∧
        (s.live e.after).length ≤ max 1 (s.live t).length ∧ s.Truthful e := by
  intro s t steps
  have hanswers : (s.events t steps).map (·.answer) =
      [.launched .staleNotStopped, .launched (.started 1001)] := by decide +kernel
  refine ⟨rfl, hanswers, ?_⟩
  have hstarted : Answer.launched (.started 1001) ∈ (s.events t steps).map (·.answer) := by
    rw [hanswers]
    decide
  obtain ⟨e, he, hanswer⟩ := List.mem_map.1 hstarted
  exact ⟨e, he, hanswer, single_instance s t steps rfl e he⟩

end Supervisor
end LoadBench
