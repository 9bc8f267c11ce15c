import LoadBench.Proofs.Process.Table

/-! What a start does, and when its report is about the process that was started. -/
namespace LoadBench

namespace ProcessTable

/-- What a spawn that succeeds adds to the table. -/
def newcomers (t : ProcessTable) : List ProcessRow :=
  match t.spawnBehaviour with
  | .stays => [⟨t.lastPid + 1, t.spawnName, .alive⟩]
  | .zombie => [⟨t.lastPid + 1, t.spawnName, .zombie⟩]
  | _ => []

/-- The table after a spawn that succeeds. -/
def grown (t : ProcessTable) (argv : List String) : ProcessTable :=
  { t with
    spawned := t.spawned ++ [argv]
    lastPid := t.lastPid + 1
    processes := t.processes ++ t.newcomers }

theorem spawn_of_fails {t : ProcessTable} {argv : List String}
    (h : argv = [] ∨ t.spawnBehaviour = .fails) :
    ∃ e u, t.spawn argv = (.error e, u) ∧ u.processes = t.processes := by
  cases argv with
  | nil => exact ⟨_, t, rfl, rfl⟩
  | cons program rest =>
    have hb := h.resolve_left (List.cons_ne_nil program rest)
    unfold spawn
    dsimp only
    rw [hb]
    exact ⟨_, _, rfl, rfl⟩

theorem spawn_of_succeeds {t : ProcessTable} {argv : List String} (ha : argv ≠ [])
    (hb : t.spawnBehaviour ≠ .fails) : t.spawn argv = (.ok (t.lastPid + 1), t.grown argv) := by
  cases argv with
  | nil => exact absurd rfl ha
  | cons program rest =>
    unfold spawn grown newcomers
    dsimp only
    cases h : t.spawnBehaviour with
    | fails => exact absurd h hb
    | stays => rfl
    | zombie => rfl
    | crashes =>
      dsimp only
      rw [List.append_nil]

end ProcessTable

namespace Supervisor

open ProcessTable (SameMachine)

variable (s : Supervisor)

/-- The live matching processes that a spawn adds. -/
theorem live_grown (t : ProcessTable) (argv : List String) :
    s.live (t.grown argv) = s.live t ++ t.newcomers.filter fun p =>
      p.state == .alive && s.Matches p := by
  unfold live matching ProcessTable.grown
  dsimp only
  rw [List.filter_append, List.filter_append, List.filter_filter, List.filter_filter]

theorem launch_of_fails {t : ProcessTable} {argv : List String}
    (h : argv = [] ∨ t.spawnBehaviour = .fails) :
    ∃ u, s.launch t argv = (.spawnFailed, u) ∧ s.live u = s.live t := by
  obtain ⟨e, u, hspawn, hu⟩ := ProcessTable.spawn_of_fails h
  refine ⟨u, ?_, ?_⟩
  · unfold launch
    rw [hspawn]
  · unfold live matching
    rw [hu]

theorem launch_of_succeeds {t : ProcessTable} {argv : List String} (ha : argv ≠ [])
    (hb : t.spawnBehaviour ≠ .fails) :
    s.launch t argv =
      (if (s.live (t.grown argv)).isEmpty then .exitedEarly (t.lastPid + 1)
        else .started (t.lastPid + 1), (s.isRunning (t.grown argv)).2) := by
  have hrunning := s.isRunning_fst (t.grown argv)
  unfold launch
  rw [ProcessTable.spawn_of_succeeds ha hb]
  dsimp only
  rw [hrunning]
  cases (s.live (t.grown argv)).isEmpty <;> rfl

/-- A start gives up when a live matching process refuses the signal. Otherwise it launches on a
table where the live matching processes are those that ignored it. -/
theorem start_cases (t : ProcessTable) (argv : List String) :
    (∃ u, (∃ p ∈ s.live t, p.pid ∈ t.refuse) ∧ SameMachine t u ∧
      s.live u = (s.live t).filter (fun p => t.withstands p.pid) ∧
      s.start t argv = (.staleNotStopped, u)) ∨
    ∃ u, (∀ p ∈ s.live t, p.pid ∉ t.refuse) ∧ SameMachine t u ∧
      s.live u = (s.live t).filter (fun p => t.stubborn.contains p.pid) ∧
      s.start t argv = s.launch u argv := by
  have hfst := s.isRunning_fst t
  have hsame := s.sameMachine_isRunning t
  have hlive := s.live_isRunning t
  have hmatching := s.matching_isRunning t
  unfold start
  generalize s.isRunning t = looked at hfst hsame hlive hmatching
  obtain ⟨running, v⟩ := looked
  dsimp only at hfst hsame hlive hmatching ⊢
  subst hfst
  cases hempty : s.live t with
  | nil =>
    right
    refine ⟨v, by simp, hsame, ?_, rfl⟩
    rw [hlive, hempty]
    rfl
  | cons q qs =>
    have hstop := s.stop_fst v
    have hafter := s.live_stop v
    have hsame' := hsame.trans (s.sameMachine_stop v)
    generalize s.stop v = stopped at hstop hafter hsame'
    obtain ⟨ok, u⟩ := stopped
    dsimp only at hstop hafter hsame' ⊢
    rw [hmatching, hempty, hsame.refuse] at hstop
    rw [hlive, hempty] at hafter
    rw [List.isEmpty_cons, Bool.not_false, if_pos rfl]
    by_cases hr : ∃ p ∈ q :: qs, p.pid ∈ t.refuse
    · left
      obtain ⟨p, hp, hpr⟩ := hr
      have hfalse : ok = false := by
        rw [hstop, List.all_eq_false]
        exact ⟨p, hp, by simpa using hpr⟩
      refine ⟨u, ⟨p, hp, hpr⟩, hsame', ?_, by rw [hfalse]; rfl⟩
      rw [hafter]
      apply List.filter_congr
      intro p _
      unfold ProcessTable.withstands
      rw [hsame.refuse, hsame.stubborn]
    · right
      have hnone : ∀ p ∈ q :: qs, p.pid ∉ t.refuse := fun p hp hpr => hr ⟨p, hp, hpr⟩
      have htrue : ok = true := by
        rw [hstop, List.all_eq_true]
        intro p hp
        simpa using hnone p hp
      refine ⟨u, hnone, hsame', ?_, by rw [htrue]; rfl⟩
      rw [hafter]
      apply List.filter_congr
      intro p hp
      have hpr : t.refuse.contains p.pid = false := by simpa using hnone p hp
      unfold ProcessTable.withstands
      rw [hsame.refuse, hsame.stubborn, hpr, Bool.false_or]

/-- A report of success is about the process that was started: that process is up, and when it has
exited at once the report says so. -/
structure Reliable (t : ProcessTable) (argv : List String) : Prop where
  started : ∀ pid, (s.start t argv).1 = .started pid →
    ∃ p ∈ (s.start t argv).2.processes, p.pid = pid ∧ p.state = .alive
  exited : (s.start t argv).2.spawned = t.spawned ++ [argv] →
    t.spawnBehaviour = .crashes ∨ t.spawnBehaviour = .zombie →
    (s.start t argv).1 = .exitedEarly (t.lastPid + 1)

theorem live_grown_of_exits {t : ProcessTable} (argv : List String)
    (hb : t.spawnBehaviour = .crashes ∨ t.spawnBehaviour = .zombie) :
    s.live (t.grown argv) = s.live t := by
  rw [live_grown, ProcessTable.newcomers]
  rcases hb with hb | hb <;> rw [hb] <;> exact List.append_nil _

/-- The start of a process that exits at once succeeds when an older one outlives the signal. -/
theorem start_of_exits {t : ProcessTable} {argv : List String} (ha : argv ≠ [])
    (hb : t.spawnBehaviour = .crashes ∨ t.spawnBehaviour = .zombie)
    (hr : ∀ p ∈ s.live t, p.pid ∉ t.refuse) :
    (s.start t argv).1 =
        (if ((s.live t).filter fun p => t.stubborn.contains p.pid).isEmpty
          then .exitedEarly (t.lastPid + 1) else .started (t.lastPid + 1)) ∧
      (s.start t argv).2.spawned = t.spawned ++ [argv] := by
  rcases s.start_cases t argv with ⟨u, ⟨p, hp, hpr⟩, -⟩ | ⟨u, -, hsame, hlive, hstart⟩
  · exact absurd hpr (hr p hp)
  · have hb' : u.spawnBehaviour = .crashes ∨ u.spawnBehaviour = .zombie := by
      rwa [hsame.spawnBehaviour]
    have hne : u.spawnBehaviour ≠ .fails := by
      rcases hb' with hb' | hb' <;> rw [hb'] <;> decide
    rw [hstart, s.launch_of_succeeds ha hne, s.live_grown_of_exits argv hb', hlive, hsame.lastPid,
      (s.sameMachine_isRunning _).spawned, ← hsame.spawned]
    exact ⟨rfl, rfl⟩

theorem started_of_stays {t : ProcessTable} {argv : List String} {pid : Nat}
    (hb : t.spawnBehaviour = .stays) (h : (s.start t argv).1 = .started pid) :
    ∃ p ∈ (s.start t argv).2.processes, p.pid = pid ∧ p.state = .alive := by
  rcases s.start_cases t argv with ⟨u, -, -, -, hstart⟩ | ⟨u, -, hsame, -, hstart⟩
  · rw [hstart] at h
    cases h
  · rw [hstart] at h ⊢
    have hb' : u.spawnBehaviour = .stays := by rw [hsame.spawnBehaviour, hb]
    by_cases ha : argv = []
    · obtain ⟨v, hv, -⟩ := s.launch_of_fails (t := u) (.inl ha)
      rw [hv] at h
      cases h
    · have hne : u.spawnBehaviour ≠ .fails := by rw [hb']; decide
      rw [s.launch_of_succeeds ha hne] at h ⊢
      have hpid : u.lastPid + 1 = pid := by
        cases hl : (s.live (u.grown argv)).isEmpty with
        | true =>
          rw [hl] at h
          cases h
        | false =>
          rw [hl] at h
          exact LaunchOutcome.started.inj h
      refine ⟨⟨u.lastPid + 1, u.spawnName, .alive⟩, s.mem_isRunning ?_ rfl, hpid, rfl⟩
      unfold ProcessTable.grown ProcessTable.newcomers
      rw [hb']
      exact List.mem_append_right _ (List.mem_singleton_self _)

/-- Without a command line, or against a refusal, nothing is spawned. -/
theorem start_of_nothing {t : ProcessTable} {argv : List String}
    (h : argv = [] ∨ ∃ p ∈ s.live t, p.pid ∈ t.refuse) :
    (∀ pid, (s.start t argv).1 ≠ .started pid) ∧ (s.start t argv).2.spawned = t.spawned := by
  rcases s.start_cases t argv with ⟨u, -, hsame, -, hstart⟩ | ⟨u, hr, hsame, -, hstart⟩
  · rw [hstart]
    exact ⟨fun pid he => (nomatch he), hsame.spawned⟩
  · rcases h with rfl | ⟨p, hp, hpr⟩
    · rw [hstart]
      exact ⟨fun pid he => (nomatch he), hsame.spawned⟩
    · exact absurd hpr (hr p hp)

theorem not_started_of_fails {t : ProcessTable} {argv : List String}
    (hb : t.spawnBehaviour = .fails) (pid : Nat) : (s.start t argv).1 ≠ .started pid := by
  rcases s.start_cases t argv with ⟨u, -, -, -, hstart⟩ | ⟨u, -, hsame, -, hstart⟩
  · rw [hstart]
    exact fun he => nomatch he
  · have hfails : argv = [] ∨ u.spawnBehaviour = .fails :=
      .inr (hsame.spawnBehaviour.trans hb)
    obtain ⟨v, hv, -⟩ := s.launch_of_fails hfails
    rw [hstart, hv]
    exact fun he => nomatch he

/-- The report fails to be reliable exactly when the new process exits at once and an older one, to
which the signal could be sent, is still there. -/
theorem reliable_iff (t : ProcessTable) (argv : List String) :
    s.Reliable t argv ↔
      ¬(argv ≠ [] ∧ (t.spawnBehaviour = .crashes ∨ t.spawnBehaviour = .zombie) ∧
        (∀ p ∈ s.live t, p.pid ∉ t.refuse) ∧ ∃ p ∈ s.live t, p.pid ∈ t.stubborn) := by
  constructor
  · rintro h ⟨ha, hb, hr, p, hp, hps⟩
    obtain ⟨houtcome, hspawned⟩ := s.start_of_exits ha hb hr
    have hsurvivor : ((s.live t).filter fun p => t.stubborn.contains p.pid).isEmpty = false := by
      rw [List.isEmpty_eq_false_iff]
      exact List.ne_nil_of_mem (List.mem_filter.2 ⟨hp, by simpa using hps⟩)
    rw [hsurvivor, h.exited hspawned hb] at houtcome
    cases houtcome
  · intro h
    by_cases hb : t.spawnBehaviour = .crashes ∨ t.spawnBehaviour = .zombie
    · by_cases hnothing : argv = [] ∨ ∃ p ∈ s.live t, p.pid ∈ t.refuse
      · obtain ⟨hstarted, hspawned⟩ := s.start_of_nothing hnothing
        refine ⟨fun pid he => absurd he (hstarted pid), fun he => ?_⟩
        rw [hspawned] at he
        exact absurd he.symm (by simp)
      · rw [not_or] at hnothing
        obtain ⟨ha, hrefused⟩ := hnothing
        have hr : ∀ p ∈ s.live t, p.pid ∉ t.refuse := fun p hp hpr => hrefused ⟨p, hp, hpr⟩
        have hgone : (s.live t).filter (fun p => t.stubborn.contains p.pid) = [] := by
          rw [List.filter_eq_nil_iff]
          intro p hp hps
          exact h ⟨ha, hb, hr, p, hp, by simpa using hps⟩
        have houtcome := (s.start_of_exits ha hb hr).1
        rw [hgone] at houtcome
        refine ⟨fun pid he => ?_, fun _ _ => houtcome⟩
        rw [houtcome] at he
        cases he
    · refine ⟨fun pid he => ?_, fun _ hexits => absurd hexits hb⟩
      cases hbehaviour : t.spawnBehaviour with
      | stays => exact s.started_of_stays hbehaviour he
      | fails => exact absurd he (s.not_started_of_fails hbehaviour pid)
      | crashes => exact absurd (.inl hbehaviour) hb
      | zombie => exact absurd (.inr hbehaviour) hb

/-- A process that ignores the signal makes the crash of a new one look like a success. -/
theorem not_reliable_of_survivor :
    let t : ProcessTable :=
      { processes := [⟨7, "binary-search", .alive⟩], spawnBehaviour := .crashes, stubborn := [7] }
    (start ⟨"binary-search"⟩ t ["x"]).1 = .started 1001 ∧
      (∀ p ∈ (start ⟨"binary-search"⟩ t ["x"]).2.processes, p.pid ≠ 1001) ∧
      ¬Reliable ⟨"binary-search"⟩ t ["x"] := by
  have houtcome : (start ⟨"binary-search"⟩
      { processes := [⟨7, "binary-search", .alive⟩], spawnBehaviour := .crashes, stubborn := [7] }
      ["x"]).1 = .started 1001 := by decide +kernel
  have hpids : ∀ p ∈ (start ⟨"binary-search"⟩
      { processes := [⟨7, "binary-search", .alive⟩], spawnBehaviour := .crashes, stubborn := [7] }
      ["x"]).2.processes, p.pid ≠ 1001 := by decide +kernel
  refine ⟨houtcome, hpids, fun h => ?_⟩
  obtain ⟨p, hp, hpid, -⟩ := h.started 1001 houtcome
  exact hpids p hp hpid

end Supervisor
end LoadBench
