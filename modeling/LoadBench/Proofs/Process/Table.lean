import LoadBench.Process.Supervisor

/-! What the operations of a supervisor do to the process table: which rows stay, which matching
processes are alive afterwards, and what is the same machine as before. -/
namespace LoadBench

namespace ProcessTable

/-- Only processes came and went; the machine behaves as before and nothing was started. -/
structure SameMachine (t u : ProcessTable) : Prop where
  spawnName : u.spawnName = t.spawnName
  spawnBehaviour : u.spawnBehaviour = t.spawnBehaviour
  refuse : u.refuse = t.refuse
  stubborn : u.stubborn = t.stubborn
  lastPid : u.lastPid = t.lastPid
  spawned : u.spawned = t.spawned

theorem SameMachine.refl (t : ProcessTable) : SameMachine t t := ⟨rfl, rfl, rfl, rfl, rfl, rfl⟩

theorem SameMachine.trans {t u v : ProcessTable} (h : SameMachine t u) (k : SameMachine u v) :
    SameMachine t v :=
  ⟨k.spawnName.trans h.spawnName, k.spawnBehaviour.trans h.spawnBehaviour,
    k.refuse.trans h.refuse, k.stubborn.trans h.stubborn, k.lastPid.trans h.lastPid,
    k.spawned.trans h.spawned⟩

theorem SameMachine.symm {t u : ProcessTable} (h : SameMachine t u) : SameMachine u t :=
  ⟨h.spawnName.symm, h.spawnBehaviour.symm, h.refuse.symm, h.stubborn.symm, h.lastPid.symm,
    h.spawned.symm⟩

theorem sameMachine_reap (t : ProcessTable) (pid : Nat) : SameMachine t (t.reap pid) :=
  ⟨rfl, rfl, rfl, rfl, rfl, rfl⟩

theorem sameMachine_terminate (t : ProcessTable) (pid : Nat) :
    SameMachine t (t.terminate pid).2 := by
  unfold terminate remove
  split
  · exact .refl t
  · dsimp only
    split <;> exact ⟨rfl, rfl, rfl, rfl, rfl, rfl⟩

/-- A signal that is refused or ignored removes nothing. -/
def withstands (t : ProcessTable) (pid : Nat) : Bool :=
  t.refuse.contains pid || t.stubborn.contains pid

theorem terminate_fst (t : ProcessTable) (pid : Nat) :
    (t.terminate pid).1 = !t.refuse.contains pid := by
  unfold terminate
  cases h : t.refuse.contains pid <;> rfl

theorem processes_terminate (t : ProcessTable) (pid : Nat) :
    (t.terminate pid).2.processes = t.processes.filter fun q =>
      !(q.pid == pid && !t.withstands pid) := by
  have hself : t.processes.filter (fun q => !(q.pid == pid && false)) = t.processes :=
    List.filter_eq_self.2 fun q _ => by rw [Bool.and_false]; rfl
  unfold terminate withstands remove
  dsimp only
  cases t.refuse.contains pid with
  | true => exact hself.symm
  | false =>
    cases t.stubborn.contains pid with
    | true => exact hself.symm
    | false =>
      apply List.filter_congr
      intro q _
      rw [Bool.or_self, Bool.not_false, Bool.and_true]
      rfl

end ProcessTable

namespace Supervisor

open ProcessTable (SameMachine sameMachine_reap sameMachine_terminate)

variable (s : Supervisor)

/-- The matching processes that are alive. -/
def live (t : ProcessTable) : List ProcessRow := (s.matching t).filter fun p => p.state == .alive

/-! ### Looking -/

theorem processes_foldl_reap (found : List ProcessRow) (t : ProcessTable) :
    (found.foldl (fun t p => t.reap p.pid) t).processes = t.processes.filter fun q =>
      !(found.any (fun p => p.pid == q.pid) && q.state == .zombie) := by
  induction found generalizing t with
  | nil => exact (List.filter_eq_self.2 fun q _ => rfl).symm
  | cons p found ih =>
    rw [List.foldl_cons, ih, ProcessTable.reap, List.filter_filter]
    apply List.filter_congr
    intro q _
    rw [List.any_cons, BEq.comm (a := p.pid)]
    cases q.pid == p.pid <;> cases q.state == .zombie <;> simp

theorem sameMachine_foldl_reap (found : List ProcessRow) (t : ProcessTable) :
    SameMachine t (found.foldl (fun t p => t.reap p.pid) t) := by
  induction found generalizing t with
  | nil => exact .refl t
  | cons p found ih => exact (sameMachine_reap t p.pid).trans (ih _)

theorem sameMachine_isRunning (t : ProcessTable) : SameMachine t (s.isRunning t).2 :=
  sameMachine_foldl_reap _ t

theorem isRunning_fst (t : ProcessTable) : (s.isRunning t).1 = !(s.live t).isEmpty := by
  unfold isRunning live
  dsimp only
  induction s.matching t with
  | nil => rfl
  | cons p ps ih =>
    rw [List.any_cons, ih, List.filter_cons]
    cases p.state == .alive <;> rfl

theorem mem_isRunning {t : ProcessTable} {p : ProcessRow} (hp : p ∈ t.processes)
    (ha : p.state = .alive) : p ∈ (s.isRunning t).2.processes := by
  unfold isRunning
  rw [processes_foldl_reap, List.mem_filter]
  exact ⟨hp, by rw [ha]; simp⟩

/-- All matching zombies are gone, and nothing else. -/
theorem matching_isRunning (t : ProcessTable) : s.matching (s.isRunning t).2 = s.live t := by
  unfold live isRunning
  dsimp only
  have hright : (s.matching t).filter (fun p => p.state == .alive) =
      t.processes.filter fun p => p.state == .alive && s.Matches p := List.filter_filter
  rw [hright]
  unfold matching
  rw [processes_foldl_reap, List.filter_filter]
  apply List.filter_congr
  intro q hq
  cases hm : s.Matches q with
  | false => simp
  | true =>
    cases hs : q.state with
    | alive => simp
    | zombie =>
      have hself : ((t.processes.filter s.Matches).filter (·.state == .zombie)).any
          (fun p => p.pid == q.pid) = true := by
        rw [List.any_eq_true]
        exact ⟨q, by simp [hq, hm, hs], beq_self_eq_true _⟩
      rw [hself]
      rfl

theorem live_isRunning (t : ProcessTable) : s.live (s.isRunning t).2 = s.live t := by
  rw [live, matching_isRunning, live, List.filter_filter]
  simp

/-! ### Stopping -/

theorem foldl_terminate (found : List ProcessRow) (ok : Bool) (t : ProcessTable) :
    let result := found.foldl (fun (ok, t) p =>
      let (sent, t) := t.terminate p.pid
      (ok && sent, t)) (ok, t)
    SameMachine t result.2 ∧
      result.1 = (ok && found.all fun p => !t.refuse.contains p.pid) ∧
      result.2.processes = t.processes.filter fun q =>
        !(found.any (fun p => p.pid == q.pid) && !t.withstands q.pid) := by
  induction found generalizing ok t with
  | nil =>
    exact ⟨.refl t, (Bool.and_true ok).symm, (List.filter_eq_self.2 fun q _ => rfl).symm⟩
  | cons p found ih =>
    have hsame := sameMachine_terminate t p.pid
    obtain ⟨h₁, h₂, h₃⟩ := ih (ok && (t.terminate p.pid).1) (t.terminate p.pid).2
    refine ⟨hsame.trans h₁, ?_, ?_⟩
    · rw [List.foldl_cons]
      apply h₂.trans
      rw [ProcessTable.terminate_fst, hsame.refuse, List.all_cons, Bool.and_assoc]
    · rw [List.foldl_cons]
      apply h₃.trans
      rw [ProcessTable.processes_terminate, List.filter_filter]
      apply List.filter_congr
      intro q _
      unfold ProcessTable.withstands
      rw [hsame.refuse, hsame.stubborn, List.any_cons]
      by_cases hq : q.pid = p.pid
      · rw [hq]
        cases t.refuse.contains p.pid || t.stubborn.contains p.pid <;> simp
      · have hpq : (p.pid == q.pid) = false := beq_false_of_ne fun e => hq e.symm
        have hqp : (q.pid == p.pid) = false := beq_false_of_ne hq
        rw [hpq, hqp]
        simp

theorem sameMachine_stop (t : ProcessTable) : SameMachine t (s.stop t).2 :=
  (foldl_terminate (s.matching t) true t).1

theorem stop_fst (t : ProcessTable) :
    (s.stop t).1 = (s.matching t).all fun p => !t.refuse.contains p.pid :=
  (foldl_terminate (s.matching t) true t).2.1.trans (Bool.true_and _)

/-- The matching processes that withstand the signal are left. -/
theorem matching_stop (t : ProcessTable) :
    s.matching (s.stop t).2 = (s.matching t).filter fun p => t.withstands p.pid := by
  have hprocesses := (foldl_terminate (s.matching t) true t).2.2
  show ((s.stop t).2.processes).filter s.Matches = _
  rw [show (s.stop t).2.processes = _ from hprocesses]
  unfold matching
  rw [List.filter_filter, List.filter_filter]
  apply List.filter_congr
  intro q hq
  cases hm : s.Matches q with
  | false => simp
  | true =>
    have hself : (t.processes.filter s.Matches).any (fun p => p.pid == q.pid) = true := by
      rw [List.any_eq_true]
      exact ⟨q, by simp [hq, hm], beq_self_eq_true _⟩
    rw [hself]
    simp

theorem live_stop (t : ProcessTable) :
    s.live (s.stop t).2 = (s.live t).filter fun p => t.withstands p.pid := by
  rw [live, matching_stop, live, List.filter_filter, List.filter_filter]
  apply List.filter_congr
  intro p _
  exact Bool.and_comm _ _

end Supervisor
end LoadBench
