import LoadBench.Proofs.Control.Remote
import LoadBench.Proofs.Control.Transcript
import LoadBench.Proofs.Generator.CommandLine
import LoadBench.Proofs.Process.Launch

/-! What is ever spawned: the command lines of valid parameters that a client asked to start, and
nothing of an error's making. -/
namespace LoadBench

/-- A spawn is on record whether or not it succeeds. -/
theorem ProcessTable.spawned_spawn (t : ProcessTable) {argv : List String} (h : argv ≠ []) :
    (t.spawn argv).2.spawned = t.spawned ++ [argv] := by
  cases argv with
  | nil => exact absurd rfl h
  | cons program rest =>
    unfold spawn
    dsimp only
    cases t.spawnBehaviour <;> rfl

namespace Supervisor

variable (s : Supervisor)

theorem spawned_launch (t : ProcessTable) {argv : List String} (h : argv ≠ []) :
    (s.launch t argv).2.spawned = t.spawned ++ [argv] := by
  have hspawned := t.spawned_spawn h
  unfold launch
  generalize t.spawn argv = result at hspawned ⊢
  obtain ⟨outcome, u⟩ := result
  cases outcome with
  | error e => exact hspawned
  | ok pid => exact (s.sameMachine_isRunning u).spawned.trans hspawned

/-- A start spawns its command line once or not at all. -/
theorem spawned_start (t : ProcessTable) {argv : List String} (h : argv ≠ []) :
    (s.start t argv).2.spawned = t.spawned ∨
      (s.start t argv).2.spawned = t.spawned ++ [argv] := by
  rcases s.start_cases t argv with ⟨u, -, hsame, -, hstart⟩ | ⟨u, -, hsame, -, hstart⟩
  · left
    rw [hstart]
    exact hsame.spawned
  · right
    rw [hstart, s.spawned_launch u h, hsame.spawned]

end Supervisor

/-- What a request asks to start. -/
def Request.parameters? : Request → Option Parameters
  | .start params => some params
  | _ => none

namespace PortSource

/-- Asking for addresses leaves the processes alone. -/
theorem processes_query (source : PortSource) (site : Site) :
    (source.query site).2.processes = site.processes := by
  cases source <;> rfl

end PortSource

namespace Service

variable (s : Service)

/-- An error answers a start whose parameters are refused, before anything is touched. -/
theorem handle_of_error {request : Request} {site : Site} {message : String}
    (h : (s.handle request site).1 = .error message) : (s.handle request site).2 = site := by
  cases request with
  | start params =>
    unfold handle start at h ⊢
    dsimp only at h ⊢
    cases hargv : s.command.argv params with
    | error e => rfl
    | ok argv =>
      rw [hargv] at h
      cases h
  | getResult =>
    unfold handle at h
    cases hresult : s.getResult site with
    | none =>
      rw [hresult] at h
      cases h
    | some r =>
      rw [hresult] at h
      cases h
  | _ => cases h

/-- One request spawns nothing, or the command line of the parameters it asks to start. -/
theorem spawned_handle (request : Request) (site : Site) :
    (s.handle request site).2.processes.spawned = site.processes.spawned ∨
      ∃ params argv, request.parameters? = some params ∧ s.command.argv params = .ok argv ∧
        (s.handle request site).2.processes.spawned = site.processes.spawned ++ [argv] := by
  cases request with
  | start params =>
    unfold handle start
    dsimp only
    cases hargv : s.command.argv params with
    | error e => exact .inl rfl
    | ok argv =>
      have hne : argv ≠ [] := GeneratorCommand.argv_ne_nil hargv
      exact (s.supervisor.spawned_start site.processes hne).imp id
        fun h => ⟨params, argv, rfl, hargv, h⟩
  | stop => exact .inl (s.supervisor.sameMachine_stop site.processes).spawned
  | isRunning => exact .inl (s.supervisor.sameMachine_isRunning site.processes).spawned
  | status => exact .inl (s.supervisor.sameMachine_isRunning site.processes).spawned
  | getMacList => exact .inl (congrArg (·.spawned) (s.ports.processes_query site))
  | isResultAvailable => exact .inl rfl
  | getResult => exact .inl rfl

/-- Requests one after another: what is spawned are command lines of parameters that some of them
ask to start, in their order. -/
theorem spawned_foldl (requests : List Request) (site : Site) :
    ∃ launches : List (Parameters × List String),
      (requests.foldl (fun site request => (s.handle request site).2) site).processes.spawned =
        site.processes.spawned ++ launches.map Prod.snd ∧
      (launches.map Prod.fst).Sublist (requests.filterMap Request.parameters?) ∧
      ∀ l ∈ launches, s.command.argv l.1 = .ok l.2 := by
  induction requests generalizing site with
  | nil => exact ⟨[], (List.append_nil _).symm, .slnil, fun l hl => nomatch hl⟩
  | cons request rest ih =>
    obtain ⟨launches, hspawned, hsublist, hargv⟩ := ih (s.handle request site).2
    rw [List.foldl_cons, hspawned]
    rcases s.spawned_handle request site with hone | ⟨params, argv, hparams, hone, hadded⟩
    · rw [hone]
      refine ⟨launches, rfl, hsublist.trans ?_, hargv⟩
      exact (List.sublist_cons_self request rest).filterMap _
    · rw [hadded, List.filterMap_cons_some hparams]
      refine ⟨(params, argv) :: launches, ?_, hsublist.cons_cons params, ?_⟩
      · rw [List.append_assoc]
        rfl
      · intro l hl
        rcases List.mem_cons.1 hl with rfl | hl
        · exact hone
        · exact hargv l hl

end Service

namespace Connection

/-- All parameters that are asked for, in the order of the connections and of their lines. -/
def startsAsked (inputs : List (List UInt8)) : List Parameters :=
  ((servedOver inputs).filterMap Request.parse?).filterMap Request.parameters?

/-- Whatever is sent over any number of connections, what is spawned are the command lines of valid
parameters that were asked for, and values never change the form of a command line. An exchange
that ends in an error changes nothing. -/
theorem spawns_only_validated (c : Configuration) (site : Site) (inputs : List (List UInt8)) :
    let s := Service.ofConfiguration c
    let exchanged := transcript s.handle site inputs
    let final := (serveAll s.handle site inputs).2
    (∃ launches : List (Parameters × List String),
      final.processes.spawned = site.processes.spawned ++ launches.map Prod.snd ∧
      (launches.map Prod.fst).Sublist (startsAsked inputs) ∧
      ∀ l ∈ launches, s.command.argv l.1 = .ok l.2) ∧
    (∀ p argv, s.command.argv p = .ok argv →
      (∃ macs, p.validate = .ok macs) ∧
      [c.generatorProgram, "--traffic-generator=" ++ c.trafficGenerator] <+: argv ∧
      s.command.IsCommandLine p.destination.isExplicit argv ∧
      argv.length = (if p.destination.isExplicit then 15 else 14) + c.extraArgs.length) ∧
    exchanged.map (·.response) = (serveAll s.handle site inputs).1 ∧
    IsRun site exchanged final ∧
    ∀ e ∈ exchanged, ∀ message, e.response = .error message → e.after = e.before := by
  intro s exchanged final
  refine ⟨?_, ?_, map_response_transcript s.handle site inputs,
    isRun_transcript s.handle site inputs, ?_⟩
  · show ∃ _, (serveAll s.handle site inputs).2.processes.spawned = _ ∧ _
    rw [serveAll_snd]
    exact s.spawned_foldl ((servedOver inputs).filterMap Request.parse?) site
  · intro p argv hargv
    obtain ⟨hvalid, hline⟩ := GeneratorCommand.isCommandLine_of_argv hargv
    exact ⟨hvalid, hline.configured, hline, hline.length⟩
  · intro e he message hmessage
    rcases isOrderly_of_mem_transcript s.handle he with ⟨request, hhandle⟩ | ⟨-, hafter⟩
    · have hanswer : (s.handle request e.before).1 = .error message := by rw [hhandle, hmessage]
      have hsite := s.handle_of_error hanswer
      rwa [hhandle] at hsite
    · exact hafter

/-- The defaults make a command line; refused parameters leave a running generator alone. -/
theorem spawns_only_validated_refused :
    let s := Service.ofConfiguration {}
    let site : Site := { processes := { processes := [⟨7, "binary-search", .alive⟩] } }
    let refused : Request := .start { numFlows := 0 }
    (∃ argv, s.command.argv {} = .ok argv ∧ argv.length = 14) ∧
      ∃ e ∈ transcript s.handle site [Client.requestLine refused],
        e.response = .error "validation error: num_flows must be at least 1" ∧
          e.after = e.before := by
  intro s site refused
  have hvalid : ({} : Parameters).validate = .ok none := by decide +kernel
  have hargv : s.command.argv {} = .ok (s.command.arguments {} none) :=
    congrArg (Except.map (s.command.arguments {})) hvalid
  obtain ⟨-, hform, hresponses, -, herror⟩ :=
    spawns_only_validated {} site [Client.requestLine refused]
  have hfinite : refused.Finite := ⟨by decide +kernel, by decide +kernel⟩
  have hlength : (Client.requestLine refused).length ≤ maxRequestLine := by decide +kernel
  have hserve := Client.serve_requestLine s site hfinite hlength
  have hanswers : (serveAll s.handle site [Client.requestLine refused]).1 =
      [(s.handle refused site).1] := by
    rw [serveAll, hserve]
    rfl
  rw [hanswers] at hresponses
  have hmem : Response.error "validation error: num_flows must be at least 1" ∈
      (transcript s.handle site [Client.requestLine refused]).map (·.response) := by
    rw [hresponses]
    exact List.mem_singleton_self _
  obtain ⟨e, he, hresponse⟩ := List.mem_map.1 hmem
  exact ⟨⟨_, hargv, (hform _ _ hargv).2.2.2⟩, e, he, hresponse, herror e he _ hresponse⟩

end Connection
end LoadBench
