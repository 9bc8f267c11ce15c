import LoadBench.Control.Client
import LoadBench.Proofs.Control.Conversation
import LoadBench.Proofs.Trial.Store

/-! A client of the server gets what the service gives, and leaves behind what the service does. -/
namespace LoadBench

open Connection (IsCut isCut_iff lines serve serveLines stateAfter Stops isBlank written newline)

namespace Client

/-- An operation on a connection of its own to the server of a service. -/
def perform {α : Type} (s : Service) (site : Site) (request : Request)
    (expect : Response → Except ClientError α) : Except ClientError α × Site :=
  (call (fun sent => some (written (serve s.handle site sent).1)) request expect,
    (serve s.handle site (requestLine request)).2)

/-- What a client makes of a response. -/
def received : Response → Except ClientError Response
  | .error message => .error (.remote message)
  | response => .ok response

/-! ### The server's end -/

/-- A request is one line. -/
theorem lines_requestLine {request : Request}
    (h : (requestLine request).length ≤ maxRequestLine) :
    lines (requestLine request) = [requestLine request] := by
  have hlength : request.json.print.length ≤ maxRequestLine := by
    unfold requestLine lineOf at h
    rw [List.length_append] at h
    omega
  exact (isCut_iff.1 (.ended (Json.newline_notMem_print _) hlength .nil)).symm

theorem decode?_line {t : Json.Tree} (h : t.Written) : (Utf8.decode? (lineOf t)).isSome = true :=
  Utf8.isText_iff.1 (h.isText.append (Utf8.isText_singleton (by decide)))

theorem not_stops_requestLine {request : Request}
    (h : (requestLine request).length ≤ maxRequestLine) : ¬Stops (requestLine request) := by
  rintro (hd | hl)
  · have hsome := decode?_line request.written_json
    rw [lineOf] at hsome
    unfold requestLine lineOf at hd
    rw [hd] at hsome
    cases hsome
  · omega

theorem serve_requestLine (s : Service) (site : Site) {request : Request} (hf : request.Finite)
    (h : (requestLine request).length ≤ maxRequestLine) :
    serve s.handle site (requestLine request) =
      ([(s.handle request site).1], (s.handle request site).2) := by
  have hparse : Request.parse? (requestLine request) = some request := Request.parse?_line hf
  have hblank : isBlank (requestLine request) = false := by
    apply Bool.eq_false_iff.2
    intro hb
    rw [Connection.parse?_of_isBlank hb] at hparse
    cases hparse
  rw [serve, lines_requestLine h,
    Connection.serveLines_of_asking s.handle site (not_stops_requestLine h) hblank]
  unfold Connection.answer stateAfter
  rw [hparse, List.filterMap_cons_some hparse]
  rfl

/-! ### The client's end -/

theorem firstLine_lineOf (t : Json.Tree) : firstLine (lineOf t) = lineOf t := by
  have hbody : (lineOf t).takeWhile (· != newline) = t.print := by
    rw [lineOf, Connection.takeWhile_append _ (Json.newline_notMem_print t)]
    simp [newline]
  unfold firstLine
  dsimp only
  rw [hbody, List.take_of_length_le]
  simp [lineOf]

theorem readResponse_written {response : Response} (h : response.Finite) :
    readResponse (written [response]) = received response := by
  have hline : written [response] = lineOf response.json := List.flatMap_singleton ..
  have hsome := decode?_line response.written_json
  have hnone : (Utf8.decode? (lineOf response.json)).isNone = false := by
    rw [Option.isNone_eq_false_iff, hsome]
  have hne : (lineOf response.json).isEmpty = false := by simp [lineOf]
  unfold readResponse
  rw [hline, firstLine_lineOf]
  dsimp only
  rw [hne, hnone, Response.parse?_line h]
  cases response <;> rfl

/-- The service answers with finite numbers only. -/
theorem finite_handle (s : Service) (request : Request) (site : Site) :
    (s.handle request site).1.Finite := by
  cases request with
  | start params =>
    unfold Service.handle
    dsimp only
    split <;> exact trivial
  | getResult =>
    unfold Service.handle Service.getResult
    dsimp only
    split
    · exact ResultStore.finite_resultOrEmpty _
    · exact trivial
  | _ => exact trivial

theorem perform_eq {α : Type} (s : Service) (site : Site) (request : Request)
    (expect : Response → Except ClientError α) (hf : request.Finite)
    (h : (requestLine request).length ≤ maxRequestLine) :
    perform s site request expect =
      (received (s.handle request site).1 >>= expect, (s.handle request site).2) := by
  have hserve := serve_requestLine s site hf h
  unfold perform call
  simp only [hserve, readResponse_written (finite_handle s request site)]

/-- Every operation gives what it gives on the service itself, and does what it does there. The
reason for refused parameters comes as a message of the server. -/
theorem perform_faithful (s : Service) (site : Site) :
    (∀ params : Parameters, params.maxLoss.isFinite = true → params.granularity.isFinite = true →
      (requestLine (.start params)).length ≤ maxRequestLine →
      perform s site (.start params) success =
        (((s.start params site).1.map LaunchOutcome.isSuccess).mapError fun e =>
          .remote e.message, (s.start params site).2)) ∧
    perform s site .stop success = (.ok (s.stop site).1, (s.stop site).2) ∧
    perform s site .isRunning runningStatus = (.ok (s.isRunning site).1, (s.isRunning site).2) ∧
    perform s site .isResultAvailable availabilityStatus =
      (.ok (s.isResultAvailable site), site) ∧
    perform s site .status status = (.ok (s.status site).1, (s.status site).2) ∧
    perform s site .getResult trialResult = (.ok (s.getResult site), site) ∧
    perform s site .getMacList macList = (.ok (s.getMacList site).1, (s.getMacList site).2) := by
  refine ⟨?_, ?_, ?_, ?_, ?_, ?_, ?_⟩
  · intro params hloss hgranularity h
    rw [perform_eq s site (.start params) success ⟨hloss, hgranularity⟩ h]
    unfold Service.handle
    dsimp only
    obtain ⟨outcome, after⟩ := s.start params site
    cases outcome <;> rfl
  · rw [perform_eq s site .stop success trivial (by decide)]
    rfl
  · rw [perform_eq s site .isRunning runningStatus trivial (by decide)]
    rfl
  · rw [perform_eq s site .isResultAvailable availabilityStatus trivial (by decide)]
    rfl
  · rw [perform_eq s site .status status trivial (by decide)]
    rfl
  · rw [perform_eq s site .getResult trialResult trivial (by decide)]
    unfold Service.handle
    dsimp only
    cases s.getResult site <;> rfl
  · rw [perform_eq s site .getMacList macList trivial (by decide)]
    rfl

/-- The default parameters are short enough to be sent. -/
theorem perform_start_default :
    let s : Service := ⟨⟨"gen"⟩, ⟨"gen", "trex", []⟩, "", .sysfs "" []⟩
    let site : Site := { processes := { spawnName := "gen" } }
    let params : Parameters := {}
    params.maxLoss.isFinite = true ∧ params.granularity.isFinite = true ∧
      (requestLine (.start params)).length ≤ maxRequestLine ∧
      (perform s site (.start params) success).1 = .ok true := by
  intro s site params
  have hloss : params.maxLoss.isFinite = true := by decide +kernel
  have hgranularity : params.granularity.isFinite = true := by decide +kernel
  have hlength : (requestLine (.start params)).length ≤ maxRequestLine := by decide +kernel
  refine ⟨hloss, hgranularity, hlength, ?_⟩
  obtain ⟨hstart, -⟩ := perform_faithful s site
  rw [hstart params hloss hgranularity hlength]
  decide +kernel

end Client
end LoadBench
