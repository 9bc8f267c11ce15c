import LoadBench.Proofs.Control.Conversation

/-! Connections one after another, and the exchanges on them: each response between the states
before and after it. -/
namespace LoadBench.Connection

/-- A response, from the state it was given in to the state it left behind. -/
structure Exchange (σ : Type) where
  before : σ
  response : Response
  after : σ

section
variable {σ : Type} (handle : Request → σ → Response × σ)

/-- Serve connections one after another. -/
def serveAll (state : σ) : List (List UInt8) → List Response × σ
  | [] => ([], state)
  | input :: rest =>
    let (responses, state) := serve handle state input
    let (more, state) := serveAll state rest
    (responses ++ more, state)

/-- The exchanges over the lines of a connection. -/
def exchanges (state : σ) : List (List UInt8) → List (Exchange σ)
  | [] => []
  | line :: rest =>
    match action line with
    | .close => []
    | .refuse => [⟨state, tooLong, state⟩]
    | .skip => exchanges state rest
    | .reject => ⟨state, invalid, state⟩ :: exchanges state rest
    | .serve request =>
      let (response, after) := handle request state
      ⟨state, response, after⟩ :: exchanges after rest

/-- The exchanges over connections one after another. -/
def transcript (state : σ) : List (List UInt8) → List (Exchange σ)
  | [] => []
  | input :: rest =>
    exchanges handle state (lines input) ++ transcript (serve handle state input).2 rest

theorem map_response_exchanges (state : σ) (pieces : List (List UInt8)) :
    (exchanges handle state pieces).map (·.response) = (serveLines handle state pieces).1 := by
  induction pieces generalizing state with
  | nil => rfl
  | cons line rest ih =>
    unfold exchanges serveLines
    cases action line with
    | close => rfl
    | refuse => rfl
    | skip => exact ih state
    | reject => exact congrArg (invalid :: ·) (ih state)
    | serve request => exact congrArg (_ :: ·) (ih _)

/-- The transcript holds the responses that the clients get, in their order. -/
theorem map_response_transcript (state : σ) (inputs : List (List UInt8)) :
    (transcript handle state inputs).map (·.response) = (serveAll handle state inputs).1 := by
  induction inputs generalizing state with
  | nil => rfl
  | cons input rest ih =>
    rw [transcript, List.map_append, map_response_exchanges, ih]
    rfl

/-- Each exchange starts from the state that the one before it left behind. -/
inductive IsRun : σ → List (Exchange σ) → σ → Prop
  | nil (state : σ) : IsRun state [] state
  | cons (e : Exchange σ) {rest : List (Exchange σ)} {final : σ} (run : IsRun e.after rest final) :
      IsRun e.before (e :: rest) final

theorem IsRun.append {first second : List (Exchange σ)} {state middle final : σ}
    (h : IsRun state first middle) (k : IsRun middle second final) :
    IsRun state (first ++ second) final := by
  induction h with
  | nil state => exact k
  | cons e _ ih => exact .cons e (ih k)

theorem isRun_exchanges (state : σ) (pieces : List (List UInt8)) :
    IsRun state (exchanges handle state pieces) (serveLines handle state pieces).2 := by
  induction pieces generalizing state with
  | nil => exact .nil state
  | cons line rest ih =>
    unfold exchanges serveLines
    cases action line with
    | close => exact .nil state
    | refuse => exact .cons ⟨state, tooLong, state⟩ (.nil state)
    | skip => exact ih state
    | reject => exact .cons ⟨state, invalid, state⟩ (ih state)
    | serve request =>
      exact .cons ⟨state, (handle request state).1, (handle request state).2⟩ (ih _)

theorem isRun_transcript (state : σ) (inputs : List (List UInt8)) :
    IsRun state (transcript handle state inputs) (serveAll handle state inputs).2 := by
  induction inputs generalizing state with
  | nil => exact .nil state
  | cons input rest ih => exact (isRun_exchanges handle state (lines input)).append (ih _)

/-- An exchange is the answer to a request, or a complaint that changes nothing. -/
def Exchange.IsOrderly (e : Exchange σ) : Prop :=
  (∃ request, handle request e.before = (e.response, e.after)) ∨
    ((e.response = tooLong ∨ e.response = invalid) ∧ e.after = e.before)

theorem isOrderly_of_mem_exchanges {state : σ} {pieces : List (List UInt8)} {e : Exchange σ}
    (h : e ∈ exchanges handle state pieces) : e.IsOrderly handle := by
  induction pieces generalizing state with
  | nil => cases h
  | cons line rest ih =>
    unfold exchanges at h
    cases haction : action line with
    | close =>
      rw [haction] at h
      cases h
    | refuse =>
      rw [haction] at h
      rw [List.mem_singleton.1 h]
      exact .inr ⟨.inl rfl, rfl⟩
    | skip =>
      rw [haction] at h
      exact ih h
    | reject =>
      rw [haction] at h
      rcases List.mem_cons.1 h with rfl | h
      · exact .inr ⟨.inr rfl, rfl⟩
      · exact ih h
    | serve request =>
      rw [haction] at h
      rcases List.mem_cons.1 h with rfl | h
      · exact .inl ⟨request, rfl⟩
      · exact ih h

theorem isOrderly_of_mem_transcript {state : σ} {inputs : List (List UInt8)} {e : Exchange σ}
    (h : e ∈ transcript handle state inputs) : e.IsOrderly handle := by
  induction inputs generalizing state with
  | nil => cases h
  | cons input rest ih =>
    rcases List.mem_append.1 h with h | h
    · exact isOrderly_of_mem_exchanges handle h
    · exact ih h

/-- The lines that are worked through, over all connections. -/
def servedOver (inputs : List (List UInt8)) : List (List UInt8) :=
  inputs.flatMap fun input => served (lines input)

theorem stateAfter_append (state : σ) (first second : List (List UInt8)) :
    stateAfter handle state (first ++ second) =
      stateAfter handle (stateAfter handle state first) second := by
  simp only [stateAfter, List.filterMap_append, List.foldl_append]

/-- Connections lead to the state that the requests on their lines lead to. -/
theorem serveAll_snd (state : σ) (inputs : List (List UInt8)) :
    (serveAll handle state inputs).2 = stateAfter handle state (servedOver inputs) := by
  induction inputs generalizing state with
  | nil => rfl
  | cons input rest ih =>
    have hserve : (serve handle state input).2 =
        stateAfter handle state (served (lines input)) := by
      rw [serve, serveLines_eq]
    rw [servedOver, List.flatMap_cons, stateAfter_append, ← hserve]
    exact ih _

end

end LoadBench.Connection
