import LoadBench.Control.Service
import LoadBench.Proofs.Control.Lines
import LoadBench.Proofs.Json.Blank
import LoadBench.Proofs.Json.Output

/-! What a connection answers: the lines before the first stop, one response to each that is not
blank, and the state that the requests among them lead to. -/
namespace LoadBench.Connection

/-- A line that ends the connection: it is not UTF-8, or it is too long. -/
def Stops (line : List UInt8) : Prop := Utf8.decode? line = none ∨ maxRequestLine < line.length

instance (line : List UInt8) : Decidable (Stops line) := inferInstanceAs (Decidable (_ ∨ _))

def isBlank (line : List UInt8) : Bool :=
  (Utf8.decode? line).any fun text => text.toList.all Text.isBlank

/-- The lines that are worked through. -/
def served (pieces : List (List UInt8)) : List (List UInt8) :=
  pieces.takeWhile fun line => !decide (Stops line)

/-- The lines that get an answer. -/
def asking (pieces : List (List UInt8)) : List (List UInt8) :=
  (served pieces).filter fun line => !isBlank line

/-- The last words of a connection: a line that is too long is told so, if it is UTF-8. -/
def farewell (pieces : List (List UInt8)) : List Response :=
  match pieces.find? fun line => decide (Stops line) with
  | some stop => if (Utf8.decode? stop).isSome then [tooLong] else []
  | none => []

section
variable {σ : Type} (handle : Request → σ → Response × σ)

/-- The requests among the lines, one after another. -/
def stateAfter (state : σ) (ls : List (List UInt8)) : σ :=
  (ls.filterMap Request.parse?).foldl (fun state request => (handle request state).2) state

def answer (state : σ) (line : List UInt8) : Response :=
  match Request.parse? line with
  | some request => (handle request state).1
  | none => invalid

@[simp] theorem stateAfter_nil (state : σ) : stateAfter handle state [] = state := rfl

theorem stateAfter_cons (state : σ) (line : List UInt8) (ls : List (List UInt8)) :
    stateAfter handle state (line :: ls) =
      stateAfter handle (stateAfter handle state [line]) ls := by
  simp only [stateAfter, List.filterMap_cons, List.filterMap_nil]
  cases Request.parse? line <;> rfl

/-- A blank line holds no request. -/
theorem parse?_of_isBlank {line : List UInt8} (h : isBlank line = true) :
    Request.parse? line = none := by
  obtain ⟨text, ht, hb⟩ := (Option.any_eq_true _ _).1 h
  rw [← Utf8.encode_of_decode? ht, Request.parse?, Json.Tree.parse?_blank hb]
  rfl

theorem stateAfter_of_isBlank (state : σ) {line : List UInt8} (h : isBlank line = true) :
    stateAfter handle state [line] = state := by
  rw [stateAfter, List.filterMap_cons_none (parse?_of_isBlank h)]
  rfl

/-! One line of a connection, by what it calls for. -/

theorem serveLines_of_stops (state : σ) {line : List UInt8} (h : Stops line)
    (rest : List (List UInt8)) :
    serveLines handle state (line :: rest) =
      (if (Utf8.decode? line).isSome then [tooLong] else [], state) := by
  cases hd : Utf8.decode? line with
  | none => simp [serveLines, action, hd]
  | some text =>
    have hl : maxRequestLine < line.length := h.resolve_left (by simp [hd])
    simp [serveLines, action, hd, hl]

theorem serveLines_of_isBlank (state : σ) {line : List UInt8} (hs : ¬Stops line)
    (hb : isBlank line = true) (rest : List (List UInt8)) :
    serveLines handle state (line :: rest) = serveLines handle state rest := by
  obtain ⟨text, hd, hb⟩ := (Option.any_eq_true _ _).1 hb
  have hl : ¬maxRequestLine < line.length := fun hl => hs (.inr hl)
  simp only [serveLines, action, hd, if_neg hl, if_pos hb]

theorem serveLines_of_asking (state : σ) {line : List UInt8} (hs : ¬Stops line)
    (hb : isBlank line = false) (rest : List (List UInt8)) :
    serveLines handle state (line :: rest) =
      (answer handle state line :: (serveLines handle (stateAfter handle state [line]) rest).1,
        (serveLines handle (stateAfter handle state [line]) rest).2) := by
  obtain ⟨text, hd⟩ := Option.ne_none_iff_exists'.1 fun hd => hs (.inl hd)
  have hl : ¬maxRequestLine < line.length := fun hl => hs (.inr hl)
  have hblank : ¬text.toList.all Text.isBlank = true := by
    simpa [isBlank, hd] using hb
  cases hp : Request.parse? line with
  | none =>
    simp only [serveLines, action, hd, if_neg hl, if_neg hblank, hp, answer, stateAfter,
      Option.elim_none, List.filterMap_cons, List.filterMap_nil, List.foldl_nil]
  | some request =>
    simp only [serveLines, action, hd, if_neg hl, if_neg hblank, hp, answer, stateAfter,
      Option.elim_some, List.filterMap_cons, List.filterMap_nil, List.foldl_cons, List.foldl_nil]

/-! The recurrences of the lines that are worked through. -/

theorem served_of_stops {line : List UInt8} (h : Stops line) (rest : List (List UInt8)) :
    served (line :: rest) = [] := by
  simp [served, h]

theorem served_of_not_stops {line : List UInt8} (h : ¬Stops line) (rest : List (List UInt8)) :
    served (line :: rest) = line :: served rest := by
  simp [served, h]

theorem farewell_of_stops {line : List UInt8} (h : Stops line) (rest : List (List UInt8)) :
    farewell (line :: rest) = if (Utf8.decode? line).isSome then [tooLong] else [] := by
  simp [farewell, h]

theorem farewell_of_not_stops {line : List UInt8} (h : ¬Stops line) (rest : List (List UInt8)) :
    farewell (line :: rest) = farewell rest := by
  simp [farewell, h]

/-- One response to each line that asks, from the state that the lines before it lead to, and the
last words. -/
theorem serveLines_eq (state : σ) (pieces : List (List UInt8)) :
    serveLines handle state pieces =
      ((asking pieces).mapIdx (fun i line =>
          answer handle (stateAfter handle state ((asking pieces).take i)) line) ++
          farewell pieces,
        stateAfter handle state (served pieces)) := by
  induction pieces generalizing state with
  | nil => rfl
  | cons line rest ih =>
    by_cases hs : Stops line
    · rw [serveLines_of_stops handle state hs, farewell_of_stops hs, asking, served_of_stops hs]
      rfl
    · rw [farewell_of_not_stops hs, served_of_not_stops hs, stateAfter_cons]
      cases hb : isBlank line with
      | true =>
        have ha : asking (line :: rest) = asking rest := by
          simp [asking, served_of_not_stops hs, hb]
        rw [serveLines_of_isBlank handle state hs hb, ha, stateAfter_of_isBlank handle state hb,
          ih]
      | false =>
        have ha : asking (line :: rest) = line :: asking rest := by
          simp [asking, served_of_not_stops hs, hb]
        rw [serveLines_of_asking handle state hs hb, ha, ih, List.mapIdx_cons, List.take_zero,
          stateAfter_nil, List.cons_append]
        simp only [List.take_succ_cons, stateAfter_cons handle state line (List.take _ _)]

/-- Nothing behind a stop counts. -/
theorem serveLines_stop (state : σ) (before : List (List UInt8)) {stop : List UInt8}
    (h : Stops stop) (after : List (List UInt8)) :
    serveLines handle state (before ++ stop :: after) =
      serveLines handle state (before ++ [stop]) := by
  induction before generalizing state with
  | nil => rw [List.nil_append, List.nil_append, serveLines_of_stops handle state h,
      serveLines_of_stops handle state h]
  | cons line before ih =>
    rw [List.cons_append, List.cons_append]
    by_cases hs : Stops line
    · rw [serveLines_of_stops handle state hs, serveLines_of_stops handle state hs]
    · cases hb : isBlank line with
      | true => rw [serveLines_of_isBlank handle state hs hb,
          serveLines_of_isBlank handle state hs hb, ih]
      | false => rw [serveLines_of_asking handle state hs hb,
          serveLines_of_asking handle state hs hb, ih]

/-- Lines without a stop and the lines behind them are served one after the other. -/
theorem serveLines_append (state : σ) {first : List (List UInt8)}
    (h : ∀ line ∈ first, ¬Stops line) (second : List (List UInt8)) :
    serveLines handle state (first ++ second) =
      let (responses, middle) := serveLines handle state first
      let (more, final) := serveLines handle middle second
      (responses ++ more, final) := by
  induction first generalizing state with
  | nil => rfl
  | cons line first ih =>
    have hs := h line (by simp)
    have hrest := fun state => ih state fun l hl => h l (by simp [hl])
    rw [List.cons_append]
    cases hb : isBlank line with
    | true => rw [serveLines_of_isBlank handle state hs hb, serveLines_of_isBlank handle state hs hb,
        hrest]
    | false =>
      rw [serveLines_of_asking handle state hs hb, serveLines_of_asking handle state hs hb, hrest]
      rfl

end

/-- Each response has a line of its own. -/
theorem splitOn_written (responses : List Response) :
    (written responses).splitOn newline = responses.map (fun r => r.json.print) ++ [[]] := by
  induction responses with
  | nil => rfl
  | cons r rest ih =>
    have hr : newline ∉ r.json.print := Json.newline_notMem_print _
    have hsplit := List.splitOn_append_cons_self (a := newline) r.json.print (written rest)
    rw [List.splitOn_eq_singleton hr, ih] at hsplit
    rw [written, List.flatMap_cons, lineOf, List.append_assoc]
    exact hsplit

end LoadBench.Connection
