import LoadBench.Control.Message
import LoadBench.Fault
import LoadBench.Text.Blank

/-! The server's side of a connection: requests line by line, and a response to each. -/
namespace LoadBench

/-- The longest request line, its newline included. -/
def maxRequestLine : Nat := 64 * 1024

namespace Connection

def newline : UInt8 := '\n'.toUInt8

/-- How many octets the next line has: up to a newline or the end of the input, but at most one
more than is allowed. -/
def lineLength (input : List UInt8) : Nat :=
  let piece := input.take (maxRequestLine + 1)
  min ((piece.takeWhile (· != newline)).length + 1) piece.length

theorem lineLength_pos {input : List UInt8} (h : input ≠ []) : 0 < lineLength input := by
  have := List.length_pos_iff.2 h
  simp only [lineLength, List.length_take]
  omega

/-- The pieces that are read one after another. -/
def lines (input : List UInt8) : List (List UInt8) :=
  if h : input = [] then []
  else
    have : input.length - lineLength input < input.length :=
      Nat.sub_lt (List.length_pos_iff.2 h) (lineLength_pos h)
    input.take (lineLength input) :: lines (input.drop (lineLength input))
termination_by input.length

@[simp] theorem lines_nil : lines [] = [] := by simp [lines]

theorem lines_of_ne_nil {input : List UInt8} (h : input ≠ []) :
    lines input = input.take (lineLength input) :: lines (input.drop (lineLength input)) := by
  rw [lines, dif_neg h]

/-- What a line calls for. -/
inductive Action
  | close
  | refuse
  | skip
  | reject
  | serve (request : Request)

def tooLong : Response := .error s!"request line exceeds {maxRequestLine} bytes"

def invalid : Response := .error s!"invalid request: {Fault.json.text}"

/-- A line that is not UTF-8 ends the connection, and one that is too long does so with a response.
Blank lines call for nothing. -/
def action (line : List UInt8) : Action :=
  match Utf8.decode? line with
  | none => .close
  | some text =>
    if maxRequestLine < line.length then .refuse
    else if text.toList.all Text.isBlank then .skip
    else (Request.parse? line).elim .reject .serve

variable {σ : Type}

/-- Serve lines in order until one ends the connection. The responses come with the final state;
`handle` answers one request. -/
def serveLines (handle : Request → σ → Response × σ) (state : σ) :
    List (List UInt8) → List Response × σ
  | [] => ([], state)
  | line :: rest =>
    match action line with
    | .close => ([], state)
    | .refuse => ([tooLong], state)
    | .skip => serveLines handle state rest
    | .reject =>
      let (responses, state) := serveLines handle state rest
      (invalid :: responses, state)
    | .serve request =>
      let (response, state) := handle request state
      let (responses, state) := serveLines handle state rest
      (response :: responses, state)

/-- Serve all the lines of an input. -/
def serve (handle : Request → σ → Response × σ) (state : σ) (input : List UInt8) :
    List Response × σ := serveLines handle state (lines input)

/-- What is written for the responses, a line each. -/
def written (responses : List Response) : List UInt8 := responses.flatMap fun r => lineOf r.json

/-- The input up to its last newline, or to the end if the last line is too long anyway. A client
that falls silent has sent no more than that. -/
def completeLines (input : List UInt8) : List UInt8 :=
  let last := input.reverse.takeWhile (· != newline)
  if maxRequestLine < last.length then input else input.take (input.length - last.length)

end Connection
end LoadBench
