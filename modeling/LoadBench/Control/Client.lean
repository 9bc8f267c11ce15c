import LoadBench.Control.Connection
import LoadBench.Control.Description

/-! The client's side of a connection: one request, and what its response says. -/
namespace LoadBench

inductive ClientError
  /-- There is no connection, or no text comes back. -/
  | transport
  | malformed
  | remote (message : String)
  | unexpected (expected : String) (got : Response)
  | closed
  deriving DecidableEq, Repr

def ClientError.message : ClientError → String
  | .transport => s!"transport error: {Fault.io.text}"
  | .malformed => s!"codec error: {Fault.json.text}"
  | .remote message => s!"server error: {message}"
  | .unexpected expected got => s!"expected a `{expected}` response, got {got.describe}"
  | .closed => "connection closed before a response arrived"

namespace Client

/-- The line that carries a request. -/
def requestLine (request : Request) : List UInt8 := lineOf request.json

/-- The first line of what comes back, with its newline. -/
def firstLine (reply : List UInt8) : List UInt8 :=
  let line := reply.takeWhile (· != Connection.newline)
  reply.take (line.length + 1)

/-- The response in the first line of what comes back; an error response is an error. -/
def readResponse (reply : List UInt8) : Except ClientError Response :=
  let line := firstLine reply
  if line.isEmpty then .error .closed
  else if (Utf8.decode? line).isNone then .error .transport
  else match Response.parse? line with
    | none => .error .malformed
    | some (.error message) => .error (.remote message)
    | some response => .ok response

def success : Response → Except ClientError Bool
  | .success ok => .ok ok
  | got => .error (.unexpected "success" got)

def runningStatus : Response → Except ClientError Bool
  | .runningStatus b => .ok b
  | got => .error (.unexpected "running_status" got)

def availabilityStatus : Response → Except ClientError Bool
  | .availabilityStatus b => .ok b
  | got => .error (.unexpected "availability_status" got)

/-- Whether the generator is running, and whether there is a result. -/
def status : Response → Except ClientError (Bool × Bool)
  | .status running available => .ok (running, available)
  | got => .error (.unexpected "status" got)

/-- The result, or `none` if the server has none. -/
def trialResult : Response → Except ClientError (Option TrialResult)
  | .trialResult r => .ok (some r)
  | .resultUnavailable => .ok none
  | got => .error (.unexpected "trial_result" got)

def macList : Response → Except ClientError (List String)
  | .macList macs => .ok macs
  | got => .error (.unexpected "mac_list" got)

/-- Perform a request over a transport that gives back what the server sends, or nothing if there
is no connection. -/
def call {α : Type} (transport : List UInt8 → Option (List UInt8)) (request : Request)
    (expect : Response → Except ClientError α) : Except ClientError α :=
  match transport (requestLine request) with
  | none => .error .transport
  | some reply => readResponse reply >>= expect

end Client
end LoadBench
