import LoadBench.Generator.Parameters
import LoadBench.Trial.Result

/-! Requests and responses of the control protocol, each one JSON text on a line. -/
namespace LoadBench

inductive Request
  | start (params : Parameters)
  | stop
  | isRunning
  | isResultAvailable
  | status
  | getResult
  | getMacList
  deriving DecidableEq, Repr

inductive Response
  | success (ok : Bool)
  | runningStatus (isRunning : Bool)
  | availabilityStatus (isAvailable : Bool)
  | status (running resultAvailable : Bool)
  | trialResult (result : TrialResult)
  /-- There is no result, which is not the same as an empty one. -/
  | resultUnavailable
  | macList (macs : List String)
  /-- The request could not be read, or its parameters are refused. -/
  | error (message : String)
  deriving DecidableEq, Repr

namespace Request

def method : Request → String
  | .start _ => "start"
  | .stop => "stop"
  | .isRunning => "is_running"
  | .isResultAvailable => "is_result_available"
  | .status => "status"
  | .getResult => "get_result"
  | .getMacList => "get_mac_list"

def json (r : Request) : Json.Tree :=
  .record [("method", .ofText r.method),
    ("params", match r with | .start p => p.json | _ => .record [])]

/-- The requests without parameters. -/
def plain : List Request := [stop, isRunning, isResultAvailable, status, getResult, getMacList]

def ofJson? (t : Json.Tree) : Option Request := do
  let message ← t.tagged? "method" "params"
  let params ← message.content
  if message.tag = "start" then
    (Parameters.ofJson? 1 message.contentFirst params).map .start
  else
    let r ← plain.find? fun r => r.method == message.tag
    let _ ← params.record? []
    return r

def parse? (text : List UInt8) : Option Request := (Json.Tree.parse? text).bind ofJson?

end Request

namespace Response

def kind : Response → String
  | .success _ => "success"
  | .runningStatus _ => "running_status"
  | .availabilityStatus _ => "availability_status"
  | .status .. => "status"
  | .trialResult _ => "trial_result"
  | .resultUnavailable => "result_unavailable"
  | .macList _ => "mac_list"
  | .error _ => "error"

def bodyJson? : Response → Option Json.Tree
  | .success ok => some (.record [("success", .bool ok)])
  | .runningStatus b => some (.record [("is_running", .bool b)])
  | .availabilityStatus b => some (.record [("is_result_available", .bool b)])
  | .status running available =>
    some (.record [("running", .bool running), ("result_available", .bool available)])
  | .trialResult r => some r.json
  | .resultUnavailable => none
  | .macList macs => some (.record [("mac_list", .array (macs.map .ofText))])
  | .error message => some (.record [("message", .ofText message)])

def json (r : Response) : Json.Tree :=
  .record (("kind", .ofText r.kind) :: (r.bodyJson?.map fun body => ("body", body)).toList)

/-- A record with one field. -/
def single? {α : Type} (name : String) (read : Json.Tree → Option α) (t : Json.Tree) : Option α :=
  (t.record? [name]).bind fun field => (field name).bind read

def statusOfJson? (t : Json.Tree) : Option Response := do
  let field ← t.record? ["running", "result_available"]
  return .status (← (← field "running").bool?) (← (← field "result_available").bool?)

/-- The body of a response of the given kind. That of an error has to be an object. -/
def ofBody? (kind : String) (body : Json.Tree) : Option Response :=
  match kind with
  | "success" => (single? "success" Json.Tree.bool? body).map .success
  | "running_status" => (single? "is_running" Json.Tree.bool? body).map .runningStatus
  | "availability_status" =>
    (single? "is_result_available" Json.Tree.bool? body).map .availabilityStatus
  | "status" => statusOfJson? body
  | "trial_result" => (TrialResult.ofJson? body).map .trialResult
  | "result_unavailable" => if body.isNull then some .resultUnavailable else none
  | "mac_list" =>
    (single? "mac_list" (Json.Tree.list? Json.Tree.text?) body).map .macList
  | "error" =>
    match body with
    | .object _ => (single? "message" Json.Tree.text? body).map .error
    | _ => none
  | _ => none

def ofJson? (t : Json.Tree) : Option Response := do
  let message ← t.tagged? "kind" "body"
  match message.content with
  | some body => ofBody? message.tag body
  | none => if message.tag = "result_unavailable" then some .resultUnavailable else none

def parse? (text : List UInt8) : Option Response := (Json.Tree.parse? text).bind ofJson?

end Response

/-- A message on its line. -/
def lineOf (t : Json.Tree) : List UInt8 := t.print ++ ['\n'.toUInt8]

end LoadBench
