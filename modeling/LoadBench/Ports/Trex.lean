import LoadBench.Address.Text
import LoadBench.Json.Decode
import LoadBench.Ports.Error
import LoadBench.Zmtp.Socket

/-! Port addresses from a TRex server: a handle for the interface, then the system's ports. -/
namespace LoadBench.Trex

/-- A call, with its members in the order of their names. -/
def requestJson (id : Nat) (method : String) (params : Json.Tree) : Json.Tree :=
  .record [("id", .ofNat id), ("jsonrpc", .ofText "2.0"), ("method", .ofText method),
    ("params", params)]

def syncMethod : String := "api_sync_v2"

def infoMethod : String := "get_system_info"

/-- The interface that is asked for, and its version. -/
def syncRequest : Json.Tree :=
  requestJson 1 syncMethod
    (.record [("major", .ofNat 5), ("minor", .ofNat 1), ("name", .ofText "STL")])

def infoRequest (handle : String) : Json.Tree :=
  requestJson 2 infoMethod (.record [("api_h", .ofText handle)])

/-- A reply has a result, or the code and the reason of an error, or neither. -/
structure Reply where
  result : Option Json.Value
  error : Option (Int × String)

def errorOfJson? (t : Json.Tree) : Option (Int × String) := do
  let field ← t.record? ["code", "message"]
  let code ← (← field "code").int? Int64.minValue.toInt Int64.maxValue.toInt
  let message ← (← field "message").text?
  return (code, message)

/-- Read one member that may be absent or `null`. -/
def optional? {α : Type} (read : Json.Tree → Option α) : Option Json.Tree → Option (Option α)
  | none => some none
  | some t => if t.isNull then some none else (read t).map some

def Reply.ofJson? (t : Json.Tree) : Option Reply := do
  let field ← t.record? ["result", "error"]
  return {
    result := ← optional? (Json.Tree.value? (Json.maxLevels - 1)) (field "result")
    error := ← optional? errorOfJson? (field "error") }

/-- The result in a reply's body. An error wins over a result beside it. -/
def resultOf (method : String) (body : List UInt8) : Except PortQueryError Json.Value :=
  match (Json.Tree.parse? body).bind Reply.ofJson? with
  | none => .error .malformedReply
  | some reply =>
    match reply.error, reply.result with
    | some (code, reason), _ => .error (.refused method code reason)
    | none, some v => .ok v
    | none, none => .error (.noResult method)

def call (method : String) (request : Json.Tree) (c : Zmtp.Connection) :
    Except PortQueryError Json.Value × Zmtp.Connection :=
  let (body, c) := Zmtp.request request.print c
  ((body.mapError .transport).bind (resultOf method), c)

/-- The string under `api_h` in the result of the first call. -/
def handleOf : Json.Value → Except PortQueryError String
  | .map ms => ((ms.lookup "api_h").bind Json.Value.text?).elim (.error .noHandle) .ok
  | _ => .error .noHandle

structure PortInfo where
  index : UInt32
  mac : String
  deriving DecidableEq, Repr

def PortInfo.ofValue? (v : Json.Value) : Option PortInfo := do
  let field ← v.record? ["index", "hw_macaddr"]
  return {
    index := ← (← field "index").uint32?
    mac := ← (← field "hw_macaddr").text? }

def portsOf (v : Json.Value) : Except PortQueryError (List PortInfo) :=
  let ports : Option (List PortInfo) := do
    let field ← v.record? ["ports"]
    match ← field "ports" with
    | .list items => items.mapM PortInfo.ofValue?
    | _ => none
  ports.elim (.error .malformedReply) .ok

/-- The address of the first reported port with an index. -/
def macOf (ports : List PortInfo) (index : UInt32) : Except PortQueryError Mac :=
  match ports.find? fun p => p.index == index with
  | none => .error (.missingPort index)
  | some p => (Address.parse (String.ofList (Text.trim p.mac.toList))).mapError .format

/-- Ask an open connection for the addresses of the given ports, in their order. -/
def dialogue (indices : List UInt32) (c : Zmtp.Connection) :
    Except PortQueryError (List Mac) × Zmtp.Connection :=
  match Zmtp.handshake c with
  | (.error e, c) => (.error (.transport e), c)
  | (.ok (), c) =>
    match call syncMethod syncRequest c with
    | (.error e, c) => (.error e, c)
    | (.ok sync, c) =>
      match handleOf sync with
      | .error e => (.error e, c)
      | .ok handle =>
        let (info, c) := call infoMethod (infoRequest handle) c
        ((info.bind portsOf).bind fun ports => indices.mapM (macOf ports), c)

/-- Ask a peer that will send the given octets, or that cannot be reached. The answer comes with
what is written on the connection, if one is made. -/
def portMacs (indices : List UInt32) (peer : Option (List UInt8)) :
    Except PortQueryError (List Mac) × Option (List UInt8) :=
  if indices.isEmpty then (.error .noPorts, none)
  else match peer with
    | none => (.error (.transport .disconnected), none)
    | some incoming =>
      let (macs, c) := dialogue indices { incoming }
      (macs, some c.written)

end LoadBench.Trex
