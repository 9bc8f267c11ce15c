import LoadBench.Zmtp.Frame

/-! The handshake without security, and the request side of a REQ-REP conversation. -/
namespace LoadBench.Zmtp

/-- A connection: what the peer has still to say, and what was written to it. -/
structure Connection where
  incoming : List UInt8
  written : List UInt8 := []
  deriving DecidableEq, Repr

namespace Connection

def write (c : Connection) (os : List UInt8) : Connection := { c with written := c.written ++ os }

end Connection

def greetingLength : Nat := 64

/-- Signature, version 3.0, the mechanism `NULL`, and the client role. -/
def greeting : List UInt8 :=
  [0xFF, 0, 0, 0, 0, 0, 0, 0, 0, 0x7F, 3, 0] ++ Utf8.encode "NULL" ++ List.replicate 48 0

/-- What a peer's greeting must have: the signature, major version 3 or later, and the mechanism
`NULL`. -/
def checkGreeting (peer : List UInt8) : Except Error Unit :=
  if peer.headD 0 != 0xFF || peer.getD 9 0 &&& 1 != 1 then .error .notZmtp
  else if peer.getD 10 0 < 3 then .error (.unsupportedVersion (peer.getD 10 0).toNat)
  else if (peer.drop 12).take 20 != Utf8.encode "NULL" ++ List.replicate 16 0 then
    .error .unsupportedMechanism
  else .ok ()

/-- The body of READY, with the socket type as its only property. -/
def readyBody (socketType : List UInt8) : List UInt8 :=
  let label (s : String) : List UInt8 := UInt8.ofNat (Utf8.encode s).length :: Utf8.encode s
  label "READY" ++ label "Socket-Type" ++ Octets.ofNat 4 socketType.length ++ socketType

def checkReady (f : Frame) : Except Error Unit :=
  if f.isCommand && (5 :: Utf8.encode "READY").isPrefixOf f.body then .ok ()
  else if (5 :: Utf8.encode "ERROR").isPrefixOf f.body then
    .error (.rejected (Utf8.decodeLossy (f.body.drop 7)))
  else .error .notReady

/-- Exchange greetings, send READY, and wait for the peer's. -/
def handshake (c : Connection) : Except Error Unit × Connection :=
  let c := c.write greeting
  if c.incoming.length < greetingLength then (.error .disconnected, { c with incoming := [] })
  else
    let peer := c.incoming.take greetingLength
    let c := { c with incoming := c.incoming.drop greetingLength }
    match checkGreeting peer with
    | .error e => (.error e, c)
    | .ok () =>
      let c := c.write (Frame.encode commandFlag (readyBody (Utf8.encode "REQ")))
      let (ready, rest) := Frame.read c.incoming
      (ready.bind checkReady, { c with incoming := rest })

/-- The body of a reply: the part after an empty delimiter. -/
def replyBody : List (List UInt8) → Except Error (List UInt8)
  | [] :: body :: _ => .ok body
  | [[]] => .error .noBody
  | _ => .error .noDelimiter

/-- Send a request behind an empty delimiter, and wait for the body of the reply. -/
def request (body : List UInt8) (c : Connection) : Except Error (List UInt8) × Connection :=
  let c := c.write (Frame.encode moreFlag [] ++ Frame.encode 0 body)
  let (parts, rest) := readMessage c.incoming
  (parts.bind replyBody, { c with incoming := rest })

end LoadBench.Zmtp
