import LoadBench.Fault
import LoadBench.Octets
import LoadBench.Text.Utf8

/-! ZMTP 3.0 frames: a flag octet, the length in one octet or eight, and the body. -/
namespace LoadBench.Zmtp

inductive Error
  /-- There is no connection, or the peer's octets end too early. -/
  | disconnected
  | notZmtp
  | unsupportedVersion (version : Nat)
  | unsupportedMechanism
  | frameTooLong (size : Nat)
  | rejected (reason : String)
  | notReady
  | noDelimiter
  | noBody
  deriving DecidableEq, Repr

/-- The longest body that is accepted. -/
def maxFrame : Nat := 16 * 1024 * 1024

def Error.message : Error → String
  | .disconnected => Fault.io.text
  | .notZmtp => "peer is not a ZMTP endpoint"
  | .unsupportedVersion v => s!"unsupported ZMTP version {v}"
  | .unsupportedMechanism => "peer requires a security mechanism other than NULL"
  | .frameTooLong size => s!"frame of {size} bytes exceeds {maxFrame}"
  | .rejected reason => s!"peer rejected handshake: {reason}"
  | .notReady => "expected READY from peer"
  | .noDelimiter => "reply is missing the REQ envelope delimiter"
  | .noBody => "reply carries no body"

def moreFlag : UInt8 := 0x01
def longFlag : UInt8 := 0x02
def commandFlag : UInt8 := 0x04

structure Frame where
  flags : UInt8
  body : List UInt8
  deriving DecidableEq, Repr

namespace Frame

def isCommand (f : Frame) : Bool := f.flags &&& commandFlag != 0

/-- More frames of the same message follow. -/
def hasMore (f : Frame) : Bool := f.flags &&& moreFlag != 0

/-- Only the flags for commands and for more frames are kept; bodies of more than 255 octets have
the long form. -/
def encode (flags : UInt8) (body : List UInt8) : List UInt8 :=
  let flags := flags &&& (moreFlag ||| commandFlag)
  if body.length ≤ 255 then flags :: UInt8.ofNat body.length :: body
  else (flags ||| longFlag) :: (Octets.ofNat 8 body.length ++ body)

/-- Octets of the length that follows the flags. -/
def lengthWidth (flags : UInt8) : Nat := if flags &&& longFlag != 0 then 8 else 1

/-- Take a length of `width` octets and a body. -/
def readBody (flags : UInt8) (width : Nat) (input : List UInt8) :
    Except Error Frame × List UInt8 :=
  if input.length < width then (.error .disconnected, [])
  else
    let size := Octets.toNat (input.take width)
    let rest := input.drop width
    if maxFrame < size then (.error (.frameTooLong size), rest)
    else if rest.length < size then (.error .disconnected, [])
    else (.ok ⟨flags, rest.take size⟩, rest.drop size)

/-- Take one frame from the input. A length over the limit is refused before the body is looked at,
and an input that ends early is used up. -/
def read : List UInt8 → Except Error Frame × List UInt8
  | [] => (.error .disconnected, [])
  | flags :: rest => readBody flags (lengthWidth flags) rest

theorem length_readBody_le {flags : UInt8} {width : Nat} {input rest : List UInt8} {f : Frame}
    (h : readBody flags width input = (.ok f, rest)) : rest.length ≤ input.length := by
  unfold readBody at h
  dsimp only at h
  split at h
  · simp at h
  split at h
  · simp at h
  split at h
  · simp at h
  obtain ⟨-, rfl⟩ := Prod.mk.inj h
  simp only [List.length_drop]
  omega

theorem length_read_lt {input rest : List UInt8} {f : Frame} (h : read input = (.ok f, rest)) :
    rest.length < input.length := by
  cases input with
  | nil => simp [read] at h
  | cons flags input => exact Nat.lt_succ_of_le (length_readBody_le h)

end Frame

/-- Take one message from the input: the bodies of its frames up to the first without the flag for
more. Commands are passed over. -/
def readMessage (input : List UInt8) : Except Error (List (List UInt8)) × List UInt8 :=
  match h : Frame.read input with
  | (.error e, rest) => (.error e, rest)
  | (.ok f, rest) =>
    have : rest.length < input.length := Frame.length_read_lt h
    if f.isCommand then readMessage rest
    else if f.hasMore then
      let (parts, rest) := readMessage rest
      (parts.map (f.body :: ·), rest)
    else (.ok [f.body], rest)
termination_by input.length

end LoadBench.Zmtp
