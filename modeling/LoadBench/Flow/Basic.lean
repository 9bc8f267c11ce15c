import LoadBench.Address.Range
import LoadBench.Flow.Tag

/-! Descriptions of UDP flows: address sequences, frame size and tag. -/
namespace LoadBench

/-- Octets of the Ethernet header and check sequence, the IPv4 header and the UDP header. -/
def baseOverhead : Nat := 18 + 20 + 8

def headerOverhead (tag : Tag) : Nat := baseOverhead + tag.overhead

/-- What a frame has left for its payload. -/
def payloadLength (frameSize : UInt32) (tag : Tag) : Except ParameterError UInt32 :=
  if headerOverhead tag ≤ frameSize.toNat then
    .ok (frameSize - UInt32.ofNat (headerOverhead tag))
  else .error (.frameTooSmall frameSize.toNat (headerOverhead tag))

/-- How the sender sends: over and over, and without a line per packet. -/
structure SendMode where
  continuous : Bool := true
  verbose : Bool := false
  deriving DecidableEq, Repr

/-- A flow as the sender takes it. -/
structure Flow where
  srcMac : List Mac
  dstMac : List Mac
  srcIp : List Ipv4
  dstIp : List Ipv4
  srcPort : List Port
  dstPort : List Port
  frameSize : UInt32
  payloadLength : UInt32
  tag : Tag
  interface : String
  send : SendMode := {}
  deriving DecidableEq

/-- A flow by its ranges. -/
structure FlowPlan where
  interface : String
  srcMac : AddressRange .mac := .single (.ofOctets [0xC6, 0x0F, 0xAA, 0xAA, 0, 0])
  dstMac : AddressRange .mac := .single (.ofOctets [0xC6, 0x0F, 0xBB, 0xBB, 0, 0])
  srcIp : AddressRange .ipv4 := .single (.ofOctets [1, 1, 1, 1])
  dstIp : AddressRange .ipv4 := .single (.ofOctets [1, 1, 1, 2])
  srcPort : AddressRange .port := .single (.ofNat 10000)
  dstPort : AddressRange .port := .single (.ofNat 20000)
  frameSize : UInt32 := 64
  tag : Tag := .untagged
  deriving DecidableEq

namespace FlowPlan

def checkLength {k : AddressKind} (field : FlowField) (r : AddressRange k) :
    Except ParameterError Unit :=
  if r.count ≤ maxRangeValues then .ok () else .error (.rangeTooLong field r.count)

/-- The flow with all ranges listed. The frame size is checked first, then the ranges in order. -/
def build (p : FlowPlan) : Except ParameterError Flow := do
  let payload ← payloadLength p.frameSize p.tag
  checkLength .srcMac p.srcMac
  checkLength .dstMac p.dstMac
  checkLength .srcIp p.srcIp
  checkLength .dstIp p.dstIp
  checkLength .srcPort p.srcPort
  checkLength .dstPort p.dstPort
  return {
    srcMac := p.srcMac.toList, dstMac := p.dstMac.toList
    srcIp := p.srcIp.toList, dstIp := p.dstIp.toList
    srcPort := p.srcPort.toList, dstPort := p.dstPort.toList
    frameSize := p.frameSize, payloadLength := payload, tag := p.tag, interface := p.interface }

end FlowPlan

namespace Flow

def addressJson {k : AddressKind} (a : Address k) : Json.Tree :=
  if k = .port then .ofNat a.toNat else .ofText a.text

def json (f : Flow) : Json.Tree :=
  .record [
    ("src_mac", .array (f.srcMac.map addressJson)), ("dst_mac", .array (f.dstMac.map addressJson)),
    ("src_ip", .array (f.srcIp.map addressJson)), ("dst_ip", .array (f.dstIp.map addressJson)),
    ("src_port", .array (f.srcPort.map addressJson)),
    ("dst_port", .array (f.dstPort.map addressJson)),
    ("frame_size", .ofNat f.frameSize.toNat),
    ("payload_len", .ofNat f.payloadLength.toNat),
    ("tag", f.tag.json), ("egress_interface", .ofText f.interface),
    ("send", .record [("loop", .bool f.send.continuous), ("verbose", .bool f.send.verbose)])]

end Flow
end LoadBench
