import LoadBench.Flow.Basic

/-! Flows described by texts, as on a command line. -/
namespace LoadBench

/-- Texts of the six ranges and of the tags, with the frame size. -/
structure FlowOptions where
  interface : String
  srcIp : String := "1.1.1.1"
  dstIp : String := "1.1.1.2"
  srcMac : String := "c6:0f:aa:aa:00:00"
  dstMac : String := "c6:0f:bb:bb:00:00"
  srcPort : String := "10000"
  dstPort : String := "20000"
  dot1q : Option String := none
  qinq : Option String := none
  size : UInt32 := 64
  deriving DecidableEq, Repr

namespace FlowOptions

def range {k : AddressKind} (spec : String) : Except ParameterError (AddressRange k) :=
  (AddressRange.parse spec).mapError .format

/-- The plan that the texts describe. The tags are read first, then IP addresses, MAC addresses
and ports, each time the source before the destination. -/
def plan (o : FlowOptions) : Except ParameterError FlowPlan := do
  let tag ← Tag.ofOptions o.dot1q o.qinq
  let srcIp ← range o.srcIp
  let dstIp ← range o.dstIp
  let srcMac ← range o.srcMac
  let dstMac ← range o.dstMac
  let srcPort ← range o.srcPort
  let dstPort ← range o.dstPort
  return {
    interface := o.interface, frameSize := o.size
    srcMac, dstMac, srcIp, dstIp, srcPort, dstPort, tag }

def build (o : FlowOptions) : Except ParameterError Flow := o.plan >>= FlowPlan.build

end FlowOptions
end LoadBench
