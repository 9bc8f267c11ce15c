import LoadBench.Flow.Basic

/-! Plans of flows that are made setting by setting. -/
namespace LoadBench

/-- The kind of the addresses in a sequence. -/
def FlowField.kind : FlowField → AddressKind
  | .srcMac | .dstMac => .mac
  | .srcIp | .dstIp => .ipv4
  | .srcPort | .dstPort => .port

namespace FlowPlan

/-- What can be set in a plan. The interface is given from the start. -/
inductive Slot
  | range (field : FlowField)
  | frameSize
  | tag
  deriving DecidableEq, Repr

def Slot.Value : Slot → Type
  | .range field => AddressRange field.kind
  | .frameSize => UInt32
  | .tag => Tag

structure Setting where
  slot : Slot
  value : slot.Value

def set (p : FlowPlan) : Setting → FlowPlan
  | ⟨.range .srcMac, r⟩ => { p with srcMac := r }
  | ⟨.range .dstMac, r⟩ => { p with dstMac := r }
  | ⟨.range .srcIp, r⟩ => { p with srcIp := r }
  | ⟨.range .dstIp, r⟩ => { p with dstIp := r }
  | ⟨.range .srcPort, r⟩ => { p with srcPort := r }
  | ⟨.range .dstPort, r⟩ => { p with dstPort := r }
  | ⟨.frameSize, size⟩ => { p with frameSize := size }
  | ⟨.tag, tag⟩ => { p with tag }

/-- Settings are made in their order. -/
def apply (p : FlowPlan) (settings : List Setting) : FlowPlan := settings.foldl set p

end FlowPlan
end LoadBench
